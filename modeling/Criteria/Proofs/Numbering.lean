import Criteria.Proofs.Course
import Criteria.Proofs.Demand

set_option autoImplicit false

namespace Criteria

namespace Ruling

theorem startingAt_add_of_lt {index : Nat} {clause : Clause} (bindings : List Binding)
    (hp : 0 < clause.arity) (h : Whole.bound < index + clause.arity) :
    (add clause bindings).startingAt index =
      tear (Whole.bound - index) (.tooManyDigits none) := by
  have hw : writable index clause.arity = Whole.bound - index := by unfold writable; omega
  have hl : Whole.bound - index < clause.arity := by omega
  simp [startingAt, hw, hl]

theorem startingAt_tear (index spent : Nat) (f : Fault) :
    ∃ g, (tear spent f).startingAt index = tear (writable index spent) g := by
  by_cases h : writable index spent < spent
  · exact ⟨.tooManyDigits none, by simp [startingAt, h]⟩
  · have hw : writable index spent = spent := by unfold writable at *; omega
    exact ⟨f, by simp [startingAt, hw]⟩

end Ruling

theorem Builder.length_boundFrom (next : Nat) (bs : List Binding) :
    (boundFrom next bs).length = bs.length := by
  induction bs generalizing next with
  | nil => rfl
  | cons x xs ih => cases x <;> simp [boundFrom, ih]

namespace RequestAt

def demand? (t : RequestAt) : Option (Clause × List Binding) := t.request.demand? t.store

theorem demand?_eq (t : RequestAt) :
    t.demand? = match t.request.rule t.store with
      | .ok (.add clause bindings) => some (clause, bindings)
      | _ => none :=
  Request.demand?_eq_rule t.store t.request

theorem arity_pos {t : RequestAt} {c : Clause} {bs : List Binding} (h : t.demand? = some (c, bs)) :
    0 < c.arity :=
  Request.arity_pos_of_form (Request.demand?_eq_some.1 h).1

theorem ruling_of_demand {t : RequestAt} {c : Clause} {bs : List Binding}
    (h : t.demand? = some (c, bs)) (index : Nat) :
    t.ruling index = .ok ((Ruling.add c bs).startingAt index) := by
  rw [demand?_eq] at h
  unfold ruling
  split at h
  · next d ds e =>
    cases h
    rw [e]
    rfl
  · cases h

theorem emission?_of_le {t : RequestAt} {c : Clause} {bs : List Binding} {index : Nat}
    (h : t.demand? = some (c, bs)) (hn : index + c.arity ≤ Whole.bound) :
    t.emission? index = some ⟨index, c, Builder.boundFrom t.store.size bs⟩ ∧
      t.lost index = 0 := by
  have hr := ruling_of_demand h index
  rw [Ruling.startingAt_add_of_le bs hn] at hr
  simp [emission?, lost, hr]

theorem emission?_of_lt {t : RequestAt} {c : Clause} {bs : List Binding} {index : Nat}
    (h : t.demand? = some (c, bs)) (hn : Whole.bound < index + c.arity) :
    t.emission? index = none ∧ t.lost index = Whole.bound - index := by
  have hr := ruling_of_demand h index
  rw [Ruling.startingAt_add_of_lt bs (arity_pos h) hn] at hr
  simp [emission?, lost, hr]

/-- Without a clause that is asked for, none enters, and only a path that cannot be written makes
numbers be lost. -/
theorem emission?_of_none {t : RequestAt} (h : t.demand? = none) (index : Nat) :
    t.emission? index = none ∧
      (t.lost index = 0 ∨ ∃ k, t.request.broken? t.store = some k ∧
        t.lost index = Ruling.writable index k) := by
  rw [demand?_eq] at h
  have hb := @Request.broken?_of_tear t.store t.request
  rcases e : t.request.rule t.store with f | _ | ⟨c, bs⟩ | ⟨spent, f⟩ | o
  · simp [emission?, lost, ruling, e, Except.map]
  · simp [emission?, lost, ruling, e, Except.map, Ruling.startingAt]
  · rw [e] at h
    cases h
  · obtain ⟨g, hg⟩ := Ruling.startingAt_tear index spent f
    simp only [emission?, lost, ruling, e, Except.map, hg, true_and]
    exact Or.inr ⟨spent, hb e, rfl⟩
  · simp [emission?, lost, ruling, e, Except.map, Ruling.startingAt]

theorem emission?_eq_some {t : RequestAt} {index : Nat} {e : Emission}
    (h : t.emission? index = some e) :
    e.first = index ∧
      ∃ bs, t.demand? = some (e.clause, bs) ∧ e.values = Builder.boundFrom t.store.size bs := by
  cases hd : t.demand? with
  | none =>
    rw [(emission?_of_none hd index).1] at h
    cases h
  | some d =>
    obtain ⟨c, bs⟩ := d
    by_cases hn : index + c.arity ≤ Whole.bound
    · rw [(emission?_of_le hd hn).1] at h
      cases h
      exact ⟨rfl, bs, rfl, rfl⟩
    · rw [(emission?_of_lt hd (Nat.lt_of_not_le hn)).1] at h
      cases h

theorem length_of_demand {t : RequestAt} {c : Clause} {bs : List Binding}
    (h : t.demand? = some (c, bs)) : bs.length = c.arity := by
  obtain ⟨hc, hb⟩ := Request.demand?_eq_some.1 h
  exact Request.length_of_bindings hc hb

theorem length_emission {t : RequestAt} {index : Nat} {e : Emission}
    (h : t.emission? index = some e) : e.values.length = e.clause.arity := by
  obtain ⟨-, bs, hd, hv⟩ := emission?_eq_some h
  rw [hv, Builder.length_boundFrom, length_of_demand hd]

theorem mem_emissions {ts : List RequestAt} {index : Nat} {e : Emission}
    (h : e ∈ emissions index ts) : ∃ t ∈ ts, ∃ n, t.emission? n = some e := by
  induction ts generalizing index with
  | nil => cases h
  | cons t ts ih =>
    rcases List.mem_append.1 h with h | h
    · exact ⟨t, List.mem_cons_self .., index, Option.mem_toList.1 h⟩
    · obtain ⟨x, hx, he⟩ := ih h
      exact ⟨x, List.mem_cons_of_mem _ hx, he⟩

theorem next_le (t : RequestAt) {index : Nat} (h : index ≤ Whole.bound) :
    t.next index ≤ Whole.bound := by
  cases hd : t.demand? with
  | none =>
    obtain ⟨he, hl⟩ := emission?_of_none hd index
    have hw : ∀ k, index + Ruling.writable index k ≤ Whole.bound := by
      intro k
      unfold Ruling.writable
      omega
    rcases hl with hl | ⟨k, _, hl⟩
    · simpa [next, he, hl] using h
    · simpa [next, he, hl] using hw k
  | some d =>
    obtain ⟨c, bs⟩ := d
    by_cases hn : index + c.arity ≤ Whole.bound
    · obtain ⟨he, hl⟩ := emission?_of_le hd hn
      simpa [next, he, hl] using hn
    · obtain ⟨he, hl⟩ := emission?_of_lt hd (Nat.lt_of_not_le hn)
      simp only [next, he, hl, Option.toList_none, Emission.taken_nil]
      omega

end RequestAt

end Criteria
