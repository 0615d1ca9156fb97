import Criteria.Proofs.Outcome

/-! Placeholders and arguments. A query shows the placeholders of its base, then those of its first
condition, then those of the clauses that entered, whatever was asked for in between. Each stands
for the argument in the same place. Numbers that were lost are never shown, so the numbers are
consecutive just when none was.
-/

set_option autoImplicit false

namespace Criteria

open Text

namespace Text

theorem placeholders_wherePart (base : String) (conditions : List String) :
    placeholders (base ++ wherePart conditions) =
      placeholders base ++ conditions.flatMap placeholders := by
  cases conditions with
  | nil => simp [wherePart]
  | cons c cs =>
    have hw : Separates whereWord := by decide
    have ha : Separates andWord := by decide
    rw [← placeholders_intercalate ha, ← placeholders_separated _ _ hw]
    rfl

theorem placeholders_orderPart (t : String) {order : Option String}
    (h : ∀ o, order = some o → placeholders o = []) :
    placeholders (t ++ orderPart order) = placeholders t := by
  cases order with
  | none => simp [orderPart]
  | some o =>
    have hs : Separates orderWord := by decide
    rw [orderPart, placeholders_separated _ _ hs, h o rfl, List.append_nil]

end Text

namespace Emission

def bound (e : Emission) : List (String × Value) :=
  (numbered e.first e.clause.arity).zip e.values

theorem zip_flatMap {es : List Emission} (h : ∀ e ∈ es, e.values.length = e.clause.arity) :
    (es.flatMap fun e => numbered e.first e.clause.arity).zip (es.flatMap values) =
      es.flatMap bound := by
  induction es with
  | nil => rfl
  | cons e es ih =>
    have he := h e (List.mem_cons_self ..)
    have hes := ih fun x hx => h x (List.mem_cons_of_mem _ hx)
    rw [List.flatMap_cons, List.flatMap_cons, List.flatMap_cons, ← hes, bound]
    exact List.zip_append (by rw [length_numbered, he])

theorem length_flatMap_values {es : List Emission}
    (h : ∀ e ∈ es, e.values.length = e.clause.arity) : (es.flatMap values).length = taken es := by
  induction es with
  | nil => rfl
  | cons e es ih =>
    have he := h e (List.mem_cons_self ..)
    have hes := ih fun x hx => h x (List.mem_cons_of_mem _ hx)
    rw [List.flatMap_cons, List.length_append, he, hes, taken_cons]

end Emission

namespace RequestAt

theorem placeholders_fragment {t : RequestAt} {n : Nat} {e : Emission}
    (h : t.Worded fun w => placeholders w = []) (he : t.emission? n = some e) :
    placeholders e.fragment = numbered e.first e.clause.arity := by
  obtain ⟨-, bs, hd, -⟩ := emission?_eq_some he
  exact Clause.placeholders_render e.first (h.paths _ (Request.demand?_eq_some.1 hd).1)

theorem placeholders_fragments {n : Nat} {ts : List RequestAt}
    (h : ∀ t ∈ ts, t.Worded fun w => placeholders w = []) :
    ((emissions n ts).map Emission.fragment).flatMap placeholders =
      (emissions n ts).flatMap fun e => numbered e.first e.clause.arity := by
  rw [List.flatMap_map, List.flatMap_def, List.flatMap_def]
  refine congrArg List.flatten (List.map_congr_left ?_)
  intro e he
  obtain ⟨t, ht, k, hk⟩ := mem_emissions he
  exact placeholders_fragment (h t ht) hk

theorem length_values {n : Nat} {ts : List RequestAt} :
    ∀ e ∈ emissions n ts, e.values.length = e.clause.arity := by
  intro e he
  obtain ⟨t, -, k, hk⟩ := mem_emissions he
  exact length_emission hk

theorem numbered_emissions {n : Nat} {ts : List RequestAt} (h : allLost n ts = 0) :
    ((emissions n ts).flatMap fun e => numbered e.first e.clause.arity) =
      numbered n (Emission.taken (emissions n ts)) := by
  induction ts generalizing n with
  | nil => rfl
  | cons t ts ih =>
    have hl : t.lost n = 0 := by rw [allLost] at h; omega
    have hts : allLost (t.next n) ts = 0 := by rw [allLost] at h; omega
    have hi := ih hts
    cases he : t.emission? n with
    | none =>
      have hn : t.next n = n := by rw [next_of_none he, hl, Nat.add_zero]
      rw [hn] at hi
      simpa [emissions, he, hn] using hi
    | some e =>
      have hf := (emission?_eq_some he).1
      have hn := next_of_some he
      rw [hn] at hi
      simp only [emissions, he, hn, Option.toList_some, List.singleton_append, List.flatMap_cons,
        hi, hf, numbered_append, Emission.taken_cons]

end RequestAt

/-- The query shows the numbers from `first` on, one for each argument and no others, up to the next
number. Those that are reserved come first, and each of the others stands for what its clause
binds to it. -/
structure Aligned (first : Nat) (reserved : List Value) (es : List Emission) (text : String)
    (args : List Value) (index : Nat) : Prop where
  numbers : ∃ k, placeholders text = numbered first (reserved.length + k) ∧
    index = first + reserved.length + k ∧ args.length = reserved.length + k
  bound : (placeholders text).zip args =
    (numbered first reserved.length).zip reserved ++ es.flatMap Emission.bound

/-- After any course the query and its arguments are aligned just when no number was lost. -/
theorem aligned_iff {p : Plan} {s t u : Session} {h : Handle} {b : Builder} {m : Mark}
    {base : String} {first : Nat} {ts : List RequestAt}
    (hm : p.make.result s = (.ok (.shared h), t)) (hb : t.store.builder? h = some b)
    (hp : p.base = .text m base) (hf : first + b.reserved.length = b.index)
    (hr : placeholders base ++ p.conditions.flatMap placeholders =
      numbered first b.reserved.length)
    (hw : ∀ x ∈ ts, x.Worded fun w => placeholders w = []) (hc : Course h t ts u) :
    ∃ c text args index size, u.store.builder? h = some c ∧ Seen c u text args index size ∧
      (Aligned first b.reserved (RequestAt.emissions b.index ts) text args index ↔
        RequestAt.allLost b.index ts = 0) := by
  obtain ⟨c, hb', seen⟩ := hc.seen hm hb hp hw
  refine ⟨c, _, _, _, _, hb', seen, ?_⟩
  have shown : placeholders (assembled base
      (p.conditions ++ (RequestAt.emissions b.index ts).map Emission.fragment)
        (RequestAt.lastOrder ts)) =
        numbered first b.reserved.length ++
          (RequestAt.emissions b.index ts).flatMap fun e => numbered e.first e.clause.arity := by
    rw [assembled, placeholders_orderPart _ fun o => RequestAt.lastOrder_worded hw,
      placeholders_wherePart, List.flatMap_append, ← List.append_assoc, hr,
      RequestAt.placeholders_fragments hw]
  have lengths := @RequestAt.length_values b.index ts
  have args_length :
      (b.reserved ++ (RequestAt.emissions b.index ts).flatMap Emission.values).length =
        b.reserved.length + Emission.taken (RequestAt.emissions b.index ts) := by
    rw [List.length_append, Emission.length_flatMap_values lengths]
  constructor
  -- One number for each argument leaves none to be lost before the next number.
  · intro ha
    obtain ⟨k, -, hi, hl⟩ := ha.numbers
    omega
  · intro hl
    refine ⟨⟨Emission.taken (RequestAt.emissions b.index ts), ?_, by omega, args_length⟩, ?_⟩
    · rw [shown, RequestAt.numbered_emissions hl, ← hf, numbered_append]
    · rw [shown, List.zip_append (length_numbered ..), Emission.zip_flatMap lengths]

theorem aligned_between :
    ∃ t u c text args index size,
      (Plan.of (.text none "from Foo on ?1") (.int none 2) [.int none 7] .null
        (.text none "")).make.result {} = (.ok (.shared ⟨1⟩), t) ∧
      Course ⟨1⟩ t [⟨t.store, .between (.text none "a") (.int none 3) (.int none 4)⟩] u ∧
      u.store.builder? ⟨1⟩ = some c ∧ Seen c u text args index size ∧
      Aligned 1 [.int none 7] [⟨2, .between "a", [.int none 3, .int none 4]⟩] text args index := by
  have hm : (Plan.of (.text none "from Foo on ?1") (.int none 2) [.int none 7] .null
      (.text none "")).make.result {} = (.ok (.shared ⟨1⟩), _) := rfl
  have hc := fun t => Course.request (h := ⟨1⟩) (s := t)
    (r := .between (.text none "a") (.int none 3) (.int none 4)) (Course.done _)
  have hw : ∀ s, RequestAt.Worded (fun w => placeholders w = [])
      ⟨s, .between (.text none "a") (.int none 3) (.int none 4)⟩ := fun s =>
    RequestAt.Worded.of_form (d := .between "a") rfl (by decide)
  obtain ⟨c, text, args, index, size, hb, seen, ha⟩ := @aligned_iff _ _ _ _ _ _ _ _ 1 _
    hm rfl rfl rfl (by decide) (List.forall_mem_singleton.2 (hw _)) (hc _)
  exact ⟨_, _, c, text, args, index, size, hm, hc _, hb, seen, ha.2 rfl⟩

/-- A range that starts with the last number that can be written takes it and does not enter. -/
theorem exists_not_aligned :
    ∃ t u h b c text args index size,
      (Plan.make { base := .text none "from Foo",
                   start := .int none ↑(Whole.bound - 1) }).result {} = (.ok (.shared h), t) ∧
      t.store.builder? h = some b ∧ b.index = Whole.bound - 1 ∧ b.reserved = [] ∧
      Course h t [⟨t.store, .between (.text none "a") (.int none 1) (.int none 2)⟩] u ∧
      u.store.builder? h = some c ∧ Seen c u text args index size ∧
      ¬ Aligned (Whole.bound - 1) [] [] text args index := by
  have hl := Whole.two_le_bound
  obtain ⟨t, h, b, hm, hb, hi, hr⟩ :=
    Plan.exists_make (n := Whole.bound - 1) (by omega) "from Foo" {}
  let x : RequestAt := ⟨t.store, .between (.text none "a") (.int none 1) (.int none 2)⟩
  have hd : x.demand? = some (.between "a", [.itself (.int none 1), .itself (.int none 2)]) := rfl
  have hw : x.Worded fun _ => True := .of_form (d := .between "a") rfl fun _ _ => trivial
  have hc : Course h t [x] _ := Course.request (Course.done _)
  have hn : Whole.bound < b.index + (Clause.between "a").arity := by
    rw [hi, Clause.arity]
    omega
  obtain ⟨he, hk⟩ := RequestAt.emission?_of_lt hd hn
  obtain ⟨c, hb', seen⟩ := hc.seen hm hb rfl (List.forall_mem_singleton.2 hw)
  refine ⟨t, _, h, b, c, _, _, _, _, hm, hb, hi, hr, hc, hb', seen, ?_⟩
  intro ha
  obtain ⟨k, -, hk', hlen⟩ := ha.numbers
  simp only [RequestAt.emissions, RequestAt.allLost, he, hk, hr] at hk' hlen
  simp at hk' hlen
  omega

end Criteria
