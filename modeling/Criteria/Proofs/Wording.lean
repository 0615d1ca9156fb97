import Criteria.Builder.Output
import Criteria.Proofs.Numbering
import Criteria.Proofs.Placeholder

set_option autoImplicit false

namespace Criteria

namespace Text

def wherePart (conditions : List String) : String :=
  if conditions.isEmpty then "" else whereWord ++ andWord.intercalate conditions

def orderPart : Option String → String
  | none => ""
  | some o => orderWord ++ o

def assembled (base : String) (conditions : List String) (order : Option String) : String :=
  base ++ wherePart conditions ++ orderPart order

end Text

namespace Operation

theorem result_settled_text (m : Mark) (w : String) (s : Session) :
    ∃ k t, (settled (.text m w)).result s = (.ok (.text k w), t) := by
  unfold settled fresh
  split
  · exact ⟨_, _, rfl⟩
  · split
    · exact ⟨_, _, rfl⟩
    · exact ⟨_, _, rfl⟩

end Operation

namespace Builder

open Operation

def spelled? : Option Value → Option (Option String)
  | none => some none
  | some (.text _ o) => some (some o)
  | some _ => none

theorem result_build {b : Builder} {m : Mark} {base : String} {o : Option String} (s : Session)
    (hb : b.base = .text m base) (ho : spelled? b.order = some o) :
    ∃ k, b.build.result s = (.ok (.text k (Text.assembled base b.conditions o)), s) := by
  unfold spelled? at ho
  split at ho
  · next h =>
    cases ho
    refine ⟨if b.conditions.isEmpty then m else none, ?_⟩
    rw [result_build_of_text s hb h]
    simp [Text.assembled, Text.orderPart, Text.wherePart, whereText]
  · next k w h =>
    cases ho
    refine ⟨none, ?_⟩
    rw [result_build_of_text_order s hb h]
    rfl
  · cases ho

theorem result_buildNoted {b : Builder} {m : Mark} {base : String} {o : Option String} (s : Session)
    (hb : b.base = .text m base) (ho : spelled? b.order = some o) :
    ∃ k t, b.buildNoted.result s = (.ok (.text k (Text.assembled base b.conditions o)), t) := by
  obtain ⟨k, hk⟩ := result_build s hb ho
  have hp : ∀ t : Store, builtRecord t (.text k (Text.assembled base b.conditions o)) =
      .ok ("Built query: '" ++ Text.assembled base b.conditions o ++ "'") := fun _ => rfl
  simp only [buildNoted, result_bind, hk, result_asking, hp, result_note]
  exact result_settled_text _ _ _

end Builder

namespace Request

/-- The order that a text or a field sets. Nothing and what is blank take the order away. -/
def orderSet? (s : Store) : Request → Option (Option String)
  | orderBy clause =>
    match s.fieldPath clause, clause with
    | .ok (.text _ o), _ => some (if Text.blank o then none else some o)
    | .error _, .null => some none
    | _, _ => none
  | _ => none

end Request

namespace RequestAt

def orderSet? (t : RequestAt) : Option (Option String) := t.request.orderSet? t.store

def lastOrder (ts : List RequestAt) : Option String := (ts.filterMap orderSet?).getLast?.getD none

structure Worded (P : String → Prop) (t : RequestAt) : Prop where
  paths : ∀ c, t.request.form? t.store = some c → ∀ p ∈ c.paths, P p
  order : ∀ c p, t.request = .orderBy c → t.store.fieldPath c = .ok p →
    ∃ m o, p = .text m o ∧ P o

def PathsAre (P : String → Prop) (t : RequestAt) : Prop :=
  ∀ c, t.request.form? t.store = some c → ∀ p ∈ c.paths, P p

variable {P : String → Prop}

theorem PathsAre.of_emission {t : RequestAt} {n : Nat} {e : Emission} (h : t.PathsAre P)
    (he : t.emission? n = some e) : ∀ p ∈ e.clause.paths, P p := by
  obtain ⟨-, bs, hd, -⟩ := emission?_eq_some he
  exact h _ (Request.demand?_eq_some.1 hd).1

theorem Worded.of_form {t : RequestAt} {d : Clause} (hf : t.request.form? t.store = some d)
    (hp : ∀ p ∈ d.paths, P p) : t.Worded P := by
  refine ⟨?_, ?_⟩
  · intro c hc
    rw [hf] at hc
    cases hc
    exact hp
  · intro c p hr
    rw [hr] at hf
    cases hf

theorem Worded.of_order {s : Store} {c : Value} {m : Mark} {o : String}
    (hp : s.fieldPath c = .ok (.text m o)) (ho : P o) : Worded P ⟨s, .orderBy c⟩ := by
  refine ⟨?_, ?_⟩
  · intro d hd
    cases hd
  · intro d p hd h
    cases hd
    rw [hp] at h
    cases h
    exact ⟨m, o, rfl, ho⟩

theorem order?_eq_none {t : RequestAt} (h : ∀ c, t.request ≠ .orderBy c) : t.order? = none := by
  unfold order?
  split
  · next hr =>
    obtain ⟨c, hc⟩ := Request.orderBy_of_order hr
    exact absurd hc (h c)
  · rfl

theorem spelled?_order? {t : RequestAt} (h : t.Worded P) :
    t.order?.map Builder.spelled? = t.orderSet?.map some := by
  obtain ⟨s, r⟩ := t
  cases r with
  | orderBy c =>
    unfold order? orderSet? Request.rule Request.orderSet?
    cases hp : s.fieldPath c with
    | ok p =>
      obtain ⟨m, o, rfl, -⟩ := h.order c p rfl hp
      simp only [Request.ruleOrderBy_of_ok hp, hp, Store.present_text]
      cases Text.blank o <;> simp [Except.map, Builder.spelled?]
    | error f =>
      by_cases hc : c = .null
      · subst hc
        rfl
      · obtain ⟨g, hg⟩ := Request.ruleOrderBy_of_error hp hc
        simp only [hg, hp]
        cases c with
        | null => exact absurd rfl hc
        | _ => rfl
  | _ =>
    rw [order?_eq_none fun c => Request.noConfusion]
    rfl

/-- What the builder has for an order is the text of the order that was set last. -/
theorem spelled?_afterRequests {b : Builder} {o : Option String} {ts : List RequestAt}
    (hb : Builder.spelled? b.order = some o) (h : ∀ t ∈ ts, t.Worded P) :
    Builder.spelled? (b.afterRequests ts).order =
      some ((ts.filterMap orderSet?).getLast?.getD o) := by
  induction ts generalizing b o with
  | nil => exact hb
  | cons t ts ih =>
    have ht := spelled?_order? (h t (List.mem_cons_self ..))
    have hts : ∀ x ∈ ts, x.Worded P := fun x hx => h x (List.mem_cons_of_mem _ hx)
    rw [Builder.afterRequests]
    cases ho : t.orderSet? with
    | none =>
      have hn : t.order? = none := by simpa [ho] using ht
      have hb' : Builder.spelled? (b.afterRequest t).order = some o := by
        rw [Builder.order_afterRequest, hn]
        exact hb
      rw [ih hb' hts, List.filterMap_cons_none ho]
    | some w =>
      obtain ⟨v, hv, hw⟩ : ∃ v, t.order? = some v ∧ Builder.spelled? v = some w := by
        simpa [ho] using ht
      have hb' : Builder.spelled? (b.afterRequest t).order = some w := by
        rw [Builder.order_afterRequest, hv]
        exact hw
      rw [ih hb' hts, List.filterMap_cons_some ho, List.getLast?_cons]
      rfl

theorem lastOrder_worded {ts : List RequestAt} {o : String} (h : ∀ t ∈ ts, t.Worded P)
    (ho : lastOrder ts = some o) : P o := by
  have hl : (ts.filterMap orderSet?).getLast? = some (some o) := by
    unfold lastOrder at ho
    cases hl : (ts.filterMap orderSet?).getLast? with
    | none => simp [hl] at ho
    | some w => simpa [hl] using ho
  have hm := List.mem_of_getLast? hl
  obtain ⟨t, ht, hs⟩ := List.mem_filterMap.1 hm
  obtain ⟨s, r⟩ := t
  have hw := (h _ ht).order
  cases r with
  | orderBy c =>
    unfold orderSet? Request.orderSet? at hs
    cases hp : s.fieldPath c with
    | ok p =>
      obtain ⟨m, w, rfl, hw⟩ := hw c p rfl hp
      simp only [hp] at hs
      split at hs
      · cases hs
      · cases hs
        exact hw
    | error f =>
      cases c with
      | null => simp [hp] at hs
      | _ => simp [hp] at hs
  | _ => cases hs

end RequestAt

end Criteria
