import Criteria.Proofs.Demand

set_option autoImplicit false

namespace Criteria

/-- The cells differ at most in what a builder or a field set holds. -/
inductive Cell.SameButHeld : Cell → Cell → Prop where
  | same (c : Cell) : SameButHeld c c
  | builder (b c : Builder) : SameButHeld (.builder b) (.builder c)
  | fieldSet (es fs : List (String × Value)) : SameButHeld (.fieldSet es) (.fieldSet fs)

/-- The cells differ at most in what a builder or a field set holds, or in what is left of a single
pass. -/
inductive Cell.SameButHeldOrPassed : Cell → Cell → Prop where
  | sameButHeld {c d : Cell} (h : c.SameButHeld d) : SameButHeldOrPassed c d
  | stream (generated : Bool) (xs ys : List Value) :
      SameButHeldOrPassed (.stream generated xs) (.stream generated ys)

namespace Cell.SameButHeld

theorem symm {c d : Cell} (h : SameButHeld c d) : SameButHeld d c := by
  cases h with
  | same => exact .same _
  | builder b c => exact .builder c b
  | fieldSet es fs => exact .fieldSet fs es

theorem trans {c d e : Cell} (h : SameButHeld c d) (g : SameButHeld d e) : SameButHeld c e := by
  cases h with
  | same => exact g
  | builder b c => cases g <;> exact .builder _ _
  | fieldSet es fs => cases g <;> exact .fieldSet _ _

end Cell.SameButHeld

namespace Store

/-- A value that is shared is alike in both stores. -/
def SameButHeld (s t : Store) (v : Value) : Prop :=
  Option.Rel Cell.SameButHeld (s.cellOf? v) (t.cellOf? v)

/-- A value that is shared is alike in both stores but for what is left of a single pass. -/
def SameButHeldOrPassed (s t : Store) (v : Value) : Prop :=
  Option.Rel Cell.SameButHeldOrPassed (s.cellOf? v) (t.cellOf? v)

namespace SameButHeldOrPassed

variable {s t : Store} {v : Value} {k : Handle}

theorem cell (h : SameButHeldOrPassed s t (.shared k)) : s.cell? k = t.cell? k ∨
    (∃ b c, s.cell? k = some (.builder b) ∧ t.cell? k = some (.builder c)) ∨
    (∃ es fs, s.cell? k = some (.fieldSet es) ∧ t.cell? k = some (.fieldSet fs)) ∨
    ∃ g xs ys, s.cell? k = some (.stream g xs) ∧ t.cell? k = some (.stream g ys) := by
  unfold SameButHeldOrPassed at h
  simp only [cellOf?] at h
  rcases hs : s.cell? k with _ | c <;> rcases ht : t.cell? k with _ | d <;> rw [hs, ht] at h <;>
    cases h
  · exact .inl rfl
  · next h =>
    cases h with
    | sameButHeld h =>
      cases h with
      | same => exact .inl rfl
      | builder b c => exact .inr (.inl ⟨b, c, rfl, rfl⟩)
      | fieldSet es fs => exact .inr (.inr (.inl ⟨es, fs, rfl, rfl⟩))
    | stream g xs ys => exact .inr (.inr (.inr ⟨g, xs, ys, rfl, rfl⟩))

theorem field?_eq (h : SameButHeldOrPassed s t v) : s.field? v = t.field? v := by
  cases v with
  | shared k =>
    rcases h.cell with e | ⟨_, _, e, f⟩ | ⟨_, _, e, f⟩ | ⟨_, _, _, e, f⟩
    · simp [field?, cellOf?, e]
    all_goals simp [field?, cellOf?, e, f]
  | _ => rfl

theorem collectionSize?_eq (h : SameButHeldOrPassed s t v) :
    s.collectionSize? v = t.collectionSize? v := by
  cases v with
  | shared k =>
    rcases h.cell with e | ⟨_, _, e, f⟩ | ⟨_, _, e, f⟩ | ⟨_, _, _, e, f⟩
    · simp [collectionSize?, e]
    all_goals simp [collectionSize?, e, f, Cell.collectionSize?]
  | classOf c =>
    cases c with
    | builtin b => cases b <;> rfl
    | _ => rfl
  | _ => rfl

theorem present_eq (h : SameButHeldOrPassed s t v) : s.present v = t.present v := by
  cases v with
  | null | unset | text => rfl
  | _ => simp only [present, h.collectionSize?_eq]

theorem shortName_eq (h : SameButHeldOrPassed s t v) : s.shortName v = t.shortName v := by
  cases v with
  | shared k =>
    rcases h.cell with e | ⟨_, _, e, f⟩ | ⟨_, _, e, f⟩ | ⟨g, _, _, e, f⟩
    · simp [shortName, e]
    · simp [shortName, e, f, Cell.shortName]
    · simp [shortName, e, f, Cell.shortName]
    · cases g <;> simp [shortName, e, f, Cell.shortName]
  | _ => rfl

theorem longName_eq (h : SameButHeldOrPassed s t v) : s.longName v = t.longName v := by
  cases v with
  | shared k =>
    rcases h.cell with e | ⟨_, _, e, f⟩ | ⟨_, _, e, f⟩ | ⟨g, _, _, e, f⟩
    · simp [longName, e]
    · simp [longName, e, f, Cell.longName, Cell.shortName]
    · simp [longName, e, f, Cell.longName]
    · cases g <;> simp [longName, e, f, Cell.longName, Cell.shortName]
  | _ => rfl

theorem fieldPath_eq (h : SameButHeldOrPassed s t v) : s.fieldPath v = t.fieldPath v := by
  unfold fieldPath
  rw [h.field?_eq]
  split
  · rfl
  · rfl
  · rfl
  · rw [h.shortName_eq]

theorem isReference_eq (h : SameButHeldOrPassed s t v) : s.isReference v = t.isReference v := by
  cases v with
  | text => rfl
  | _ => simp only [isReference, h.field?_eq]

theorem listable_eq (h : SameButHeldOrPassed s t v) : s.listable v = t.listable v := by
  cases v with
  | shared k =>
    rcases h.cell with e | ⟨_, _, e, f⟩ | ⟨_, _, e, f⟩ | ⟨_, _, _, e, f⟩
    · simp [listable, e]
    all_goals simp [listable, e, f, Cell.collectionSize?]
  | _ => simp only [listable, h.collectionSize?_eq]

theorem copied?_eq (h : SameButHeldOrPassed s t v) : s.copied? v = t.copied? v := by
  cases v with
  | shared k =>
    rcases h.cell with e | ⟨_, _, e, f⟩ | ⟨_, _, e, f⟩ | ⟨_, _, _, e, f⟩
    · simp [copied?, e]
    all_goals simp [copied?, e, f]
  | _ => rfl

theorem binding_eq (h : SameButHeldOrPassed s t v) : Request.binding s v = Request.binding t v := by
  simp only [Request.binding, h.copied?_eq, h.shortName_eq]

end SameButHeldOrPassed

namespace SameButHeld

variable {s t : Store} {v : Value} {k : Handle}

theorem of_eq (h : s.cellOf? v = t.cellOf? v) : SameButHeld s t v := by
  unfold SameButHeld
  rw [h]
  cases t.cellOf? v with
  | none => exact .none
  | some c => exact .some (.same c)

theorem sameButHeldOrPassed (h : SameButHeld s t v) : SameButHeldOrPassed s t v := by
  unfold SameButHeld at h
  unfold SameButHeldOrPassed
  cases hs : s.cellOf? v <;> cases ht : t.cellOf? v <;> rw [hs, ht] at h <;> cases h
  · exact .none
  · next h => exact .some (.sameButHeld h)

theorem cell (h : SameButHeld s t (.shared k)) : s.cell? k = t.cell? k ∨
    (∃ b c, s.cell? k = some (.builder b) ∧ t.cell? k = some (.builder c)) ∨
    ∃ es fs, s.cell? k = some (.fieldSet es) ∧ t.cell? k = some (.fieldSet fs) := by
  unfold SameButHeld at h
  simp only [cellOf?] at h
  rcases hs : s.cell? k with _ | c <;> rcases ht : t.cell? k with _ | d <;> rw [hs, ht] at h <;>
    cases h
  · exact .inl rfl
  · next h =>
    cases h with
    | same => exact .inl rfl
    | builder b c => exact .inr (.inl ⟨b, c, rfl, rfl⟩)
    | fieldSet es fs => exact .inr (.inr ⟨es, fs, rfl, rfl⟩)

theorem field?_eq (h : SameButHeld s t v) : s.field? v = t.field? v :=
  h.sameButHeldOrPassed.field?_eq

theorem present_eq (h : SameButHeld s t v) : s.present v = t.present v :=
  h.sameButHeldOrPassed.present_eq

theorem counts_eq (h : SameButHeld s t v) : s.counts v = t.counts v := by
  simp only [counts, h.present_eq]

theorem elements?_eq (h : SameButHeld s t v) : s.elements? v = t.elements? v := by
  cases v with
  | shared k =>
    rcases h.cell with e | ⟨b, c, e, f⟩ | ⟨es, fs, e, f⟩
    · simp [elements?, e]
    · simp [elements?, e, f, Cell.elements?]
    · simp [elements?, e, f, Cell.elements?]
  | classOf c =>
    cases c with
    | builtin b => cases b <;> rfl
    | _ => rfl
  | _ => rfl

theorem shortName_eq (h : SameButHeld s t v) : s.shortName v = t.shortName v :=
  h.sameButHeldOrPassed.shortName_eq

theorem longName_eq (h : SameButHeld s t v) : s.longName v = t.longName v :=
  h.sameButHeldOrPassed.longName_eq

theorem candidates_eq (h : SameButHeld s t v) : s.candidates v = t.candidates v := by
  cases v with
  | range => rfl
  | _ => simp only [candidates, elements, h.elements?_eq, h.longName_eq]

theorem fieldPath_eq (h : SameButHeld s t v) : s.fieldPath v = t.fieldPath v :=
  h.sameButHeldOrPassed.fieldPath_eq

theorem isReference_eq (h : SameButHeld s t v) : s.isReference v = t.isReference v :=
  h.sameButHeldOrPassed.isReference_eq

theorem listable_eq (h : SameButHeld s t v) : s.listable v = t.listable v :=
  h.sameButHeldOrPassed.listable_eq

theorem copied?_eq (h : SameButHeld s t v) : s.copied? v = t.copied? v :=
  h.sameButHeldOrPassed.copied?_eq

theorem binding_eq (h : SameButHeld s t v) : Request.binding s v = Request.binding t v :=
  h.sameButHeldOrPassed.binding_eq

end SameButHeld

end Store

end Criteria
