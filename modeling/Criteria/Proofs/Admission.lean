import Criteria.Proofs.Exposure
import Criteria.Proofs.Offering
import Criteria.Proofs.Resumption
import Criteria.Proofs.Trail
import Mathlib.Data.List.Forall2

set_option autoImplicit false

namespace Criteria

def Cell.passes : Cell → Bool
  | list _ | deque _ | bag _ | set .. | dict .. | stream .. | generic .. => true
  | _ => false

namespace Store

/-- The values whose elements are taken for arguments. Text and bytes are none of them, and neither
is what gives its elements by their places alone. -/
inductive Passes (s : Store) : Value → Prop where
  | tuple (m : Mark) (items : List Value) : Passes s (.tuple m items)
  | point (m : Mark) (items : List Value) : Passes s (.point m items)
  | range (m : Mark) (first stop step : Int) : Passes s (.range m first stop step)
  | query (m : Mark) (text args : Value) : Passes s (.query m text args)
  | modes : Passes s (.classOf (.builtin .matchMode))
  | cell {h : Handle} {c : Cell} (hc : s.cell? h = some c) (gives : c.passes = true) :
      Passes s (.shared h)

/-- The values are the same but for the marks of those that are made for the pass. -/
def SameButMarks (xs ys : List Value) : Prop :=
  List.Forall₂ (fun x y => ∃ m, y = x.withMark m) xs ys

theorem SameButMarks.refl (xs : List Value) : SameButMarks xs xs :=
  List.forall₂_same.2 fun x _ => ⟨x.mark, x.withMark_mark.symm⟩

variable {s : Store} {v : Value}

theorem reservable_iff : Plan.reservable s v = true ↔ s.Passes v := by
  constructor
  · intro h
    cases v with
    | tuple m items => exact .tuple m items
    | point m items => exact .point m items
    | range m first stop step => exact .range m first stop step
    | query m text args => exact .query m text args
    | classOf c =>
      cases c with
      | builtin c =>
        cases c with
        | matchMode => exact .modes
        | _ => cases h
      | _ => cases h
    | shared k =>
      cases hc : s.cell? k with
      | none => simp [Plan.reservable, cellOf?, hc, iterable, elements?] at h
      | some c =>
        refine .cell hc ?_
        cases c <;>
          simp_all [Plan.reservable, cellOf?, iterable, elements?, Cell.elements?, Cell.passes]
    | _ => cases h
  · intro h
    cases h with
    | @cell k c hc gives =>
      cases c <;>
        simp_all [Plan.reservable, cellOf?, iterable, elements?, Cell.elements?, Cell.passes]
    | _ => rfl

theorem Passes.ne_null (h : s.Passes v) : v ≠ .null := by
  rintro rfl
  cases h

theorem elements_of_passes (h : s.Passes v) : (∃ xs, s.elements v = .ok xs) ∨
    ∃ f, s.elements v = .error f ∧ (f.kind = .overflow ∨ f.kind = .memory) := by
  cases h with
  | range m first stop step =>
    simp only [elements, countedLength, bind, Except.bind]
    by_cases told : rangeSize first stop step ≤ lengthLimit
    · by_cases long : writtenOutLimit < rangeSize first stop step
      · exact .inr ⟨.noMemory, by simp [told, long], .inr rfl⟩
      · exact .inl ⟨(rangeItems first stop step).map (.int none), by
          simp only [told, long, if_true, if_false]⟩
    · exact .inr ⟨.countOverflow, by simp [told], .inl rfl⟩
  | @cell k c hc gives =>
    obtain ⟨xs, given⟩ : ∃ xs, s.elements? (.shared k) = some xs := by
      cases c <;> simp_all [elements?, Cell.elements?, Cell.passes]
    exact .inl ⟨xs, by simp [elements, given]⟩
  | _ => exact .inl ⟨_, rfl⟩

end Store

namespace Operation

theorem result_mapM_fresh (xs : List Value) (s : Session) :
    ∃ ys marks, (xs.mapM fresh).result s = (.ok ys, { s with store := { s.store with marks } }) ∧
      Store.SameButMarks xs ys := by
  induction xs generalizing s with
  | nil => exact ⟨[], s.store.marks, rfl, .nil⟩
  | cons x xs ih =>
    obtain ⟨m, marks, first⟩ := result_fresh_eq x s
    obtain ⟨ys, marks', rest, sameButMarks⟩ := ih { s with store := { s.store with marks } }
    refine ⟨x.withMark m :: ys, marks', ?_, .cons ⟨m, rfl⟩ sameButMarks⟩
    rw [List.mapM_cons, result_bind, first]
    simp only [result_bind, rest]
    rfl

theorem result_drain {v : Value} {xs : List Value} {s : Session}
    (given : s.store.elements v = .ok xs) : ∃ ys marks,
      (drain v).result s =
        (.ok ys, { s with store := { s.store.passed v xs.length with marks } }) ∧
      Store.SameButMarks xs ys ∧ (s.store.Passes v →
        (∀ m first stop step, v ≠ .range m first stop step) → ys = xs) := by
  obtain ⟨ys, marks, fresh_eq, sameButMarks⟩ :=
    result_mapM_fresh xs { s with store := s.store.passed v xs.length }
  unfold drain
  simp only [result_bind, result_asking, given, result_modify]
  split
  · exact ⟨ys, marks, fresh_eq, sameButMarks, fun passes => by cases passes⟩
  · exact ⟨ys, marks, fresh_eq, sameButMarks, fun passes => by cases passes⟩
  · exact ⟨ys, marks, fresh_eq, sameButMarks, fun _ other => absurd rfl (other _ _ _ _)⟩
  · exact ⟨xs, _, rfl, .refl xs, fun _ _ => rfl⟩

end Operation

namespace Plan

open Operation

variable {p : Plan} {s : Session}

def Numbered (p : Plan) (n : Nat) : Prop := ∃ m, p.start = .int m (.ofNat n)

theorem Numbered.startIndex_eq {n : Nat} (h : p.Numbered n) (s : Store) :
    startIndex s p.start = .ok n := by
  obtain ⟨m, hm⟩ := h
  rw [hm]
  rfl

theorem startIndex_of_unnumbered (unnumbered : ∀ n, ¬ p.Numbered n)
    (writable : ∀ m n, p.start = .int m n → n < 0 → n.natAbs < Whole.bound) (s : Store) :
    ∃ f, startIndex s p.start = .error f ∧ f.kind = .usage .startIndex := by
  cases h : p.start with
  | int m n =>
    cases n with
    | ofNat n => exact absurd ⟨m, h⟩ (unnumbered n)
    | negSucc n =>
      have written := Whole.written_of_lt _ (writable m _ h (Int.negSucc_lt_zero n))
      exact ⟨.startNegative (.negSucc n), by simp only [startIndex, written]; rfl, rfl⟩
  | _ => exact ⟨_, rfl, rfl⟩

theorem result_completed {k : Mark} {base : String} (hb : p.base = .text k base) (n : Nat)
    (fields : Value) (s : Session) : ∃ rs,
      match p.reservedArgs.result { s with records := s.records ++ rs } with
      | (.error f, t) => (p.completed n fields).result s = (.error f, t)
      | (.ok xs, t) =>
        if n < Whole.bound then ∃ more,
          (p.completed n fields).result s = (.ok (.shared ⟨t.store.size⟩), { t with
            store := (t.store.alloc (.builder {
              base := p.base, index := n, model := some p.model, fields := some fields
              conditions := p.conditions, reserved := xs, met := some (n, p.start.mark) })).2
            records := more })
        else (p.completed n fields).result s = (.error (.tooManyDigits none), t) := by
  refine ⟨p.conditions.map .ofStatic, ?_⟩
  unfold completed
  simp only [result_bind, result_noteConditions]
  rcases p.reservedArgs.result
    { s with records := s.records ++ p.conditions.map Record.ofStatic } with ⟨f | xs, t⟩
  · rfl
  · simp only [plain, result_asking, hb, Store.plain_text]
    split
    · next short =>
      rw [Whole.written_of_lt _ (by simpa using short)]
      exact ⟨_, rfl⟩
    · next long =>
      have written : Whole.written (n : Int) = .error (.tooManyDigits none) := by
        simpa [Whole.written] using long
      rw [written]

theorem result_reservedArgs_of_null (h : p.reserved = .null) (s : Session) :
    p.reservedArgs.result s = (.ok [], s) := by
  unfold reservedArgs
  rw [h]
  rfl

theorem result_reservedArgs (some_value : p.reserved ≠ .null) (s : Session) :
    p.reservedArgs.result s =
      if reservable s.store p.reserved then (drain p.reserved).result s
      else (.error (.reservedKind (s.store.shortName p.reserved)), s) := by
  unfold reservedArgs
  split
  · next h => exact absurd h some_value
  · simp only [result_bind, result_theStore]
    split <;> rfl

theorem result_reservedArgs_of_passes (s : Session) (passes : s.store.Passes p.reserved) :
    p.reservedArgs.result s = (drain p.reserved).result s := by
  rw [result_reservedArgs passes.ne_null, if_pos (Store.reservable_iff.2 passes)]

theorem result_reservedArgs_of_barred (s : Session) (some_value : p.reserved ≠ .null)
    (apart : ¬ s.store.Passes p.reserved) :
    p.reservedArgs.result s = (.error (.reservedKind (s.store.shortName p.reserved)), s) := by
  rw [result_reservedArgs some_value, if_neg fun h => apart (Store.reservable_iff.1 h)]

/-- What can be taken for arguments is refused only for how many elements there are. -/
theorem kind_of_reservedArgs {f : Fault} {t : Session}
    (passes : p.reserved = .null ∨ s.store.Passes p.reserved)
    (refused : p.reservedArgs.result s = (.error f, t)) :
    f.kind = .overflow ∨ f.kind = .memory := by
  rcases passes with h | passes
  · rw [result_reservedArgs_of_null h] at refused
    cases refused
  · rw [result_reservedArgs_of_passes s passes] at refused
    rcases Store.elements_of_passes passes with ⟨xs, given⟩ | ⟨g, given, kind⟩
    · obtain ⟨ys, marks, drained, -⟩ := result_drain given
      cases drained.symm.trans refused
    · unfold drain at refused
      simp only [result_bind, result_asking, given] at refused
      cases refused
      exact kind

structure Starts (p : Plan) (n : Nat) (xs : List Value) (b : Builder) : Prop where
  base : b.base = p.base
  index : b.index = n
  args : Store.SameButMarks xs b.args
  same : (∀ m first stop step, p.reserved ≠ .range m first stop step) → b.args = xs
  conditions : ∀ c, b.conditions = [c] ↔ (∃ k, p.condition = .text k c) ∧ Text.blank c = false
  one : b.conditions.length ≤ 1
  order : b.order = none

def Gives (p : Plan) (s : Store) (xs : List Value) : Prop :=
  p.reserved = .null ∧ xs = [] ∨ s.Passes p.reserved ∧ s.elements p.reserved = .ok xs

/-- How a construction ends. -/
structure Admission (p : Plan) (s : Session) : Prop where
  /-- The kind of fault of a first number is met only for one, unless the fields bring it. -/
  start_iff : (∃ f, (p.make.result s).1 = .error f ∧ f.kind = .usage .startIndex) ↔
    (∀ n, ¬ p.Numbered n) ∨ ∃ f u, p.offeredFields.result s = (.error f, u) ∧
      f.kind = .usage .startIndex
  /-- Nothing is done for what is no first number. -/
  untouched : (∀ n, ¬ p.Numbered n) → (p.make.result s).2 = s
  fields : ∀ n f u, p.Numbered n → p.offeredFields.result s = (.error f, u) →
    p.make.result s = (.error f, u)
  /-- The fields are those of the model, and without a model there always are some. -/
  modelled : p.model ≠ .null → p.offeredFields = FieldSet.forClass p.model p.qualifier
  unmodelled : p.model = .null → ∃ v u, p.offeredFields.result s = (.ok v, u)
  reserved : ∀ n v u, p.Numbered n → p.offeredFields.result s = (.ok v, u) →
    p.reserved ≠ .null → ¬ u.store.Passes p.reserved →
    (p.make.result s).1 = .error (.reservedKind (u.store.shortName p.reserved))
  type_iff : ∀ n v u, p.Numbered n → p.offeredFields.result s = (.ok v, u) →
    ((∃ f, (p.make.result s).1 = .error f ∧ f.kind = .typeMismatch) ↔
      p.reserved ≠ .null ∧ ¬ u.store.Passes p.reserved)
  made : ∀ n v u xs, p.Numbered n → n < Whole.bound → p.offeredFields.result s = (.ok v, u) →
    p.Gives u.store xs → ∃ h t b, p.make.result s = (.ok (.shared h), t) ∧
      t.store.builder? h = some b ∧ p.Starts n xs b ∧
      ∀ k generated rest, p.reserved = .shared k →
        u.store.cell? k = some (.stream generated rest) →
        t.store.cell? k = some (.stream generated [])

theorem conditions_eq_iff (p : Plan) (c : String) :
    p.conditions = [c] ↔ (∃ k, p.condition = .text k c) ∧ Text.blank c = false := by
  unfold conditions
  split
  · next k d hd =>
    cases blank : Text.blank d
    · simp only [Bool.false_eq_true, if_false, List.cons.injEq, and_true, hd, Value.text.injEq]
      constructor
      · rintro rfl
        exact ⟨⟨k, rfl, rfl⟩, blank⟩
      · rintro ⟨⟨_, -, rfl⟩, -⟩
        rfl
    · simp only [if_true, reduceCtorEq, hd, Value.text.injEq, false_iff]
      rintro ⟨⟨_, -, rfl⟩, worded⟩
      exact Bool.false_ne_true (worded.symm.trans blank)
  · next other =>
    simp only [reduceCtorEq, false_iff]
    rintro ⟨⟨k, h⟩, -⟩
    exact other k c h

theorem kind_of_completed {k : Mark} {base : String} (hb : p.base = .text k base) {n : Nat}
    {fields : Value} {f : Fault} (refused : ((p.completed n fields).result s).1 = .error f) :
    f.kind = .overflow ∨ f.kind = .memory ∨ f.kind = .badValue ∨
      f.kind = .typeMismatch ∧ p.reserved ≠ .null ∧ ¬ s.store.Passes p.reserved := by
  obtain ⟨rs, ends⟩ := result_completed hb n fields s
  rcases taken : p.reservedArgs.result { s with records := s.records ++ rs } with ⟨g | xs, t⟩ <;>
    rw [taken] at ends
  · simp only at ends
    rw [ends] at refused
    cases refused
    by_cases passes : p.reserved = .null ∨ s.store.Passes p.reserved
    · rcases kind_of_reservedArgs (s := { s with records := s.records ++ rs }) passes taken
        with kind | kind
      · exact .inl kind
      · exact .inr (.inl kind)
    · obtain ⟨some_value, apart⟩ := not_or.1 passes
      rw [result_reservedArgs_of_barred { s with records := s.records ++ rs } some_value apart]
        at taken
      cases taken
      exact .inr (.inr (.inr ⟨rfl, some_value, apart⟩))
  · simp only at ends
    split at ends
    · obtain ⟨more, ends⟩ := ends
      rw [ends] at refused
      cases refused
    · rw [ends] at refused
      cases refused
      exact .inr (.inr (.inl rfl))

theorem completed_of_barred {k : Mark} {base : String} (hb : p.base = .text k base) (n : Nat)
    (fields : Value) (some_value : p.reserved ≠ .null) (apart : ¬ s.store.Passes p.reserved) :
    ((p.completed n fields).result s).1 =
      .error (.reservedKind (s.store.shortName p.reserved)) := by
  obtain ⟨rs, ends⟩ := result_completed hb n fields s
  rw [result_reservedArgs_of_barred { s with records := s.records ++ rs } some_value apart] at ends
  exact congrArg Prod.fst ends

theorem completed_of_gives {k : Mark} {base : String} (hb : p.base = .text k base) {n : Nat}
    (hn : n < Whole.bound) (fields : Value) {xs : List Value} (gives : p.Gives s.store xs) :
    ∃ h t b, (p.completed n fields).result s = (.ok (.shared h), t) ∧
      t.store.builder? h = some b ∧ p.Starts n xs b ∧
      ∀ j generated rest, p.reserved = .shared j →
        s.store.cell? j = some (.stream generated rest) →
        t.store.cell? j = some (.stream generated []) := by
  obtain ⟨rs, ends⟩ := result_completed hb n fields s
  obtain ⟨ys, t, taken, sameButMarks, same, drained⟩ : ∃ ys t,
      p.reservedArgs.result { s with records := s.records ++ rs } = (.ok ys, t) ∧
      Store.SameButMarks xs ys ∧
      ((∀ m first stop step, p.reserved ≠ .range m first stop step) → ys = xs) ∧
      ∀ j generated rest, p.reserved = .shared j →
        s.store.cell? j = some (.stream generated rest) →
        t.store.cell? j = some (.stream generated []) := by
    rcases gives with ⟨h, rfl⟩ | ⟨passes, given⟩
    · refine ⟨[], _, result_reservedArgs_of_null h _, .nil, fun _ => rfl, fun j _ _ hj => ?_⟩
      cases h.symm.trans hj
    · obtain ⟨ys, marks, drained, sameButMarks, same⟩ :=
        result_drain (s := { s with records := s.records ++ rs }) given
      have taken := result_reservedArgs_of_passes { s with records := s.records ++ rs } passes
      refine ⟨ys, _, taken.trans drained, sameButMarks, same passes,
        fun j generated rest hj hc => ?_⟩
      have all : xs = rest := by
        rw [hj] at given
        simpa [Store.elements, Store.elements?, hc, Cell.elements?, eq_comm] using given
      subst all
      simp only [hj, Store.passed, hc, List.drop_length]
      exact Store.cell?_put_self _ _ _ _ hc
  rw [taken] at ends
  simp only [hn, if_true] at ends
  obtain ⟨more, ends⟩ := ends
  refine ⟨_, _, _, ends, Builder.builder?_eq_some.2 (Store.cell?_alloc _ _), ?_, ?_⟩
  · exact ⟨rfl, rfl, by simpa [Builder.args] using sameButMarks,
      fun other => by simpa [Builder.args] using same other, p.conditions_eq_iff,
      p.length_conditions, rfl⟩
  · exact fun j generated rest hj hc =>
      Store.cell?_alloc_of_some _ _ _ _ (drained j generated rest hj hc)

theorem make_of_unnumbered (unnumbered : ∀ n, ¬ p.Numbered n)
    (writable : ∀ m n, p.start = .int m n → n < 0 → n.natAbs < Whole.bound) (s : Session) :
    ∃ f, p.make.result s = (.error f, s) ∧ f.kind = .usage .startIndex := by
  obtain ⟨f, refused, kind⟩ := startIndex_of_unnumbered unnumbered writable s.store
  refine ⟨f, ?_, kind⟩
  rw [make_eq, result_bind, result_asking, refused]

theorem offeredFields_of_null {l : Mark} {a : String} (hm : p.model = .null)
    (hq : p.qualifier = .text l a) (short : a.length ≤ lengthLimit) (s : Session) :
    ∃ v u, p.offeredFields.result s = (.ok v, u) := by
  obtain ⟨lead, lead_eq, -⟩ := FieldSet.leadOf?_eq short
  have told := FieldSet.result_qualifierLead l a s
  rw [lead_eq] at told
  obtain ⟨m, marks, composed_eq⟩ := result_composed_eq lead s
  unfold offeredFields
  rw [hm, hq]
  simp only [FieldsProxy.make, result_bind, told, composed_eq]
  exact ⟨_, _, rfl⟩

theorem admission_of_text {k l : Mark} {base a : String} (hb : p.base = .text k base)
    (hq : p.qualifier = .text l a) (short : a.length ≤ lengthLimit)
    (writable : ∀ m n, p.start = .int m n → n < 0 → n.natAbs < Whole.bound) (s : Session) :
    p.Admission s where
  start_iff := by
    by_cases numbered : ∃ n, p.Numbered n
    · obtain ⟨n, hn⟩ := numbered
      have apart : ¬ ∀ n, ¬ p.Numbered n := fun h => h n hn
      rw [result_make (hn.startIndex_eq s.store), or_iff_right apart]
      rcases p.offeredFields.result s with ⟨f | v, u⟩
      · simp
      · constructor
        · rintro ⟨f, refused, kind⟩
          have kinds := kind_of_completed hb refused
          rw [kind] at kinds
          simp at kinds
        · rintro ⟨f, u, found, -⟩
          cases found
    · have unnumbered : ∀ n, ¬ p.Numbered n := not_exists.1 numbered
      obtain ⟨f, refused, kind⟩ := make_of_unnumbered unnumbered writable s
      exact ⟨fun _ => .inl unnumbered, fun _ => ⟨f, congrArg Prod.fst refused, kind⟩⟩
  untouched unnumbered := by
    obtain ⟨f, refused, -⟩ := make_of_unnumbered unnumbered writable s
    exact congrArg Prod.snd refused
  fields n f u hn found := by rw [result_make (hn.startIndex_eq s.store), found]
  modelled some_model := by
    unfold offeredFields
    split
    · next h => exact absurd h some_model
    · rfl
  unmodelled hm := offeredFields_of_null hm hq short s
  reserved n v u hn found some_value apart := by
    rw [result_make (hn.startIndex_eq s.store), found]
    exact completed_of_barred hb n v some_value apart
  type_iff n v u hn found := by
    rw [result_make (hn.startIndex_eq s.store), found]
    constructor
    · rintro ⟨f, refused, kind⟩
      have kinds := kind_of_completed hb refused
      simpa [kind] using kinds
    · rintro ⟨some_value, apart⟩
      exact ⟨_, completed_of_barred hb n v some_value apart, rfl⟩
  made n v u xs hn short found gives := by
    rw [result_make (hn.startIndex_eq s.store), found]
    exact completed_of_gives hb short v gives

/-- Plans of one base, model, qualifier and first number come to the same when they hold no
condition and take the same arguments once the fields are found. -/
theorem result_make_congr {q : Plan} (base : p.base = q.base) (model : p.model = q.model)
    (qualifier : p.qualifier = q.qualifier) (start : p.start = q.start)
    (conditions : p.conditions = q.conditions)
    (reserved : ∀ v u, q.offeredFields.result s = (.ok v, u) → ∀ records,
      p.reservedArgs.result { u with records } = q.reservedArgs.result { u with records }) :
    p.make.result s = q.make.result s := by
  have fields : p.offeredFields = q.offeredFields := by
    unfold offeredFields
    rw [model, qualifier]
  rw [make_eq, make_eq, result_bind, result_bind, result_asking, result_asking, start]
  cases startIndex s.store q.start with
  | error f => rfl
  | ok n =>
    simp only [result_bind, fields]
    rcases found : q.offeredFields.result s with ⟨f | v, u⟩
    · rfl
    · simp only [completed, result_bind, result_noteConditions, conditions, reserved v u found, base,
        model, start]

theorem result_reservedArgs_of_tuple {rs : List Value} (h : p.reserved = .tuple none rs)
    (s : Session) : p.reservedArgs.result s = (.ok rs, s) := by
  unfold reservedArgs
  rw [h]
  rfl

theorem result_make_of_listed {q : Plan} {rs : List Value} {h : Handle} (base : p.base = q.base)
    (model : p.model = q.model) (qualifier : p.qualifier = q.qualifier) (start : p.start = q.start)
    (conditions : p.conditions = q.conditions) (one_by_one : p.reserved = .tuple none rs)
    (listed : q.reserved = .shared h)
    (still : ∀ v u, q.offeredFields.result s = (.ok v, u) → u.store.cell? h = some (.list rs)) :
    p.make.result s = q.make.result s := by
  refine result_make_congr base model qualifier start conditions fun v u found records => ?_
  have cell : ({ u with records } : Session).store.cell? h = some (.list rs) := still v u found
  rw [result_reservedArgs_of_tuple one_by_one, Builder.result_reservedArgs_of_list listed cell]

theorem conditions_of_blank {c : Value}
    (blank : c = .null ∨ ∃ m t, c = .text m t ∧ Text.blank t = true) (h : p.condition = c) :
    p.conditions = [] := by
  unfold conditions
  rw [h]
  rcases blank with rfl | ⟨m, t, rfl, blank⟩
  · rfl
  · simp only [blank, if_true]

/-- How constructions end, and which of them end alike. -/
theorem admitted (p : Plan) {k l : Mark} {base a : String} (hb : p.base = .text k base)
    (hq : p.qualifier = .text l a) (short : a.length ≤ lengthLimit)
    (writable : ∀ m n, p.start = .int m n → n < 0 → n.natAbs < Whole.bound) (s : Session) :
    p.Admission s ∧ ∀ rs c h, (c = .null ∨ ∃ m t, c = .text m t ∧ Text.blank t = true) →
      (∀ v u, p.offeredFields.result s = (.ok v, u) → u.store.cell? h = some (.list rs)) →
      let q : Plan := { p with condition := .null, reserved := .shared h }
      (Plan.of p.base p.start rs p.model p.qualifier).make.result s = q.make.result s ∧
      (Plan.withCondition p.base c p.start rs p.model p.qualifier).make.result s =
        q.make.result s := by
  refine ⟨admission_of_text hb hq short writable s, fun rs c h blank still => ⟨?_, ?_⟩⟩
  · exact result_make_of_listed rfl rfl rfl rfl rfl rfl rfl still
  · exact result_make_of_listed rfl rfl rfl rfl (conditions_of_blank blank rfl) rfl rfl still

def twoGiven : Session where
  store := { cells := [.stream true [.null, .text none ""], .list [.null, .text none ""]] }

theorem admitted_stream :
    ∃ h t b, (Plan.make { base := .text none "from Foo", condition := .text none "a = 1"
                          start := .int none 3, reserved := .shared ⟨0⟩ }).result twoGiven =
        (.ok (.shared h), t) ∧ t.store.builder? h = some b ∧ b.index = 3 ∧
      b.args = [.null, .text none ""] ∧ b.conditions = ["a = 1"] ∧
      t.store.cell? ⟨0⟩ = some (.stream true []) ∧
      (Plan.withCondition (.text none "from Foo") (.text none " ") (.int none 3)
          [.null, .text none ""] .null (.text none "")).make.result twoGiven =
        (Plan.make { base := .text none "from Foo", start := .int none 3
                     reserved := .shared ⟨1⟩ }).result twoGiven := by
  let p : Plan := { base := .text none "from Foo", condition := .text none "a = 1"
                    start := .int none 3, reserved := .shared ⟨0⟩ }
  obtain ⟨admission, alike⟩ := admitted p rfl rfl (by decide) (by rintro _ _ ⟨⟩ h; cases h) twoGiven
  obtain ⟨h, t, b, made, hb, starts, drained⟩ :=
    admission.made 3 _ _ [.null, .text none ""] ⟨none, rfl⟩ (by decide +kernel) rfl
      (.inr ⟨.cell rfl rfl, rfl⟩)
  refine ⟨h, t, b, made, hb, starts.index, starts.same (by rintro _ _ _ _ ⟨⟩), ?_, ?_, ?_⟩
  · exact (starts.conditions "a = 1").2 ⟨⟨none, rfl⟩, by decide⟩
  · exact drained ⟨0⟩ true _ rfl rfl
  · exact (alike _ _ ⟨1⟩ (.inr ⟨none, " ", rfl, by decide⟩) (by rintro _ _ ⟨⟩; rfl)).2

/-- Numbers with too many digits are not written, though they are first numbers or are none, and
ranges of too many numbers are not written out. -/
theorem exists_not_admitted :
    (Plan.make { base := .text none "from Foo", start := .int none (-Whole.bound) }).result {} =
        (.error (.tooManyDigits none), {}) ∧
      (Fault.tooManyDigits none).kind ≠ .usage .startIndex ∧
      (∃ t, (Plan.make { base := .text none "from Foo", start := .int none Whole.bound }).result {} =
        (.error (.tooManyDigits none), t)) ∧
      ∃ t, (Plan.make { base := .text none "from Foo"
                        reserved := .range none 0 9223372036854775808 1 }).result {} =
        (.error .countOverflow, t) := by
  have unwritten (n : Int) (h : n.natAbs = Whole.bound) :
      Whole.written n = .error (.tooManyDigits none) := by
    simp [Whole.written, h]
  have negative : startIndex {} (.int none (-Whole.bound)) = .error (.tooManyDigits none) := by
    obtain ⟨n, hn⟩ := Nat.exists_eq_succ_of_ne_zero
      (Nat.ne_of_gt (Nat.lt_of_lt_of_le Nat.zero_lt_two Whole.two_le_bound))
    have succ : (-Whole.bound : Int) = .negSucc n := by rw [hn]; rfl
    have written := unwritten (.negSucc n) (by rw [← succ, Int.natAbs_neg, Int.natAbs_natCast])
    rw [succ]
    simp only [startIndex, written]
    rfl
  refine ⟨?_, by decide, ?_, ?_⟩
  · rw [make_eq, result_bind, result_asking]
    simp only [negative]
  · let p : Plan := { base := .text none "from Foo", start := .int none Whole.bound }
    obtain ⟨v, u, found⟩ := offeredFields_of_null (p := p) rfl rfl (by decide) {}
    obtain ⟨rs, ends⟩ := result_completed (p := p) rfl Whole.bound v u
    rw [result_reservedArgs_of_null rfl] at ends
    simp only [Nat.lt_irrefl, if_false] at ends
    rw [result_make (p := p) (n := Whole.bound) rfl, found]
    exact ⟨_, ends⟩
  · let p : Plan := { base := .text none "from Foo"
                      reserved := .range none 0 9223372036854775808 1 }
    obtain ⟨v, u, found⟩ := offeredFields_of_null (p := p) rfl rfl (by decide) {}
    obtain ⟨rs, ends⟩ := result_completed (p := p) rfl 1 v u
    have long : ∀ s : Store, s.elements p.reserved = .error .countOverflow := fun _ => rfl
    rw [result_reservedArgs_of_passes _ (.range ..)] at ends
    simp only [drain, result_bind, result_asking, long] at ends
    rw [result_make (p := p) (n := 1) rfl, found]
    exact ⟨_, ends⟩

end Plan

end Criteria
