import Criteria.Proofs.Derivation

set_option autoImplicit false

namespace Criteria

namespace Step

open Operation

/-- What a step puts behind a path and a dot. A key puts itself there when it is a text, or a whole
number from zero on that can be written. -/
def segment? : Step → Option String
  | member name => some name
  | item (.text _ k) => some k
  | item (.int _ (.ofNat n)) => if n < Whole.bound then some (toString n) else none
  | item _ => none

def Fits (step : Step) : Prop := ∃ x, step.segment? = some x

instance (step : Step) : Decidable step.Fits := decidable_of_iff _ Option.isSome_iff_exists

def trail (steps : List Step) : String :=
  String.join ((steps.filterMap segment?).map ("." ++ ·))

def Untaken (s : Store) : Step → Prop
  | member name =>
    hiddenName name = false ∧ name ≠ "path" ∧ s.givenToClass? .field name = none
  | item _ => True

instance (s : Store) : (step : Step) → Decidable (step.Untaken s)
  | member name => inferInstanceAs (Decidable (hiddenName name = false ∧ name ≠ "path" ∧
      s.givenToClass? .field name = none))
  | item _ => inferInstanceAs (Decidable True)

def keyFault (s : Store) : Value → Fault
  | .int _ (.ofNat _) => .tooManyDigits none
  | .int _ (.negSucc _) => .negativeKey
  | key => .keyKind (s.shortName key)

def walk (v : Value) (steps : List Step) : Operation Value := steps.foldlM take v

theorem walk_cons (v : Value) (step : Step) (steps : List Step) :
    walk v (step :: steps) = (do walk (← step.take v) steps) :=
  List.foldlM_cons

theorem walk_append (v : Value) (xs ys : List Step) :
    walk v (xs ++ ys) = (do walk (← walk v xs) ys) :=
  List.foldlM_append

theorem trail_cons {step : Step} {x : String} (seg : step.segment? = some x)
    (steps : List Step) :
    trail (step :: steps) = "." ++ x ++ trail steps := by
  simp [trail, seg]

theorem Untaken.of_extras {s t : Store} (same : t.extras = s.extras) {step : Step}
    (h : step.Untaken s) : step.Untaken t := by
  cases step with
  | member name => simpa only [Untaken, Store.givenToClass?, Store.given, same] using h
  | item key => trivial

theorem exists_first {steps : List Step} (h : ¬ ∀ step ∈ steps, step.Fits) :
    ∃ earlier key later, steps = earlier ++ item key :: later ∧ (∀ step ∈ earlier, step.Fits) ∧
      (item key).segment? = none := by
  induction steps with
  | nil => exact absurd (List.forall_mem_nil _) h
  | cons step steps ih =>
    cases seg : step.segment? with
    | none =>
      cases step with
      | member name => cases seg
      | item key => exact ⟨[], key, steps, rfl, List.forall_mem_nil _, seg⟩
    | some x =>
      have fits : step.Fits := ⟨x, seg⟩
      obtain ⟨earlier, key, later, rfl, before, none_eq⟩ := ih fun rest =>
        h (List.forall_mem_cons.2 ⟨fits, rest⟩)
      exact ⟨step :: earlier, key, later, rfl, List.forall_mem_cons.2 ⟨fits, before⟩, none_eq⟩

section Taking

variable {s : Session} {v key : Value} {p x : String}

theorem result_take_of_path (hp : s.store.pathOf? v = some p) (key : Value) :
    ∃ k, ((item key).take v).result s = (Field.item (some (.text k p)) key).result s := by
  obtain ⟨h, k, rfl, hc⟩ := Store.pathOf?_eq_some.1 hp
  have hv : s.store.cellOf? (.shared h) = some (.field (some (.text k p))) := hc
  refine ⟨k, ?_⟩
  simp only [take, Item.read, Item.ofCell, result_bind, result_theStore, hv]

theorem givesField_item (seg : (item key).segment? = some x) (worded : Text.blank p = false)
    (k : Mark) (s : Session) :
    GivesField (Field.item (some (.text k p)) key) (p ++ "." ++ x) s := by
  have unblank : Text.blank (p ++ "." ++ x) = false := by simp [Text.blank_append, worded]
  cases key with
  | text m w =>
    cases seg
    have noted (path : String) := Field.givesField_noted unblank
      s!"Accessing field with string key: '{x}' -> '{path}'" s
    refine (noted (p ++ "." ++ x)).congr ?_
    simp only [Field.item, Field.present, plain, result_bind, result_pure, result_asking,
      Store.plain_text, result_note]
  | int m n =>
    cases n with
    | negSucc n => cases seg
    | ofNat n =>
      simp only [segment?] at seg
      split at seg
      · next short =>
        cases seg
        have nonneg : ¬ Int.ofNat n < 0 := Int.not_lt.2 (Int.natCast_nonneg n)
        have written : Whole.written (Int.ofNat n) = .ok (toString n) :=
          Whole.written_of_lt _ short
        have noted (path : String) := Field.givesField_noted unblank
          s!"Accessing indexed field: key={Int.ofNat n} -> '{path}'" s
        refine (noted (p ++ "." ++ toString n)).congr ?_
        simp only [Field.item, nonneg, if_false, Field.present, plain, result_bind, result_pure,
          result_asking, Store.plain_text, written, result_note]
      · cases seg
  | _ => cases seg

theorem result_item_of_none (none_eq : (item key).segment? = none) (k : Mark) (s : Session) :
    (Field.item (some (.text k p)) key).result s = (.error (keyFault s.store key), s) := by
  cases key with
  | text m w => cases none_eq
  | int m n =>
    cases n with
    | negSucc n => simp only [Field.item, Int.negSucc_lt_zero, if_true, result_refuse, keyFault]
    | ofNat n =>
      simp only [segment?] at none_eq
      split at none_eq
      · cases none_eq
      · next long =>
        have nonneg : ¬ Int.ofNat n < 0 := Int.not_lt.2 (Int.natCast_nonneg n)
        have unwritten : Whole.written (Int.ofNat n) = .error (.tooManyDigits none) :=
          if_neg long
        simp only [Field.item, nonneg, if_false, Field.present, plain, result_bind, result_pure,
          result_asking, Store.plain_text, unwritten]
        rfl
  | _ => rfl

theorem givesField_take {step : Step} (hp : s.store.pathOf? v = some p)
    (worded : Text.blank p = false) (untaken : step.Untaken s.store)
    (seg : step.segment? = some x) : GivesField (step.take v) (p ++ "." ++ x) s := by
  have unblank : Text.blank (p ++ "." ++ x) = false := by simp [Text.blank_append, worded]
  cases step with
  | member name =>
    cases seg
    obtain ⟨h, k, rfl, hc⟩ := Store.pathOf?_eq_some.1 hp
    exact Attribute.givesField_field untaken.1 untaken.2.1 hc untaken.2.2 unblank
  | item key =>
    obtain ⟨k, same⟩ := result_take_of_path hp key
    exact (givesField_item seg worded k s).congr same

/-- A walk whose steps all fit leads to the field behind its trail. -/
theorem givesField_walk {steps : List Step} (hp : s.store.pathOf? v = some p)
    (worded : Text.blank p = false) (untaken : ∀ step ∈ steps, step.Untaken s.store)
    (fits : ∀ step ∈ steps, step.Fits) : GivesField (walk v steps) (p ++ trail steps) s := by
  induction steps generalizing s v p with
  | nil => exact ⟨v, s, rfl, .refl _, rfl, by simpa [trail] using hp⟩
  | cons step steps ih =>
    obtain ⟨here, others⟩ := List.forall_mem_cons.1 untaken
    obtain ⟨⟨x, seg⟩, rest⟩ := List.forall_mem_cons.1 fits
    obtain ⟨w, t, first, keepsButPasses, extras, path⟩ := givesField_take hp worded here seg
    obtain ⟨y, u, second, keepsButPasses', extras', path'⟩ := ih path
      (by simp [Text.blank_append, worded])
      (fun step mem => (others step mem).of_extras extras) rest
    refine ⟨y, u, ?_, keepsButPasses.trans keepsButPasses', extras'.trans extras, ?_⟩
    · rw [walk_cons, result_bind, first]
      exact second
    · rw [path', trail_cons seg]
      simp only [String.append_assoc]

/-- Otherwise it ends at the first key that does not fit, where the steps before it led. -/
theorem exists_stop {steps : List Step} (hp : s.store.pathOf? v = some p)
    (worded : Text.blank p = false) (untaken : ∀ step ∈ steps, step.Untaken s.store)
    (unfit : ¬ ∀ step ∈ steps, step.Fits) :
    ∃ earlier key later w t, steps = earlier ++ item key :: later ∧
      (∀ step ∈ earlier, step.Fits) ∧ ¬ (item key).Fits ∧
      (walk v earlier).result s = (.ok w, t) ∧
      (walk v steps).result s = (.error (keyFault t.store key), t) := by
  obtain ⟨earlier, key, later, rfl, fits, none_eq⟩ := exists_first unfit
  have before : ∀ step ∈ earlier, step.Untaken s.store := fun step mem =>
    untaken step (List.mem_append_left _ mem)
  obtain ⟨w, t, went, -, -, path⟩ := givesField_walk hp worded before fits
  obtain ⟨k, same⟩ := result_take_of_path path key
  refine ⟨earlier, key, later, w, t, rfl, fits, fun ⟨x, seg⟩ => ?_, went, ?_⟩
  · cases none_eq.symm.trans seg
  · rw [walk_append, result_bind, went]
    simp only [walk_cons, result_bind, same, result_item_of_none none_eq]

theorem result_walk_iff {steps : List Step} (hp : s.store.pathOf? v = some p)
    (worded : Text.blank p = false) (untaken : ∀ step ∈ steps, step.Untaken s.store) :
    (∃ w t, (walk v steps).result s = (.ok w, t)) ↔ ∀ step ∈ steps, step.Fits := by
  constructor
  · rintro ⟨w, t, went⟩
    by_contra unfit
    obtain ⟨-, key, -, -, u, -, -, -, -, stopped⟩ := exists_stop hp worded untaken unfit
    cases went.symm.trans stopped
  · intro fits
    obtain ⟨w, t, went, -⟩ := givesField_walk hp worded untaken fits
    exact ⟨w, t, went⟩

theorem of_walk {steps : List Step} {w : Value} {t : Session} (hp : s.store.pathOf? v = some p)
    (worded : Text.blank p = false) (untaken : ∀ step ∈ steps, step.Untaken s.store)
    (went : (walk v steps).result s = (.ok w, t)) :
    s.store.KeepsButPasses t.store ∧ t.store.extras = s.store.extras ∧
      t.store.pathOf? w = some (p ++ trail steps) := by
  have fits := (result_walk_iff hp worded untaken).1 ⟨w, t, went⟩
  obtain ⟨y, u, same, left⟩ := givesField_walk hp worded untaken fits
  cases went.symm.trans same
  exact left

end Taking

end Step

namespace Field

open Step

/-- How walks from a field with the path `p` end in the session `s`. -/
structure Walked (s : Session) (v : Value) (p : String) : Prop where
  /-- A walk goes through if and only if all its steps fit. -/
  goes_iff : ∀ steps, (∀ step ∈ steps, step.Untaken s.store) →
    ((∃ w t, (walk v steps).result s = (.ok w, t)) ↔ ∀ step ∈ steps, step.Fits)
  leads : ∀ steps w t, (∀ step ∈ steps, step.Untaken s.store) →
    (walk v steps).result s = (.ok w, t) → ∃ q, t.store.pathOf? w = some q ∧
      q = p ++ trail steps ∧ p.toList <+: q.toList ∧ Text.blank q = false
  /-- Else it ends at the first key that does not fit, where the steps before it led. -/
  stops : ∀ steps, (∀ step ∈ steps, step.Untaken s.store) → (¬ ∀ step ∈ steps, step.Fits) →
    ∃ earlier key later w t f, steps = earlier ++ Step.item key :: later ∧
      (∀ step ∈ earlier, step.Fits) ∧ ¬ (Step.item key).Fits ∧
      (walk v earlier).result s = (.ok w, t) ∧ (walk v steps).result s = (.error f, t) ∧
      (∀ m n, key = .int m n → n < 0 → f = .negativeKey ∧ f.kind = .position) ∧
      ((∀ m n, key ≠ .int m n) →
        f = .keyKind (t.store.shortName key) ∧ f.kind = .typeMismatch)
  composed : ∀ xs ys, walk v (xs ++ ys) = do walk (← walk v xs) ys
  equal : ∀ x xs ys w y t u, s.store.pathOf? x = some p →
    (∀ step ∈ xs ++ ys, step.Untaken s.store) → (walk v xs).result s = (.ok w, t) →
    (walk x ys).result t = (.ok y, u) →
    u.store.equal w y = .ok (decide (trail xs = trail ys))

/-- Walks from a field that is made and still has its path. -/
theorem walked {m : Mark} {p : String} {s t u : Session} {v : Value}
    (made : (make (.text m p)).result s = (.ok v, t)) (still : u.store.pathOf? v = some p) :
    Walked u v p where
  goes_iff _ untaken := result_walk_iff still (of_make made).1 untaken
  leads steps w z untaken went := by
    obtain ⟨-, -, path⟩ := of_walk still (of_make made).1 untaken went
    refine ⟨_, path, rfl, ?_, ?_⟩
    · rw [String.toList_append]
      exact List.prefix_append _ _
    · simp [Text.blank_append, (of_make made).1]
  stops steps untaken unfit := by
    obtain ⟨earlier, key, later, w, z, rfl, fits, misfit, went, stopped⟩ :=
      exists_stop still (of_make made).1 untaken unfit
    refine ⟨earlier, key, later, w, z, _, rfl, fits, misfit, went, stopped, ?_, fun other => ?_⟩
    · rintro l (n | n) rfl negative
      · exact absurd negative (Int.not_lt.2 (Int.natCast_nonneg n))
      · exact ⟨rfl, rfl⟩
    · cases key with
      | int l n => exact absurd rfl (other l n)
      | _ => exact ⟨rfl, rfl⟩
  composed := walk_append v
  equal x xs ys w y z z' path untaken first second := by
    obtain ⟨keepsButPasses, extras, hw⟩ := of_walk still (of_make made).1
      (fun step mem => untaken step (List.mem_append_left _ mem)) first
    obtain ⟨keepsButPasses', -, hy⟩ := of_walk (keepsButPasses.pathOf? path) (of_make made).1
      (fun step mem => (untaken step (List.mem_append_right _ mem)).of_extras extras) second
    obtain ⟨_, _, rfl, hc⟩ := Store.pathOf?_eq_some.1 (keepsButPasses'.pathOf? hw)
    obtain ⟨_, _, rfl, kc⟩ := Store.pathOf?_eq_some.1 hy
    rw [equal_eq hc kc, beq_eq_decide]
    simp only [String.append_right_inj]

theorem walked_lines :
    ∃ v t, (make (.text none "o")).result {} = (.ok v, t) ∧
      (∃ w u, (walk v [.member "lines", .item (.int none 12), .item (.text none "a b")]).result t =
        (.ok w, u) ∧ u.store.pathOf? w = some "o.lines.12.a b") ∧
      (∃ f u, (walk v [.member "lines", .item (.truth true), .item (.int none (-1))]).result t =
        (.error f, u) ∧ f.kind = .typeMismatch) ∧
      ∃ w y u u', (walk v [.item (.text none "a.b")]).result t = (.ok w, u) ∧
        (walk v [.member "a", .member "b"]).result u = (.ok y, u') ∧
        u'.store.equal w y = .ok true := by
  let t : Session := ((make (.text none "o")).result {}).2
  have made : (make (.text none "o")).result {} = (.ok (.shared ⟨0⟩), t) := rfl
  have walks := walked made (u := t) rfl
  let u : Session := ((walk (.shared ⟨0⟩) [.item (.text none "a.b")]).result t).2
  have first : (walk (.shared ⟨0⟩) [.item (.text none "a.b")]).result t =
    (.ok (.shared ⟨1⟩), u) := rfl
  obtain ⟨y, u', second⟩ := ((walked made (u := u) rfl).goes_iff [.member "a", .member "b"]
    (by decide)).2 (by decide)
  refine ⟨.shared ⟨0⟩, t, made, ?_, ?_, .shared ⟨1⟩, y, u, u', first, second, ?_⟩
  · obtain ⟨w, u, went⟩ := (walks.goes_iff
      [.member "lines", .item (.int none 12), .item (.text none "a b")] (by decide)).2 (by decide)
    obtain ⟨q, path, rfl, -, -⟩ := walks.leads _ w u (by decide) went
    exact ⟨w, u, went, path⟩
  · obtain ⟨earlier, key, later, w, u, f, same, fits, -, -, stopped, -, kind⟩ := walks.stops
      [.member "lines", .item (.truth true), .item (.int none (-1))] (by decide) (by decide)
    refine ⟨f, u, stopped, (kind ?_).2⟩
    match earlier, same, fits with
    | [_], same, _ =>
      cases same
      exact fun m n => nofun
    | _ :: _ :: _, same, fits =>
      obtain ⟨-, rest⟩ := List.cons.inj same
      obtain ⟨rfl, -⟩ := List.cons.inj rest
      exact absurd (fits (.item (.truth true)) (by simp)) (by decide)
  · exact walks.equal _ _ _ _ _ _ _ rfl (by decide) first second

end Field

end Criteria
