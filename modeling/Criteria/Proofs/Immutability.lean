import Criteria.Item
import Criteria.Proofs.Declared

/-! What becomes of a field when callers read, set and delete its attributes. Nothing changes its
path but the deletion of what holds it, after which the path can be set once more. So a field stands
for its path as long as each such deletion is made good.
-/

set_option autoImplicit false

namespace Criteria

namespace Operation.KeepsButPasses

@[grind .] theorem makeField (path : Value) : KeepsButPasses (Field.make path) := by
  unfold Field.make
  grind

@[grind .] theorem present (path : Option Value) : KeepsButPasses (Field.present path) := by
  unfold Field.present
  grind

@[grind .] theorem nested (path : Option Value) (name : String) :
    KeepsButPasses (Field.nested path name) := by
  unfold Field.nested
  grind

@[grind .] theorem item (path : Option Value) (key : Value) :
    KeepsButPasses (Field.item path key) := by
  unfold Field.item
  grind

@[grind .] theorem givenOr (v : Value) (name : String) {other : Operation Value}
    (h : KeepsButPasses other) :
    KeepsButPasses (Attribute.givenOr v name other) := by
  unfold Attribute.givenOr
  grind

end Operation.KeepsButPasses

inductive Touch where
  | look (step : Step)
  | assign (name : String) (value : Value)
  | erase (name : String)

namespace Touch

def perform (v : Value) : Touch → Operation Unit
  | look step => do let _ ← step.take v
  | assign name w => Attribute.assign v name w
  | erase name => Attribute.erase v name

def after (v : Value) (s : Session) (touch : Touch) : Session := ((touch.perform v).result s).2

/-- Whether it takes the path away, alone or with everything else that the field holds. -/
def clears : Touch → Bool
  | erase name => name = "_path" || name = "__dict__"
  | _ => false

def leaves (path : Option Value) : Touch → Option Value
  | look _ => path
  | assign name w => if name = "_path" then path.or (some w) else path
  | erase name => if (erase name).clears then none else path

def path? : Touch → Option Value
  | assign name w => if name = "_path" then some w else none
  | _ => none

section Leaving

variable {touches : List Touch} {path : Option Value}

theorem leaves_eq_none {touch : Touch} (h : touch.clears) : leaves path touch = none := by
  cases touch with
  | erase name => exact if_pos h
  | _ => cases h

theorem leaves_eq_or {touch : Touch} (h : ¬ touch.clears) :
    leaves path touch = path.or touch.path? := by
  cases touch with
  | look step => simp [leaves, path?]
  | assign name w => by_cases hn : name = "_path" <;> simp [leaves, path?, hn]
  | erase name => simp only [leaves, if_neg h, path?, Option.or_none]

/-- Unless it is taken away, the path that is there stays, and the first that is set otherwise. -/
theorem foldl_leaves (h : ∀ touch ∈ touches, ¬ touch.clears) :
    touches.foldl leaves path = path.or (touches.findSome? path?) := by
  induction touches generalizing path with
  | nil => simp
  | cons touch rest ih =>
    rw [List.forall_mem_cons] at h
    rw [List.foldl_cons, leaves_eq_or h.1, ih h.2, Option.or_assoc, List.findSome?_cons]
    cases touch.path? <;> rfl

/-- Once the path is taken away, there is what is set after it. -/
theorem foldl_leaves_clears {earlier later : List Touch} {touch : Touch} (h : touch.clears)
    (kept : ∀ other ∈ later, ¬ other.clears) :
    (earlier ++ touch :: later).foldl leaves path = later.findSome? path? := by
  rw [List.foldl_append, List.foldl_cons, leaves_eq_none h, foldl_leaves kept, Option.none_or]

theorem last_clears (touches : List Touch) : (∀ touch ∈ touches, ¬ touch.clears) ∨
    ∃ earlier touch later, touches = earlier ++ touch :: later ∧ touch.clears ∧
      ∀ other ∈ later, ¬ other.clears := by
  induction touches with
  | nil => exact .inl (by simp)
  | cons first rest ih =>
    rcases ih with kept | ⟨earlier, touch, later, rfl, h, kept⟩
    · by_cases h : first.clears
      · exact .inr ⟨[], first, rest, rfl, h, kept⟩
      · exact .inl (List.forall_mem_cons.2 ⟨h, kept⟩)
    · exact .inr ⟨first :: earlier, touch, later, rfl, h, kept⟩

end Leaving

section Cells

variable {h : Handle} {path : Option Value} {s : Session}

theorem cell?_look (hc : s.store.cell? h = some (.field path)) (step : Step) :
    (after (.shared h) s (look step)).store.cell? h = some (.field path) := by
  have hv : s.store.cellOf? (.shared h) = some (.field path) := hc
  have keepsButPasses : ∀ {x : Operation Value}, x.KeepsButPasses → (x.result s).2.store.cell? h =
      some (.field path) := fun hx => hx.store s h _ hc (by simp)
  have left : (after (.shared h) s (look step)) = ((step.take (.shared h)).result s).2 := by
    simp only [after, perform, Operation.result_bind]
    rcases (step.take (.shared h)).result s with ⟨_ | _, t⟩ <;> rfl
  rw [left]
  cases step with
  | member name =>
    simp only [Step.take, Attribute.read, Operation.result_bind, Operation.result_theStore, hv]
    split
    · exact hc
    · split
      · exact keepsButPasses (.present path)
      · exact keepsButPasses (.givenOr _ _ (.nested path name))
  | item key =>
    simp only [Step.take, Item.read, Item.ofCell, Operation.result_bind,
      Operation.result_theStore, hv]
    exact keepsButPasses (.item path key)

theorem cell?_assign (hc : s.store.cell? h = some (.field path)) (name : String) (w : Value) :
    (after (.shared h) s (assign name w)).store.cell? h =
      some (.field (leaves path (assign name w))) := by
  have hv : s.store.cellOf? (.shared h) = some (.field path) := hc
  simp only [after, perform, Attribute.assign, Attribute.assignCell, Operation.result_bind,
    Operation.result_theStore, hv, leaves]
  by_cases hn : name = "_path"
  · cases path with
    | none =>
      simp only [hn, if_true, Operation.result_put]
      exact Store.cell?_put_self _ _ _ _ hc
    | some p =>
      simp only [hn, if_true, Operation.result_refuse]
      exact hc
  · simp only [hn, if_false, Operation.result_refuse]
    exact hc

theorem cell?_erase (hc : s.store.cell? h = some (.field path)) (name : String) :
    (after (.shared h) s (erase name)).store.cell? h = some (.field (leaves path (erase name))) := by
  have hv : s.store.cellOf? (.shared h) = some (.field path) := hc
  simp only [after, perform, Attribute.erase, Attribute.eraseCell, Operation.result_bind,
    Operation.result_theStore, hv, leaves, clears]
  by_cases hd : name = "__dict__"
  · subst hd
    exact Store.cell?_put_self _ _ _ _ hc
  by_cases hn : name = "_path"
  · subst hn
    cases path with
    | none => exact hc
    | some p => exact Store.cell?_put_self _ _ _ _ hc
  · simp only [hn, hd, decide_false, Bool.false_and, Bool.or_false, Bool.false_eq_true, if_false]
    split
    · exact hc
    · split <;> exact hc

theorem cell?_after (hc : s.store.cell? h = some (.field path)) (touch : Touch) :
    (after (.shared h) s touch).store.cell? h = some (.field (leaves path touch)) := by
  cases touch with
  | look step => exact cell?_look hc step
  | assign name w => exact cell?_assign hc name w
  | erase name => exact cell?_erase hc name

theorem cell?_run (hc : s.store.cell? h = some (.field path)) (touches : List Touch) :
    (touches.foldl (after (.shared h)) s).store.cell? h =
      some (.field (touches.foldl leaves path)) := by
  induction touches generalizing s path with
  | nil => exact hc
  | cons touch rest ih => exact ih (cell?_after hc touch)

end Cells

end Touch

namespace Field

/-- The value is a field that stands for a path. It tells the path as its attribute and as its text,
is shown with it, and cannot be told from a field that is made of the path now: the two are equal,
whichever stands first, and are found by one fingerprint. -/
structure Intact (s : Session) (v : Value) (p : String) : Prop where
  path : ∃ m, (Attribute.read v "path").result s = (.ok (.text m p), s)
  told : ∃ m, (Operation.told v).result s = (.ok (.text m p), s)
  shown : s.store.shown v = .ok ("Field(path=" ++ Text.quoted p ++ ")")
  alike : ∀ m, ∃ w t, (make (.text m p)).result s = (.ok w, t) ∧
    t.store.equal v w = .ok true ∧ t.store.equal w v = .ok true ∧
    ∃ print, t.store.fingerprint v = .ok print ∧ t.store.fingerprint w = .ok print

section Paths

variable {s : Store} {h k : Handle} {m n : Mark} {p : String}

theorem shown_of_path (hc : s.cell? h = some (.field (some (.text m p)))) :
    s.shown (.shared h) = .ok ("Field(path=" ++ Text.quoted p ++ ")") := by
  obtain ⟨d, hd⟩ : ∃ d, s.showingDepth = d + 1 :=
    Nat.exists_eq_add_one.2 (Nat.mul_pos (Nat.succ_pos _) (Nat.succ_pos _))
  change s.cellShown s.showingDepth [] h = _
  rw [hd, Store.cellShown]
  simp only [hc, Cell.innerText?]
  rfl

theorem fingerprint_of_path (hc : s.cell? h = some (.field (some (.text m p)))) :
    s.fingerprint (.shared h) = .ok (.ofText p) := by
  change s.cellFingerprint (s.size + 1) h = _
  rw [Store.cellFingerprint]
  simp only [hc]
  rfl

theorem equal_eq {q : String} (hc : s.cell? h = some (.field (some (.text m p))))
    (kc : s.cell? k = some (.field (some (.text n q)))) :
    s.equal (.shared h) (.shared k) = .ok (p == q) := by
  change s.meet (2 * s.size + 1) (.shared h) (.shared k) = _
  rw [Store.meet]
  simp only [Store.cellOf?, hc, kc, Cell.equalWith, Value.equalWith]
  simp [Value.atomEqual, Value.number?]

theorem equal_of_path (hc : s.cell? h = some (.field (some (.text m p))))
    (kc : s.cell? k = some (.field (some (.text n p)))) :
    s.equal (.shared h) (.shared k) = .ok true := by
  rw [equal_eq hc kc, beq_self_eq_true]

end Paths

theorem of_make {m : Mark} {p : String} {s t : Session} {v : Value}
    (made : (make (.text m p)).result s = (.ok v, t)) :
    Text.blank p = false ∧ ∃ h, v = .shared h ∧
      t.store.cell? h = some (.field (some (.text m p))) := by
  cases hp : Text.blank p with
  | true =>
    simp only [make, hp, if_true, Operation.result_refuse] at made
    cases made
  | false =>
    obtain ⟨r, e⟩ := FieldSet.result_make (m := m) hp s
    cases e.symm.trans made
    exact ⟨rfl, _, rfl, Store.cell?_alloc _ _⟩

theorem intact_iff_path {s : Session} {h : Handle} {path : Option Value} {p : String}
    (hc : s.store.cell? h = some (.field path)) (hp : Text.blank p = false) :
    Intact s (.shared h) p ↔ ∃ m, path = some (.text m p) := by
  have hv : s.store.cellOf? (.shared h) = some (.field path) := hc
  have read : (Attribute.read (.shared h) "path").result s = (present path).result s := by
    simp only [Attribute.read, Operation.result_bind, Operation.result_theStore, hv]
    rfl
  constructor
  · intro intact
    obtain ⟨m, hm⟩ := intact.path
    rw [read] at hm
    cases path with
    | none => cases hm
    | some w => exact ⟨m, congrArg some (Except.ok.inj (congrArg Prod.fst hm))⟩
  · rintro ⟨m, rfl⟩
    have plain : s.store.plain (.shared h) = .ok p := by simp only [Store.plain, hc]
    refine ⟨⟨m, read⟩, ⟨m, ?_⟩, shown_of_path hc, fun n => ?_⟩
    · simp only [Operation.told, Operation.plain, Operation.result_bind, Operation.result_asking,
        Operation.result_theStore, plain, hv]
      rfl
    · obtain ⟨r, made⟩ := FieldSet.result_make (m := n) hp s
      have hc' := Store.cell?_alloc_of_some s.store (.field (some (.text n p))) _ h hc
      have kc := Store.cell?_alloc s.store (.field (some (.text n p)))
      exact ⟨_, _, made, equal_of_path hc' kc, equal_of_path kc hc', _, fingerprint_of_path hc',
        fingerprint_of_path kc⟩

/-- A field stays what it was made to be, whatever is read from it and set and deleted on it, if and
only if its path is never taken away, or the first path that is set after it was taken away for the
last time is the same text. -/
theorem intact_iff {m : Mark} {p : String} {s t : Session} {v : Value}
    (made : (make (.text m p)).result s = (.ok v, t)) (touches : List Touch) :
    Intact (touches.foldl (Touch.after v) t) v p ↔
      (∀ touch ∈ touches, ¬ touch.clears) ∨ ∃ earlier touch later k,
        touches = earlier ++ touch :: later ∧ touch.clears ∧ (∀ other ∈ later, ¬ other.clears) ∧
        later.findSome? Touch.path? = some (.text k p) := by
  obtain ⟨hp, h, rfl, hc⟩ := of_make made
  rw [intact_iff_path (Touch.cell?_run hc touches) hp]
  rcases Touch.last_clears touches with kept | ⟨earlier, touch, later, rfl, cleared, last⟩
  · rw [Touch.foldl_leaves kept]
    exact iff_of_true ⟨m, rfl⟩ (.inl kept)
  · rw [Touch.foldl_leaves_clears cleared last]
    constructor
    · rintro ⟨k, set⟩
      exact .inr ⟨earlier, touch, later, k, rfl, cleared, last, set⟩
    · rintro (kept | ⟨earlier', touch', later', k, e, cleared', last', set⟩)
      · exact absurd cleared (kept touch (by simp))
      · have found : (earlier ++ touch :: later).foldl Touch.leaves none = _ :=
          Touch.foldl_leaves_clears cleared last
        rw [e, Touch.foldl_leaves_clears cleared' last', set] at found
        exact ⟨k, found.symm⟩

theorem intact_of_refused :
    ∃ v t, (make (.text none "o.x")).result {} = (.ok v, t) ∧
      Intact ([.look (.member "y"), .assign "_path" (.text none "o.y"), .look (.item (.int none 3)),
        .assign "label" .null, .erase "path", .erase "__class__"].foldl (Touch.after v) t) v "o.x" := by
  obtain ⟨r, made⟩ := FieldSet.result_make (m := none) (p := "o.x") rfl {}
  exact ⟨_, _, made, (intact_iff made _).2 (.inl (by simp [Touch.clears]))⟩

/-- A path that was deleted can be set to another one. -/
theorem exists_not_intact :
    ∃ v t, (make (.text none "o.x")).result {} = (.ok v, t) ∧
      ¬ Intact ([.erase "_path", .assign "_path" (.text none "o.y")].foldl (Touch.after v) t) v
        "o.x" := by
  obtain ⟨r, made⟩ := FieldSet.result_make (m := none) (p := "o.x") rfl {}
  obtain ⟨hp, h, hv, hc⟩ := of_make made
  refine ⟨_, _, made, fun intact => ?_⟩
  rw [hv] at intact
  obtain ⟨m, e⟩ := (intact_iff_path (Touch.cell?_run hc _) hp).1 intact
  exact absurd (Value.text.inj (Option.some.inj e)).2 (by decide)

end Field

end Criteria
