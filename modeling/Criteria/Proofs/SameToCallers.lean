import Criteria.Builder.Call
import Criteria.Proofs.SameButBuilders

set_option autoImplicit false

namespace Criteria

inductive Value.SameWords : Value → Value → Prop where
  | same (v : Value) : SameWords v v
  | text (m k : Mark) (t : String) : SameWords (.text m t) (.text k t)

/-- The builders differ at most in the mark of the order. -/
structure Builder.SameToCallers (b c : Builder) : Prop where
  order : Option.Rel Value.SameWords b.order c.order
  rest : c = b.orderBy c.order

inductive Cell.SameToCallers : Cell → Cell → Prop where
  | same (c : Cell) : SameToCallers c c
  | builder {b c : Builder} (h : b.SameToCallers c) : SameToCallers (.builder b) (.builder c)
  | stream (generated : Bool) (xs ys : List Value) :
      SameToCallers (.stream generated xs) (.stream generated ys)

structure Store.SameToCallers (s t : Store) : Prop where
  size : s.size = t.size
  marks : s.marks = t.marks
  extras : s.extras = t.extras
  cell : ∀ k, Option.Rel Cell.SameToCallers (s.cell? k) (t.cell? k)

structure Session.SameToCallers (s t : Session) : Prop where
  store : s.store.SameToCallers t.store
  records : s.records = t.records

namespace Value.SameWords

variable {v w : Value}

theorem shownWith_eq (h : v.SameWords w) (look : Look) (around : List Frame) :
    v.shownWith look around = w.shownWith look around := by
  cases h with
  | same => rfl
  | text => simp only [shownWith]

end Value.SameWords

theorem Option.rel_refl {α : Type} {R : α → α → Prop} (h : ∀ a, R a a) (o : Option α) :
    Option.Rel R o o := by
  cases o with
  | none => exact .none
  | some a => exact .some (h a)

namespace Builder.SameToCallers

variable {b c : Builder}

theorem refl (b : Builder) : b.SameToCallers b := ⟨Option.rel_refl .same _, rfl⟩

theorem shownWith_eq (h : b.SameToCallers c) (look : Look) (around : List Frame)
    (args : Except Fault String) :
    b.shownWith look around args = c.shownWith look around args := by
  obtain ⟨order, rest⟩ := h
  rw [rest]
  generalize c.order = p at order
  simp only [Builder.shownWith, orderBy]
  cases hb : b.order with
  | none =>
    rw [hb] at order
    cases order
    rfl
  | some v =>
    rw [hb] at order
    cases order with
    | some e =>
      simp only [e.shownWith_eq]
      rfl

theorem args_eq (h : b.SameToCallers c) : b.args = c.args := by
  rw [h.rest]
  rfl

theorem index_eq (h : b.SameToCallers c) : b.index = c.index := by
  rw [h.rest]
  rfl

theorem conditions_eq (h : b.SameToCallers c) : b.conditions = c.conditions := by
  rw [h.rest]
  rfl

theorem base_eq (h : b.SameToCallers c) : b.base = c.base := by
  rw [h.rest]
  rfl

theorem met_eq (h : b.SameToCallers c) : b.met = c.met := by
  rw [h.rest]
  rfl

theorem add (h : b.SameToCallers c) (clause : Clause) (vs : List Value) :
    (b.add clause vs).SameToCallers (c.add clause vs) := by
  obtain ⟨order, rest⟩ := h
  rw [rest]
  exact ⟨order, rfl⟩

theorem spend (h : b.SameToCallers c) (n : Nat) : (b.spend n).SameToCallers (c.spend n) := by
  obtain ⟨order, rest⟩ := h
  rw [rest]
  exact ⟨order, rfl⟩

theorem orderBy (h : b.SameToCallers c) {o p : Option Value} (e : Option.Rel Value.SameWords o p) :
    (b.orderBy o).SameToCallers (c.orderBy p) := by
  rw [h.rest]
  exact ⟨e, rfl⟩

theorem meet (h : b.SameToCallers c) (n : Nat) (m : Option (Nat × Mark)) :
    Builder.SameToCallers { b with index := n, met := m } { c with index := n, met := m } := by
  obtain ⟨order, rest⟩ := h
  rw [rest]
  exact ⟨order, rfl⟩

end Builder.SameToCallers

namespace Cell.SameToCallers

theorem sameButHeldOrPassed {c d : Cell} (h : c.SameToCallers d) : c.SameButHeldOrPassed d := by
  cases h with
  | same => exact .sameButHeld (.same _)
  | builder => exact .sameButHeld (.builder _ _)
  | stream g xs ys => exact .stream g xs ys

variable {a b x : Option Cell}

/-- What is left of a single pass does not matter. -/
theorem drained_left (h : Option.Rel Cell.SameToCallers a b)
    (e : x = a ∨ ∃ g xs ys, a = some (.stream g xs) ∧ x = some (.stream g ys)) :
    Option.Rel Cell.SameToCallers x b := by
  rcases e with rfl | ⟨g, xs, ys, rfl, rfl⟩
  · exact h
  · cases h with
    | some h =>
      cases h with
      | same => exact .some (.stream g ys xs)
      | stream _ _ zs => exact .some (.stream g ys zs)

theorem drained_right (h : Option.Rel Cell.SameToCallers a b)
    (e : x = b ∨ ∃ g xs ys, b = some (.stream g xs) ∧ x = some (.stream g ys)) :
    Option.Rel Cell.SameToCallers a x := by
  rcases e with rfl | ⟨g, xs, ys, rfl, rfl⟩
  · exact h
  · cases h with
    | some h =>
      cases h with
      | same => exact .some (.stream g xs ys)
      | stream _ zs _ => exact .some (.stream g zs ys)

end Cell.SameToCallers

namespace Store

theorem cell?_put_eq (s : Store) (h k : Handle) (c : Cell) :
    (s.put h c).cell? k = if h = k then (s.cell? k).map fun _ => c else s.cell? k := by
  by_cases e : h = k
  · subst e
    rw [if_pos rfl]
    cases hc : s.cell? h with
    | none =>
      have past : s.cells.length ≤ h.index := List.getElem?_eq_none_iff.1 hc
      simp [put, cell?, past]
    | some d => exact cell?_put_self s h c d hc
  · rw [if_neg e, cell?_put_of_ne s h k c e]

theorem cell?_passed_or (s : Store) (v : Value) (n : Nat) (k : Handle) :
    (s.passed v n).cell? k = s.cell? k ∨ ∃ g xs ys,
      s.cell? k = some (.stream g xs) ∧ (s.passed v n).cell? k = some (.stream g ys) := by
  unfold passed
  split
  · next j =>
    split
    · next g rest hc =>
      rw [cell?_put_eq]
      split
      · next e =>
        subst e
        exact .inr ⟨g, rest, rest.drop n, hc, by rw [hc]; rfl⟩
      · exact .inl rfl
    · exact .inl rfl
  · exact .inl rfl

namespace SameToCallers

theorem refl (s : Store) : s.SameToCallers s := ⟨rfl, rfl, rfl, fun _ => Option.rel_refl .same _⟩

variable {s t : Store} (w : s.SameToCallers t)

include w

theorem sameButHeldOrPassed (v : Value) : s.SameButHeldOrPassed t v := by
  cases v with
  | shared k =>
    have h := w.cell k
    unfold SameButHeldOrPassed
    simp only [cellOf?]
    cases hs : s.cell? k <;> cases ht : t.cell? k <;> rw [hs, ht] at h <;> cases h
    · exact .none
    · next h => exact .some h.sameButHeldOrPassed
  | _ => exact .none

theorem present_eq (v : Value) : s.present v = t.present v := (w.sameButHeldOrPassed v).present_eq

theorem field?_eq (v : Value) : s.field? v = t.field? v := (w.sameButHeldOrPassed v).field?_eq

theorem fieldPath_eq (v : Value) : s.fieldPath v = t.fieldPath v :=
  (w.sameButHeldOrPassed v).fieldPath_eq

theorem shortName_eq (v : Value) : s.shortName v = t.shortName v :=
  (w.sameButHeldOrPassed v).shortName_eq

theorem longName_eq (v : Value) : s.longName v = t.longName v :=
  (w.sameButHeldOrPassed v).longName_eq

theorem cases (k : Handle) : s.cell? k = t.cell? k ∨
    (∃ b c, s.cell? k = some (.builder b) ∧ t.cell? k = some (.builder c) ∧ b.SameToCallers c) ∨
    ∃ g xs ys, s.cell? k = some (.stream g xs) ∧ t.cell? k = some (.stream g ys) := by
  have h := w.cell k
  cases hs : s.cell? k <;> cases ht : t.cell? k <;> rw [hs, ht] at h <;> cases h
  · exact .inl rfl
  · next h =>
    cases h with
    | same => exact .inl rfl
    | builder h => exact .inr (.inl ⟨_, _, rfl, rfl, h⟩)
    | stream g xs ys => exact .inr (.inr ⟨g, xs, ys, rfl, rfl⟩)

theorem builder? {h : Handle} {b : Builder} (hb : s.builder? h = some b) :
    ∃ c, t.builder? h = some c ∧ b.SameToCallers c := by
  have hc := Builder.builder?_eq_some.1 hb
  rcases w.cases h with e | ⟨_, c, e, f, p⟩ | ⟨_, _, _, e, _⟩
  · exact ⟨b, Builder.builder?_eq_some.2 (e.symm.trans hc), .refl b⟩
  · cases e.symm.trans hc
    exact ⟨c, Builder.builder?_eq_some.2 f, p⟩
  · cases e.symm.trans hc

theorem givenTo?_eq (v : Value) (name : String) : s.givenTo? v name = t.givenTo? v name := by
  have given_eq : s.given = t.given := by
    funext o
    simp only [Store.given, w.extras]
  cases v with
  | shared k =>
    rcases w.cases k with e | ⟨_, _, e, f, -⟩ | ⟨_, _, _, e, f⟩
    · simp only [givenTo?, owner?, libraryClass?, givenToClass?, cellOf?, e, given_eq]
    · simp only [givenTo?, owner?, libraryClass?, givenToClass?, cellOf?, e, f, given_eq]
    · simp only [givenTo?, owner?, libraryClass?, givenToClass?, cellOf?, e, f, given_eq]
  | _ => simp only [givenTo?, owner?, libraryClass?, givenToClass?, cellOf?, given_eq]

theorem called_eq (v : Value) : s.called v = t.called v := by
  unfold called
  split <;> first | rfl | rw [w.longName_eq]

theorem cellShown_eq (depth : Nat) : s.cellShown depth = t.cellShown depth := by
  induction depth with
  | zero => rfl
  | succ depth ih =>
    funext around k
    unfold cellShown
    rcases w.cases k with e | ⟨b, c, e, f, p⟩ | ⟨g, xs, ys, e, f⟩
    · simp only [e, w.givenTo?_eq, w.called_eq, ih]
    · simp only [e, f, w.givenTo?_eq, w.called_eq, ih]
      cases t.givenTo? (.shared k) "args" <;>
        simp only [Cell.innerText?, Cell.shownWith, p.args_eq, p.shownWith_eq]
    · simp only [e, f, Cell.innerText?, Cell.shownWith]
      cases g <;> rfl

theorem look_eq : s.look = t.look := by
  simp only [look, showingDepth, w.size, w.marks, w.cellShown_eq]

theorem shown_eq (v : Value) : s.shown v = t.shown v := by
  simp only [shown, w.look_eq]

theorem shownList_eq (vs : List Value) : s.shownList vs = t.shownList vs := by
  simp only [shownList, w.look_eq]

theorem plain_eq (v : Value) : s.plain v = t.plain v := by
  cases v with
  | shared k =>
    simp only [plain, w.shown_eq]
    rcases w.cases k with e | ⟨_, _, e, f, -⟩ | ⟨_, _, _, e, f⟩
    · simp only [e, w.longName_eq]
    · simp only [e, f]
    · simp only [e, f]
  | _ => simp only [plain, w.shown_eq]

theorem cellFingerprint_eq (depth : Nat) : s.cellFingerprint depth = t.cellFingerprint depth := by
  induction depth with
  | zero => rfl
  | succ depth ih =>
    funext k
    unfold cellFingerprint
    rcases w.cases k with e | ⟨_, _, e, f, -⟩ | ⟨_, _, _, e, f⟩
    · simp only [e, ih]
    · simp only [e, f, Cell.fingerprint]
    · simp only [e, f, Cell.fingerprint]

theorem fingerprint_eq (v : Value) : s.fingerprint v = t.fingerprint v := by
  simp only [fingerprint, w.size, w.cellFingerprint_eq]

theorem ofValue_eq (v : Value) : MatchMode.ofValue s v = MatchMode.ofValue t v := by
  simp only [MatchMode.ofValue, MatchMode.ofValue.refused, w.fingerprint_eq, w.shown_eq]

theorem patternOf_eq (m : MatchMode) (v : Value) : m.patternOf s v = m.patternOf t v := by
  simp only [MatchMode.patternOf, Store.mark, w.marks, w.shortName_eq]

theorem mark : s.mark.2.SameToCallers t.mark.2 := by
  refine ⟨w.size, ?_, w.extras, w.cell⟩
  simp only [Store.mark, w.marks]

theorem alloc (c : Cell) : (s.alloc c).2.SameToCallers (t.alloc c).2 := by
  refine ⟨?_, w.marks, w.extras, fun k => ?_⟩
  · have h := w.size
    simp only [Store.alloc, Store.size, List.length_append] at h ⊢
    rw [h]
  · rw [cell?_alloc_eq, cell?_alloc_eq, w.size]
    split
    · exact .some (.same c)
    · exact w.cell k

theorem put {h : Handle} {c d : Cell} (e : c.SameToCallers d) :
    (s.put h c).SameToCallers (t.put h d) := by
  refine ⟨by simpa [Store.put, Store.size] using w.size, w.marks, w.extras, fun k => ?_⟩
  rw [cell?_put_eq, cell?_put_eq]
  split
  · have there := w.cell k
    cases hs : s.cell? k <;> cases ht : t.cell? k <;> rw [hs, ht] at there <;> cases there
    · exact .none
    · exact .some e
  · exact w.cell k

theorem passed (v x : Value) (m n : Nat) : (s.passed v m).SameToCallers (t.passed x n) := by
  have size_eq (u : Store) (v : Value) (n : Nat) : (u.passed v n).size = u.size :=
    Builder.size_passed u v n
  have marks_eq (u : Store) (v : Value) (n : Nat) : (u.passed v n).marks = u.marks := by
    unfold Store.passed
    split
    · split <;> rfl
    · rfl
  have extras_eq (u : Store) (v : Value) (n : Nat) : (u.passed v n).extras = u.extras := by
    unfold Store.passed
    split
    · split <;> rfl
    · rfl
  refine ⟨?_, ?_, ?_, fun k => ?_⟩
  · rw [size_eq, size_eq, w.size]
  · rw [marks_eq, marks_eq, w.marks]
  · rw [extras_eq, extras_eq, w.extras]
  · have left := Cell.SameToCallers.drained_left (w.cell k) (s.cell?_passed_or v m k)
    exact Cell.SameToCallers.drained_right left (t.cell?_passed_or x n k)

end SameToCallers

end Store

/-- Both operations give the same and leave peers. -/
def Operation.AgreeFrom {α : Type} (s t : Session) (x y : Operation α) : Prop :=
  (x.result s).1 = (y.result t).1 ∧ (x.result s).2.SameToCallers (y.result t).2

def Operation.Agree {α : Type} (x y : Operation α) : Prop :=
  ∀ s t : Session, s.SameToCallers t → AgreeFrom s t x y

theorem Operation.AgreeFrom.bind {α β : Type} {s t : Session} {x y : Operation α}
    {f g : α → Operation β} (hx : AgreeFrom s t x y)
    (hf : ∀ a u, x.result s = (.ok a, u) → u.SameToCallers (y.result t).2 →
      AgreeFrom u (y.result t).2 (f a) (g a)) :
    AgreeFrom s t (x >>= f) (y >>= g) := by
  obtain ⟨answer, left⟩ := hx
  unfold AgreeFrom
  rw [result_bind, result_bind]
  rcases hs : x.result s with ⟨r, s'⟩
  rcases ht : y.result t with ⟨q, t'⟩
  rw [hs, ht] at answer left
  obtain rfl : r = q := answer
  cases r with
  | error e => exact ⟨rfl, left⟩
  | ok a =>
    rw [ht] at hf
    exact hf a s' hs left

namespace Operation.Agree

open Operation

variable {α β : Type}

theorem pure (a : α) : Agree (Pure.pure a) (Pure.pure a) := fun _ _ w => ⟨rfl, w⟩

theorem refuse (f : Fault) : Agree (refuse f : Operation α) (Operation.refuse f) :=
  fun _ _ w => ⟨rfl, w⟩

theorem bind {x y : Operation α} {f g : α → Operation β} (hx : Agree x y)
    (hf : ∀ a, Agree (f a) (g a)) : Agree (x >>= f) (y >>= g) := by
  intro s t w
  exact (hx s t w).bind fun a u _ left => hf a u _ left

theorem withStore {f g : Store → Operation α} (h : ∀ s t, s.SameToCallers t → Agree (f s) (g t)) :
    Agree (theStore >>= f) (theStore >>= g) := by
  intro s t w
  unfold AgreeFrom
  rw [result_bind, result_bind]
  exact h s.store t.store w.store s t w

theorem asking {p q : Store → Except Fault α} (h : ∀ s t, s.SameToCallers t → p s = q t) :
    Agree (asking p) (Operation.asking q) := by
  intro s t w
  unfold AgreeFrom
  rw [result_asking, result_asking]
  exact ⟨h _ _ w.store, w⟩

theorem note (l : Level) (c : Channel) (m : String) : Agree (note l c m) (Operation.note l c m) := by
  intro s t w
  refine ⟨rfl, w.store, ?_⟩
  simp only [result_note, w.records]

theorem mark : Agree mark Operation.mark := by
  intro s t w
  refine ⟨?_, w.store.mark, w.records⟩
  simp only [result_mark, Store.mark, w.store.marks]

theorem share (c : Cell) : Agree (share c) (Operation.share c) := by
  intro s t w
  refine ⟨?_, w.store.alloc c, w.records⟩
  simp only [result_share, Store.alloc, w.store.size]

theorem put (h : Handle) {c d : Cell} (e : c.SameToCallers d) :
    Agree (put h c) (Operation.put h d) :=
  fun _ _ w => ⟨rfl, w.store.put e, w.records⟩

theorem fresh (v : Value) : Agree (fresh v) (Operation.fresh v) := by
  unfold Operation.fresh
  split
  · exact pure _
  · exact mark.bind fun _ => pure _

theorem composed (t : String) : Agree (composed t) (Operation.composed t) := by
  unfold Operation.composed
  split
  · exact pure _
  · exact mark.bind fun _ => pure _

theorem settled (v : Value) : Agree (settled v) (Operation.settled v) := by
  unfold Operation.settled
  split
  · exact pure _
  · exact fresh v

theorem call (v : Value) : Agree (call v) (Operation.call v) := by
  unfold Operation.call
  refine (asking fun s t w => w.called_eq v).bind fun p => ?_
  cases p with
  | value w => exact pure w
  | cell c => exact share c

theorem mapM {f : α → Operation β} (hf : ∀ a, Agree (f a) (f a)) (l : List α) :
    Agree (l.mapM f) (l.mapM f) := by
  induction l with
  | nil => simpa using pure ([] : List β)
  | cons a l ih =>
    rw [List.mapM_cons]
    exact (hf a).bind fun b => ih.bind fun bs => pure (b :: bs)

end Operation.Agree

namespace Builder

open Operation

variable {b c : Builder}

theorem agree_told (h : Handle) (name : String) {x y : Operation Value} (own : Agree x y) :
    Agree (told h name x) (told h name y) := by
  unfold told
  refine .withStore fun s t w => ?_
  rw [w.givenTo?_eq]
  split
  · exact .call _
  · exact own

theorem extensionFault_eq {s t : Store} (w : s.SameToCallers t) (v : Value) :
    extensionFault s v = extensionFault t v := by
  unfold extensionFault
  rw [w.longName_eq]
  cases v with
  | shared k =>
    simp only [Store.cellOf?]
    rcases w.cases k with e | ⟨_, _, e, f, -⟩ | ⟨_, _, _, e, f⟩
    · rw [e]
    · rw [e, f]
    · rw [e, f]
  | _ => rfl

theorem agree_extend (built : Value) (more : String) :
    Agree (extend built more) (extend built more) := by
  unfold extend
  split
  · exact .pure _
  · refine .withStore fun s t w => ?_
    have refused : Agree (do refuse (extensionFault s built); Pure.pure built)
        (do refuse (extensionFault t built); Pure.pure built) := by
      rw [extensionFault_eq w]
      exact (Agree.refuse _).bind fun _ => .pure _
    cases built with
    | shared k =>
      simp only [Store.cellOf?]
      rcases w.cases k with e | ⟨_, _, e, f, -⟩ | ⟨_, _, _, e, f⟩
      · rw [e]
        split
        · exact (Agree.put _ (.same _)).bind fun _ => .pure _
        · exact (Agree.put _ (.same _)).bind fun _ => .pure _
        · exact refused
      · simpa only [e, f] using refused
      · simpa only [e, f] using refused
    | _ => exact refused

theorem agree_orderText {v w : Value} (h : v.SameWords w) : Agree (orderText v) (orderText w) := by
  cases h with
  | text => exact .pure _
  | same =>
    cases v with
    | text => exact .pure _
    | _ =>
      refine .withStore fun s t w => ?_
      rw [w.longName_eq]
      exact .refuse _

theorem SameToCallers.agree_build (h : b.SameToCallers c) : Agree b.build c.build := by
  have start : Agree (if b.conditions.isEmpty then Pure.pure b.base else extend b.base b.whereText)
      (if c.conditions.isEmpty then Pure.pure c.base else extend c.base c.whereText) := by
    rw [whereText, whereText, h.conditions_eq, h.base_eq]
    split
    · exact .pure _
    · exact agree_extend _ _
  have order := h.order
  have build_eq (b : Builder) : b.build =
      (if b.conditions.isEmpty then Pure.pure b.base else extend b.base b.whereText) >>= fun built =>
        b.order.elim (Pure.pure built) fun o => orderText o >>= extend built := by
    unfold build
    by_cases empty : b.conditions.isEmpty = true <;> cases b.order <;> simp [empty]
  rw [build_eq, build_eq]
  refine start.bind fun built => ?_
  cases hb : b.order <;> cases hc : c.order <;> rw [hb, hc] at order <;> cases order
  · exact .pure _
  · next e => exact (agree_orderText e).bind (agree_extend built)

theorem SameToCallers.agree_buildNoted (h : b.SameToCallers c) :
    Agree b.buildNoted c.buildNoted := by
  refine h.agree_build.bind fun built => ?_
  have told (s t : Store) (w : s.SameToCallers t) : builtRecord s built = builtRecord t built := by
    simp only [builtRecord, w.plain_eq]
  exact (Agree.asking told).bind fun m => (Agree.note _ _ m).bind fun _ => .settled built

theorem cellOf?_share {s t : Session} (w : s.SameToCallers t) {d : Cell} {v : Value} {u : Session}
    (e : (share d).result s = (.ok v, u)) :
    u.store.cellOf? v = ((share d).result t).2.store.cellOf? v := by
  cases e
  have there := Store.cell?_alloc t.store d
  simp only [Store.alloc, ← w.store.size] at there
  exact (Store.cell?_alloc s.store d).trans there.symm

theorem cellOf?_call {s t : Session} (w : s.SameToCallers t) {f v : Value} {u : Session}
    (e : (call f).result s = (.ok v, u)) :
    u.store.cellOf? v = ((call f).result t).2.store.cellOf? v := by
  unfold call at e ⊢
  simp only [result_bind, result_asking, w.store.called_eq] at e ⊢
  cases called : t.store.called f with
  | error g =>
    rw [called] at e
    cases e
  | ok p =>
    rw [called] at e
    cases p with
    | cell d => exact cellOf?_share w e
    | value x =>
      cases e
      unfold Store.called at called
      split at called <;> cases called <;> rfl

theorem SameToCallers.agree_argsList (h : b.SameToCallers c) : Agree b.argsList c.argsList := by
  unfold argsList
  rw [h.args_eq]
  exact .share _

theorem SameToCallers.told_args (h : b.SameToCallers c) {s t : Session} (w : s.SameToCallers t)
    {k : Handle} {v : Value} {u : Session} (e : (told k "args" b.argsList).result s = (.ok v, u)) :
    u.store.cellOf? v = ((told k "args" c.argsList).result t).2.store.cellOf? v := by
  unfold told at e ⊢
  simp only [result_bind, result_theStore, w.store.givenTo?_eq] at e ⊢
  cases given : t.store.givenTo? (.shared k) "args" with
  | some f =>
    rw [given] at e
    exact cellOf?_call w e
  | none =>
    rw [given] at e
    unfold argsList at e ⊢
    rw [← h.args_eq]
    exact cellOf?_share w e

theorem agree_drain {s t : Session} (w : s.SameToCallers t) {v : Value}
    (same : s.store.cellOf? v = t.store.cellOf? v) : AgreeFrom s t (drain v) (drain v) := by
  have elements_eq : s.store.elements v = t.store.elements v := by
    have sameButHeld := Store.SameButHeld.of_eq same
    cases v with
    | range => rfl
    | _ => simp only [Store.elements, sameButHeld.elements?_eq, sameButHeld.longName_eq]
  unfold drain AgreeFrom
  simp only [result_bind, result_asking, elements_eq]
  cases t.store.elements v with
  | error f => exact ⟨rfl, w⟩
  | ok items =>
    have left : Session.SameToCallers { s with store := s.store.passed v items.length }
        { t with store := t.store.passed v items.length } := by
      exact ⟨w.store.passed v v _ _, w.records⟩
    simp only [result_modify]
    split
    · exact Agree.mapM .fresh items _ _ left
    · exact Agree.mapM .fresh items _ _ left
    · exact Agree.mapM .fresh items _ _ left
    · exact ⟨rfl, left⟩

theorem SameToCallers.agree_buildQuery (h : b.SameToCallers c) (k : Handle) :
    Agree (b.buildQuery k) (c.buildQuery k) := by
  refine (agree_told k "build" h.agree_buildNoted).bind fun built s t w => ?_
  refine (agree_told k "args" h.agree_argsList s t w).bind fun v u e left => ?_
  refine (agree_drain left (h.told_args w e)).bind fun vs u' _ left' => ?_
  exact Agree.mark.bind (fun m => Agree.mark.bind fun n => .pure _) _ _ left'

theorem SameToCallers.agree_telling (h : b.SameToCallers c) (k : Handle) (name : String) :
    Option.Rel Agree (telling? k b name) (telling? k c name) := by
  unfold telling?
  split
  · exact .some h.agree_buildNoted
  · exact .some h.agree_argsList
  · exact .some (h.agree_buildQuery k)
  · exact .some ((Agree.asking fun s t w => w.shown_eq _).bind .composed)
  · rw [size, size, h.conditions_eq]
    exact .some (.fresh _)
  · rw [holds, holds, h.conditions_eq]
    exact .some (.pure _)
  · exact .none

theorem SameToCallers.agree_indexOf (h : b.SameToCallers c) (k : Handle) :
    Agree (Attribute.indexOf k b) (Attribute.indexOf k c) := by
  unfold Attribute.indexOf
  rw [h.met_eq, h.index_eq]
  split
  · exact .pure _
  · refine (Agree.fresh _).bind fun v => (Agree.put k ?_).bind fun _ => .pure v
    exact .builder (h.meet c.index _)

end Builder

inductive Ruling.SameWords : Ruling → Ruling → Prop where
  | same (r : Ruling) : SameWords r r
  | order {o p : Option Value} (h : Option.Rel Value.SameWords o p) : SameWords (.order o)
      (.order p)

theorem Ruling.SameWords.startingAt {x y : Ruling} (h : x.SameWords y) (index : Nat) :
    (x.startingAt index).SameWords (y.startingAt index) := by
  cases h with
  | same => exact .same _
  | order h => exact .order h

namespace Builder

open Operation

variable {b c : Builder}

theorem agree_noted {p q : Store → Except Fault String} (h : ∀ s t, s.SameToCallers t → p s = q t) :
    Agree (noted p) (noted q) :=
  (Agree.asking h).bind fun m => .note _ _ m

theorem agree_bindValues (xs : List Binding) : Agree (bindValues xs) (bindValues xs) := by
  induction xs with
  | nil => exact .pure _
  | cons x xs ih =>
    have first : Agree (bindValue x) (bindValue x) := by
      cases x with
      | itself v => exact .pure v
      | copy name items => exact (Agree.note _ _ _).bind fun _ => .share _
    exact first.bind fun v => ih.bind fun vs => .pure _

theorem SameToCallers.agree_carryOut (h : b.SameToCallers c) {x y : Ruling} (e : x.SameWords y)
    (k : Handle) :
    Agree (carryOut k b x) (carryOut k c y) := by
  cases e with
  | order e =>
    refine (Agree.put k (.builder (h.orderBy e))).bind fun _ => agree_noted fun s t w => ?_
    cases e with
    | none => rfl
    | some e => simp only [orderRecord, Store.shown, w.look_eq, e.shownWith_eq]
  | same =>
    cases x with
    | skip path operation value =>
      refine agree_noted fun s t w => ?_
      simp only [skipRecord, w.shown_eq]
    | add clause bindings =>
      refine (agree_bindValues bindings).bind fun vs => ?_
      refine (Agree.put k (.builder (h.add clause vs))).bind fun _ => agree_noted fun s t w => ?_
      simp only [addRecord, w.shownList_eq, h.index_eq]
    | tear spent f => exact (Agree.put k (.builder (h.spend spent))).bind fun _ => .refuse f
    | order o =>
      refine (Agree.put k (.builder (h.orderBy (Option.rel_refl .same o)))).bind fun _ => ?_
      refine agree_noted fun s t w => ?_
      cases o with
      | none => rfl
      | some v => simp only [orderRecord, w.shown_eq]

end Builder

end Criteria
