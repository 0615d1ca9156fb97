import Criteria.Proofs.Immutability
import Criteria.Proofs.Listing
import Criteria.Proofs.SameToCallers
import Criteria.Proofs.Reach
import Mathlib.Data.List.Forall2

/-! Texts and fields as references. A text and a field with this text for its path stand for the same
reference, so calls of a builder that differ in nothing else give the same answers, one by one, and
leave the same query, arguments, next number and records.
-/

set_option autoImplicit false

namespace Criteria

namespace Value.SameWords

variable {v w : Value} {s t : Store}

theorem plain_eq (h : v.SameWords w) (p : s.SameToCallers t) : s.plain v = t.plain w := by
  cases h with
  | same => exact p.plain_eq v
  | text => rfl

end Value.SameWords

namespace Store

inductive Swapped (s : Store) : Value → Value → Prop where
  | same (v : Value) : Swapped s v v
  | field {m k : Mark} {p : String} {h : Handle}
      (hc : s.cell? h = some (.field (some (.text k p)))) : Swapped s (.text m p) (.shared h)
  | text {m k : Mark} {p : String} {h : Handle}
      (hc : s.cell? h = some (.field (some (.text k p)))) : Swapped s (.shared h) (.text m p)

/-- Lists that give swapped references one by one. A value that gives the same in both stores may
also be none. -/
inductive Listed (s t : Store) : Value → Value → Prop where
  | same {v : Value} (h : s.candidates v = t.candidates v) : Listed s t v v
  | lists {v x : Value} {items others : List Value} (hv : s.isReference v = false)
      (hx : t.isReference x = false) (given : s.candidates v = .ok items)
      (given' : t.candidates x = .ok others) (swapped : List.Forall₂ s.Swapped items others) :
      Listed s t v x

variable {s t : Store} {v x : Value}

theorem Swapped.symm (e : s.Swapped v x) : s.Swapped x v := by
  cases e with
  | same => exact .same _
  | field hc => exact .text hc
  | text hc => exact .field hc

theorem fieldPath_of_cell {h : Handle} {path : Value}
    (hc : s.cell? h = some (.field (some path))) : s.fieldPath (.shared h) = .ok path := by
  simp only [fieldPath, field?, cellOf?, hc]

theorem SameToCallers.cell_field (w : s.SameToCallers t) {h : Handle} {path : Option Value}
    (hc : s.cell? h = some (.field path)) : t.cell? h = some (.field path) := by
  rcases w.cases h with e | ⟨_, _, e, -⟩ | ⟨_, _, _, e, -⟩
  · exact e.symm.trans hc
  · cases e.symm.trans hc
  · cases e.symm.trans hc

theorem Swapped.fieldPath (e : s.Swapped v x) (w : s.SameToCallers t) :
    Both Value.SameWords (s.fieldPath v) (t.fieldPath x) := by
  cases e with
  | same => exact .of_eq .same (w.fieldPath_eq v)
  | field hc =>
    rw [fieldPath_of_cell (w.cell_field hc)]
    exact .ok (.text _ _ _)
  | text hc =>
    rw [fieldPath_of_cell hc]
    exact .ok (.text _ _ _)

theorem Swapped.isReference (e : s.Swapped v x) (w : s.SameToCallers t)
    (hv : s.isReference v = true) :
    t.isReference x = true := by
  cases e with
  | same => rw [← (w.sameButHeldOrPassed v).isReference_eq, hv]
  | field hc => simp [Store.isReference, field?, cellOf?, w.cell_field hc]
  | text => rfl

theorem Listed.cases (e : s.Listed t v x) (w : s.SameToCallers t) :
    (v = x ∧ s.isReference v = true ∧ t.isReference v = true) ∨
      s.isReference v = false ∧ t.isReference x = false ∧
        Both (List.Forall₂ s.Swapped) (s.candidates v) (t.candidates x) := by
  cases e with
  | lists hv hx given given' swapped =>
    rw [given, given']
    exact .inr ⟨hv, hx, .ok swapped⟩
  | same h =>
    have lone_eq := (w.sameButHeldOrPassed v).isReference_eq
    cases lone : s.isReference v with
    | true => exact .inl ⟨rfl, rfl, lone_eq.symm.trans lone⟩
    | false =>
      refine .inr ⟨rfl, lone_eq.symm.trans lone, .of_eq (fun items => ?_) h⟩
      exact List.forall₂_same.2 fun y _ => .same y

end Store

namespace Request

variable {s t : Store}

theorem fieldPaths_both (w : s.SameToCallers t) {vs xs : List Value}
    (swapped : List.Forall₂ s.Swapped vs xs) :
    Both (List.Forall₂ Value.SameWords) (fieldPaths s vs) (fieldPaths t xs) := by
  induction swapped with
  | nil => exact .ok .nil
  | cons first _ ih =>
    exact (first.fieldPath w).bind fun p q echoes => ih.bind fun ps qs rest => .ok (.cons echoes rest)

theorem pathTexts_eq (w : s.SameToCallers t) {ps qs : List Value}
    (h : List.Forall₂ Value.SameWords ps qs) :
    pathTexts s ps = pathTexts t qs := by
  induction h with
  | nil => rfl
  | cons first _ ih => simp only [pathTexts, first.plain_eq w, ih]

theorem joinTexts_eq (w : s.SameToCallers t) {ps qs : List Value}
    (h : List.Forall₂ Value.SameWords ps qs)
    (n : Nat) : joinTexts s n ps = joinTexts t n qs := by
  induction h generalizing n with
  | nil => rfl
  | @cons p q _ _ first _ ih =>
    cases first with
    | text => simp only [joinTexts, ih]
    | same => cases p <;> simp only [joinTexts, w.longName_eq, ih]

inductive Swapped (s t : Store) : Request → Request → Prop where
  | compare (op : Comparison) {f g : Value} (value : Value) (h : s.Swapped f g) :
      Swapped s t (.compare op f value) (.compare op g value)
  | like {f g : Value} (value mode : Value) (h : s.Swapped f g) :
      Swapped s t (.like f value mode) (.like g value mode)
  | likeAny {f g : Value} (value mode : Value) (h : s.Listed t f g) :
      Swapped s t (.likeAny f value mode) (.likeAny g value mode)
  | within {f g : Value} (values : Value) (h : s.Swapped f g) :
      Swapped s t (.within f values) (.within g values)
  | between {f g : Value} (lower upper : Value) (h : s.Swapped f g) :
      Swapped s t (.between f lower upper) (.between g lower upper)
  | orderBy {c d : Value} (h : s.Swapped c d) : Swapped s t (.orderBy c) (.orderBy d)

theorem ruleLikeAny_both (w : s.SameToCallers t) {f g : Value} (h : s.Listed t f g)
    (value mode : Value) :
    Both Ruling.SameWords (ruleLikeAny s f value mode) (ruleLikeAny t g value mode) := by
  unfold ruleLikeAny
  rcases h.cases w with ⟨rfl, lone, lone'⟩ | ⟨hf, hg, items⟩
  · rw [if_pos lone, if_pos lone', w.shown_eq]
    exact .of_eq .same rfl
  · simp only [hf, hg, Bool.false_eq_true, if_false]
    refine items.bind fun vs xs swapped => (fieldPaths_both w swapped).bind fun ps qs echoes => ?_
    have empty : ps.isEmpty = qs.isEmpty := by cases echoes <;> rfl
    refine .of_eq .same ?_
    simp only [empty, w.ofValue_eq, w.present_eq, w.patternOf_eq, pathTexts_eq w echoes,
      joinTexts_eq w echoes]

theorem ruleOrderBy_text (s : Store) (m : Mark) (p : String) :
    ruleOrderBy s (.text m p) =
      .ok (.order (if Text.blank p then none else some (.text m p))) := by
  cases blank : Text.blank p <;>
    simp [ruleOrderBy, Store.field?, Store.cellOf?, blank, bind, Except.bind]

theorem ruleOrderBy_field {h : Handle} {k : Mark} {p : String}
    (hc : s.cell? h = some (.field (some (.text k p)))) :
    ruleOrderBy s (.shared h) =
      .ok (.order (if Text.blank p then none else some (.text k p))) := by
  cases blank : Text.blank p <;>
    simp [ruleOrderBy, Store.fieldPath, Store.field?, Store.cellOf?, hc, blank, bind, Except.bind]

theorem ruleOrderBy_both (w : s.SameToCallers t) {c d : Value} (h : s.Swapped c d) :
    Both Ruling.SameWords (ruleOrderBy s c) (ruleOrderBy t d) := by
  have echoes (m k : Mark) (p : String) :
      Option.Rel Value.SameWords (if Text.blank p then none else some (.text m p))
        (if Text.blank p then none else some (.text k p)) := by
    split
    · exact .none
    · exact .some (.text m k p)
  cases h with
  | same =>
    refine .of_eq .same ?_
    simp only [ruleOrderBy, w.field?_eq, w.fieldPath_eq, w.shortName_eq, w.present_eq]
  | field hc =>
    rw [ruleOrderBy_text, ruleOrderBy_field (w.cell_field hc)]
    exact .ok (.order (echoes _ _ _))
  | text hc =>
    rw [ruleOrderBy_text, ruleOrderBy_field hc]
    exact .ok (.order (echoes _ _ _))

theorem Swapped.rule {r q : Request} (h : r.Swapped s t q) (w : s.SameToCallers t) :
    Both Ruling.SameWords (r.rule s) (q.rule t) := by
  cases h with
  | compare op value h =>
    refine (h.fieldPath w).bind fun p q echoes => .of_eq .same ?_
    simp only [w.present_eq, echoes.plain_eq w]
  | like value mode h =>
    refine (h.fieldPath w).bind fun p q echoes => .of_eq .same ?_
    simp only [w.ofValue_eq, w.present_eq, w.patternOf_eq, echoes.plain_eq w]
  | within values h =>
    refine (h.fieldPath w).bind fun p q echoes => .of_eq .same ?_
    simp only [w.present_eq, (w.sameButHeldOrPassed values).listable_eq,
      (w.sameButHeldOrPassed values).binding_eq,
      w.shortName_eq, echoes.plain_eq w]
  | between lower upper h =>
    refine (h.fieldPath w).bind fun p q echoes => .of_eq .same ?_
    simp only [bounded, w.present_eq, echoes.plain_eq w]
  | likeAny value mode h => exact ruleLikeAny_both w h value mode
  | orderBy h => exact ruleOrderBy_both w h

/-- Swapped references are met one by one, whatever list gives them. -/
theorem Swapped.passed {r q : Request} (h : r.Swapped s t q) (w : s.SameToCallers t) :
    (r.passed s).SameToCallers (q.passed t) := by
  cases h with
  | like => exact w.mark
  | @likeAny f g value mode h =>
    simp only [Request.passed]
    rcases h.cases w with ⟨rfl, lone, lone'⟩ | ⟨hf, hg, items⟩
    · rw [if_pos lone, if_pos lone']
      exact w
    · simp only [hf, hg, Bool.false_eq_true, if_false]
      cases hs : s.candidates f <;> cases ht : t.candidates g <;> rw [hs, ht] at items <;>
        cases items
      · exact w
      · exact (w.passed f g _ _).mark
  | _ => exact w

def Single (s : Store) (r : Request) : Prop :=
  ∃ fields value mode, r = likeAny fields value mode ∧ s.isReference fields = true

/-- The same request with another reference by itself in place of a list. -/
inductive Lone (s : Store) : Request → Request → Prop where
  | intro {f g : Value} (value mode : Value) (single : s.isReference f = true) (h : s.Swapped f g) :
      Lone s (.likeAny f value mode) (.likeAny g value mode)

theorem Lone.single {r q : Request} (h : r.Lone s q) (w : s.SameToCallers t) :
    r.Single s ∧ q.Single t := by
  obtain ⟨value, mode, single, h⟩ := h
  exact ⟨⟨_, value, mode, rfl, single⟩, _, value, mode, rfl, h.isReference w single⟩

theorem Lone.refused {r q : Request} (h : r.Lone s q) (w : s.SameToCallers t) :
    ∃ f g, r.rule s = .error f ∧ q.rule t = .error g ∧ f.kind = g.kind ∧
      r.passed s = s ∧ q.passed t = t := by
  obtain @⟨f, g, value, mode, single, h⟩ := h
  have single' := h.isReference w single
  have ruled (u : Store) (v : Value) (hv : u.isReference v = true) :
      (likeAny v value mode).rule u = (u.shown v >>= fun w => .error (.singleField w)) := by
    simp only [rule, ruleLikeAny, hv, if_true]
  have passed (u : Store) (v : Value) (hv : u.isReference v = true) :
      (likeAny v value mode).passed u = u := by
    simp only [Request.passed, hv, if_true]
  have text (u : Store) (m : Mark) (p : String) :
      u.shown (.text m p) = .ok (Text.quoted p) := by
    simp only [Store.shown, Value.shownWith]
  have kind (x y : String) : (Fault.singleField x).kind = (Fault.singleField y).kind := rfl
  rw [ruled s f single, ruled t g single']
  cases h with
  | same =>
    rw [w.shown_eq]
    cases t.shown f <;> exact ⟨_, _, rfl, rfl, rfl, passed _ _ single, passed _ _ single'⟩
  | field hc =>
    rw [text, Field.shown_of_path (w.cell_field hc)]
    exact ⟨_, _, rfl, rfl, kind _ _, passed _ _ single, passed _ _ single'⟩
  | text hc =>
    rw [text, Field.shown_of_path hc]
    exact ⟨_, _, rfl, rfl, kind _ _, passed _ _ single, passed _ _ single'⟩

end Request

namespace Builder

open Operation

variable {h : Handle} {b : Builder} {r q : Request} {s t : Session}

theorem agree_request (swapped : r.Swapped s.store t.store q) (w : s.SameToCallers t)
    (hb : s.store.builder? h = some b) : AgreeFrom s t (request h r) (request h q) := by
  obtain ⟨c, hc, sameToCallers⟩ := w.store.builder? hb
  have left : Session.SameToCallers { s with store := r.passed s.store }
    { t with store := q.passed t.store } :=
    ⟨swapped.passed w.store, w.records⟩
  have ruling := swapped.rule w.store
  unfold AgreeFrom
  cases hs : r.rule s.store <;> cases ht : q.rule t.store <;> rw [hs, ht] at ruling <;>
    cases ruling
  · rw [result_request_of_error hb hs, result_request_of_error hc ht]
    exact ⟨rfl, left⟩
  · next echoes =>
    rw [result_request_of_ok hb hs, result_request_of_ok hc ht, sameToCallers.index_eq]
    exact sameToCallers.agree_carryOut (echoes.startingAt c.index) h _ _ left

theorem refused_of_lone (lone : r.Lone s.store q) (w : s.SameToCallers t)
    (hb : s.store.builder? h = some b) :
    ∃ f g, (request h r).result s = (.error f, s) ∧ (request h q).result t = (.error g, t) ∧
      f.kind = g.kind := by
  obtain ⟨c, hc, -⟩ := w.store.builder? hb
  obtain ⟨f, g, hs, ht, kind, left, left'⟩ := lone.refused w.store
  refine ⟨f, g, ?_, ?_, kind⟩
  · rw [result_request_of_error hb hs, left]
  · rw [result_request_of_error hc ht, left']

end Builder

structure Given.Shaped (g g' : Given) : Prop where
  places : g.places.length = g'.places.length
  names : g.names.map Prod.fst = g'.names.map Prod.fst

namespace Signature

variable {sig : Signature}

theorem isSome_lookup_congr {xs ys : List (String × Value)}
    (h : xs.map Prod.fst = ys.map Prod.fst) (n : String) :
    (xs.lookup n).isSome = (ys.lookup n).isSome := by
  induction xs generalizing ys with
  | nil =>
    obtain rfl := List.map_eq_nil_iff.1 h.symm
    rfl
  | cons x xs ih =>
    cases ys with
    | nil => cases h
    | cons y ys =>
      obtain ⟨same, rest⟩ := List.cons.inj h
      rw [List.lookup_cons, List.lookup_cons, same]
      split
      · rfl
      · exact ih rest

theorem map_fst_zip_congr (names : List String) {vs ws : List Value} (h : vs.length = ws.length) :
    (names.zip vs).map Prod.fst = (names.zip ws).map Prod.fst := by
  induction names generalizing vs ws with
  | nil => rfl
  | cons n names ih =>
    cases vs with
    | nil =>
      obtain rfl := List.length_eq_zero_iff.1 h.symm
      rfl
    | cons v vs =>
      cases ws with
      | nil => cases h
      | cons w ws => exact congrArg (n :: ·) (ih (Nat.succ.inj h))

theorem takeNamed_both {xs ys ns ms : List (String × Value)}
    (taken : xs.map Prod.fst = ys.map Prod.fst) (names : ns.map Prod.fst = ms.map Prod.fst) :
    Both (fun us vs => us.map Prod.fst = vs.map Prod.fst) (sig.takeNamed xs ns)
      (sig.takeNamed ys ms) := by
  induction ns generalizing xs ys ms with
  | nil =>
    obtain rfl := List.map_eq_nil_iff.1 names.symm
    exact .ok taken
  | cons x ns ih =>
    cases ms with
    | nil => cases names
    | cons y ms =>
      obtain ⟨same, rest⟩ := List.cons.inj names
      rw [takeNamed, takeNamed, isSome_lookup_congr taken, same]
      split
      · exact .error _
      · split
        · refine ih ?_ rest
          simp only [List.map_append, taken, List.map_cons]
        · exact .error _

theorem take_both {g g' : Given} (shaped : g.Shaped g') :
    Both (fun _ _ => True) (sig.take g) (sig.take g') := by
  have zipped := map_fst_zip_congr sig.placed shaped.places
  refine (takeNamed_both zipped shaped.names).bind fun us vs keys => ?_
  have rest_eq : (g.places.drop sig.placed.length).isEmpty =
      (g'.places.drop sig.placed.length).isEmpty := by
    have same (vs : List Value) : vs.isEmpty = (vs.length == 0) := by cases vs <;> rfl
    simp only [same, List.length_drop, shaped.places]
  have missing_eq : (sig.required.filter fun n => (us.lookup n).isNone) =
      sig.required.filter fun n => (vs.lookup n).isNone := by
    congr 1
    funext n
    have found := isSome_lookup_congr keys n
    cases hu : us.lookup n <;> cases hv : vs.lookup n <;> simp_all
  simp only [rest_eq, missing_eq, shaped.places]
  split
  · exact .error _
  · split
    · exact .ok trivial
    · exact .error _

end Signature

/-- The same call but for references that are swapped. A reference by itself in place of a list may
be swapped too. -/
inductive BuilderCall.Swapped (s t : Store) : BuilderCall → BuilderCall → Prop where
  | index : Swapped s t .index .index
  | telling {name : String} (g : Given) (known : name ∈ Operations.ofBuilder)
      (other : Builder.requesting? name = none) : Swapped s t (.call name g) (.call name g)
  | request {name : String} {op : Signature × (Taken → Request)} {g g' : Given}
      (hn : Builder.requesting? name = some op) (shaped : g.Shaped g')
      (swapped : ∀ x y, op.1.take g = .ok x → op.1.take g' = .ok y →
        (op.2 x).Swapped s t (op.2 y) ∨ (op.2 x).Lone s (op.2 y)) :
      Swapped s t (.call name g) (.call name g')

/-- What callers learn of a builder: the query, its arguments, the next number and how many
conditions there are. -/
def Session.view (s : Session) (h : Handle) :
    Option (Except Fault Value × List Value × Nat × Nat) :=
  (s.store.builder? h).map fun b => ((b.buildNoted.result s).1, b.args, b.index, b.size)

theorem Session.SameToCallers.view_eq {s t : Session} (w : s.SameToCallers t) (h : Handle) :
    s.view h = t.view h := by
  unfold view
  cases hb : s.store.builder? h with
  | none =>
    have none_eq : t.store.builder? h = none := by
      unfold Store.builder? at hb ⊢
      rcases w.store.cases h with e | ⟨b, _, e, -⟩ | ⟨_, _, _, e, f⟩
      · rw [← e, hb]
      · rw [e] at hb
        cases hb
      · rw [f]
    rw [none_eq]
    rfl
  | some b =>
    obtain ⟨c, hc, sameToCallers⟩ := w.store.builder? hb
    rw [hc, Option.map_some, Option.map_some, (sameToCallers.agree_buildNoted s t w).1,
      sameToCallers.args_eq,
      sameToCallers.index_eq, Builder.size, Builder.size, sameToCallers.conditions_eq]

namespace CallMade

def Lone (d : CallMade) : Prop := ∃ r, d.ask.request? = some r ∧ r.Single d.before.store

/-- Both calls have the same answer, or refusals of one kind when a lone reference stands in place of
a list. They make the same records and leave builders that show the same. -/
structure Matches (h : Handle) (d e : CallMade) : Prop where
  answer : d.answer = e.answer ∨ d.Lone ∧ e.Lone ∧
    ∃ f g, d.answer = .error f ∧ e.answer = .error g ∧ f.kind = g.kind
  records : d.records = e.records
  view : d.after.view h = e.after.view h

end CallMade

namespace CallMade

open Builder Operation

variable {h : Handle} {a a' : BuilderCall} {b : Builder} {s t : Session}

theorem matches_of_agree (w : s.SameToCallers t)
    (agree : AgreeFrom s t (a.perform h) (a'.perform h)) :
    (of h a s).Matches h (of h a' t) ∧ (of h a s).after.SameToCallers (of h a' t).after := by
  obtain ⟨answer, left⟩ := agree
  refine ⟨⟨.inl answer, ?_, left.view_eq h⟩, left⟩
  simp only [records, of, left.records, w.records]

theorem exists_telling {name : String} (known : name ∈ Operations.ofBuilder)
    (other : requesting? name = none) (h : Handle) (b : Builder) :
    ∃ tell, telling? h b name = some tell := by
  have mem := (requesting?_or_telling name known).resolve_left (by simp [other])
  simp only [outputs, List.mem_cons, List.not_mem_nil, or_false] at mem
  rcases mem with rfl | rfl | rfl | rfl | rfl | rfl <;> exact ⟨_, rfl⟩

theorem matches_of_swapped (swapped : a.Swapped s.store t.store a') (w : s.SameToCallers t)
    (hb : s.store.builder? h = some b) :
    (of h a s).Matches h (of h a' t) ∧ (of h a s).after.SameToCallers (of h a' t).after := by
  obtain ⟨c, hc, sameToCallers⟩ := w.store.builder? hb
  cases swapped with
  | index =>
    refine matches_of_agree w ?_
    unfold AgreeFrom
    rw [result_perform_index hb, result_perform_index hc]
    exact sameToCallers.agree_indexOf h s t w
  | @telling name g known other =>
    refine matches_of_agree w ?_
    obtain ⟨tell, ht⟩ := exists_telling known other h b
    obtain ⟨tell', ht'⟩ := exists_telling known other h c
    have agree := sameToCallers.agree_telling h name
    rw [ht, ht'] at agree
    unfold AgreeFrom
    simp only [BuilderCall.perform, Call.result_onBuilder_telling hb other ht,
      Call.result_onBuilder_telling hc other ht']
    cases (signature name [] []).take g with
    | error f => exact ⟨rfl, w⟩
    | ok _ =>
      cases agree with
      | some agree => exact agree s t w
  | @request name op g g' hn shaped swapped =>
    have fits : Both (fun _ _ => True) (op.1.take g) (op.1.take g') := Signature.take_both shaped
    cases e : op.1.take g <;> cases e' : op.1.take g' <;> rw [e, e'] at fits <;> cases fits
    · next f =>
      refine matches_of_agree w ?_
      unfold AgreeFrom
      simp only [BuilderCall.perform, Call.result_onBuilder hb hn,
        Call.result_onBuilder hc hn, e, e']
      exact ⟨trivial, w⟩
    · next x y _ =>
      have asked : (BuilderCall.call name g).request? = some (op.2 x) := by
        simp [BuilderCall.request?, hn, e, Except.toOption]
      have asked' : (BuilderCall.call name g').request? = some (op.2 y) := by
        simp [BuilderCall.request?, hn, e', Except.toOption]
      have result_eq := BuilderCall.result_of_request asked hb
      have result_eq' := BuilderCall.result_of_request asked' hc
      rcases swapped x y e e' with swapped | lone
      · refine matches_of_agree w ?_
        obtain ⟨answer, left⟩ := agree_request swapped w hb
        unfold AgreeFrom
        rw [result_eq, result_eq', answer]
        exact ⟨rfl, left⟩
      · obtain ⟨single, single'⟩ := lone.single w.store
        obtain ⟨f, f', refused, refused', kind⟩ := refused_of_lone lone w hb
        rw [refused] at result_eq
        rw [refused'] at result_eq'
        refine ⟨⟨.inr ⟨⟨_, asked, single⟩, ⟨_, asked', single'⟩, f, f', ?_, ?_, kind⟩, ?_, ?_⟩, ?_⟩
        · rw [of, result_eq]
          rfl
        · rw [of, result_eq']
          rfl
        · simp only [records, of, result_eq, result_eq', w.records]
        · simp only [of, result_eq, result_eq', w.view_eq h]
        · simpa only [of, result_eq, result_eq'] using w

end CallMade

theorem Store.Swapped.after {s : Session} {h : Handle} {a : BuilderCall} {r : Request}
    {v x : Value} (e : s.store.Swapped v x) (asked : a.request? = some r)
    (hb : (s.store.builder? h).isSome) :
    (CallMade.of h a s).after.store.Swapped v x := by
  obtain ⟨b, hb⟩ := Option.isSome_iff_exists.1 hb
  have kept {k : Handle} {m : Mark} {p : String}
      (hc : s.store.cell? k = some (.field (some (.text m p)))) :
      (CallMade.of h a s).after.store.cell? k = some (.field (some (.text m p))) := by
    have other : h ≠ k := by
      rintro rfl
      cases (Builder.builder?_eq_some.1 hb).symm.trans hc
    have left : (CallMade.of h a s).after = ((Builder.request h r).result s).2 := by
      rw [CallMade.of, BuilderCall.result_of_request asked hb]
    rw [left]
    exact Builder.cell?_request_of_ne r hb other hc fun _ _ => Cell.noConfusion
  cases e with
  | same => exact .same _
  | field hc => exact .field (kept hc)
  | text hc => exact .text (kept hc)

/-- Calls of a builder on two sides, which are the same but for swapped references. Whatever is done
in between on both sides leaves peers. -/
inductive Tandem (h : Handle) : Session → Session → List (CallMade × CallMade) → Prop where
  | done (s t : Session) : Tandem h s t []
  | meanwhile {s s' t t' : Session} {ds : List (CallMade × CallMade)} :
      s'.SameToCallers t' → Tandem h s' t' ds → Tandem h s t ds
  | calls {s t : Session} {a a' : BuilderCall} {b : Builder} {ds : List (CallMade × CallMade)} :
      s.store.builder? h = some b → a.Swapped s.store t.store a' →
      Tandem h (CallMade.of h a s).after (CallMade.of h a' t).after ds →
      Tandem h s t ((CallMade.of h a s, CallMade.of h a' t) :: ds)

namespace Tandem

variable {h : Handle} {s t : Session} {ds : List (CallMade × CallMade)}

theorem matches_of_sameToCallers (run : Tandem h s t ds) (w : s.SameToCallers t) :
    ∀ p ∈ ds, p.1.Matches h p.2 := by
  induction run with
  | done => simp
  | meanwhile sameToCallers _ ih => exact ih sameToCallers
  | calls hb swapped _ ih =>
    obtain ⟨first, left⟩ := CallMade.matches_of_swapped swapped w hb
    exact List.forall_mem_cons.2 ⟨first, ih left⟩

/-- It does not matter which references are given as texts and which as fields. -/
theorem interchangeable (run : Tandem h s s ds) : ∀ p ∈ ds, p.1.Matches h p.2 :=
  run.matches_of_sameToCallers ⟨.refl s.store, rfl⟩

def abreast (h : Handle) :
    List (BuilderCall × BuilderCall) → Session → Session → List (CallMade × CallMade)
  | [], _, _ => []
  | (a, a') :: asks, s, t =>
    (CallMade.of h a s, CallMade.of h a' t) ::
      abreast h asks (CallMade.of h a s).after (CallMade.of h a' t).after

theorem interchanged_run :
    ∃ t : Session, (do
        let _ ← (Plan.of (.text none "from Foo") (.int none 1) [] .null (.text none "")).make
        let _ ← Field.make (.text none "o.x")
        let _ ← Operation.share (.list [.text none "a", .text none "o.x"])
        Operation.share (.list [.text none "a", .shared ⟨2⟩])).result {} = (.ok (.shared ⟨4⟩), t) ∧
      ∀ p ∈ abreast ⟨1⟩
        [(.call "like_any" { places := [.shared ⟨4⟩, .text none "v"] },
          .call "like_any" { places := [.shared ⟨3⟩, .text none "v"] }),
         (.call "equal" { places := [.text none "o.x", .int none 1] },
          .call "equal" { places := [.shared ⟨2⟩, .int none 1] }),
         (.call "like_any" { places := [.text none "o.x", .text none "v"] },
          .call "like_any" { places := [.shared ⟨2⟩, .text none "v"] }),
         (.call "order_by" { places := [.shared ⟨2⟩] },
          .call "order_by" { places := [.text none "o.x"] }),
         (.call "build" { places := [] }, .call "build" { places := [] })] t t,
        p.1.Matches ⟨1⟩ p.2 := by
  let t : Session := ((do
    let _ ← (Plan.of (.text none "from Foo") (.int none 1) [] .null (.text none "")).make
    let _ ← Field.make (.text none "o.x")
    let _ ← Operation.share (.list [.text none "a", .text none "o.x"])
    Operation.share (.list [.text none "a", .shared ⟨2⟩]) : Operation Value).result {}).2
  have field : t.store.Swapped (.text none "o.x") (.shared ⟨2⟩) := .field rfl
  refine ⟨t, rfl, interchangeable (s := t) ?_⟩
  refine .calls rfl (.request rfl ⟨rfl, rfl⟩ fun x y hx hy => ?_) ?_
  · cases hx
    cases hy
    exact .inl (.likeAny _ _ (.lists rfl rfl rfl rfl (.cons (.same _) (.cons field.symm .nil))))
  refine .calls (Option.some_get (by decide +kernel)).symm
    (.request rfl ⟨rfl, rfl⟩ fun x y hx hy => ?_) ?_
  · cases hx
    cases hy
    exact .inl (.compare _ _ (field.after rfl (by decide +kernel)))
  refine .calls (Option.some_get (by decide +kernel)).symm
    (.request rfl ⟨rfl, rfl⟩ fun x y hx hy => ?_) ?_
  · cases hx
    cases hy
    exact .inr (.intro _ _ rfl
      ((field.after rfl (by decide +kernel)).after rfl (by decide +kernel)))
  refine .calls (Option.some_get (by decide +kernel)).symm
    (.request rfl ⟨rfl, rfl⟩ fun x y hx hy => ?_) ?_
  · cases hx
    cases hy
    exact .inl (.orderBy (((field.symm.after rfl (by decide +kernel)).after rfl
      (by decide +kernel)).after rfl (by decide +kernel)))
  refine .calls (Option.some_get (by decide +kernel)).symm
    (.telling { places := [] } (by decide) rfl) (.done _ _)

end Tandem

end Criteria
