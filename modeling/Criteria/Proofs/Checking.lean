import Criteria.Proofs.SameButBuilders

set_option autoImplicit false

namespace Criteria

/-- What a request is refused for by its own rules. -/
inductive Misuse where
  | noReference (v : Value)
  | singleReference (v : Value)
  | noPass (v : Value)
  | noReferences
  | noMode (v : Value)
  /-- A mode makes patterns of texts alone. -/
  | noText (mode v : Value)
  | noList (v : Value)

namespace Misuse

def kind : Misuse → FaultKind
  | singleReference _ | noReferences => .usage .fieldList
  | noMode _ => .badValue
  | noReference _ | noPass _ | noText .. | noList _ => .typeMismatch

def fault (s : Store) : Misuse → Fault
  | noReference v => .fieldKind (s.shortName v)
  | singleReference v => .singleField ((s.shown v).toOption.getD "")
  | noPass v => .notIterable (s.longName v)
  | noReferences => .noFields
  | noMode v => .notMode ((s.shown v).toOption.getD "")
  | noText mode v =>
    .patternKind (((MatchMode.stoodFor? mode).map MatchMode.label).getD "") (s.shortName v)
  | noList v => .withinKind (s.shortName v)

theorem kind_fault (s : Store) (m : Misuse) : (m.fault s).kind = m.kind := by
  cases m <;> rfl

end Misuse

/-- A check of arguments, and whether they pass it, where that can be told. -/
structure Check where
  misuse : Misuse
  passed? : Option Bool

namespace Check

def failed (c : Check) : Bool := c.passed? == some false

def reference (s : Store) (v : Value) : Check where
  misuse := .noReference v
  passed? :=
    match s.field? v with
    | some none => none
    | _ => some (s.isReference v)

/-- A value selects a mode, or is looked up among the labels in vain. The key of a value that cannot
have one is told by its class, while that of a value that holds itself has no end. -/
def mode (s : Store) (v : Value) : Check where
  misuse := .noMode v
  passed? :=
    match MatchMode.stoodFor? v, s.fingerprint v with
    | some _, _ => some true
    | none, .error f => if f.kind = .typeMismatch then some false else none
    | none, .ok _ => some false

def isText : Value → Bool
  | .text .. => true
  | _ => false

def pattern (s : Store) (m v : Value) : Check where
  misuse := .noText m v
  passed? := (s.present v).toOption.map fun isPresent => !isPresent || isText v

def list (s : Store) (v : Value) : Check where
  misuse := .noList v
  passed? := (s.present v).toOption.map fun isPresent => !isPresent || s.listable v

end Check

namespace Request

def checks (s : Store) : Request → List Check
  | compare _ field _ | between field _ _ => [.reference s field]
  | like field value mode => [.reference s field, .mode s mode, .pattern s mode value]
  | likeAny fields value mode =>
    let items := (s.elements? fields).getD []
    [⟨.singleReference fields, some (!s.isReference fields)⟩,
      ⟨.noPass fields, some (s.elements? fields).isSome⟩] ++ items.map (Check.reference s) ++
      [⟨.noReferences, some !items.isEmpty⟩, .mode s mode, .pattern s mode value]
  | within field values => [.reference s field, .list s values]
  | orderBy _ => []

def misuse? (s : Store) (r : Request) : Option Misuse :=
  ((r.checks s).find? Check.failed).map Check.misuse

def counts? (s : Store) : Request → Option Bool
  | compare _ _ value | like _ value _ | likeAny _ value _ | within _ value =>
    (s.present value).toOption
  | between _ lower upper =>
    (s.present lower).toOption.bind fun isPresent =>
      if isPresent then (s.present upper).toOption else some false
  | orderBy _ => some false

def Named (s : Store) : Request → Prop
  | likeAny fields _ _ =>
    ∀ v ∈ (s.elements? fields).getD [], ∃ m t, s.fieldPath v = .ok (.text m t)
  | r => (r.form? s).isSome

end Request

namespace Check

/-- What a ruling `x` is when the checks are made one after the other: `P` holds of it when all are
passed. A check that cannot be made refuses in a way that no later check does. -/
def Sifted (s : Store) (x : Except Fault Ruling) (P : Except Fault Ruling → Prop) :
    List Check → Prop
  | [] => P x
  | c :: cs =>
    match c.passed? with
    | some true => Sifted s x P cs
    | some false => x = .error (c.misuse.fault s)
    | none => ∃ f, x = .error f ∧ ∀ d ∈ cs, f.kind ≠ d.misuse.kind

def Told (cs : List Check) : Prop := ∀ c ∈ cs.takeWhile fun c => !c.failed, c.passed?.isSome

theorem Sifted.of_cons {s : Store} {x : Except Fault Ruling} {P : Except Fault Ruling → Prop}
    {c : Check} {cs : List Check} (passed : c.passed? = some true → Sifted s x P cs)
    (failed : c.passed? = some false → x = .error (c.misuse.fault s))
    (untold : c.passed? = none → ∃ f, x = .error f ∧ ∀ d ∈ cs, f.kind ≠ d.misuse.kind) :
    Sifted s x P (c :: cs) := by
  unfold Sifted
  split
  · next h => exact passed h
  · next h => exact failed h
  · next h => exact untold h

theorem Sifted.imp {s : Store} {x : Except Fault Ruling} {P Q : Except Fault Ruling → Prop}
    {cs : List Check} (h : Sifted s x P cs) (hq : P x → Q x) : Sifted s x Q cs := by
  induction cs with
  | nil => exact hq h
  | cons c cs ih =>
    unfold Sifted at h ⊢
    split at h
    · next hc => simpa only [hc] using ih h
    · next hc => simpa only [hc] using h
    · next hc => simpa only [hc] using h

theorem Sifted.cases {s : Store} {x : Except Fault Ruling} {P : Except Fault Ruling → Prop}
    {cs : List Check} (h : Sifted s x P cs) :
    match cs.find? failed with
    | some c => (Told cs ∧ x = .error (c.misuse.fault s)) ∨
        (¬ Told cs ∧ ∃ f, x = .error f ∧ f.kind ≠ c.misuse.kind)
    | none => (Told cs ∧ P x) ∨ (¬ Told cs ∧ ∃ f, x = .error f) := by
  induction cs with
  | nil => exact .inl ⟨by simp [Told], h⟩
  | cons c cs ih =>
    unfold Sifted at h
    cases hc : c.passed? with
    | none =>
      simp only [hc] at h
      obtain ⟨f, hx, differs⟩ := h
      have notFailed : c.failed = false := by simp [failed, hc]
      have untold : ¬ Told (c :: cs) := fun told => by
        have := told c (by simp [notFailed])
        simp [hc] at this
      rw [List.find?_cons_of_neg (by simp [notFailed])]
      cases hf : cs.find? failed with
      | none => exact .inr ⟨untold, f, hx⟩
      | some d => exact .inr ⟨untold, f, hx, differs d (List.mem_of_find?_eq_some hf)⟩
    | some passed =>
      simp only [hc] at h
      cases passed with
      | false =>
        have hasFailed : c.failed = true := by simp [failed, hc]
        rw [List.find?_cons_of_pos hasFailed]
        exact .inl ⟨by simp [Told, hasFailed], h⟩
      | true =>
        have notFailed : c.failed = false := by simp [failed, hc]
        have told : Told (c :: cs) ↔ Told cs := by simp [Told, notFailed, hc]
        rw [List.find?_cons_of_neg (by simp [notFailed]), told]
        exact ih h

end Check

namespace Request

def absent : Request → Value
  | compare _ _ value | like _ value _ | likeAny _ value _ | within _ value => value
  | between _ lower upper => .tuple none [lower, upper]
  | orderBy _ => .null

/-- How a request is ruled that passes all checks. -/
def Ruled (s : Store) (r : Request) (x : Except Fault Ruling) : Prop :=
  match r.counts? s with
  | none => ∃ f, x = .error f
  | some false =>
    (r.Named s ∧ ∃ path operation, x = .ok (.skip path operation r.absent)) ∨
      (¬ r.Named s ∧ ∃ f, x = .error f)
  | some true =>
    match r.form? s with
    | some c => ∃ bs, x = .ok (.add c bs)
    | none => (∃ f, x = .error f) ∨ ∃ n f, x = .ok (.tear n f)

end Request

namespace MatchMode

theorem ofValue_of_none (s : Store) {v : Value} (h : stoodFor? v = none) :
    ofValue s v = match s.fingerprint v with
      | .error f => if f.kind = .typeMismatch then ofValue.refused s v else .error f
      | .ok _ => ofValue.refused s v := by
  unfold ofValue
  split
  · cases h
  · split
    · next e => simp only [e]
    · next w _ e =>
      have unlabelled : ofLabel? w = none := h
      simp only [e, unlabelled]
    · next e => simp only [e]

end MatchMode

namespace Check

variable {s : Store} {P : Except Fault Ruling → Prop}

theorem fieldPath_cases (s : Store) (v : Value) :
    match (reference s v).passed? with
    | some true => ∃ p, s.fieldPath v = .ok p
    | some false => s.fieldPath v = .error ((Misuse.noReference v).fault s)
    | none => s.fieldPath v = .error (.noAttribute "Field" "_path") := by
  unfold reference Store.fieldPath
  cases hf : s.field? v with
  | some p =>
    have hr : s.isReference v = true := by
      unfold Store.isReference
      split <;> simp [hf]
    cases p with
    | none => rfl
    | some p => simp [hr]
  | none =>
    cases v with
    | text m t => exact ⟨_, rfl⟩
    | _ =>
      simp only [Store.isReference, hf]
      rfl

theorem sifted_reference {v : Value} {cs : List Check} {k : Value → Except Fault Ruling}
    (kinds : ∀ d ∈ cs, d.misuse.kind ≠ .member)
    (rest : ∀ p, s.fieldPath v = .ok p → Sifted s (k p) P cs) :
    Sifted s (s.fieldPath v >>= k) P (.reference s v :: cs) := by
  have path := fieldPath_cases s v
  refine .of_cons ?_ ?_ ?_ <;> intro told <;> rw [told] at path
  · obtain ⟨p, hp⟩ := path
    rw [hp]
    exact rest p hp
  · rw [path]
    rfl
  · rw [path]
    exact ⟨_, rfl, fun d hd e => kinds d hd e.symm⟩

theorem sifted_references {vs : List Value} {cs : List Check}
    {k : List Value → Except Fault Ruling} (kinds : ∀ d ∈ cs, d.misuse.kind ≠ .member)
    (rest : ∀ ps, Request.fieldPaths s vs = .ok ps → Sifted s (k ps) P cs) :
    Sifted s (Request.fieldPaths s vs >>= k) P (vs.map (reference s) ++ cs) := by
  induction vs generalizing k with
  | nil => exact rest [] rfl
  | cons v vs ih =>
    have split_eq : Request.fieldPaths s (v :: vs) >>= k =
        s.fieldPath v >>= fun p => Request.fieldPaths s vs >>= fun ps => k (p :: ps) := by
      rw [Request.fieldPaths]
      cases s.fieldPath v with
      | error f => rfl
      | ok p => cases Request.fieldPaths s vs <;> rfl
    rw [split_eq]
    refine sifted_reference ?_ fun p hp => ih fun ps hps => rest _ ?_
    · intro d hd
      rcases List.mem_append.1 hd with hd | hd
      · obtain ⟨w, -, rfl⟩ := List.mem_map.1 hd
        simp [reference, Misuse.kind]
      · exact kinds d hd
    · simp [Request.fieldPaths, hp, hps, bind, Except.bind]

theorem sifted_mode {v : Value} {cs : List Check} {k : MatchMode → Except Fault Ruling}
    (shown : ∃ w, s.shown v = .ok w) (kinds : ∀ d ∈ cs, d.misuse.kind = .typeMismatch)
    (rest : ∀ m, MatchMode.stoodFor? v = some m → Sifted s (k m) P cs) :
    Sifted s (MatchMode.ofValue s v >>= k) P (.mode s v :: cs) := by
  obtain ⟨w, hw⟩ := shown
  have refused : MatchMode.ofValue.refused s v = .error ((Misuse.noMode v).fault s) := by
    simp [MatchMode.ofValue.refused, hw, Misuse.fault, Except.toOption, bind, Except.bind]
  cases hm : MatchMode.stoodFor? v with
  | some m =>
    rw [MatchMode.ofValue_of_stoodFor s hm]
    refine .of_cons (fun _ => rest m hm) ?_ ?_ <;> simp [mode, hm]
  | none =>
    rw [MatchMode.ofValue_of_none s hm, refused]
    cases hf : s.fingerprint v with
    | ok p => exact .of_cons (by simp [mode, hm, hf]) (fun _ => rfl) (by simp [mode, hm, hf])
    | error f =>
      by_cases hk : f.kind = .typeMismatch
      · simp only [hk, if_true]
        exact .of_cons (by simp [mode, hm, hf, hk]) (fun _ => rfl) (by simp [mode, hm, hf, hk])
      · simp only [hk, if_false]
        refine .of_cons (by simp [mode, hm, hf, hk]) (by simp [mode, hm, hf, hk]) fun _ => ?_
        exact ⟨f, rfl, fun d hd e => hk (e.trans (kinds d hd))⟩

theorem sifted_pattern {mode value : Value} {m : MatchMode} {k : Value → Except Fault Ruling}
    {skip : Except Fault Ruling} (hm : MatchMode.stoodFor? mode = some m)
    (skipped : s.present value = .ok false → P skip)
    (entered : ∀ p, s.present value = .ok true → m.patternOf s value = .ok p → P (k p)) :
    Sifted s (do if ← s.present value then (do k (← m.patternOf s value)) else skip) P
      [.pattern s mode value] := by
  cases hv : s.present value with
  | error f =>
    have untold : (pattern s mode value).passed? = none := by rw [pattern, hv]; rfl
    exact .of_cons (by simp [untold]) (by simp [untold]) fun _ => ⟨f, rfl, by simp⟩
  | ok isPresent =>
    cases isPresent with
    | false =>
      have passed : (pattern s mode value).passed? = some true := by rw [pattern, hv]; rfl
      exact .of_cons (fun _ => skipped hv) (by simp [passed]) (by simp [passed])
    | true =>
      have told : (pattern s mode value).passed? = some (isText value) := by
        rw [pattern, hv]
        rfl
      cases value with
      | text k w =>
        exact .of_cons (fun _ => entered _ hv rfl) (by simp [told, isText]) (by simp [told])
      | _ =>
        refine .of_cons (by simp [told, isText]) (fun _ => ?_) (by simp [told])
        change _ = Except.error ((Misuse.noText mode _).fault s)
        simp only [Misuse.fault, hm]
        rfl

end Check

namespace Request

open Check

variable {s : Store}

theorem Ruled.of_untold {r : Request} (f : Fault) (h : r.counts? s = none) :
    r.Ruled s (.error f) := by
  rw [Ruled, h]
  exact ⟨f, rfl⟩

theorem Ruled.of_skip {r : Request} {path : Value} (operation : String)
    (h : r.counts? s = some false) (named : r.Named s ↔ (s.written? path).isSome) :
    r.Ruled s (s.plain path >>= fun p => .ok (.skip p operation r.absent)) := by
  rw [Ruled, h]
  cases hw : s.plain path with
  | error f =>
    rw [Store.written?_of_error hw] at named
    exact .inr ⟨by simp [named], f, rfl⟩
  | ok w =>
    rw [Store.written?_of_ok hw] at named
    exact .inl ⟨by simp [named], w, operation, rfl⟩

theorem Ruled.of_add {r : Request} {path : Value} {clause : String → Clause} (bs : List Binding)
    (h : r.counts? s = some true) (formed : r.form? s = (s.written? path).map clause) :
    r.Ruled s (s.plain path >>= fun p => .ok (.add (clause p) bs)) := by
  rw [Ruled, h, formed]
  cases hw : s.plain path with
  | error f =>
    rw [Store.written?_of_error hw]
    exact .inl ⟨f, rfl⟩
  | ok w =>
    rw [Store.written?_of_ok hw]
    exact ⟨bs, rfl⟩

theorem sifted_compare (s : Store) (op : Comparison) (field value : Value) :
    Sifted s ((compare op field value).rule s) ((compare op field value).Ruled s)
      ((compare op field value).checks s) := by
  refine sifted_reference (by simp) fun path hf => ?_
  have formed : (compare op field value).form? s = (s.written? path).map fun p => .compare p op :=
    congrArg (Option.map _) (Store.path?_of_ok hf)
  cases hv : s.present value with
  | error f => exact .of_untold f (by simp [counts?, hv, Except.toOption])
  | ok isPresent =>
    have told : (compare op field value).counts? s = some isPresent := by
      simp [counts?, hv, Except.toOption]
    cases isPresent with
    | true => exact .of_add _ told formed
    | false => exact .of_skip op.symbol told (by simp [Named, formed])

theorem sifted_like {field value mode : Value} (shown : ∃ w, s.shown mode = .ok w) :
    Sifted s ((like field value mode).rule s) ((like field value mode).Ruled s)
      ((like field value mode).checks s) := by
  refine sifted_reference (by simp [Misuse.kind, Check.mode, Check.pattern]) fun path hf => ?_
  have formed : (like field value mode).form? s = (s.written? path).map .like :=
    congrArg (Option.map _) (Store.path?_of_ok hf)
  refine sifted_mode shown (by simp [Misuse.kind, Check.pattern]) fun m hm => ?_
  refine sifted_pattern hm (fun hv => ?_) fun p hv _ => ?_
  · have told : (like field value mode).counts? s = some false := by
      simp [counts?, hv, Except.toOption]
    exact .of_skip _ told (by simp [Named, formed])
  · have told : (like field value mode).counts? s = some true := by
      simp [counts?, hv, Except.toOption]
    exact .of_add _ told formed

theorem sifted_within (s : Store) (field values : Value) :
    Sifted s ((within field values).rule s) ((within field values).Ruled s)
      ((within field values).checks s) := by
  refine sifted_reference (by simp [Misuse.kind, Check.list]) fun path hf => ?_
  have formed : (within field values).form? s = (s.written? path).map .within :=
    congrArg (Option.map _) (Store.path?_of_ok hf)
  cases hv : s.present values with
  | error f =>
    have untold : (Check.list s values).passed? = none := by rw [Check.list, hv]; rfl
    exact .of_cons (by simp [untold]) (by simp [untold]) fun _ => ⟨f, rfl, by simp⟩
  | ok isPresent =>
    have told : (within field values).counts? s = some isPresent := by
      simp [counts?, hv, Except.toOption]
    cases isPresent with
    | false =>
      have passed : (Check.list s values).passed? = some true := by rw [Check.list, hv]; rfl
      refine .of_cons (fun _ => ?_) (by simp [passed]) (by simp [passed])
      exact .of_skip _ told (by simp [Named, formed])
    | true =>
      have listed : (Check.list s values).passed? = some (s.listable values) := by
        rw [Check.list, hv]
        rfl
      cases hl : s.listable values with
      | false => exact .of_cons (by simp [listed, hl]) (fun _ => rfl) (by simp [listed])
      | true =>
        refine .of_cons (fun _ => ?_) (by simp [listed, hl]) (by simp [listed])
        exact .of_add _ told formed

theorem sifted_between (s : Store) (field lower upper : Value) :
    Sifted s ((between field lower upper).rule s) ((between field lower upper).Ruled s)
      ((between field lower upper).checks s) := by
  refine sifted_reference (by simp) fun path hf => ?_
  have formed : (between field lower upper).form? s = (s.written? path).map .between :=
    congrArg (Option.map _) (Store.path?_of_ok hf)
  have counted : (between field lower upper).counts? s = (bounded s lower upper).toOption := by
    rw [counts?, bounded]
    rcases s.present lower with f | _ | _ <;> rfl
  cases hb : bounded s lower upper with
  | error f => exact .of_untold f (by rw [counted, hb]; rfl)
  | ok isPresent =>
    have told : (between field lower upper).counts? s = some isPresent := by rw [counted, hb]; rfl
    cases isPresent with
    | false => exact .of_skip _ told (by simp [Named, formed])
    | true =>
      cases hw : s.plain path with
      | error f =>
        change Ruled s _ (.ok (.tear 2 f))
        rw [Ruled, told, formed, Store.written?_of_error hw]
        exact .inr ⟨2, f, rfl⟩
      | ok w =>
        change Ruled s _ (.ok (.add (.between w) [.itself lower, .itself upper]))
        rw [Ruled, told, formed, Store.written?_of_ok hw]
        exact ⟨_, rfl⟩

theorem eq_cons_of_fieldPaths {v : Value} {vs ps : List Value}
    (h : fieldPaths s (v :: vs) = .ok ps) :
    ∃ p qs, s.fieldPath v = .ok p ∧ fieldPaths s vs = .ok qs ∧ ps = p :: qs := by
  unfold fieldPaths at h
  cases hv : s.fieldPath v with
  | error f => simp [hv, bind, Except.bind] at h
  | ok p =>
    cases hvs : fieldPaths s vs with
    | error f => simp [hv, hvs, bind, Except.bind] at h
    | ok qs =>
      simp only [hv, hvs, bind, Except.bind] at h
      cases h
      exact ⟨p, qs, rfl, rfl, rfl⟩

theorem joined_iff {vs ps : List Value} (n : Nat) (h : fieldPaths s vs = .ok ps) :
    (∃ ts, joinTexts s n ps = .ok ts) ↔ ∀ v ∈ vs, ∃ m t, s.fieldPath v = .ok (.text m t) := by
  induction vs generalizing ps n with
  | nil =>
    cases h
    simp [joinTexts]
  | cons v vs ih =>
    obtain ⟨p, qs, hv, hvs, rfl⟩ := eq_cons_of_fieldPaths h
    rw [List.forall_mem_cons, hv, ← ih (n + 1) hvs]
    cases p with
    | text m w => cases hj : joinTexts s (n + 1) qs <;> simp [joinTexts, hj, bind, Except.bind]
    | _ => simp [joinTexts]

theorem isEmpty_fieldPaths {vs ps : List Value} (h : fieldPaths s vs = .ok ps) :
    ps.isEmpty = vs.isEmpty := by
  cases vs with
  | nil =>
    cases h
    rfl
  | cons v vs =>
    obtain ⟨p, qs, -, -, rfl⟩ := eq_cons_of_fieldPaths h
    rfl

theorem fieldPaths_range (s : Store) (first stop step : Int) :
    fieldPaths s (if rangeSize first stop step = 0 then [] else [.int none first]) =
      fieldPaths s ((rangeItems first stop step).map (.int none)) := by
  unfold rangeItems
  cases hn : rangeSize first stop step with
  | zero => rfl
  | succ n =>
    rw [List.range_succ_eq_map]
    simp [fieldPaths, Store.fieldPath, Store.field?, Store.cellOf?, rangeAt, bind, Except.bind]

theorem fieldPaths_candidates (s : Store) (v : Value) :
    match s.elements? v with
    | none => s.candidates v = .error ((Misuse.noPass v).fault s)
    | some items => ∃ vs, s.candidates v = .ok vs ∧ fieldPaths s vs = fieldPaths s items := by
  cases v with
  | range m first stop step => exact ⟨_, rfl, fieldPaths_range s first stop step⟩
  | _ =>
    cases he : s.elements? _ with
    | none => simp [Store.candidates, Store.elements, he, Misuse.fault]
    | some items => exact ⟨items, by simp [Store.candidates, Store.elements, he], rfl⟩

theorem sifted_likeAny {fields value mode : Value} (shownFields : ∃ w, s.shown fields = .ok w)
    (shownMode : ∃ w, s.shown mode = .ok w) :
    Sifted s ((likeAny fields value mode).rule s)
      ((likeAny fields value mode).Ruled s) ((likeAny fields value mode).checks s) := by
  suffices sifted : Sifted s ((likeAny fields value mode).rule s)
      (fun x => Agrees s (likeAny fields value mode) x → (likeAny fields value mode).Ruled s x)
      ((likeAny fields value mode).checks s) from
    sifted.imp fun h => h (agrees_rule s _)
  have pass := fieldPaths_candidates s fields
  change Sifted s (ruleLikeAny s fields value mode) _ _
  unfold ruleLikeAny
  cases hr : s.isReference fields with
  | true =>
    obtain ⟨w, hw⟩ := shownFields
    refine .of_cons (by simp [hr]) (fun _ => ?_) (by simp [hr])
    simp [hw, Misuse.fault, Except.toOption, bind, Except.bind]
  | false =>
    refine .of_cons (fun _ => ?_) (by simp [hr]) (by simp [hr])
    cases he : s.elements? fields with
    | none =>
      rw [he] at pass
      refine .of_cons (by simp) (fun _ => ?_) (by simp)
      simp [pass, bind, Except.bind]
    | some items =>
      rw [he] at pass
      obtain ⟨vs, hc, paths_eq⟩ := pass
      refine .of_cons (fun _ => ?_) (by simp) (by simp)
      change Sifted s (s.candidates fields >>= _) _ (items.map (reference s) ++ _)
      rw [hc]
      change Sifted s (fieldPaths s vs >>= _) _ _
      rw [paths_eq]
      refine sifted_references (by simp [Misuse.kind, Check.mode, Check.pattern]) fun ps hps => ?_
      have named : (likeAny fields value mode).Named s ↔ ∃ ts, joinTexts s 0 ps = .ok ts := by
        rw [joined_iff 0 hps, Named, he, Option.getD_some]
      rw [Option.getD_some, ← isEmpty_fieldPaths hps]
      cases hn : ps.isEmpty with
      | true => exact .of_cons (by simp) (fun _ => rfl) (by simp)
      | false =>
        refine .of_cons (fun _ => ?_) (by simp) (by simp)
        refine sifted_mode shownMode (by simp [Misuse.kind, Check.pattern]) fun m hm => ?_
        refine sifted_pattern hm (fun hv _ => ?_) fun p hv _ agrees => ?_
        · rw [Ruled, counts?, hv]
          cases hj : joinTexts s 0 ps with
          | error f => exact .inr ⟨by simp [named, hj], f, rfl⟩
          | ok texts => exact .inl ⟨named.2 ⟨texts, hj⟩, _, _, rfl⟩
        · rw [Ruled, counts?, hv]
          cases ht : pathTexts s ps with
          | error e =>
            obtain ⟨n, f⟩ := e
            rw [ht] at agrees
            have unformed := form?_of_broken agrees.2
            rw [unformed]
            exact .inr ⟨n, f, rfl⟩
          | ok texts =>
            rw [ht] at agrees
            rw [(demand?_eq_some.1 agrees).1]
            exact ⟨_, rfl⟩

theorem sifted_rule {r : Request} (unordered : ∀ c, r ≠ .orderBy c)
    (shown : ∀ v ∈ r.operands, ∃ w, s.shown v = .ok w) :
    Sifted s (r.rule s) (r.Ruled s) (r.checks s) := by
  cases r with
  | compare op field value => exact sifted_compare s op field value
  | like field value mode => exact sifted_like (shown mode (by simp [operands]))
  | likeAny fields value mode =>
    exact sifted_likeAny (shown fields (by simp [operands])) (shown mode (by simp [operands]))
  | within field values => exact sifted_within s field values
  | between field lower upper => exact sifted_between s field lower upper
  | orderBy c => exact absurd rfl (unordered c)

end Request

end Criteria
