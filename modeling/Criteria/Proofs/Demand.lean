import Criteria.Request

/-! What a request asks for. The clause is read off the references to fields alone, and the
arguments off the values and the mode alone. A request that passes every check and whose value is
present demands both, and by `demand?_eq_rule` these requests are the ones whose clause is ruled to
enter.
-/

set_option autoImplicit false

namespace Criteria

namespace Store

def counts (s : Store) (v : Value) : Bool :=
  match s.present v with
  | .ok isPresent => isPresent
  | .error _ => false

def written? (s : Store) (v : Value) : Option String := (s.plain v).toOption

def reference? (s : Store) (v : Value) : Option (Option String) :=
  match s.fieldPath v with
  | .ok path => some (s.written? path)
  | .error _ => none

def path? (s : Store) (v : Value) : Option String := (s.reference? v).join

def references? (s : Store) (fields : Value) : Option (List (Option String)) :=
  if s.isReference fields then none
  else
    match s.candidates fields with
    | .ok items => items.mapM s.reference?
    | .error _ => none

def paths? (s : Store) (fields : Value) : Option (List String) :=
  (s.references? fields).bind fun ps => if ps.isEmpty then none else ps.mapM id

def pattern? (s : Store) (mode value : Value) : Option Value :=
  match MatchMode.ofValue s mode with
  | .ok m => (m.patternOf s value).toOption
  | .error _ => none

end Store

namespace Request

def form? (s : Store) : Request → Option Clause
  | compare op field _ => (s.path? field).map fun p => .compare p op
  | like field _ _ => (s.path? field).map .like
  | likeAny fields _ _ => (s.paths? fields).map .likeAny
  | within field _ => (s.path? field).map .within
  | between field _ _ => (s.path? field).map .between
  | orderBy _ => none

def bindings? (s : Store) (count : Nat) : Request → Option (List Binding)
  | compare _ _ value => if s.counts value then some [.itself value] else none
  | like _ value mode =>
    if s.counts value then (s.pattern? mode value).map fun p => [.itself p] else none
  | likeAny _ value mode =>
    if s.counts value then (s.pattern? mode value).map fun p => List.replicate count (.itself p)
    else none
  | within _ values =>
    if s.counts values && s.listable values then some [binding s values] else none
  | between _ lower upper =>
    if s.counts lower && s.counts upper then some [.itself lower, .itself upper] else none
  | orderBy _ => none

/-- The clause and the arguments of a request that passes all checks with a present value. -/
def demand? (s : Store) (r : Request) : Option (Clause × List Binding) :=
  (r.form? s).bind fun c => (r.bindings? s c.arity).map fun bs => (c, bs)

/-- How many numbers are handed out before a path that cannot be written. -/
def broken? (s : Store) : Request → Option Nat
  | likeAny fields _ _ =>
    (s.references? fields).bind fun ps =>
      if ps.all Option.isSome then none else some (ps.takeWhile Option.isSome).length
  | between field _ _ => if s.reference? field = some none then some 2 else none
  | _ => none

end Request

namespace Store

theorem written?_of_ok {s : Store} {v : Value} {t : String} (h : s.plain v = .ok t) :
    s.written? v = some t := by
  rw [written?, h]; rfl

theorem written?_of_error {s : Store} {v : Value} {f : Fault} (h : s.plain v = .error f) :
    s.written? v = none := by
  rw [written?, h]; rfl

theorem path?_eq (s : Store) (v : Value) :
    s.path? v = match s.fieldPath v with
      | .ok path => s.written? path
      | .error _ => none := by
  rw [path?, reference?]
  cases s.fieldPath v <;> rfl

theorem path?_of_ok {s : Store} {v p : Value} (h : s.fieldPath v = .ok p) :
    s.path? v = s.written? p := by
  rw [path?_eq, h]

theorem path?_of_error {s : Store} {v : Value} {f : Fault} (h : s.fieldPath v = .error f) :
    s.path? v = none := by
  rw [path?_eq, h]

theorem counts_of_ok {s : Store} {v : Value} {b : Bool} (h : s.present v = .ok b) :
    s.counts v = b := by
  rw [counts, h]

theorem counts_of_error {s : Store} {v : Value} {f : Fault} (h : s.present v = .error f) :
    s.counts v = false := by
  rw [counts, h]

end Store

namespace Request

theorem mapM_reference? (s : Store) (items : List Value) :
    items.mapM s.reference? =
      match fieldPaths s items with
      | .ok paths => some (paths.map s.written?)
      | .error _ => none := by
  induction items with
  | nil => rfl
  | cons v vs ih =>
    rw [List.mapM_cons, ih, fieldPaths, Store.reference?]
    cases s.fieldPath v with
    | error f => rfl
    | ok p => cases fieldPaths s vs <;> rfl

/-- The texts of all paths, or the number of those before the first that cannot be written. -/
theorem pathTexts_spec (s : Store) (paths : List Value) :
    match pathTexts s paths with
    | .ok texts => paths.map s.written? = texts.map some
    | .error (n, _) =>
      (paths.map s.written?).all Option.isSome = false ∧
        ((paths.map s.written?).takeWhile Option.isSome).length = n := by
  induction paths with
  | nil => rfl
  | cons p ps ih =>
    rw [pathTexts]
    cases h : s.plain p with
    | error f => simp [Store.written?_of_error h]
    | ok t =>
      have ht := Store.written?_of_ok h
      cases e : pathTexts s ps with
      | error x =>
        obtain ⟨n, f⟩ := x
        rw [e] at ih
        obtain ⟨hm, hl⟩ := ih
        simp only [List.map_cons, ht, List.all_cons, hm, Bool.and_false, List.takeWhile_cons,
          Option.isSome_some, if_true, List.length_cons, hl, and_self]
      | ok ts =>
        rw [e] at ih
        simp [ht, ih]

theorem mapM_id_map_some (ts : List String) : (ts.map some).mapM id = some ts := by
  induction ts with
  | nil => rfl
  | cons t ts ih => simp [ih]

theorem mapM_id_of_not_all {ps : List (Option String)} (h : ps.all Option.isSome = false) :
    ps.mapM id = none := by
  induction ps with
  | nil => simp at h
  | cons p ps ih =>
    cases p with
    | none => rfl
    | some t =>
      have hps : ps.all Option.isSome = false := by simpa using h
      simp [ih hps]

def Agrees (s : Store) (r : Request) : Except Fault Ruling → Prop
  | .ok (.add clause bindings) => r.demand? s = some (clause, bindings)
  | .ok (.tear spent _) => r.demand? s = none ∧ r.broken? s = some spent
  | .ok (.order _) => ∃ clause, r = .orderBy clause
  | _ => r.demand? s = none

theorem demand?_of_form {s : Store} {r : Request} (h : r.form? s = none) : r.demand? s = none := by
  rw [demand?, h]; rfl

theorem demand?_of_bindings {s : Store} {r : Request} (h : ∀ n, r.bindings? s n = none) :
    r.demand? s = none := by
  rw [demand?]
  cases r.form? s with
  | none => rfl
  | some c => simp [h]

theorem demand?_of_both {s : Store} {r : Request} {c : Clause} {bs : List Binding}
    (hc : r.form? s = some c) (hb : r.bindings? s c.arity = some bs) :
    r.demand? s = some (c, bs) := by
  rw [demand?, hc, Option.bind_some, hb]; rfl

theorem agrees_bind {α : Type} {s : Store} {r : Request} {x : Except Fault α}
    {k : α → Except Fault Ruling} (he : ∀ f, x = .error f → r.demand? s = none)
    (hk : ∀ a, x = .ok a → Agrees s r (k a)) : Agrees s r (x >>= k) := by
  cases x with
  | error f => exact he f rfl
  | ok a => exact hk a rfl

theorem agrees_compare (s : Store) (op : Comparison) (field value : Value) :
    Agrees s (.compare op field value) (ruleCompare s op field value) := by
  unfold ruleCompare
  refine agrees_bind ?_ ?_
  · intro f hf
    exact demand?_of_form (by simp [form?, Store.path?_of_error hf])
  intro path hf
  have hp := Store.path?_of_ok hf
  refine agrees_bind ?_ ?_
  · intro f hv
    exact demand?_of_bindings fun n => by simp [bindings?, Store.counts_of_error hv]
  intro isPresent hv
  have hc := Store.counts_of_ok hv
  refine agrees_bind ?_ ?_
  · intro f hw
    exact demand?_of_form (by simp [form?, hp, Store.written?_of_error hw])
  intro p hw
  rw [Store.written?_of_ok hw] at hp
  cases isPresent with
  | false => exact demand?_of_bindings fun n => by simp [bindings?, hc]
  | true => exact demand?_of_both (by simp [form?, hp]) (by simp [bindings?, hc])

theorem agrees_within (s : Store) (field values : Value) :
    Agrees s (.within field values) (ruleWithin s field values) := by
  unfold ruleWithin
  refine agrees_bind ?_ ?_
  · intro f hf
    exact demand?_of_form (by simp [form?, Store.path?_of_error hf])
  intro path hf
  have hp := Store.path?_of_ok hf
  refine agrees_bind ?_ ?_
  · intro f hv
    exact demand?_of_bindings fun n => by simp [bindings?, Store.counts_of_error hv]
  intro isPresent hv
  have hc := Store.counts_of_ok hv
  have hw : ∀ f, s.plain path = .error f → (within field values).demand? s = none := by
    intro f hw
    exact demand?_of_form (by simp [form?, hp, Store.written?_of_error hw])
  cases isPresent with
  | false =>
    refine agrees_bind hw ?_
    intro p _
    exact demand?_of_bindings fun n => by simp [bindings?, hc]
  | true =>
    cases hl : s.listable values with
    | false => exact demand?_of_bindings fun n => by simp [bindings?, hl]
    | true =>
      refine agrees_bind hw ?_
      intro p hw
      rw [Store.written?_of_ok hw] at hp
      exact demand?_of_both (by simp [form?, hp]) (by simp [bindings?, hc, hl])

theorem agrees_like (s : Store) (field value mode : Value) :
    Agrees s (.like field value mode) (ruleLike s field value mode) := by
  unfold ruleLike
  refine agrees_bind ?_ ?_
  · intro f hf
    exact demand?_of_form (by simp [form?, Store.path?_of_error hf])
  intro path hf
  have hp := Store.path?_of_ok hf
  refine agrees_bind ?_ ?_
  · intro f hm
    exact demand?_of_bindings fun n => by simp [bindings?, Store.pattern?, hm]
  intro m hm
  refine agrees_bind ?_ ?_
  · intro f hv
    exact demand?_of_bindings fun n => by simp [bindings?, Store.counts_of_error hv]
  intro isPresent hv
  have hc := Store.counts_of_ok hv
  have hw : ∀ f, s.plain path = .error f → (like field value mode).demand? s = none := by
    intro f hw
    exact demand?_of_form (by simp [form?, hp, Store.written?_of_error hw])
  cases isPresent with
  | false =>
    refine agrees_bind hw ?_
    intro p _
    exact demand?_of_bindings fun n => by simp [bindings?, hc]
  | true =>
    refine agrees_bind ?_ ?_
    · intro f hq
      exact demand?_of_bindings fun n => by
        simp [bindings?, Store.pattern?, hm, hq, Except.toOption]
    intro pattern hq
    refine agrees_bind hw ?_
    intro p hw
    rw [Store.written?_of_ok hw] at hp
    exact demand?_of_both (by simp [form?, hp])
      (by simp [bindings?, hc, Store.pattern?, hm, hq, Except.toOption])

theorem counts_of_bounded (s : Store) (lower upper : Value) :
    (s.counts lower && s.counts upper) =
      match bounded s lower upper with
      | .ok b => b
      | .error _ => false := by
  unfold bounded
  cases hl : s.present lower with
  | error f => simp [Store.counts_of_error hl, bind, Except.bind]
  | ok l =>
    cases l with
    | false => simp [Store.counts_of_ok hl, bind, Except.bind]
    | true =>
      simp only [Store.counts_of_ok hl, bind, Except.bind, Bool.true_and, if_true]
      rfl

theorem agrees_between (s : Store) (field lower upper : Value) :
    Agrees s (.between field lower upper) (ruleBetween s field lower upper) := by
  unfold ruleBetween
  refine agrees_bind ?_ ?_
  · intro f hf
    exact demand?_of_form (by simp [form?, Store.path?_of_error hf])
  intro path hf
  have hp := Store.path?_of_ok hf
  have hc := counts_of_bounded s lower upper
  refine agrees_bind ?_ ?_
  · intro f hb
    rw [hb] at hc
    exact demand?_of_bindings fun n => by simp [bindings?, -Bool.and_eq_true, hc]
  intro isPresent hb
  rw [hb] at hc
  have hw : ∀ f, s.plain path = .error f → (between field lower upper).demand? s = none := by
    intro f hw
    exact demand?_of_form (by simp [form?, hp, Store.written?_of_error hw])
  cases isPresent with
  | false =>
    refine agrees_bind hw ?_
    intro p _
    exact demand?_of_bindings fun n => by simp [bindings?, -Bool.and_eq_true, hc]
  | true =>
    cases hq : s.plain path with
    | error f =>
      refine ⟨hw f hq, ?_⟩
      simp [broken?, Store.reference?, hf, Store.written?_of_error hq]
    | ok p =>
      rw [Store.written?_of_ok hq] at hp
      exact demand?_of_both (by simp [form?, hp])
        (by simp [bindings?, -Bool.and_eq_true, hc])

theorem agrees_likeAny (s : Store) (fields value mode : Value) :
    Agrees s (.likeAny fields value mode) (ruleLikeAny s fields value mode) := by
  unfold ruleLikeAny
  have hn : s.references? fields = none → (likeAny fields value mode).demand? s = none := by
    intro h
    exact demand?_of_form (by simp [form?, Store.paths?, h])
  cases hi : s.isReference fields with
  | true =>
    have hr : s.references? fields = none := by simp [Store.references?, hi]
    refine agrees_bind ?_ ?_
    · intro f _
      exact hn hr
    intro t _
    exact hn hr
  | false =>
    refine agrees_bind ?_ ?_
    · intro f hc
      exact hn (by simp [Store.references?, hi, hc])
    intro items hc
    have hr : s.references? fields = items.mapM s.reference? := by simp [Store.references?, hi, hc]
    rw [mapM_reference?] at hr
    refine agrees_bind ?_ ?_
    · intro f hf
      exact hn (by simp [hr, hf])
    intro paths hf
    simp only [hf] at hr
    cases paths with
    | nil => exact demand?_of_form (by simp [form?, Store.paths?, hr])
    | cons path rest =>
      refine agrees_bind ?_ ?_
      · intro f hm
        exact demand?_of_bindings fun n => by simp [bindings?, Store.pattern?, hm]
      intro m hm
      refine agrees_bind ?_ ?_
      · intro f hv
        exact demand?_of_bindings fun n => by simp [bindings?, Store.counts_of_error hv]
      intro isPresent hv
      have hc := Store.counts_of_ok hv
      cases isPresent with
      | false =>
        have hb : (likeAny fields value mode).demand? s = none :=
          demand?_of_bindings fun n => by simp [bindings?, hc]
        refine agrees_bind ?_ ?_
        · intro f _
          exact hb
        intro ts _
        exact hb
      | true =>
        refine agrees_bind ?_ ?_
        · intro f hq
          exact demand?_of_bindings fun n => by
            simp [bindings?, Store.pattern?, hm, hq, Except.toOption]
        intro pattern hq
        -- All checks are passed; the paths are written one by one, each behind a number.
        have ht := pathTexts_spec s (path :: rest)
        cases hx : pathTexts s (path :: rest) with
        | error x =>
          obtain ⟨n, f⟩ := x
          rw [hx] at ht
          obtain ⟨ha, hl⟩ := ht
          refine ⟨demand?_of_form ?_, ?_⟩
          · simp only [form?, Store.paths?, hr, Option.bind_some, mapM_id_of_not_all ha]
            simp
          · simp only [broken?, hr, Option.bind_some, ha, hl]
            simp
        | ok ts =>
          rw [hx] at ht
          have hp : s.paths? fields = some ts := by
            simp only [Store.paths?, hr, ht, Option.bind_some, mapM_id_map_some]
            cases ts with
            | nil => simp at ht
            | cons t ts => simp
          refine demand?_of_both (by simp [form?, hp]) ?_
          simp [bindings?, hc, Store.pattern?, hm, hq, Except.toOption, Clause.arity,
            List.map_const']

theorem ruleOrderBy_of_ok {s : Store} {c p : Value} (h : s.fieldPath c = .ok p) :
    ruleOrderBy s c = (s.present p).map fun b => .order (if b then some p else none) := by
  unfold Store.fieldPath at h
  unfold ruleOrderBy
  split at h
  · next q hf =>
    cases h
    simp only [hf, Store.fieldPath, bind, Except.bind]
    cases s.present p <;> rfl
  · cases h
  · next m t hf =>
    cases h
    simp only [hf, bind, Except.bind]
    cases s.present (.text m t) <;> rfl
  · cases h

theorem ruleOrderBy_of_error {s : Store} {c : Value} {f : Fault} (h : s.fieldPath c = .error f)
    (hc : c ≠ .null) : ∃ g, ruleOrderBy s c = .error g := by
  unfold ruleOrderBy
  cases hf : s.field? c with
  | some path =>
    simp only [h, bind, Except.bind]
    exact ⟨f, rfl⟩
  | none =>
    unfold Store.fieldPath at h
    cases c with
    | null => exact absurd rfl hc
    | text m t => simp [hf] at h
    | _ => exact ⟨_, rfl⟩

theorem agrees_orderBy (s : Store) (c : Value) : Agrees s (.orderBy c) (ruleOrderBy s c) := by
  have hn : (orderBy c).demand? s = none := rfl
  cases hp : s.fieldPath c with
  | ok p =>
    rw [ruleOrderBy_of_ok hp]
    cases s.present p with
    | error f => exact hn
    | ok b => exact ⟨_, rfl⟩
  | error f =>
    by_cases hc : c = .null
    · subst hc
      exact ⟨_, rfl⟩
    · obtain ⟨g, hg⟩ := ruleOrderBy_of_error hp hc
      rw [hg]
      exact hn

theorem agrees_rule (s : Store) (r : Request) : Agrees s r (r.rule s) := by
  cases r with
  | compare op field value => exact agrees_compare s op field value
  | like field value mode => exact agrees_like s field value mode
  | likeAny fields value mode => exact agrees_likeAny s fields value mode
  | within field values => exact agrees_within s field values
  | between field lower upper => exact agrees_between s field lower upper
  | orderBy clause => exact agrees_orderBy s clause

theorem demand?_eq_rule (s : Store) (r : Request) :
    r.demand? s = match r.rule s with
      | .ok (.add clause bindings) => some (clause, bindings)
      | _ => none := by
  have h := agrees_rule s r
  rcases e : r.rule s with f | _ | _ | _ | _ <;> rw [e] at h
  · exact h
  · exact h
  · exact h
  · exact h.1
  · obtain ⟨c, rfl⟩ := h
    rfl

theorem broken?_of_tear {s : Store} {r : Request} {spent : Nat} {f : Fault}
    (h : r.rule s = .ok (.tear spent f)) : r.broken? s = some spent := by
  have ha := agrees_rule s r
  rw [h] at ha
  exact ha.2

theorem form?_of_broken {s : Store} {r : Request} {numbers : Nat}
    (h : r.broken? s = some numbers) : r.form? s = none := by
  cases r with
  | likeAny fields value mode =>
    simp only [broken?] at h
    cases hr : s.references? fields with
    | none => simp [hr] at h
    | some ps =>
      rw [hr, Option.bind_some] at h
      split at h
      · cases h
      · next ha =>
        have hm := mapM_id_of_not_all (Bool.eq_false_iff.2 ha)
        simp [form?, Store.paths?, hr, hm]
  | between field lower upper =>
    simp only [broken?] at h
    split at h
    · next hr => simp [form?, Store.path?, hr]
    · cases h
  | _ => cases h

theorem orderBy_of_order {s : Store} {r : Request} {o : Option Value}
    (h : r.rule s = .ok (.order o)) : ∃ c, r = .orderBy c := by
  have ha := agrees_rule s r
  rw [h] at ha
  exact ha

theorem paths?_ne_nil {s : Store} {fields : Value} {ps : List String}
    (h : s.paths? fields = some ps) : ps ≠ [] := by
  intro e
  subst e
  unfold Store.paths? at h
  cases hr : s.references? fields with
  | none => simp [hr] at h
  | some rs =>
    cases rs with
    | nil => simp [hr] at h
    | cons r rs =>
      cases r with
      | none => simp [hr] at h
      | some p => cases e : rs.mapM id <;> simp [hr, e] at h

theorem arity_pos_of_form {s : Store} {r : Request} {c : Clause} (h : r.form? s = some c) :
    0 < c.arity := by
  cases r with
  | likeAny fields value mode =>
    obtain ⟨ps, hps, rfl⟩ := Option.map_eq_some_iff.1 h
    exact List.length_pos_iff.2 (paths?_ne_nil hps)
  | orderBy clause => simp [form?] at h
  | _ =>
    obtain ⟨p, _, rfl⟩ := Option.map_eq_some_iff.1 h
    simp [Clause.arity]

theorem length_of_bindings {s : Store} {r : Request} {c : Clause} {bs : List Binding}
    (hc : r.form? s = some c) (hb : r.bindings? s c.arity = some bs) : bs.length = c.arity := by
  cases r with
  | likeAny fields value mode =>
    by_cases hv : s.counts value = true
    · simp only [bindings?, hv, if_true, Option.map_eq_some_iff] at hb
      obtain ⟨p, _, rfl⟩ := hb
      exact List.length_replicate
    · simp [bindings?, hv] at hb
  | like field value mode =>
    obtain ⟨p, _, rfl⟩ := Option.map_eq_some_iff.1 hc
    by_cases hv : s.counts value = true
    · simp only [bindings?, hv, if_true, Option.map_eq_some_iff] at hb
      obtain ⟨q, _, rfl⟩ := hb
      rfl
    · simp [bindings?, hv] at hb
  | orderBy clause => simp [form?] at hc
  | _ =>
    obtain ⟨p, _, rfl⟩ := Option.map_eq_some_iff.1 hc
    simp only [bindings?] at hb
    split at hb
    · cases hb
      rfl
    · cases hb

theorem demand?_eq_some {s : Store} {r : Request} {c : Clause} {bs : List Binding} :
    r.demand? s = some (c, bs) ↔ r.form? s = some c ∧ r.bindings? s c.arity = some bs := by
  constructor
  · intro h
    obtain ⟨d, hd, hm⟩ := Option.bind_eq_some_iff.1 h
    obtain ⟨ds, hds, e⟩ := Option.map_eq_some_iff.1 hm
    cases e
    exact ⟨hd, hds⟩
  · intro h
    exact demand?_of_both h.1 h.2

end Request

end Criteria
