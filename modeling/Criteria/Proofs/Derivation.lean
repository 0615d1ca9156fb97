import Criteria.Proofs.Exposure
import Criteria.Proofs.Interchange

set_option autoImplicit false

namespace Criteria

namespace Store

variable {s : Store} {v x : Value} {p : String}

def SamePath (s : Store) (v x : Value) : Prop :=
  v = x ∨ ∃ p, s.pathOf? v = some p ∧ s.pathOf? x = some p

theorem pathOf?_eq_some : s.pathOf? v = some p ↔
    ∃ h k, v = .shared h ∧ s.cell? h = some (.field (some (.text k p))) := by
  constructor
  · intro hp
    cases v with
    | shared h =>
      simp only [pathOf?, field?, cellOf?] at hp
      split at hp
      · next path hc =>
        cases path with
        | none => cases hp
        | some w =>
          cases w with
          | text k q =>
            cases hp
            exact ⟨h, k, rfl, hc⟩
          | _ => cases hp
      · cases hp
    | _ => cases hp
  · rintro ⟨h, k, rfl, hc⟩
    simp [pathOf?, field?, cellOf?, hc, Value.text?]

theorem SamePath.halfway (h : s.SamePath v x) : ∃ w, s.Swapped v w ∧ s.Swapped w x := by
  rcases h with rfl | ⟨p, hv, hx⟩
  · exact ⟨v, .same v, .same v⟩
  · obtain ⟨_, _, rfl, hc⟩ := pathOf?_eq_some.1 hv
    obtain ⟨_, _, rfl, hd⟩ := pathOf?_eq_some.1 hx
    exact ⟨.text none p, .text hc, .field hd⟩

theorem SamePath.halfway_all {vs xs : List Value} (h : List.Forall₂ s.SamePath vs xs) :
    ∃ ws, List.Forall₂ s.Swapped vs ws ∧ List.Forall₂ s.Swapped ws xs := by
  induction h with
  | nil => exact ⟨[], .nil, .nil⟩
  | cons first _ ih =>
    obtain ⟨w, hv, hx⟩ := first.halfway
    obtain ⟨ws, hvs, hxs⟩ := ih
    exact ⟨w :: ws, .cons hv hvs, .cons hx hxs⟩

end Store

namespace Request

/-- The same request but for fields that are given in the place of others: as the reference, among
several references, or alone in place of several. -/
inductive Retold (R : Value → Value → Prop) (s : Store) : Request → Request → Prop where
  | same (r : Request) : Retold R s r r
  | compare (op : Comparison) {f g : Value} (value : Value) (h : R f g) :
      Retold R s (.compare op f value) (.compare op g value)
  | like {f g : Value} (value mode : Value) (h : R f g) :
      Retold R s (.like f value mode) (.like g value mode)
  | several {f g : Value} {items others : List Value} (value mode : Value)
      (hf : s.isReference f = false) (hg : s.isReference g = false)
      (given : s.candidates f = .ok items) (given' : s.candidates g = .ok others)
      (h : List.Forall₂ R items others) :
      Retold R s (.likeAny f value mode) (.likeAny g value mode)
  | alone {f g : Value} (value mode : Value) (h : R f g) :
      Retold R s (.likeAny f value mode) (.likeAny g value mode)
  | within {f g : Value} (values : Value) (h : R f g) :
      Retold R s (.within f values) (.within g values)
  | between {f g : Value} (lower upper : Value) (h : R f g) :
      Retold R s (.between f lower upper) (.between g lower upper)
  | orderBy {c d : Value} (h : R c d) : Retold R s (.orderBy c) (.orderBy d)

end Request

/-- What callers learn of a call of a builder: the answer, the records, and what the builder shows
then. -/
def Session.outcome {α : Type} (h : Handle) (x : Except Fault α × Session) :
    Except Fault α × List Record × Option (Except Fault Value × List Value × Nat × Nat) :=
  (x.1, x.2.records, x.2.view h)

namespace Builder

open Session

variable {h : Handle} {b : Builder} {r q : Request} {s : Session} {R : Value → Value → Prop}

theorem outcome_swapped (hb : s.store.builder? h = some b)
    (swapped : r.Swapped s.store s.store q) :
    outcome h ((request h r).result s) = outcome h ((request h q).result s) := by
  obtain ⟨answer, left⟩ := agree_request swapped ⟨.refl s.store, rfl⟩ hb
  simp only [outcome, answer, left.records, left.view_eq h]

theorem outcome_halfway {f g : Value} {k : Value → Request} (hb : s.store.builder? h = some b)
    (swap : ∀ {v x}, s.store.Swapped v x → (k v).Swapped s.store s.store (k x))
    (same : s.store.SamePath f g) :
    outcome h ((request h (k f)).result s) = outcome h ((request h (k g)).result s) := by
  obtain ⟨w, first, second⟩ := same.halfway
  exact (outcome_swapped hb (swap first)).trans (outcome_swapped hb (swap second))

theorem outcome_alone {f g value mode : Value} (hb : s.store.builder? h = some b)
    (same : s.store.SamePath f g) :
    outcome h ((request h (.likeAny f value mode)).result s) =
      outcome h ((request h (.likeAny g value mode)).result s) := by
  rcases same with rfl | ⟨p, hf, hg⟩
  · rfl
  · have refused (v : Value) (hv : s.store.pathOf? v = some p) :
        (request h (.likeAny v value mode)).result s =
          (.error (.singleField ("Field(path=" ++ Text.quoted p ++ ")")), s) := by
      obtain ⟨k, m, rfl, hc⟩ := Store.pathOf?_eq_some.1 hv
      have alone : s.store.isReference (.shared k) = true := by
        simp [Store.isReference, Store.field?, Store.cellOf?, hc]
      have ruled : (Request.likeAny (.shared k) value mode).rule s.store =
          .error (.singleField ("Field(path=" ++ Text.quoted p ++ ")")) := by
        simp only [Request.rule, Request.ruleLikeAny, alone, if_true, Field.shown_of_path hc]
        rfl
      rw [result_request_of_error hb ruled]
      simp only [Request.passed, alone, if_true]
    rw [refused f hf, refused g hg]

theorem outcome_retold (hb : s.store.builder? h = some b)
    (paths : ∀ v x, R v x → s.store.SamePath v x) (retold : r.Retold R s.store q) :
    outcome h ((request h r).result s) = outcome h ((request h q).result s) := by
  cases retold with
  | same => rfl
  | compare op value e =>
    exact outcome_halfway (k := (.compare op · value)) hb (.compare op value) (paths _ _ e)
  | like value mode e =>
    exact outcome_halfway (k := (.like · value mode)) hb (.like value mode) (paths _ _ e)
  | within values e =>
    exact outcome_halfway (k := (.within · values)) hb (.within values) (paths _ _ e)
  | between lower upper e =>
    exact outcome_halfway (k := (.between · lower upper)) hb (.between lower upper) (paths _ _ e)
  | orderBy e => exact outcome_halfway (k := .orderBy) hb .orderBy (paths _ _ e)
  | alone value mode e => exact outcome_alone hb (paths _ _ e)
  | several value mode hf hg given given' e =>
    obtain ⟨ws, first, second⟩ := Store.SamePath.halfway_all (e.imp paths)
    have row : s.store.candidates (.tuple none ws) = .ok ws := rfl
    exact (outcome_swapped hb (.likeAny value mode (.lists hf rfl given row first))).trans
      (outcome_swapped hb (.likeAny value mode (.lists rfl hg row given' second)))

theorem outcome_asked {a a' : BuilderCall} (hb : s.store.builder? h = some b)
    (asked : a.request? = some r) (asked' : a'.request? = some q)
    (paths : ∀ v x, R v x → s.store.SamePath v x) (retold : r.Retold R s.store q) :
    outcome h ((a.perform h).result s) = outcome h ((a'.perform h).result s) := by
  have same := outcome_retold hb paths retold
  simp only [outcome, Prod.mk.injEq] at same
  obtain ⟨answer, records, view⟩ := same
  rw [BuilderCall.result_of_request asked hb, BuilderCall.result_of_request asked' hb]
  simp only [outcome, answer, records, view]

end Builder

/-- What was made before for the class under the qualifier has a field for each of its names, at the
path of the name. -/
def Session.Kept (s : Session) (c : ClassRef) (a : String) : Prop :=
  ∀ m ∈ s.made, FieldSet.MadeFor m c a → ∃ ns : List String, s.store.namespace? m.fields =
    some (ns.map fun n => (n, some (pathUnder a n)))

theorem Declaration.exists_offered {d : Declaration} {a : String} {es : List (String × String)}
    (short : a.length ≤ lengthLimit) (offered : d.offered? a = some es) :
    ∃ ns : List String, es.map (Prod.map id some) = ns.map fun n => (n, some (pathUnder a n)) := by
  obtain ⟨vs, declared, rest⟩ := Option.bind_eq_some_iff.1 offered
  obtain ⟨lead, -, rest⟩ := Option.bind_eq_some_iff.1 rest
  obtain ⟨names, texts, -⟩ := Option.bind_eq_some_iff.1 rest
  have declared : d.names = .ok vs := by
    cases e : d.names <;> rw [e] at declared <;> cases declared
    rfl
  have whole := FieldSet.offered?_eq short declared texts
  rw [offered] at whole
  split at whole
  · cases whole
  · cases whole
    exact ⟨publicNames names, by simp [entriesBy]⟩

theorem Session.Current.kept {s : Session} {c : ClassRef} {a : String}
    (short : a.length ≤ lengthLimit) (current : s.Current c a) : s.Kept c a := by
  intro m hm madeFor
  obtain ⟨es, offered, held⟩ := current m hm madeFor
  obtain ⟨ns, same⟩ := Declaration.exists_offered short offered
  exact ⟨ns, same ▸ held⟩

namespace FieldSet

theorem exists_namespace {s t : Session} {c : ClassRef} {k : Mark} {a : String} {h : Handle}
    (kept : s.Kept c a) (short : a.length ≤ lengthLimit)
    (given : (forClass (.classOf c) (.text k a)).result s = (.ok (.shared h), t)) :
    ∃ ns : List String, t.store.namespace? h = some (ns.map fun n => (n, some (pathUnder a n))) := by
  rcases find?_madeFor s.store c k a s.made with ⟨m, hm, madeFor, found⟩ | found
  · obtain ⟨r, whole⟩ := result_forClass_of_some found
    cases given.symm.trans whole
    exact kept m hm madeFor
  · obtain ⟨r, whole⟩ := result_forClass_of_none found
    have built := result_build c k a { s with records := s.records ++ [r] }
    split at built
    · obtain ⟨f, u, refused⟩ := built
      cases given.symm.trans (whole _ _ refused)
    · next es offered =>
      obtain ⟨j, u, went, -, held⟩ := built
      obtain ⟨r', whole⟩ := whole _ _ went
      cases given.symm.trans whole
      obtain ⟨ns, same⟩ := Declaration.exists_offered short offered
      exact ⟨ns, same ▸ held⟩

end FieldSet

/-- The operation gives a field at the path, and leaves what is there. -/
def Operation.GivesField (x : Operation Value) (p : String) (s : Session) : Prop :=
  ∃ v t, x.result s = (.ok v, t) ∧ s.store.KeepsButPasses t.store ∧
    t.store.extras = s.store.extras ∧
    t.store.pathOf? v = some p

theorem Operation.GivesField.congr {x y : Operation Value} {p : String} {s : Session}
    (h : GivesField y p s) (same : x.result s = y.result s) : GivesField x p s := by
  unfold GivesField
  rw [same]
  exact h

namespace Field

open Operation

theorem givesField_make {p : String} (worded : Text.blank p = false) (s : Session) :
    GivesField (do make (← composed p)) p s := by
  obtain ⟨k, marks, composed_eq⟩ := result_composed_eq p s
  obtain ⟨r, made⟩ := FieldSet.result_make (m := k) worded
    { s with store := { s.store with marks } }
  unfold GivesField
  simp only [result_bind, composed_eq, made]
  refine ⟨_, _, rfl, ?_, rfl, ?_⟩
  · exact Store.KeepsButPasses.trans (t := { s.store with marks }) (.of_cells rfl) (.alloc _ _)
  · exact Store.pathOf?_eq_some.2 ⟨_, k, rfl, Store.cell?_alloc _ _⟩

theorem givesField_noted {p : String} (worded : Text.blank p = false) (message : String)
    (s : Session) : GivesField (do note .debug .fields message; make (← composed p)) p s := by
  obtain ⟨v, t, made, keepsButPasses, extras, path⟩ := givesField_make worded
    { s with records := s.records ++ [⟨.debug, .fields, message⟩] }
  refine ⟨v, t, ?_, keepsButPasses, extras, path⟩
  rw [← made]
  simp only [result_bind, result_note]

end Field

namespace Attribute

open Operation

variable {s : Session} {h : Handle} {k : Mark} {a n : String}

theorem class_of_shown (shown : hiddenName n = false) : n ≠ "__class__" := by
  rintro rfl
  exact absurd shown (by decide)

theorem givesField_fieldSet {ns : List String} (shown : hiddenName n = false)
    (held : s.store.namespace? h = some (ns.map fun n => (n, some (pathUnder a n))))
    (mem : n ∈ ns) : GivesField (read (.shared h) n) (pathUnder a n) s := by
  unfold Store.namespace? at held
  split at held
  · next fs hc =>
    obtain ⟨v, found, path⟩ : ∃ v, fs.lookup n = some v ∧
        s.store.pathOf? v = some (pathUnder a n) := by
      have same := Option.some.inj held
      clear held hc
      induction ns generalizing fs with
      | nil => cases mem
      | cons m ns ih =>
        cases fs with
        | nil => cases same
        | cons f fs =>
          obtain ⟨first, rest⟩ := List.cons.inj same
          obtain ⟨rfl, path⟩ := Prod.mk.inj first
          by_cases e : n = f.1
          · subst e
            exact ⟨f.2, List.lookup_cons_self, path⟩
          · obtain ⟨v, found, path⟩ := ih ((List.mem_cons.1 mem).resolve_left e) fs rest
            refine ⟨v, ?_, path⟩
            rw [List.lookup_cons, beq_false_of_ne e]
            exact found
    refine ⟨v, s, ?_, .refl _, rfl, path⟩
    have hv : s.store.cellOf? (.shared h) = some (.fieldSet fs) := hc
    simp only [read, result_bind, result_theStore, class_of_shown shown, hv, found]
    rfl
  · cases held

theorem givesField_proxy {lead : String} (shown : hiddenName n = false)
    (hc : s.store.cell? h = some (.proxy (some (.text k lead))))
    (free : s.store.givenToClass? .fieldsProxy n = none)
    (worded : Text.blank (lead ++ n) = false) :
    GivesField (read (.shared h) n) (lead ++ n) s := by
  have hv : s.store.cellOf? (.shared h) = some (.proxy (some (.text k lead))) := hc
  have unmet : s.store.givenTo? (.shared h) n = none := by
    simp [Store.givenTo?, Store.owner?, Store.libraryClass?, hv, free]
  have other : n ≠ "_prefix" := by
    rintro rfl
    exact absurd shown (by decide)
  refine (Field.givesField_noted worded
    s!"GenericFieldsProxy: Creating Field for attribute '{n}'" s).congr ?_
  simp only [read, givenOr, FieldsProxy.nested, result_bind, result_theStore,
    class_of_shown shown, if_false, hv, other, unmet, shown, Bool.false_eq_true, result_note, plain,
    result_asking, Store.plain_text]

theorem givesField_field (shown : hiddenName n = false) (other : n ≠ "path")
    (hc : s.store.cell? h = some (.field (some (.text k a))))
    (free : s.store.givenToClass? .field n = none)
    (worded : Text.blank (a ++ "." ++ n) = false) :
    GivesField (read (.shared h) n) (a ++ "." ++ n) s := by
  have hv : s.store.cellOf? (.shared h) = some (.field (some (.text k a))) := hc
  have unmet : s.store.givenTo? (.shared h) n = none := by
    simp [Store.givenTo?, Store.owner?, Store.libraryClass?, hv, free]
  have inner : n ≠ "_path" := by
    rintro rfl
    exact absurd shown (by decide)
  have noted (path : String) := Field.givesField_noted worded
    s!"Accessing nested field: '{n}' -> new Field path '{path}'" s
  refine (noted (a ++ "." ++ n)).congr ?_
  simp only [read, givenOr, Field.nested, Field.present, result_bind, result_theStore,
    class_of_shown shown, if_false, hv, other, inner, decide_false, Bool.or_self, unmet, shown,
    Bool.false_eq_true, result_note, plain, result_asking, Store.plain_text, result_pure]

end Attribute

namespace Field

open Operation

def viaProxy (qualifier : Value) (n : String) : Operation Value := do
  Attribute.read (← FieldsProxy.make qualifier) n

def viaField (path : Value) (n : String) : Operation Value := do
  Attribute.read (← make path) n

def ways (set qualifier path : Value) (n : String) : Operation (List Value) := do
  let v ← Attribute.read set n
  let x ← viaProxy qualifier n
  let y ← viaField path n
  return [v, x, y]

variable {s : Session} {k : Mark} {a n : String}

theorem pathUnder_of_worded (worded : Text.blank a = false) (n : String) :
    pathUnder a n = a ++ "." ++ n := by
  refine if_neg ?_
  rintro rfl
  cases worded

theorem givesField_viaProxy (worded : Text.blank a = false) (short : a.length ≤ lengthLimit)
    (shown : hiddenName n = false) (free : s.store.givenToClass? .fieldsProxy n = none) :
    GivesField (viaProxy (.text k a) n) (pathUnder a n) s := by
  obtain ⟨lead, lead_eq, path⟩ := FieldSet.leadOf?_eq short
  have told := FieldSet.result_qualifierLead k a s
  rw [lead_eq] at told
  obtain ⟨m, marks, composed_eq⟩ := result_composed_eq lead s
  have unblank : Text.blank (lead ++ n) = false := by
    rw [path, pathUnder_of_worded worded]
    simp [Text.blank_append, worded]
  let t : Session := { s with
    store := (Store.alloc { s.store with marks } (.proxy (some (.text m lead)))).2 }
  have made : (FieldsProxy.make (.text k a)).result s = (.ok (.shared ⟨s.store.size⟩), t) := by
    simp only [FieldsProxy.make, result_bind, told, composed_eq]
    rfl
  obtain ⟨v, u, read_eq, keepsButPasses, extras, held⟩ := Attribute.givesField_proxy (s := t) shown
    (Store.cell?_alloc { s.store with marks } _) free unblank
  refine ⟨v, u, ?_, ?_, extras, path n ▸ held⟩
  · simp only [viaProxy, result_bind, made]
    exact read_eq
  · exact (Store.KeepsButPasses.trans (t := { s.store with marks }) (.of_cells rfl)
      (.alloc _ _)).trans
      keepsButPasses

theorem givesField_viaField (worded : Text.blank a = false) (shown : hiddenName n = false)
    (other : n ≠ "path") (free : s.store.givenToClass? .field n = none) :
    GivesField (viaField (.text k a) n) (pathUnder a n) s := by
  obtain ⟨r, made⟩ := FieldSet.result_make (m := k) worded s
  have unblank : Text.blank (a ++ "." ++ n) = false := by simp [Text.blank_append, worded]
  rw [pathUnder_of_worded worded]
  obtain ⟨v, u, read_eq, keepsButPasses, extras, held⟩ := Attribute.givesField_field
    (s := ((make (.text k a)).result s).2) shown other
    (by rw [made]; exact Store.cell?_alloc s.store _) (by rw [made]; exact free) unblank
  rw [made] at read_eq keepsButPasses extras
  refine ⟨v, u, ?_, (Store.KeepsButPasses.alloc _ _).trans keepsButPasses, extras, held⟩
  simp only [viaField, result_bind, made]
  exact read_eq

theorem exists_ways {h : Handle} {ns : List String} {l m : Mark} (worded : Text.blank a = false)
    (short : a.length ≤ lengthLimit) (shown : hiddenName n = false) (other : n ≠ "path")
    (held : s.store.namespace? h = some (ns.map fun n => (n, some (pathUnder a n)))) (mem : n ∈ ns)
    (free : ∀ c ∈ [BuiltinClass.field, .fieldsProxy], s.store.givenToClass? c n = none) :
    ∃ vs t, (ways (.shared h) (.text l a) (.text m a) n).result s = (.ok vs, t) ∧ vs.length = 3 ∧
      ∀ v ∈ vs, t.store.pathOf? v = some (pathUnder a n) := by
  simp only [List.forall_mem_cons, List.not_mem_nil, false_implies, implies_true, and_true] at free
  obtain ⟨v, t, first, keepsButPasses, extras, hv⟩ := Attribute.givesField_fieldSet shown held mem
  have free' (c : BuiltinClass) (none_eq : s.store.givenToClass? c n = none) :
      t.store.givenToClass? c n = none := by
    simpa only [Store.givenToClass?, Store.given, extras] using none_eq
  obtain ⟨x, u, second, keepsButPasses', extras', hx⟩ :=
    givesField_viaProxy (k := l) worded short shown (free' _ free.2)
  have free'' : u.store.givenToClass? .field n = none := by
    simpa only [Store.givenToClass?, Store.given, extras'] using free' _ free.1
  obtain ⟨y, w, third, keepsButPasses'', -, hy⟩ := givesField_viaField (k := m) worded shown
    other free''
  refine ⟨[v, x, y], w, ?_, rfl, ?_⟩
  · simp only [ways, result_bind, first, second, third, result_pure]
  · simp only [List.forall_mem_cons]
    exact ⟨keepsButPasses''.pathOf? (keepsButPasses'.pathOf? hv), keepsButPasses''.pathOf? hx,
      hy, by simp⟩

/-- The fields that a class exposes under a qualifier, and those that a proxy and a field have under
the same names, are equal, and calls of a builder that differ in which of them they are given come to
the same. The name under which a field tells its path is left out. -/
theorem derived {t : Session} {c : ClassRef} {h : Handle} {l m : Mark} (kept : s.Kept c a)
    (worded : Text.blank a = false) (short : a.length ≤ lengthLimit)
    (given : (FieldSet.forClass (.classOf c) (.text k a)).result s = (.ok (.shared h), t))
    (exposed : ∃ es, t.store.namespace? h = some es ∧ n ∈ es.map Prod.fst)
    (shown : hiddenName n = false) (other : n ≠ "path")
    (free : ∀ c ∈ [BuiltinClass.field, .fieldsProxy], t.store.givenToClass? c n = none) :
    ∃ vs u, (ways (.shared h) (.text l a) (.text m a) n).result t = (.ok vs, u) ∧ vs.length = 3 ∧
      (∀ v ∈ vs, u.store.pathOf? v = some (a ++ "." ++ n)) ∧
      (∀ v ∈ vs, ∀ x ∈ vs, u.store.equal v x = .ok true) ∧
      ∀ (w : Session) (j : Handle) (b : Builder) (asks : BuilderCall × BuilderCall) (r q : Request),
        (∀ v ∈ vs, w.store.pathOf? v = some (a ++ "." ++ n)) → w.store.builder? j = some b →
        asks.1.request? = some r → asks.2.request? = some q →
        r.Retold (fun v x => v = x ∨ v ∈ vs ∧ x ∈ vs) w.store q →
        Session.outcome j ((asks.1.perform j).result w) =
          Session.outcome j ((asks.2.perform j).result w) := by
  obtain ⟨ns, held⟩ := FieldSet.exists_namespace kept short given
  obtain ⟨es, held', mem⟩ := exposed
  cases held.symm.trans held'
  obtain ⟨vs, u, given, three, paths⟩ := exists_ways (l := l) (m := m) worded short shown other held
    (by simpa using mem) free
  rw [pathUnder_of_worded worded] at paths
  refine ⟨vs, u, given, three, paths, fun v hv x hx => ?_,
    fun w j b asks r q still hb asked asked' retold => ?_⟩
  · obtain ⟨_, _, rfl, hc⟩ := Store.pathOf?_eq_some.1 (paths v hv)
    obtain ⟨_, _, rfl, hd⟩ := Store.pathOf?_eq_some.1 (paths x hx)
    exact equal_of_path hc hd
  · refine Builder.outcome_asked hb asked asked' (fun v x e => ?_) retold
    rcases e with rfl | ⟨hv, hx⟩
    · exact .inl rfl
    · exact .inr ⟨_, still v hv, still x hx⟩

private def itemClass : ClassRef := .declared 0 "Item" false

private def itemSession : Session :=
  ((Plan.of (.text none "from Item o") (.int none 1) [] .null (.text none "o")).make.result {
    models := [{ name := "Item", hints := [("id", .ordinary), ("path", .ordinary)], attributes := [],
                 line := [itemClass, .builtin .object] }] }).2

private def itemFields : Session :=
  ((FieldSet.forClass (.classOf itemClass) (.text none "o")).result itemSession).2

theorem derived_equal :
    (FieldSet.forClass (.classOf itemClass) (.text none "o")).result itemSession =
      (.ok (.shared ⟨4⟩), itemFields) ∧
    ∃ vs u, (ways (.shared ⟨4⟩) (.text none "o") (.text none "o") "id").result itemFields =
        (.ok vs, u) ∧ vs.length = 3 ∧ (∀ v ∈ vs, u.store.pathOf? v = some "o.id") ∧
      (∀ v ∈ vs, ∀ x ∈ vs, u.store.equal v x = .ok true) ∧ (u.store.builder? ⟨1⟩).isSome ∧
      ∀ v ∈ vs, ∀ x ∈ vs,
        Session.outcome ⟨1⟩
          (((BuilderCall.call "equal" { places := [v, .int none 1] }).perform ⟨1⟩).result u) =
        Session.outcome ⟨1⟩
          (((BuilderCall.call "equal" { places := [x, .int none 1] }).perform ⟨1⟩).result u) := by
  have given : (FieldSet.forClass (.classOf itemClass) (.text none "o")).result itemSession =
      (.ok (.shared ⟨4⟩), itemFields) := rfl
  refine ⟨given, ?_⟩
  have exposed : itemFields.store.namespace? ⟨4⟩ =
      some [("id", some "o.id"), ("path", some "o.path")] := by decide +kernel
  obtain ⟨vs, u, ways_eq, three, paths, equal, same⟩ := derived (n := "id") (l := none) (m := none)
    (fun _ hm => by cases hm) (by decide) (by decide) given ⟨_, exposed, by simp⟩ (by decide)
    (by decide) (by decide +kernel)
  have there : (u.store.builder? ⟨1⟩).isSome := by
    obtain rfl :
        ((ways (.shared ⟨4⟩) (.text none "o") (.text none "o") "id").result itemFields).2 = u := by
      rw [ways_eq]
    decide +kernel
  obtain ⟨b, hb⟩ := Option.isSome_iff_exists.1 there
  exact ⟨vs, u, ways_eq, three, paths, equal, there, fun v hv x hx =>
    same u ⟨1⟩ b (.call "equal" { places := [v, .int none 1] },
      .call "equal" { places := [x, .int none 1] }) _ _ paths hb rfl rfl
      (.compare .equal (.int none 1) (.inr ⟨hv, hx⟩))⟩

/-- The path of a field is no field, so a condition on it is one on another column. What callers put
on the class of fields, or among the fields of a class, is what is found there. -/
theorem exists_not_derived :
    (∃ v x y u, (FieldSet.forClass (.classOf itemClass) (.text none "o")).result itemSession =
        (.ok (.shared ⟨4⟩), itemFields) ∧
      itemFields.store.namespace? ⟨4⟩ = some [("id", some "o.id"), ("path", some "o.path")] ∧
      (ways (.shared ⟨4⟩) (.text none "o") (.text none "o") "path").result itemFields =
        (.ok [v, x, y], u) ∧
      u.store.pathOf? v = some "o.path" ∧ u.store.pathOf? x = some "o.path" ∧
      y = .text none "o" ∧ u.store.equal x y = .ok false ∧
      ∀ z ∈ [(x, "from Item o where o.path = ?1"), (y, "from Item o where o = ?1")],
        ((Session.outcome ⟨1⟩ (((BuilderCall.call "equal" { places := [z.1, .int none 1] }).perform
          ⟨1⟩).result u)).2.2.bind fun shows => shows.1.toOption.bind Value.text?) = some z.2) ∧
    (∃ u, (do
      Attribute.assign (.classOf (.builtin .field)) "id" .null
      viaField (.text none "o") "id").result itemFields = (.ok .null, u)) ∧
    ∃ u, (do
      Attribute.assign (.shared ⟨4⟩) "id" .null
      Attribute.read (← FieldSet.forClass (.classOf itemClass) (.text none "o")) "id").result
        itemFields = (.ok .null, u) := by
  refine ⟨⟨_, _, _, _, rfl, ?_, rfl, ?_, ?_, rfl, ?_, ?_⟩, ⟨_, rfl⟩, _, rfl⟩
  all_goals decide +kernel

end Field

end Criteria
