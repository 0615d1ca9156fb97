import Criteria.Proofs.Finding
import Mathlib.Data.List.Pairwise

/-! Field sets are made once for a class and a qualifier, and given again afterwards. As long as the
classes declare what they did, and nobody changes what was given, nobody can tell: every call gives
what it would give if nothing had been made before.
-/

set_option autoImplicit false

namespace Criteria

namespace FieldSet

open Operation

def Keyed (m : Made) (c : ClassRef) (a : String) : Prop :=
  m.owner = ⟨.classOf c, .ofClass c⟩ ∧ ∃ k, m.qualifier = ⟨.text k a, .ofText a⟩

theorem Keyed.inj {m : Made} {c d : ClassRef} {a b : String} (h : Keyed m c a) (g : Keyed m d b) :
    c = d ∧ a = b := by
  obtain ⟨ho, k, hq⟩ := h
  obtain ⟨go, l, gq⟩ := g
  cases ho.symm.trans go
  cases hq.symm.trans gq
  exact ⟨rfl, rfl⟩

def Apart (m n : Made) : Prop :=
  m.fields ≠ n.fields ∧ ∀ c a, Keyed m c a → ¬ Keyed n c a

instance : Std.Symm Apart := ⟨fun _ _ h => ⟨h.1.symm, fun c a hy hx => h.2 c a hx hy⟩⟩

theorem agrees_ofText (a : String) : (Fingerprint.ofText a).agrees (.ofText a) = true := by
  unfold Fingerprint.ofText Fingerprint.ofOctets
  simp only
  split <;> simp [Fingerprint.agrees]

theorem equalPart_classOf (s : Store) (c d : ClassRef) :
    s.equalPart (.classOf c) (.classOf d) = .ok (c == d) := by
  simp [Store.equalPart, Value.samePart, sameHandle, Store.equal, Value.equalWith, Value.atomEqual,
    Value.number?]

theorem equalPart_text (s : Store) (k l : Mark) (a b : String) :
    s.equalPart (.text k a) (.text l b) = .ok (a == b) := by
  simp [Store.equalPart, Value.samePart, sameHandle, Store.equal, Value.equalWith, Value.atomEqual,
    Value.number?]

theorem find?_cases (s : Store) (c : ClassRef) (k : Mark) (a : String) {made : List Made}
    (h : ∀ m ∈ made, ∃ d b, Keyed m d b) :
    (∃ m ∈ made, Keyed m c a ∧
      find? s ⟨.classOf c, .ofClass c⟩ ⟨.text k a, .ofText a⟩ made = .ok (some m.fields)) ∨
    ((∀ m ∈ made, ¬ Keyed m c a) ∧
      find? s ⟨.classOf c, .ofClass c⟩ ⟨.text k a, .ofText a⟩ made = .ok none) := by
  induction made with
  | nil => exact .inr ⟨by simp, rfl⟩
  | cons m rest ih =>
    obtain ⟨d, b, ho, l, hq⟩ := h m (List.mem_cons_self ..)
    have step : find? s ⟨.classOf c, .ofClass c⟩ ⟨.text k a, .ofText a⟩ (m :: rest) =
        if d = c ∧ b = a then .ok (some m.fields)
        else find? s ⟨.classOf c, .ofClass c⟩ ⟨.text k a, .ofText a⟩ rest := by
      have printed : (Fingerprint.ofClass d).agrees (.ofClass c) = (d == c) := by
        simp [Fingerprint.agrees]
      simp only [find?, ho, hq, printed, equalPart_classOf, equalPart_text]
      by_cases hd : d = c
      · by_cases hb : b = a
        · simp [hd, hb, agrees_ofText, bind, Except.bind]
        · simp [hd, hb, bind, Except.bind]
      · simp [hd]
    by_cases e : d = c ∧ b = a
    · obtain ⟨rfl, rfl⟩ := e
      exact .inl ⟨m, List.mem_cons_self .., ⟨ho, l, hq⟩, by rw [step, if_pos ⟨rfl, rfl⟩]⟩
    · rw [step, if_neg e]
      rcases ih fun n hn => h n (List.mem_cons_of_mem _ hn) with ⟨n, hn, rest⟩ | ⟨none, rest⟩
      · exact .inl ⟨n, List.mem_cons_of_mem _ hn, rest⟩
      · refine .inr ⟨List.forall_mem_cons.2 ⟨fun hm => e ?_, none⟩, rest⟩
        exact Keyed.inj ⟨ho, l, hq⟩ hm

end FieldSet

def Store.namespaceOf? (s : Store) : Value → Option (List (String × Option String))
  | .shared h => s.namespace? h
  | _ => none

def Session.Keeps (s t : Session) : Prop :=
  ∀ m ∈ s.made, t.store.namespace? m.fields = s.store.namespace? m.fields

/-- Each field set holds what the declaration of its class offers under its qualifier, and there is
one for a class and a qualifier. -/
structure Session.Faithful (d : ClassRef → Declaration) (s : Session) : Prop where
  holds : ∀ m ∈ s.made, ∃ c a es, FieldSet.Keyed m c a ∧ (d c).offered? a = some es ∧
    s.store.namespace? m.fields = some (es.map (Prod.map id some))
  apart : s.made.Pairwise FieldSet.Apart

namespace Session.Faithful

open FieldSet

variable {d : ClassRef → Declaration} {s t : Session} {c : ClassRef} {k : Mark} {a : String}

theorem of_nil (h : s.made = []) : s.Faithful d :=
  ⟨by simp [h], by simp [h]⟩

theorem keeps (h : s.Faithful d) (made : t.made = s.made) (keeps : s.Keeps t) : t.Faithful d := by
  refine ⟨fun m hm => ?_, made ▸ h.apart⟩
  rw [made] at hm
  obtain ⟨c, a, es, keyed, offered, held⟩ := h.holds m hm
  exact ⟨c, a, es, keyed, offered, (keeps m hm).trans held⟩

theorem keeps_of_keepsButPasses (h : s.Faithful d)
    (keepsButPasses : s.store.KeepsButPasses t.store) : s.Keeps t := by
  intro m hm
  obtain ⟨_, _, es, -, -, held⟩ := h.holds m hm
  exact (keepsButPasses.namespace? held).trans held.symm

theorem keeps_trans (h : s.Faithful d) {u : Session} (first : s.Keeps t)
    (keepsButPasses : t.store.KeepsButPasses u.store) : s.Keeps u := by
  intro m hm
  obtain ⟨_, _, es, -, -, held⟩ := h.holds m hm
  exact (keepsButPasses.namespace? ((first m hm).trans held)).trans held.symm

theorem find?_cases (h : s.Faithful d) (c : ClassRef) (k : Mark) (a : String) :
    (∃ m ∈ s.made, Keyed m c a ∧
      find? s.store ⟨.classOf c, .ofClass c⟩ ⟨.text k a, .ofText a⟩ s.made = .ok (some m.fields)) ∨
    ((∀ m ∈ s.made, ¬ Keyed m c a) ∧
      find? s.store ⟨.classOf c, .ofClass c⟩ ⟨.text k a, .ofText a⟩ s.made = .ok none) :=
  FieldSet.find?_cases s.store c k a fun m hm =>
    let ⟨c, a, _, keyed, _⟩ := h.holds m hm
    ⟨c, a, keyed⟩

theorem fields_lt (h : s.Faithful d) {m : Made} (hm : m ∈ s.made) :
    m.fields.index < s.store.size := by
  obtain ⟨_, _, _, _, _, held⟩ := h.holds m hm
  unfold Store.namespace? at held
  split at held
  · next hc => exact (List.getElem?_eq_some_iff.1 hc).1
  · cases held

/-- What a call gives is what the declaration offers. When it offers nothing, the call is refused as
the making of a field set is, and the field sets stay as they were. -/
theorem forClass (h : s.Faithful d) (hd : s.declaration c = d c) {x : Except Fault Value}
    (e : (forClass (.classOf c) (.text k a)).result s = (x, t)) :
    match (d c).offered? a with
    | none => (∃ f, x = .error f ∧ ((build (.ofClass c) (.text k a)).result s).1 = .error f) ∧
        t.made = s.made
    | some es => ∃ m ∈ t.made, Keyed m c a ∧ x = .ok (.shared m.fields) ∧
        t.store.namespace? m.fields = some (es.map (Prod.map id some)) ∧
        (t.made = s.made ∨ t.made = s.made ++ [m] ∧ s.store.size ≤ m.fields.index ∧
          ∀ n ∈ s.made, ¬ Keyed n c a) := by
  rcases h.find?_cases c k a with ⟨m, hm, keyed, found⟩ | ⟨others, found⟩
  · obtain ⟨r, given⟩ := result_forClass_of_some found
    cases e.symm.trans given
    obtain ⟨c', a', es, keyed', offered, held⟩ := h.holds m hm
    obtain ⟨rfl, rfl⟩ := keyed.inj keyed'
    rw [offered]
    exact ⟨m, hm, keyed, rfl, held, .inl rfl⟩
  · obtain ⟨r, given⟩ := result_forClass_of_none found
    have built := result_build c k a { s with records := s.records ++ [r] }
    have aside := Operation.Aside.build (.ofClass c) (.text k a)
    have same : Session.declaration { s with records := s.records ++ [r] } c = d c :=
      (s.declaration_aside s.made _ c).trans hd
    rw [same] at built
    cases ho : (d c).offered? a with
    | none =>
      rw [ho] at built
      obtain ⟨f, u, refused⟩ := built
      cases e.symm.trans (given _ _ refused)
      refine ⟨⟨f, rfl, ?_⟩, ?_⟩
      · rw [← aside.fst_eq s s.made (s.records ++ [r]), refused]
      · have made := aside.made_eq { s with records := s.records ++ [r] }
        rw [refused] at made
        exact made
    | some es =>
      rw [ho] at built
      obtain ⟨i, u, went, new, held⟩ := built
      obtain ⟨r', given⟩ := given _ _ went
      cases e.symm.trans given
      have made := aside.made_eq { s with records := s.records ++ [r] }
      rw [went] at made
      have made : u.made = s.made := made
      exact ⟨FieldSet.keyed c k a i, by simp, ⟨rfl, k, rfl⟩, rfl, held,
        .inr ⟨by rw [made], new, others⟩⟩

theorem forClass_prefix (h : s.Faithful d) (hd : s.declaration c = d c) {x : Except Fault Value}
    (e : (FieldSet.forClass (.classOf c) (.text k a)).result s = (x, t)) :
    s.made ⊆ t.made := by
  have step := h.forClass hd e
  split at step
  · exact step.2 ▸ List.Subset.refl _
  · obtain ⟨m, -, -, -, -, made | ⟨made, -⟩⟩ := step
    · exact made ▸ List.Subset.refl _
    · exact made ▸ List.subset_append_left _ _

theorem after (h : s.Faithful d) (hd : s.declaration c = d c) {x : Except Fault Value}
    (e : (FieldSet.forClass (.classOf c) (.text k a)).result s = (x, t)) (keeps : s.Keeps t) :
    t.Faithful d := by
  have step := h.forClass hd e
  split at step
  · exact h.keeps step.2 keeps
  · next es offered =>
    obtain ⟨m, hm, keyed, -, held, made | ⟨made, new, others⟩⟩ := step
    · exact h.keeps made keeps
    · refine ⟨fun n hn => ?_, ?_⟩
      · rw [made] at hn
        rcases List.mem_append.1 hn with hn | hn
        · obtain ⟨c, a, es, keyed, offered, held⟩ := h.holds n hn
          exact ⟨c, a, es, keyed, offered, (keeps n hn).trans held⟩
        · cases List.mem_singleton.1 hn
          exact ⟨c, a, es, keyed, offered, held⟩
      · rw [made, List.pairwise_append]
        refine ⟨h.apart, List.pairwise_singleton .., fun n hn _ hm => ?_⟩
        cases List.mem_singleton.1 hm
        refine ⟨fun same => ?_, fun c' a' hn' hm' => ?_⟩
        · exact absurd (same ▸ h.fields_lt hn) (by omega)
        · obtain ⟨rfl, rfl⟩ := keyed.inj hm'
          exact others n hn hn'

end Session.Faithful

/-- A call for the fields of a class under a qualifier, and what there was before it. It is made on
its own, or while a builder is made. -/
structure Inquiry where
  owner : ClassRef
  mark : Mark
  qualifier : String
  before : Session
  plan : Option Plan := none

namespace Inquiry

def resultIn (q : Inquiry) (s : Session) : Except Fault Value × Session :=
  (FieldSet.forClass (.classOf q.owner) (.text q.mark q.qualifier)).result s

def answer (q : Inquiry) : Except Fault Value := (q.resultIn q.before).1

def after (q : Inquiry) : Session := (q.resultIn q.before).2

def seen (r : Except Fault Value × Session) :
    Except Fault (Option (List (String × Option String))) :=
  r.1.map r.2.store.namespaceOf?

def Fits (q : Inquiry) : Prop :=
  ∀ p ∈ q.plan, p.model = .classOf q.owner ∧ p.qualifier = .text q.mark q.qualifier ∧
    ∃ n, Plan.startIndex q.before.store p.start = .ok n

def left (q : Inquiry) : Session :=
  match q.plan with
  | none => q.after
  | some p => (p.make.result q.before).2

theorem result_make {q : Inquiry} (fits : q.Fits) {p : Plan} (hp : q.plan = some p) :
    ∃ n, p.make.result q.before = match q.answer with
      | .error f => (.error f, q.after)
      | .ok v => (p.completed n v).result q.after := by
  obtain ⟨model, qualifier, n, hn⟩ := fits p hp
  have asked : p.offeredFields.result q.before = (q.answer, q.after) := by
    unfold Plan.offeredFields
    rw [model, qualifier]
    rfl
  refine ⟨n, ?_⟩
  rw [Plan.result_make hn, asked]
  cases q.answer <;> rfl

def Resolves (q : Inquiry) : Prop :=
  (∀ m ∈ q.before.made, ¬ FieldSet.Keyed m q.owner q.qualifier) ∧
    (q.before.declaration q.owner).Hinted

def Harmless (q : Inquiry) : Prop :=
  q.Resolves → q.before.Keeps (q.before.hinted q.owner)

theorem Harmless.of_hints {d : ClassRef → Declaration} {q : Inquiry}
    (faithful : q.before.Faithful d)
    (harmless : Model.Harmless q.before (q.before.line q.owner)) : q.Harmless :=
  fun _ => faithful.keeps_of_keepsButPasses harmless.keepsButPasses

/-- A call changes nothing that was given before, whether it finds a field set, makes one or is
refused, unless a hint does so when it is evaluated. -/
theorem keeps {d : ClassRef → Declaration} {q : Inquiry} (faithful : q.before.Faithful d)
    (harmless : q.Harmless) : q.before.Keeps q.after := by
  rcases FieldSet.finds_forClass q.owner q.mark q.qualifier q.before with
    keepsButPasses | ⟨found, keepsButPasses | ⟨hinted, keepsButPasses⟩⟩
  · exact faithful.keeps_of_keepsButPasses keepsButPasses
  · exact faithful.keeps_of_keepsButPasses keepsButPasses
  · refine faithful.keeps_trans (harmless ⟨?_, hinted⟩) keepsButPasses
    rcases faithful.find?_cases q.owner q.mark q.qualifier with ⟨m, hm, -, e⟩ | ⟨others, -⟩
    · cases e.symm.trans found
    · exact others

theorem answer_cases {d : ClassRef → Declaration} {q : Inquiry} (faithful : q.before.Faithful d)
    (declared : q.before.declaration q.owner = d q.owner) :
    match (d q.owner).offered? q.qualifier with
    | none => (∃ f, q.answer = .error f ∧ ((FieldSet.build (.ofClass q.owner)
        (.text q.mark q.qualifier)).result q.before).1 = .error f) ∧ q.after.made = q.before.made
    | some es => ∃ m ∈ q.after.made, FieldSet.Keyed m q.owner q.qualifier ∧
        q.answer = .ok (.shared m.fields) ∧
        q.after.store.namespace? m.fields = some (es.map (Prod.map id some)) ∧
        (q.after.made = q.before.made ∨ q.after.made = q.before.made ++ [m] ∧
          q.before.store.size ≤ m.fields.index ∧
          ∀ n ∈ q.before.made, ¬ FieldSet.Keyed n q.owner q.qualifier) :=
  faithful.forClass declared rfl

end Inquiry

/-- A run of calls that starts without field sets. Each class declares the same at every call, and
nobody changes what was given. -/
inductive Inquiries (d : ClassRef → Declaration) : List Inquiry → Session → Prop
  | start {s : Session} (made : s.made = []) : Inquiries d [] s
  /-- Anything else that makes no field set. -/
  | meanwhile {qs : List Inquiry} {s t : Session} (run : Inquiries d qs s)
      (made : t.made = s.made) (keeps : s.Keeps t) : Inquiries d qs t
  | ask {qs : List Inquiry} (q : Inquiry) (run : Inquiries d qs q.before)
      (declared : q.before.declaration q.owner = d q.owner) (fits : q.Fits)
      (harmless : q.Harmless) : Inquiries d (qs ++ [q]) q.left

/-- Nobody can tell that field sets are kept, but for which of them are the same. -/
structure Inquiry.Transparent (d : ClassRef → Declaration) (qs : List Inquiry) : Prop where
  /-- Each call gives what it gives when no field set was made before. -/
  renewed : ∀ q ∈ qs,
    seen (q.resultIn q.before) = seen (q.resultIn { q.before with made := [] })
  /-- What is given holds all that the class offers. -/
  whole : ∀ q ∈ qs, ∀ v, q.answer = .ok v → ∃ es, (d q.owner).offered? q.qualifier = some es ∧
    q.after.store.namespaceOf? v = some (es.map (Prod.map id some))
  same_iff : ∀ q ∈ qs, ∀ r ∈ qs, ∀ v w, q.answer = .ok v → r.answer = .ok w →
    (v = w ↔ q.owner = r.owner ∧ q.qualifier = r.qualifier)
  refused : ∀ q ∈ qs, ∀ f, q.answer = .error f → q.left.made = q.before.made
  /-- What was given before is the same after each call, and all that the call is a part of. -/
  keeps : ∀ q ∈ qs, q.before.Keeps q.left
  /-- A builder that is made has what is given, as it was given. -/
  built : ∀ q ∈ qs, ∀ p ∈ q.plan, match q.answer with
    | .error f => (p.make.result q.before).1 = .error f
    | .ok v => q.left.made = q.after.made ∧
        q.left.store.namespaceOf? v = q.after.store.namespaceOf? v ∧
        ∀ w, (p.make.result q.before).1 = .ok w →
          ∃ h b, w = .shared h ∧ q.left.store.builder? h = some b ∧ b.fields = some v

namespace Inquiries

open FieldSet

variable {d : ClassRef → Declaration} {qs : List Inquiry} {s : Session}

/-- What holds of a call: it was made among field sets as they are declared, and what it gave is
still among them. -/
structure Recalled (d : ClassRef → Declaration) (made : List Made) (q : Inquiry) : Prop where
  faithful : q.before.Faithful d
  declared : q.before.declaration q.owner = d q.owner
  fits : q.Fits
  keeps : q.before.Keeps q.after
  kept : ∀ v, q.answer = .ok v → ∃ m ∈ made, Keyed m q.owner q.qualifier ∧ v = .shared m.fields

namespace Recalled

variable {made : List Made} {q : Inquiry}

theorem left (h : Recalled d made q) : q.left.made = q.after.made ∧
    q.after.store.KeepsButPasses q.left.store := by
  unfold Inquiry.left
  cases hp : q.plan with
  | none => exact ⟨rfl, .refl _⟩
  | some p =>
    obtain ⟨n, make_eq⟩ := Inquiry.result_make h.fits hp
    simp only
    rw [make_eq]
    cases q.answer with
    | error f => exact ⟨rfl, .refl _⟩
    | ok v =>
      have keepsButPasses := Operation.KeepsButPasses.completed p n v
      exact ⟨keepsButPasses.made _, keepsButPasses.store _⟩

theorem renewed (h : Recalled d made q) :
    Inquiry.seen (q.resultIn q.before) = Inquiry.seen (q.resultIn { q.before with made := [] }) := by
  have step := Inquiry.answer_cases h.faithful h.declared
  have empty : Session.Faithful d { q.before with made := [] } := .of_nil rfl
  have declared := (q.before.declaration_aside [] q.before.records q.owner).trans h.declared
  rcases e : q.resultIn { q.before with made := [] } with ⟨x, t⟩
  have anew := empty.forClass declared e
  have same := (Operation.Aside.build (.ofClass q.owner) (.text q.mark q.qualifier)).fst_eq q.before
    [] q.before.records
  change Inquiry.seen (q.answer, q.after) = _
  cases ho : (d q.owner).offered? q.qualifier with
  | none =>
    rw [ho] at step anew
    obtain ⟨⟨f, answer, built⟩, -⟩ := step
    obtain ⟨⟨g, rfl, built'⟩, -⟩ := anew
    rw [same, built] at built'
    cases built'
    rw [answer]
    rfl
  | some es =>
    rw [ho] at step anew
    obtain ⟨m, -, -, answer, held, -⟩ := step
    obtain ⟨n, -, -, rfl, held', -⟩ := anew
    rw [answer]
    exact congrArg Except.ok (held.trans held'.symm)

theorem whole (h : Recalled d made q) {v : Value} (hv : q.answer = .ok v) :
    ∃ es, (d q.owner).offered? q.qualifier = some es ∧
      q.after.store.namespaceOf? v = some (es.map (Prod.map id some)) := by
  have step := Inquiry.answer_cases h.faithful h.declared
  split at step
  · obtain ⟨⟨f, answer, -⟩, -⟩ := step
    cases answer.symm.trans hv
  · next es offered =>
    obtain ⟨m, -, -, answer, held, -⟩ := step
    cases answer.symm.trans hv
    exact ⟨es, offered, held⟩

end Recalled

theorem recalled (run : Inquiries d qs s) : s.Faithful d ∧ ∀ q ∈ qs, Recalled d s.made q := by
  induction run with
  | start made => exact ⟨.of_nil made, by simp⟩
  | meanwhile _ made keeps ih => exact ⟨ih.1.keeps made keeps, fun q hq => made ▸ ih.2 q hq⟩
  | @ask qs q _ declared fits harmless ih =>
    -- A call keeps the field sets that there are, so all that was given before is still among them.
    obtain ⟨faithful, all⟩ := ih
    have keeps := Inquiry.keeps faithful harmless
    have grown := faithful.forClass_prefix declared (x := q.answer) (t := q.after) (k := q.mark)
      (a := q.qualifier) rfl
    have step := Inquiry.answer_cases faithful declared
    have last : Recalled d q.after.made q := by
      refine ⟨faithful, declared, fits, keeps, fun v hv => ?_⟩
      split at step
      · obtain ⟨⟨f, answer, -⟩, -⟩ := step
        cases answer.symm.trans hv
      · obtain ⟨m, hm, keyed, answer, -⟩ := step
        cases answer.symm.trans hv
        exact ⟨m, hm, keyed, rfl⟩
    obtain ⟨made, keepsButPasses⟩ := last.left
    have after := faithful.after declared (x := q.answer) (t := q.after) (k := q.mark)
      (a := q.qualifier) rfl keeps
    refine ⟨after.keeps made fun m hm => ?_, fun r hr => ?_⟩
    · obtain ⟨_, _, es, -, -, held⟩ := after.holds m hm
      exact (keepsButPasses.namespace? held).trans held.symm
    · rw [made]
      rcases List.mem_append.1 hr with hr | hr
      · have before := all r hr
        exact { before with
          kept := fun v hv =>
            let ⟨m, hm, given⟩ := before.kept v hv
            ⟨m, grown hm, given⟩ }
      · cases List.mem_singleton.1 hr
        exact last

theorem fields_eq_iff (h : s.Faithful d) {m n : Made} (hm : m ∈ s.made) (hn : n ∈ s.made)
    {c c' : ClassRef} {a a' : String} (km : Keyed m c a) (kn : Keyed n c' a') :
    m.fields = n.fields ↔ c = c' ∧ a = a' := by
  have apart : m ≠ n → Apart m n := h.apart.forall hm hn
  constructor
  · intro same
    by_cases e : m = n
    · exact km.inj (e ▸ kn)
    · exact absurd same (apart e).1
  · rintro ⟨rfl, rfl⟩
    by_cases e : m = n
    · rw [e]
    · exact absurd kn ((apart e).2 _ _ km)

/-- Field sets that are kept cannot be told from new ones, as long as classes declare the same and
nobody changes what was given. -/
theorem transparent (run : Inquiries d qs s) : Inquiry.Transparent d qs := by
  obtain ⟨faithful, all⟩ := run.recalled
  refine ⟨fun q hq => (all q hq).renewed, fun q hq v => (all q hq).whole, ?_, ?_,
    fun q hq => (all q hq).faithful.keeps_trans (all q hq).keeps (all q hq).left.2, ?_⟩
  · intro q hq r hr v w hv hw
    obtain ⟨m, hm, km, rfl⟩ := (all q hq).kept v hv
    obtain ⟨n, hn, kn, rfl⟩ := (all r hr).kept w hw
    rw [← fields_eq_iff faithful hm hn km kn, Value.shared.injEq]
  · intro q hq f hf
    have step := Inquiry.answer_cases (all q hq).faithful (all q hq).declared
    rw [(all q hq).left.1]
    split at step
    · exact step.2
    · obtain ⟨m, -, -, answer, -⟩ := step
      cases answer.symm.trans hf
  · intro q hq p hp
    obtain ⟨n, make_eq⟩ := Inquiry.result_make (all q hq).fits hp
    obtain ⟨made, keepsButPasses⟩ := (all q hq).left
    have left_eq : q.left = (p.make.result q.before).2 := by
      unfold Inquiry.left
      rw [hp]
    cases answer : q.answer with
    | error f =>
      rw [make_eq, answer]
    | ok v =>
      obtain ⟨m, -, -, rfl⟩ := (all q hq).kept v answer
      obtain ⟨es, -, held⟩ := (all q hq).whole answer
      refine ⟨made, (keepsButPasses.namespace? held).trans held.symm, fun w hw => ?_⟩
      rw [answer] at make_eq
      rw [left_eq, make_eq]
      rw [make_eq] at hw
      obtain ⟨h, b, rfl, hb, -, -, -, fields, -⟩ :=
        Plan.exists_completed (Prod.ext hw rfl)
      exact ⟨h, b, rfl, hb, fields⟩

private def hints? (a b : String) : Declaration → Bool
  | ⟨none, .ok false, .ok [(.text none c, false), (.text none d, false)],
      .ok [(.text none c', .ordinary), (.text none d', .ordinary)]⟩ =>
    [c, d] == [a, b] && [c', d'] == [a, b]
  | _ => false

private theorem eq_of_hints? {a b : String} {d : Declaration} (h : hints? a b d = true) :
    d = ⟨none, .ok false, .ok [(.text none a, false), (.text none b, false)],
      .ok [(.text none a, .ordinary), (.text none b, .ordinary)]⟩ := by
  unfold hints? at h
  split at h
  · simp only [Bool.and_eq_true, beq_iff_eq, List.cons.injEq, and_true] at h
    obtain ⟨⟨rfl, rfl⟩, rfl, rfl⟩ := h
    rfl
  · cases h

theorem transparent_twice :
    ∃ (c : ClassRef) (q r w : Inquiry) (v x : Value), q.before.made = [] ∧ r.before = q.left ∧
      w.before = r.left ∧ q.owner = c ∧ r.owner = c ∧ w.owner = c ∧ q.qualifier = "o" ∧
      r.qualifier = "o" ∧ w.qualifier = "p" ∧ r.plan.isSome ∧
      Inquiry.Transparent q.before.declaration [q, r, w] ∧ q.answer = .ok v ∧ r.answer = .ok v ∧
      w.answer = .ok x ∧ x ≠ v ∧ q.after.store.namespaceOf? v = some [("id", some "o.id")] ∧
      w.before.Keeps w.left := by
  let c : ClassRef := .declared 0 "Order" false
  let m : Model :=
    { name := "Order", hints := [("id", .ordinary), ("_note", .ordinary)], attributes := []
      line := [c, .builtin .object] }
  let p : Plan := { base := .text none "from Foo", model := .classOf c, qualifier := .text none "o" }
  let q : Inquiry := { owner := c, mark := none, qualifier := "o", before := { models := [m] } }
  let r : Inquiry := { owner := c, mark := none, qualifier := "o", before := q.left, plan := some p }
  let w : Inquiry := { owner := c, mark := none, qualifier := "p", before := r.left }
  have first := eq_of_hints? (a := "id") (b := "_note") (d := q.before.declaration c)
    (by decide +kernel)
  have again : r.before.declaration c = q.before.declaration c :=
    (eq_of_hints? (by decide +kernel)).trans first.symm
  have last : w.before.declaration c = q.before.declaration c :=
    (eq_of_hints? (by decide +kernel)).trans first.symm
  have fits : r.Fits := by
    rintro _ ⟨⟩
    exact ⟨rfl, rfl, 1, rfl⟩
  have goes : r.before = q.left := by with_reducible rfl
  have goes' : w.before = r.left := by with_reducible rfl
  have one : Inquiries q.before.declaration [q] r.before := by
    rw [goes]
    exact .ask q (.start rfl) rfl (by rintro _ ⟨⟩)
      (.of_hints (d := q.before.declaration) (.of_nil rfl) (.of_written (by decide +kernel)))
  have two : Inquiries q.before.declaration [q, r] w.before := by
    rw [goes']
    exact .ask r one again fits (.of_hints one.recalled.1 (.of_written (by decide +kernel)))
  have promised := transparent (.ask w two last (by rintro _ ⟨⟩)
    (.of_hints two.recalled.1 (.of_written (by decide +kernel))))
  have given : ∀ x : Inquiry, x.answer.toBool = true → ∃ v, x.answer = .ok v := by
    intro x h
    cases e : x.answer with
    | error f => simp [e, Except.toBool] at h
    | ok v => exact ⟨v, rfl⟩
  obtain ⟨v, hv⟩ := given q (by decide +kernel)
  obtain ⟨v', hv'⟩ := given r (by decide +kernel)
  obtain ⟨x, hx⟩ := given w (by decide +kernel)
  obtain rfl := (promised.same_iff q (by simp) r (by simp) v v' hv hv').2 ⟨rfl, rfl⟩
  have apart : x ≠ v := fun e => by
    have same := (promised.same_iff w (by simp) q (by simp) x v hx hv).1 e
    exact absurd same.2 (by decide)
  obtain ⟨es, offered, held⟩ := promised.whole q (by simp) v hv
  have offered_eq : (q.before.declaration c).offered? "o" = some [("id", "o.id")] := by
    rw [first]
    decide +kernel
  cases offered.symm.trans offered_eq
  exact ⟨c, q, r, w, v, x, rfl, goes, goes', rfl, rfl, rfl, rfl, rfl, rfl, rfl, promised, hv, hv',
    hx, apart, held, promised.keeps w (by simp)⟩

/-- A hint that is evaluated takes a field out of what was given. -/
theorem exists_not_keeps :
    ∃ (d : ClassRef → Declaration) (q r : Inquiry), Inquiries d [q] r.before ∧
      r.before.declaration r.owner = d r.owner ∧ r.Fits ∧ ¬ r.before.Keeps r.after := by
  let c : ClassRef := .declared 0 "Item" false
  let e : ClassRef := .declared 1 "Order" false
  let m : Model :=
    { name := "Item", hints := [("id", .ordinary), ("_note", .ordinary)], attributes := []
      line := [c, .builtin .object] }
  let n : Model :=
    { name := "Order", hints := [("ref", .deferred "delattr(fields, 'id')")]
      attributes := [("fields", .shared ⟨1⟩)], line := [e, .builtin .object] }
  let q : Inquiry := { owner := c, mark := none, qualifier := "i", before := { models := [m, n] } }
  let r : Inquiry := { owner := e, mark := none, qualifier := "o", before := q.left }
  have first := eq_of_hints? (a := "id") (b := "_note") (d := q.before.declaration c)
    (by decide +kernel)
  have again := eq_of_hints? (a := "id") (b := "_note") (d := r.before.declaration c)
    (by decide +kernel)
  have goes : r.before = q.left := by with_reducible rfl
  have run : Inquiries r.before.declaration [q] r.before := by
    rw [goes]
    exact .ask q (.start rfl) (first.trans again.symm) (by rintro _ ⟨⟩)
      (.of_hints (d := q.before.declaration) (.of_nil rfl) (.of_written (by decide +kernel)))
  refine ⟨r.before.declaration, q, r, run, rfl, by rintro _ ⟨⟩, ?_⟩
  unfold Session.Keeps
  decide +kernel

end Inquiries

end Criteria
