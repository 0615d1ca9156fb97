import Criteria.Proofs.Immutability
import Criteria.Proofs.Inheritance

set_option autoImplicit false

namespace Criteria

namespace Operation.KeepsButPasses

variable {α : Type}

theorem asking_bind {β : Type} {q : Store → Except Fault α} {f : α → Operation β}
    (hf : ∀ s a, q s = .ok a → KeepsButPasses (f a)) :
    KeepsButPasses (Operation.asking q >>= f) := by
  refine ⟨fun s => ?_, fun s => ?_⟩ <;> rw [result_bind, result_asking] <;> cases e : q s.store
  · exact .refl _
  · exact (hf _ _ e).store s
  · rfl
  · exact (hf _ _ e).made s

theorem of_get {f : Session → Operation α} (hf : ∀ s, KeepsButPasses (f s)) :
    KeepsButPasses (get >>= f) :=
  ⟨fun s => (hf s).store s, fun s => (hf s).made s⟩

theorem putModel (index : Nat) (m : Model) :
    KeepsButPasses (modify fun s => s.putModel index m : Operation Unit) :=
  of_cells fun _ => ⟨rfl, rfl⟩

section Attributes

open Attribute Model

@[grind .] theorem missing (v : Value) (name : String) :
    KeepsButPasses (missing v name : Operation α) := by
  unfold Attribute.missing
  grind

@[grind .] theorem thing (kind : String) : KeepsButPasses (thing kind) := share _

@[grind .] theorem ofBuiltin (table? : Option Value) (c : BuiltinClass) (name : String) :
    KeepsButPasses (ofBuiltin table? c name) := by
  unfold Attribute.ofBuiltin
  grind

@[grind .] theorem along (table? : Option Value) (name : String) (line : List ClassRef) :
    KeepsButPasses (along table? name line) := by
  induction line with
  | nil => exact pure _
  | cons c rest ih =>
    cases c with
    | builtin c =>
      unfold Attribute.along
      grind
    | _ =>
      unfold Attribute.along
      exact of_get fun _ => by grind

@[grind .] theorem readSlot (index : Nat) (m : Model) (slot : Slot) :
    KeepsButPasses (slot.read? index m) := by
  unfold Slot.read?
  split
  · exact pure _
  · exact pure _
  · split
    · exact (share _).bind fun _ => (putModel _ _).bind fun _ => pure _
    · exact pure _
  · exact pure _

@[grind .] theorem slotOf (c : ClassRef) (name : String) : KeepsButPasses (slotOf c name) := by
  unfold Attribute.slotOf
  exact of_get fun _ => by grind

@[grind .] theorem ofClass (c : ClassRef) (name : String) : KeepsButPasses (ofClass c name) := by
  unfold Attribute.ofClass
  refine (slotOf c name).bind fun v? => ?_
  cases v? with
  | some v => exact pure v
  | none => exact of_get fun _ => by grind

@[grind .] theorem held (b : Builder) (name : String) : KeepsButPasses (held b name) := by
  unfold Attribute.held
  grind

@[grind .] theorem ofBuilderClass (h : Handle) (name : String) :
    KeepsButPasses (ofBuilderClass h name) := by
  unfold Attribute.ofBuilderClass
  grind

theorem ofBuilder (h : Handle) (b : Builder) {name : String} (other : name ≠ "index") :
    KeepsButPasses (ofBuilder h b name) := by
  unfold Attribute.ofBuilder
  rw [if_neg other]
  grind

@[grind .] theorem ofMode (m : MatchMode) (name : String) : KeepsButPasses (ofMode m name) := by
  unfold Attribute.ofMode
  grind

@[grind .] theorem ofOther (v : Value) (name : String) : KeepsButPasses (ofOther v name) := by
  unfold Attribute.ofOther
  grind

@[grind .] theorem nestedInProxy (lead : Option Value) (name : String) :
    KeepsButPasses (FieldsProxy.nested lead name) := by
  unfold FieldsProxy.nested
  grind

theorem read (v : Value) {name : String} (other : name ≠ "index") :
    KeepsButPasses (read v name) := by
  have := fun h b => ofBuilder h b other
  unfold Attribute.read
  grind

end Attributes

section Fields

open FieldSet

@[grind .] theorem nameText (v : Value) : KeepsButPasses (nameText v) := by
  have other : "startswith" ≠ "index" := by decide
  have := fun v => read v other
  unfold FieldSet.nameText
  grind

@[grind .] theorem entries (lead : String) (vs : List Value) :
    KeepsButPasses (entries lead vs) := by
  induction vs with
  | nil => exact pure _
  | cons v vs ih =>
    unfold FieldSet.entries
    grind

@[grind .] theorem qualifierLead (v : Value) : KeepsButPasses (qualifierLead v) := by
  unfold Criteria.qualifierLead
  grind

@[grind .] theorem makeProxy (v : Value) : KeepsButPasses (FieldsProxy.make v) := by
  unfold FieldsProxy.make
  grind

end Fields

end Operation.KeepsButPasses

/-- What is left when the hints of a class were resolved, whether or not they could be. -/
def Session.hinted (s : Session) (c : ClassRef) : Session :=
  ((Model.resolveHints (s.line c)).result s).2

/-- Each hint of a line is evaluated without a change of any cell. -/
def Model.Harmless (s : Session) (line : List ClassRef) : Prop :=
  ∀ c ∈ line, ∀ hints scope, hintsOf s c = .ok (hints, scope) →
    ∀ h ∈ hints, Operation.KeepsButPasses (h.2.evaluated (.within scope))

def Model.written (s : Session) (line : List ClassRef) : Bool :=
  line.all fun c =>
    match hintsOf s c with
    | .ok (hints, _) => hints.all fun h => !(h.2 matches .deferred _)
    | .error _ => true

theorem Model.Harmless.of_written {s : Session} {line : List ClassRef}
    (written : Model.written s line = true) : Harmless s line := by
  intro c hc hints scope told h hh
  have all := List.all_eq_true.1 written c hc
  simp only [told, List.all_eq_true] at all
  have one := all h hh
  cases e : h.2 with
  | deferred text => simp [e] at one
  | _ => exact .pure _

theorem Model.Harmless.keepsButPasses {s : Session} {c : ClassRef}
    (harmless : Harmless s (s.line c)) :
    s.store.KeepsButPasses (s.hinted c).store := by
  have all : ∀ d ∈ (s.line c).reverse, Operation.KeepsButPasses (resolveOne s d) := by
    refine fun d hd => .asking_bind fun t found told => ?_
    have one := harmless d (List.mem_reverse.1 hd) found.1 found.2 told
    have resolved : Operation.KeepsButPasses (found.1.resolve (.within found.2)) :=
      .mapM_of_mem fun h hh => ((one h hh).bind fun _ => .pure _).bind fun _ => .pure _
    grind
  exact ((Operation.KeepsButPasses.mapM_of_mem all).bind fun _ => .pure _).store s

def Declaration.Hinted (d : Declaration) : Prop := d.keys = none ∧ d.unhinted = .ok false

namespace FieldSet

open Operation

theorem store_namesResolved {m : Mark} {n : String} {x : Operation (List (Value × Bool))}
    {own : Except Fault Hints} (s : Session) :
    ((namesResolved (.text m n) x own).result s).2.store = (x.result s).2.store := by
  unfold namesResolved
  rw [result_bind, Aside.result_tryCatch, result_bind]
  rcases x.result s with ⟨r, t⟩
  cases r with
  | ok hints => rfl
  | error f =>
    by_cases hp : passedOver f = true
    · simp only [hp, if_true, result_bind, plain, result_asking, Store.plain_text, result_note]
      cases own <;> rfl
    · simp only [hp]
      rfl

theorem store_namesOfClass (c : ClassRef) (s : Session) :
    ((namesOfClass c).result s).2.store = s.store ∨ (s.declaration c).Hinted ∧
      ((namesOfClass c).result s).2.store = (s.hinted c).store := by
  unfold namesOfClass Declaration.Hinted Session.declaration
  simp only [result_bind, result_get]
  cases tableKeys? s.store
    (Model.tableAlong ((s.modelOf? c).bind Model.table?) s (s.line c)) with
  | some keys => exact .inl rfl
  | none =>
    simp only [result_bind]
    rw [result_unhinted]
    cases ((unhinted (List.findSome? (Model.given? s Model.unhintedName) (s.line c))).result s).1 with
    | error f => exact .inl rfl
    | ok b =>
      cases b with
      | true => exact .inl rfl
      | false => exact .inr ⟨⟨trivial, rfl⟩, store_namesResolved s⟩

/-- The store is found on the way to a field set. All cells stay in it as they were at the start, or as
the hints of the class left them. -/
def Finds (s : Session) (c : ClassRef) (t : Store) : Prop :=
  s.store.KeepsButPasses t ∨ (s.declaration c).Hinted ∧ (s.hinted c).store.KeepsButPasses t

theorem finds_aside (s : Session) (made : List Made) (records : List Record) (c : ClassRef)
    (t : Store) : Finds { s with made, records } c t = Finds s c t := by
  have hinted : (Session.hinted { s with made, records } c).store = (s.hinted c).store := by
    obtain ⟨-, rs, -, e⟩ := Aside.resolveHints (s.line c) s
    exact congrArg (fun r => r.2.store) (e made records)
  unfold Finds
  rw [s.declaration_aside, hinted]

theorem finds_build (c : ClassRef) (q : Value) (s : Session) :
    Finds s c ((build (.ofClass c) q).result s).2.store := by
  have made : ∀ c, KeepsButPasses (Operation.alloc c) := fun c =>
    ⟨fun s => .alloc s.store c, fun _ => rfl⟩
  have rest : ((namesOfClass c).result s).2.store.KeepsButPasses
      ((build (.ofClass c) q).result s).2.store := by
    unfold build
    rw [result_bind, declaredNames]
    rcases (namesOfClass c).result s with ⟨r, t⟩
    cases r with
    | error f => exact .refl _
    | ok names =>
      exact ((KeepsButPasses.qualifierLead q).bind fun lead =>
        (KeepsButPasses.entries lead names).bind fun es =>
        made _).store t
  rcases store_namesOfClass c s with e | ⟨hinted, e⟩
  · exact .inl (e ▸ rest)
  · exact .inr ⟨hinted, e ▸ rest⟩

def keyed (c : ClassRef) (k : Mark) (a : String) (h : Handle) : Made :=
  ⟨⟨.classOf c, .ofClass c⟩, ⟨.text k a, .ofText a⟩, h⟩

section Calls

variable {c : ClassRef} {k : Mark} {a : String} {s : Session}

theorem member_classOf (t : Store) (c : ClassRef) :
    t.member (.classOf c) = .ok ⟨.classOf c, .ofClass c⟩ := by
  simp [Store.member, Store.fingerprint, Value.fingerprintWith, Value.atomFingerprint,
    Value.number?, bind, Except.bind]

theorem member_text (t : Store) (k : Mark) (a : String) :
    t.member (.text k a) = .ok ⟨.text k a, .ofText a⟩ := by
  simp [Store.member, Store.fingerprint, Value.fingerprintWith, Value.atomFingerprint,
    Value.number?, bind, Except.bind]

theorem result_forClass_of_some {h : Handle}
    (hf : find? s.store ⟨.classOf c, .ofClass c⟩ ⟨.text k a, .ofText a⟩ s.made = .ok (some h)) :
    ∃ r, (forClass (.classOf c) (.text k a)).result s =
      (.ok (.shared h), { s with records := s.records ++ [r] }) := by
  unfold forClass
  simp only [result_bind, result_asking, member_classOf, member_text, offererOf, result_pure,
    result_get, hf, plain, Offerer.name, Store.plain_text, result_note]
  exact ⟨_, rfl⟩

theorem result_forClass_of_none
    (hf : find? s.store ⟨.classOf c, .ofClass c⟩ ⟨.text k a, .ofText a⟩ s.made = .ok none) :
    ∃ r : Record, ∀ x t, (build (.ofClass c) (.text k a)).result
        { s with records := s.records ++ [r] } = (x, t) →
      match x with
      | .error f => (forClass (.classOf c) (.text k a)).result s = (.error f, t)
      | .ok h => ∃ r', (forClass (.classOf c) (.text k a)).result s = (.ok (.shared h), { t with
          made := t.made ++ [keyed c k a h]
          records := t.records ++ [r'] }) := by
  unfold forClass
  simp only [result_bind, result_asking, member_classOf, member_text, offererOf, result_pure,
    result_get, hf, plain, Offerer.name, Store.plain_text, result_note]
  refine ⟨⟨.debug, .fields, s!"Generating fields proxy for {s.nameOf c} (alias='{a}')"⟩,
    fun x t ht => ?_⟩
  rw [ht]
  cases x with
  | error f => rfl
  | ok h => exact ⟨_, rfl⟩

/-- A call finds the field set that was made, or makes one. -/
theorem finds_forClass (c : ClassRef) (k : Mark) (a : String) (s : Session) :
    s.store.KeepsButPasses ((forClass (.classOf c) (.text k a)).result s).2.store ∨
      find? s.store ⟨.classOf c, .ofClass c⟩ ⟨.text k a, .ofText a⟩ s.made = .ok none ∧
      Finds s c ((forClass (.classOf c) (.text k a)).result s).2.store := by
  cases found : find? s.store ⟨.classOf c, .ofClass c⟩ ⟨.text k a, .ofText a⟩ s.made with
  | error f =>
    refine .inl (.of_cells ?_)
    unfold forClass
    simp only [result_bind, result_asking, member_classOf, member_text, offererOf, result_pure,
      result_get, found]
  | ok h? =>
    cases h? with
    | some h =>
      obtain ⟨r, given⟩ := result_forClass_of_some found
      rw [given]
      exact .inl (.refl _)
    | none =>
      obtain ⟨r, given⟩ := result_forClass_of_none found
      have built := finds_build c (.text k a) { s with records := s.records ++ [r] }
      rw [finds_aside] at built
      rcases e : (build (.ofClass c) (.text k a)).result { s with records := s.records ++ [r] } with
        ⟨x, t⟩
      rw [e] at built
      have given := given x t e
      refine .inr ⟨rfl, ?_⟩
      cases x with
      | error f =>
        rw [given]
        exact built
      | ok h =>
        obtain ⟨r', given⟩ := given
        rw [given]
        exact built

end Calls

end FieldSet

end Criteria
