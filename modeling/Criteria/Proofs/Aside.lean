import Criteria.Collection

set_option autoImplicit false

namespace Criteria

namespace Operation

/-- The operation neither looks at the field sets and the records nor changes them, but for records
of fields that it adds. -/
def Aside {α : Type} (x : Operation α) : Prop :=
  ∀ s, s.store.size ≤ (x.result s).2.store.size ∧
    ∃ rs, (∀ r ∈ rs, r.channel = .fields) ∧ ∀ made records,
      x.result { s with made, records } =
        ((x.result s).1, { (x.result s).2 with made, records := records ++ rs })

namespace Aside

variable {α β : Type}

theorem size_le {x : Operation α} (h : Aside x) (s : Session) :
    s.store.size ≤ (x.result s).2.store.size :=
  (h s).1

theorem made_eq {x : Operation α} (h : Aside x) (s : Session) : (x.result s).2.made = s.made := by
  obtain ⟨-, rs, -, e⟩ := h s
  exact congrArg (fun r => r.2.made) (e s.made s.records)

theorem records_eq {x : Operation α} (h : Aside x) (s : Session) :
    ∃ rs, (x.result s).2.records = s.records ++ rs ∧ ∀ r ∈ rs, r.channel = .fields := by
  obtain ⟨-, rs, hr, e⟩ := h s
  exact ⟨rs, congrArg (fun r => r.2.records) (e s.made s.records), hr⟩

theorem fst_eq {x : Operation α} (h : Aside x) (s : Session) (made : List Made)
    (records : List Record) : (x.result { s with made, records }).1 = (x.result s).1 := by
  obtain ⟨-, rs, -, e⟩ := h s
  rw [e]

theorem of_step {x : Operation α} (f : Store → List Model → Except Fault α)
    (g : Store → List Model → Store × List Model)
    (size_le : ∀ s m, s.size ≤ (g s m).1.size)
    (h : ∀ s, x.result s =
      (f s.store s.models, { s with
        store := (g s.store s.models).1
        models := (g s.store s.models).2 })) : Aside x := by
  intro s
  simp only [h]
  exact ⟨size_le _ _, [], by simp, by simp⟩

@[grind .] theorem pure (a : α) : Aside (Pure.pure a) :=
  of_step (fun _ _ => .ok a) Prod.mk (fun _ _ => Nat.le_refl _) fun _ => rfl

@[grind .] theorem refuse (f : Fault) : Aside (refuse f : Operation α) :=
  of_step (fun _ _ => .error f) Prod.mk (fun _ _ => Nat.le_refl _) fun _ => rfl

theorem throw (f : Fault) : Aside (throw f : Operation α) := refuse f

@[grind .] theorem theStore : Aside theStore :=
  of_step (fun s _ => .ok s) Prod.mk (fun _ _ => Nat.le_refl _) fun _ => rfl

@[grind .] theorem asking (q : Store → Except Fault α) : Aside (asking q) :=
  of_step (fun s _ => q s) Prod.mk (fun _ _ => Nat.le_refl _) fun s => result_asking s q

@[grind .] theorem alloc (c : Cell) : Aside (alloc c) :=
  of_step (fun s _ => .ok (s.alloc c).1) (fun s m => ((s.alloc c).2, m))
    (fun s _ => by simp [Store.alloc, Store.size]) fun _ => rfl

@[grind .] theorem mark : Aside mark :=
  of_step (fun s _ => .ok s.mark.1) (fun s m => (s.mark.2, m)) (fun _ _ => Nat.le_refl _) fun _ => rfl

theorem modifyStore (f : Store → Store) (size_le : ∀ s, s.size ≤ (f s).size) :
    Aside (modify fun s => { s with store := f s.store } : Operation Unit) :=
  of_step (fun _ _ => .ok ()) (fun s m => (f s, m)) (fun s _ => size_le s) fun _ => rfl

@[grind .] theorem put (h : Handle) (c : Cell) : Aside (put h c) :=
  modifyStore (fun s => s.put h c) fun s => by simp [Store.put, Store.size]

@[grind .] theorem give (o : Owner) (es : List (String × Value)) : Aside (give o es) :=
  modifyStore (fun s => s.give o es) fun _ => Nat.le_refl _

theorem putModel (index : Nat) (m : Model) :
    Aside (modify fun s => s.putModel index m : Operation Unit) :=
  of_step (fun _ _ => .ok ()) (fun s ms => (s, ms.set index m)) (fun _ _ => Nat.le_refl _) fun _ => rfl

@[grind .] theorem note (l : Level) (m : String) : Aside (note l .fields m) :=
  fun _ => ⟨Nat.le_refl _, [⟨l, .fields, m⟩], by simp, fun _ _ => rfl⟩

@[grind .] theorem bind {x : Operation α} {f : α → Operation β} (hx : Aside x)
    (hf : ∀ a, Aside (f a)) : Aside (x >>= f) := by
  intro s
  obtain ⟨hl, rs, hc, hm⟩ := hx s
  rcases e : x.result s with ⟨r, t⟩
  rw [e] at hl hm
  cases r with
  | error f =>
    rw [result_bind, e]
    exact ⟨hl, rs, hc, fun made records => by rw [result_bind, hm]⟩
  | ok a =>
    obtain ⟨hl', rs', hc', hm'⟩ := hf a t
    rw [result_bind, e]
    refine ⟨Nat.le_trans hl hl', rs ++ rs', List.forall_mem_append.2 ⟨hc, hc'⟩, fun made records => ?_⟩
    rw [result_bind, hm, ← List.append_assoc]
    exact hm' made (records ++ rs)

@[grind .] theorem share (c : Cell) : Aside (share c) := (alloc c).bind fun _ => pure _

theorem of_get {f : Session → Operation α} (hf : ∀ s, Aside (f s))
    (he : ∀ s made records, f { s with made, records } = f s) : Aside (get >>= f) := by
  intro s
  simp only [result_bind, result_get, he]
  exact hf s s

theorem result_tryCatch (x : Operation α) (f : Fault → Operation α) (s : Session) :
    (tryCatch x f).result s = match x.result s with
      | (.ok a, t) => (.ok a, t)
      | (.error e, t) => (f e).result t := by
  simp only [result, ExceptT.run_tryCatch, StateT.run_bind]
  rcases StateT.run (ExceptT.run x) s with ⟨r, t⟩
  cases r <;> rfl

@[grind .] theorem tryCatch {x : Operation α} {f : Fault → Operation α} (hx : Aside x)
    (hf : ∀ e, Aside (f e)) : Aside (tryCatch x f) := by
  intro s
  obtain ⟨hl, rs, hc, hm⟩ := hx s
  rcases e : x.result s with ⟨r, t⟩
  rw [e] at hl hm
  cases r with
  | ok a =>
    rw [result_tryCatch, e]
    exact ⟨hl, rs, hc, fun made records => by rw [result_tryCatch, hm]⟩
  | error a =>
    obtain ⟨hl', rs', hc', hm'⟩ := hf a t
    rw [result_tryCatch, e]
    refine ⟨Nat.le_trans hl hl', rs ++ rs', List.forall_mem_append.2 ⟨hc, hc'⟩, fun made records => ?_⟩
    rw [result_tryCatch, hm, ← List.append_assoc]
    exact hm' made (records ++ rs)

@[grind .] theorem mapM {f : α → Operation β} (hf : ∀ a, Aside (f a)) (l : List α) :
    Aside (l.mapM f) := by
  induction l with
  | nil => simpa using pure _
  | cons a l ih =>
    rw [List.mapM_cons]
    exact (hf a).bind fun b => ih.bind fun _ => pure _

section Values

@[grind .] theorem fresh (v : Value) : Aside (fresh v) := by
  unfold Operation.fresh
  grind

@[grind .] theorem composed (t : String) : Aside (composed t) := by
  unfold Operation.composed
  grind

@[grind .] theorem settled (v : Value) : Aside (settled v) := by
  unfold Operation.settled
  grind

@[grind .] theorem shown (v : Value) : Aside (shown v) := asking _

@[grind .] theorem plain (v : Value) : Aside (plain v) := asking _

@[grind .] theorem call (v : Value) : Aside (call v) := by
  unfold Operation.call
  grind

@[grind .] theorem drain (v : Value) : Aside (drain v) := by
  unfold Operation.drain
  refine (asking _).bind fun items => (modifyStore (fun s => s.passed v items.length) fun s =>
    Nat.le_of_eq (Builder.size_passed s v items.length).symm).bind fun _ => ?_
  grind

end Values

section Fields

@[grind .] theorem make (path : Value) : Aside (Field.make path) := by
  unfold Field.make
  grind

@[grind .] theorem present (path : Option Value) : Aside (Field.present path) := by
  unfold Field.present
  grind

@[grind .] theorem nested (path : Option Value) (name : String) : Aside (Field.nested path name) := by
  unfold Field.nested
  grind

@[grind .] theorem item (path : Option Value) (key : Value) : Aside (Field.item path key) := by
  unfold Field.item
  grind

@[grind .] theorem qualifierLead (v : Value) : Aside (qualifierLead v) := by
  unfold Criteria.qualifierLead
  grind

@[grind .] theorem makeProxy (v : Value) : Aside (FieldsProxy.make v) := by
  unfold FieldsProxy.make
  grind

@[grind .] theorem nestedInProxy (lead : Option Value) (name : String) :
    Aside (FieldsProxy.nested lead name) := by
  unfold FieldsProxy.nested
  grind

end Fields

section Attributes

open Attribute Model

@[grind .] theorem missing (v : Value) (name : String) : Aside (missing v name : Operation α) := by
  unfold Attribute.missing
  grind

@[grind .] theorem thing (kind : String) : Aside (thing kind) := share _

@[grind .] theorem ofBuiltin (table? : Option Value) (c : BuiltinClass) (name : String) :
    Aside (ofBuiltin table? c name) := by
  unfold Attribute.ofBuiltin
  grind

@[grind .] theorem along (table? : Option Value) (name : String) (line : List ClassRef) :
    Aside (along table? name line) := by
  induction line with
  | nil => exact pure _
  | cons c rest ih =>
    cases c with
    | builtin c =>
      unfold Attribute.along
      grind
    | _ =>
      unfold Attribute.along
      exact of_get (fun _ => by grind) fun _ _ _ => rfl

@[grind .] theorem readSlot (index : Nat) (m : Model) (slot : Slot) : Aside (slot.read? index m) := by
  unfold Slot.read?
  split
  · exact pure _
  · exact pure _
  · split
    · exact (share _).bind fun _ => (putModel _ _).bind fun _ => pure _
    · exact pure _
  · exact pure _

@[grind .] theorem assignSlot (index : Nat) (m : Model) (slot : Slot) (member : String) (v : Value) :
    Aside (slot.assign index m member v) := by
  unfold Slot.assign
  refine theStore.bind fun s => ?_
  split
  · split
    · exact refuse _
    · exact putModel _ _
  all_goals first | exact refuse _ | exact putModel _ _

@[grind .] theorem eraseSlot (index : Nat) (m : Model) (slot : Slot) (member : String) :
    Aside (slot.erase index m member) := by
  unfold Slot.erase
  split
  · split
    · exact refuse _
    · exact putModel _ _
  all_goals exact refuse _

@[grind .] theorem slotOf (c : ClassRef) (name : String) : Aside (slotOf c name) := by
  unfold Attribute.slotOf
  exact of_get (fun _ => by grind) fun _ _ _ => rfl

@[grind .] theorem ofClass (c : ClassRef) (name : String) : Aside (ofClass c name) := by
  unfold Attribute.ofClass
  refine (slotOf c name).bind fun v? => ?_
  cases v? with
  | some v => exact pure v
  | none => exact of_get (fun _ => by grind) fun _ _ _ => rfl

@[grind .] theorem held (b : Builder) (name : String) : Aside (held b name) := by
  unfold Attribute.held
  grind

@[grind .] theorem indexOf (h : Handle) (b : Builder) : Aside (indexOf h b) := by
  unfold Attribute.indexOf
  grind

@[grind .] theorem ofBuilderClass (h : Handle) (name : String) :
    Aside (ofBuilderClass h name) := by
  unfold Attribute.ofBuilderClass
  grind

@[grind .] theorem ofBuilder (h : Handle) (b : Builder) (name : String) :
    Aside (ofBuilder h b name) := by
  unfold Attribute.ofBuilder
  grind

@[grind .] theorem ofMode (m : MatchMode) (name : String) : Aside (ofMode m name) := by
  unfold Attribute.ofMode
  grind

@[grind .] theorem ofOther (v : Value) (name : String) : Aside (ofOther v name) := by
  unfold Attribute.ofOther
  grind

@[grind .] theorem givenOr (v : Value) (name : String) {other : Operation Value} (h : Aside other) :
    Aside (givenOr v name other) := by
  unfold Attribute.givenOr
  grind

@[grind .] theorem read (v : Value) (name : String) : Aside (read v name) := by
  unfold Attribute.read
  grind

@[grind .] theorem assignEntry (h : Handle) (es : List (String × Value)) (name : String)
    (v : Value) : Aside (assignEntry h es name v) := by
  unfold Attribute.assignEntry
  grind

@[grind .] theorem assignCell (h : Handle) (c : Cell) (name : String) (v : Value) :
    Aside (assignCell h c name v) := by
  unfold Attribute.assignCell
  grind

@[grind .] theorem assignClass (c : ClassRef) (name : String) (v : Value) :
    Aside (assignClass c name v) := by
  unfold Attribute.assignClass
  refine of_get (fun s => ?_) fun _ _ _ => rfl
  split
  · split
    · exact assignSlot _ _ _ _ _
    · exact putModel _ _
  · grind
  · exact refuse _

@[grind .] theorem assign (v : Value) (name : String) (w : Value) : Aside (assign v name w) := by
  unfold Attribute.assign
  grind

@[grind .] theorem eraseGiven (o : Owner) (v : Value) (name : String) :
    Aside (eraseGiven o v name) := by
  unfold Attribute.eraseGiven
  grind

@[grind .] theorem eraseCell (h : Handle) (c : Cell) (name : String) :
    Aside (eraseCell h c name) := by
  unfold Attribute.eraseCell
  grind

@[grind .] theorem eraseClass (c : ClassRef) (name : String) : Aside (eraseClass c name) := by
  have lacks : Aside (do
      Operation.refuse (.classLacksAttribute ((← get).nameOf c) name) : Operation Unit) :=
    of_get (fun _ => refuse _) fun _ _ _ => rfl
  unfold Attribute.eraseClass
  refine of_get (fun s => ?_) fun _ _ _ => rfl
  split
  · split
    · exact eraseSlot _ _ _ _
    · split
      · exact putModel _ _
      · exact lacks
  · grind
  · exact refuse _

@[grind .] theorem erase (v : Value) (name : String) : Aside (erase v name) := by
  unfold Attribute.erase
  grind

end Attributes

section Items

open Item

@[grind .] theorem ofRow (items : List Value) (bad outside : Fault) (key : Value) :
    Aside (ofRow items bad outside key) := by
  unfold Item.ofRow
  grind

@[grind .] theorem ofRange (first stop step : Int) (bad : Fault) (key : Value) :
    Aside (ofRange first stop step bad key) := by
  unfold Item.ofRange
  grind

@[grind .] theorem ofEntries (entries : List Entry) (key : Value) : Aside (ofEntries entries key) := by
  unfold Item.ofEntries
  grind

@[grind .] theorem modeNamed (key : Value) : Aside (modeNamed key) := by
  unfold Item.modeNamed
  grind

@[grind .] theorem generic (className unpackedName : String) :
    Aside (Item.generic className unpackedName) := by
  unfold Item.generic
  grind

@[grind .] theorem itemOfClass (c : ClassRef) (key : Value) : Aside (Item.ofClass c key) := by
  unfold Item.ofClass
  grind

@[grind .] theorem itemOfCell (v : Value) (c : Cell) (key : Value) : Aside (ofCell v c key) := by
  unfold Item.ofCell
  grind

@[grind .] theorem readItem (v key : Value) : Aside (Item.read v key) := by
  unfold Item.read
  grind

end Items

@[grind .] theorem change (v : Value) (c : Change) (args : List Value) :
    Aside (Collection.apply v c args) := by
  unfold Collection.apply
  grind

end Aside

end Operation

end Criteria
