import Criteria.FieldSet
import Criteria.Proofs.Aside

set_option autoImplicit false

namespace Criteria

namespace Operation.Aside

open Meaning

section Calls

@[grind .] theorem member (m : Meaning) (name : String) : Aside (member m name) := by
  unfold Meaning.member
  grind

@[grind .] theorem itemOfMeaning (m key : Meaning) : Aside (Meaning.item m key) := by
  unfold Meaning.item
  grind

@[grind .] theorem memberTold (m name : Meaning) : Aside (memberTold m name) := by
  unfold Meaning.memberTold
  grind

@[grind .] theorem memberOr (m name : Meaning) (found : Meaning → Meaning)
    (other? : Option Meaning) : Aside (memberOr m name found other?) := by
  unfold Meaning.memberOr
  refine bind (tryCatch ((memberTold m name).bind fun _ => pure _) fun f => ?_) fun e => ?_
  · have thrown : ∀ g : Meaning → Operation (Except Meaning Meaning), (∀ r, Aside (g r)) →
        Aside (MonadExcept.throw f >>= g) := fun g hg => (throw f).bind hg
    split
    · split
      · exact pure _
      · exact thrown _ fun _ => pure _
    · exact thrown _ fun _ => pure _
  · cases e <;> exact pure _

@[grind .] theorem keptFixed (m name : Meaning) : Aside (keptFixed m name) := by
  unfold Meaning.keptFixed
  grind

theorem memberAnswer? {name : String} {ms : List (Option Meaning)} {x : Operation Meaning}
    (h : memberAnswer? name ms = some x) : Aside x := by
  unfold Meaning.memberAnswer? at h
  split at h <;> grind

@[grind .] theorem answer (name : String) (h : Handed) : Aside (answer name h) := by
  unfold Meaning.answer
  split
  · refine (asking _).bind fun ms => ?_
    split
    · exact pure _
    · split
      · next found => exact memberAnswer? found
      · exact asking _
  all_goals grind

@[grind .] theorem perform (m : Meaning) (name : String) (h : Handed) :
    Aside (perform m name h) := by
  unfold Meaning.perform
  grind

@[grind .] theorem classCalled (c : ClassRef) (h : Handed) : Aside (classCalled c h) := by
  unfold Meaning.classCalled
  have named : Aside (do Operation.refuse (.argumentsUnknown ((← get).nameOf c)) : Operation Meaning) :=
    of_get (fun _ => refuse _) fun _ _ _ => rfl
  grind

@[grind .] theorem valueCalled (v : Value) (h : Handed) : Aside (valueCalled v h) := by
  unfold Meaning.valueCalled
  grind

@[grind .] theorem drained (m : Meaning) : Aside (drained m) := by
  unfold Meaning.drained
  grind

@[grind .] theorem ready (name : String) (h : Handed) : Aside (ready name h) := by
  unfold Meaning.ready
  grind

@[grind .] theorem knownCalled (className : String) (h : Handed) :
    Aside (knownCalled className h) := by
  unfold Meaning.knownCalled
  refine (ready className h).bind fun h => of_get (fun s => ?_) fun _ _ _ => rfl
  grind

@[grind .] theorem formOrAppliedCalled (f : HintForm) (items? : Option (List Meaning))
    (h : Handed) : Aside (formOrAppliedCalled f items? h) := by
  unfold Meaning.formOrAppliedCalled
  grind

@[grind .] theorem called (m : Meaning) (h : Handed) : Aside (called m h) := by
  unfold Meaning.called
  grind

@[grind .] theorem passedOver (m : Meaning) : Aside (passedOver m) := by
  unfold Meaning.passedOver
  grind

@[grind .] theorem spreadOver (m : Meaning) : Aside (spreadOver m) := by
  unfold Meaning.spreadOver
  grind

@[grind .] theorem spreadAlone (callee : Except Fault String) (m : Meaning) :
    Aside (spreadAlone callee m) := by
  unfold Meaning.spreadAlone
  grind

@[grind .] theorem handedTo (callee : Except Fault String) (lone : Bool) (places : List Meaning)
    (names : List (String × Meaning)) : Aside (handedTo callee lone places names) := by
  unfold Meaning.handedTo
  grind

end Calls

end Operation.Aside

def Meaning.Reading.Aside {α : Type} (r : Meaning.Reading α) : Prop :=
  ∀ names, Operation.Aside (r.run names)

namespace Meaning.Reading.Aside

variable {α β : Type}

@[grind .] theorem pure (a : α) : Reading.Aside (Pure.pure a) := fun _ => Operation.Aside.pure _

@[grind .] theorem bind {r : Reading α} {f : α → Reading β} (hr : Reading.Aside r)
    (hf : ∀ a, Reading.Aside (f a)) : Reading.Aside (r >>= f) :=
  fun names => Operation.Aside.bind (hr names) fun x => hf x.1 x.2

@[grind .] theorem lift {x : Operation α} (hx : Operation.Aside x) :
    Reading.Aside (monadLift x : Reading α) :=
  fun _ => Operation.Aside.bind hx fun _ => Operation.Aside.pure _

theorem get : Reading.Aside (MonadState.get : Reading (List Named)) := fun _ => Operation.Aside.pure _

theorem modify (f : List Named → List Named) :
    Reading.Aside (modify f : Reading Unit) := fun _ => Operation.Aside.pure _

@[grind .] theorem nameIn (k : Known) (n : String) : Reading.Aside (nameIn k n) := by
  unfold Meaning.nameIn
  refine get.bind fun _ => ?_
  grind

@[grind .] theorem mapM {f : α → Reading β} (hf : ∀ a, Reading.Aside (f a)) (l : List α) :
    Reading.Aside (l.mapM f) := by
  induction l with
  | nil => simpa using pure _
  | cons a l ih =>
    rw [List.mapM_cons]
    exact (hf a).bind fun b => ih.bind fun _ => pure _

@[grind .] theorem tryCatch {r : Reading α} {f : Fault → Reading α} (hr : Reading.Aside r)
    (hf : ∀ e, Reading.Aside (f e)) : Reading.Aside (tryCatch r f) :=
  fun names => Operation.Aside.tryCatch (hr names) fun e => hf e names

@[grind .] theorem attempted {r : Reading (List Meaning)} (h : Reading.Aside r) :
    Reading.Aside (attempted r) := by
  unfold Meaning.attempted
  refine bind (tryCatch (h.bind fun _ => pure _) fun _ => pure _) fun e => ?_
  cases e <;> exact pure _

mutual

theorem of (k : Known) : ∀ e, Reading.Aside (Meaning.of k e)
  | .name _ | .whole _ | .text _ | .bytes _ | .constant _ | .real _ | .imaginary _ | .clause ..
  | .awaited _ | .yielded _ => by
    rw [Meaning.of]
    grind
  | .composed es | .row es | .list es | .slice es => by
    have := ofAll k es
    rw [Meaning.of]
    grind
  | .inserted e letter shape => by
    have := of k e
    have := ofOption k shape
    rw [Meaning.of]
    grind
  | .set es => by
    have := ofMembers k es
    rw [Meaning.of]
    grind
  | .dictionary es => by
    have := ofEntries k es
    rw [Meaning.of]
    grind
  | .entry a b | .item a b => by
    have := of k a
    have := of k b
    rw [Meaning.of]
    grind
  | .spread e | .keyword _ e | .merged e => by
    rw [Meaning.of]
    exact of k e
  | .member e _ | .unary _ e => by
    have := of k e
    rw [Meaning.of]
    grind
  | .named n e => by
    rw [Meaning.of]
    exact (of k e).bind fun _ => (modify _).bind fun _ => pure _
  | .binary op a b => by
    have := of k a
    have := of k b
    by_cases h : op = "or"
    · rw [h, Meaning.of]
      grind
    by_cases h : op = "and"
    · rw [h, Meaning.of]
      grind
    rw [Meaning.of] <;> grind
  | .comparison ops es => by
    rw [Meaning.of]
    exact ofComparison k ops none es
  | .choice test a b => by
    have := of k test
    have := of k a
    have := of k b
    rw [Meaning.of]
    grind
  | .function _ _ defaults _ => by
    have := ofAll k defaults
    rw [Meaning.of]
    grind
  | .gathered g heads clauses => by
    have := ofSource k clauses
    have := fun items => ofClauses k.within items _ (fun k => ofAll k heads) clauses
    rw [Meaning.of]
    grind
  | .call e arguments => by
    have := of k e
    have := ofPlaces k (isLone arguments) arguments
    have := fun callee => ofNames k callee [] arguments
    cases e with
    | function _ _ defaults body =>
      have := ofAll k defaults
      have := fun k => of k body
      rw [Meaning.of]
      grind
    | _ => rw [Meaning.of] <;> grind

theorem ofOption (k : Known) : ∀ e, Reading.Aside (Meaning.ofOption k e)
  | none => by
    rw [Meaning.ofOption]
    exact pure _
  | some e => by
    rw [Meaning.ofOption]
    exact (of k e).bind fun _ => pure _

theorem ofAll (k : Known) : ∀ es, Reading.Aside (Meaning.ofAll k es)
  | [] => by
    rw [Meaning.ofAll]
    exact pure _
  | e :: es => by
    have := of k e
    have := ofAll k es
    unfold Meaning.ofAll
    grind

theorem ofMembers (k : Known) : ∀ es, Reading.Aside (Meaning.ofMembers k es)
  | [] => by
    rw [Meaning.ofMembers]
    exact pure _
  | e :: es => by
    have := of k e
    have := ofMembers k es
    unfold Meaning.ofMembers
    grind

theorem ofEntries (k : Known) : ∀ es, Reading.Aside (Meaning.ofEntries k es)
  | [] => by
    rw [Meaning.ofEntries]
    exact pure _
  | e :: es => by
    have := of k e
    have := ofEntries k es
    unfold Meaning.ofEntries
    grind

theorem ofPlaces (k : Known) (lone : Bool) : ∀ es, Reading.Aside (Meaning.ofPlaces k lone es)
  | [] => by
    rw [Meaning.ofPlaces]
    exact pure _
  | e :: es => by
    have := of k e
    have := ofPlaces k lone es
    unfold Meaning.ofPlaces
    grind

theorem ofNames (k : Known) (callee : Except Fault String) (names : List (String × Meaning)) :
    ∀ es, Reading.Aside (Meaning.ofNames k callee names es)
  | [] => by
    rw [Meaning.ofNames]
    exact pure _
  | e :: es => by
    have := ofNames k callee names es
    have := fun names => ofNames k callee names es
    cases e with
    | keyword _ e | merged e =>
      have := of k e
      rw [Meaning.ofNames]
      grind
    | _ => rw [Meaning.ofNames] <;> grind

theorem ofComparison (k : Known) (ops : List String) (left? : Option Meaning) :
    ∀ es, Reading.Aside (Meaning.ofComparison k ops left? es)
  | [] => by
    rw [Meaning.ofComparison]
    exact pure _
  | e :: es => by
    have := of k e
    have := fun ops left? => ofComparison k ops left? es
    unfold Meaning.ofComparison
    split <;> grind

theorem ofSource (k : Known) : ∀ es, Reading.Aside (Meaning.ofSource k es)
  | [] => by
    rw [Meaning.ofSource] <;> grind
  | e :: es => by
    cases e with
    | clause _ _ source _ =>
      have := of k source
      rw [Meaning.ofSource]
      grind
    | _ => rw [Meaning.ofSource] <;> grind

theorem ofClauses (k : Known) (items : List Meaning) (next : Known → Reading (List Meaning))
    (h : ∀ k, Reading.Aside (next k)) : ∀ es, Reading.Aside (Meaning.ofClauses k items next es)
  | [] => by
    rw [Meaning.ofClauses]
    exact h k
  | c :: cs => by
    have rest := fun k items => ofClauses k items next h cs
    have := fun k => ofSource k cs
    rw [Meaning.ofClauses]
    exact ofClause k items _ (by grind) c

theorem ofClause (k : Known) (items : List Meaning) (next : Known → Reading (List Meaning))
    (h : ∀ k, Reading.Aside (next k)) (e : Expression) :
    Reading.Aside (Meaning.ofClause k items next e) := by
  cases e with
  | clause _ _ _ tests =>
    have := fun k => allHold k tests
    rw [Meaning.ofClause]
    grind
  | _ => rw [Meaning.ofClause] <;> grind

theorem allHold (k : Known) : ∀ es, Reading.Aside (Meaning.allHold k es)
  | [] => by
    rw [Meaning.allHold]
    exact pure _
  | e :: es => by
    have := of k e
    have := allHold k es
    rw [Meaning.allHold]
    grind

end

end Meaning.Reading.Aside

namespace Operation.Aside

open Meaning

@[grind .] theorem ofExpression (around : Surroundings) (e : Expression) :
    Aside (ofExpression around e) :=
  (Reading.Aside.of { around } e []).bind fun _ => pure _

@[grind .] theorem resolved (around : Surroundings) (steps : Nat) :
    ∀ evaluated m, Aside (resolved around steps evaluated m) := by
  induction steps with
  | zero =>
    intro evaluated m
    exact pure m
  | succ steps ih =>
    intro evaluated m
    unfold Meaning.resolved
    grind

@[grind .] theorem evaluated (around : Surroundings) (h : Hint) : Aside (h.evaluated around) := by
  unfold Hint.evaluated
  grind

@[grind .] theorem resolve (around : Surroundings) (h : Hint) : Aside (h.resolve around) := by
  unfold Hint.resolve
  grind

@[grind .] theorem resolveAll (around : Surroundings) (hints : Hints) :
    Aside (hints.resolve around) := by
  unfold Hints.resolve
  grind

@[grind .] theorem resolveHints (line : List ClassRef) : Aside (Model.resolveHints line) := by
  unfold Model.resolveHints
  refine of_get (fun s => (mapM (fun c => ?_) _).bind fun _ => pure _) fun _ _ _ => rfl
  grind

end Operation.Aside

end Criteria
