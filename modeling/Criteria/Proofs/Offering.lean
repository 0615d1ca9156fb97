import Criteria.Builder.Create
import Criteria.Proofs.Construction
import Criteria.Proofs.Hinting

set_option autoImplicit false

namespace Criteria

theorem Model.tableAlong_aside (own? : Option Value) (s : Session) (made : List Made)
    (records : List Record) (line : List ClassRef) :
    tableAlong own? { s with made, records } line = tableAlong own? s line := by
  have given (c : ClassRef) :
      given? { s with made, records } tableName c = given? s tableName c := rfl
  fun_induction tableAlong own? s line with
  | case1 | case2 => rfl
  | case3 c rest hc v hv =>
    rw [tableAlong, given, hv]
    exact hc
  | case4 c rest hc hv ih =>
    rw [tableAlong, given, hv]
    · exact ih
    · exact hc

namespace Operation.Aside

open FieldSet

theorem namesResolved (name : Value) {x : Operation (List (Value × Bool))} (h : Aside x)
    (own : Except Fault Hints) : Aside (namesResolved name x own) := by
  unfold FieldSet.namesResolved
  refine bind (tryCatch (h.bind fun _ => pure _) fun f => ?_) fun e => by cases e <;> exact pure _
  split
  · exact (plain name).bind fun _ => (note _ _).bind fun _ => (asking _).bind fun _ => pure _
  · exact (refuse f).bind fun _ => pure _

@[grind .] theorem unhinted (v? : Option Value) : Aside (unhinted v?) := by
  unfold FieldSet.unhinted
  grind

theorem namesOfClass (c : ClassRef) : Aside (namesOfClass c) := by
  unfold FieldSet.namesOfClass
  refine of_get (fun s => ?_) fun s made records => ?_
  · have := namesResolved (.text none (s.nameOf c)) (resolveHints (s.line c))
    grind
  · simp only [Model.tableAlong_aside]
    rfl

theorem namesOfValue (v name : Value) : Aside (namesOfValue v name) := by
  have := fun x => namesResolved (x := x) name
  unfold FieldSet.namesOfValue
  grind

@[grind .] theorem declaredNames (o : Offerer) : Aside (declaredNames o) := by
  unfold FieldSet.declaredNames
  split
  · exact namesOfClass _
  · exact namesOfValue _ _

@[grind .] theorem nameText (v : Value) : Aside (nameText v) := by
  unfold FieldSet.nameText
  grind

@[grind .] theorem entries (lead : String) (vs : List Value) : Aside (entries lead vs) := by
  induction vs with
  | nil => exact pure _
  | cons v vs ih =>
    unfold FieldSet.entries
    grind

theorem offererOf (v : Value) : Aside (offererOf v) := by
  unfold FieldSet.offererOf
  grind

theorem build (o : Offerer) (qualifier : Value) : Aside (build o qualifier) := by
  unfold FieldSet.build
  grind

end Operation.Aside

def Operation.Noting {α : Type} (x : Operation α) : Prop :=
  ∀ s, ∃ rs, (x.result s).2.records = s.records ++ rs ∧ ∀ r ∈ rs, r.channel = .fields

namespace Operation

variable {α β : Type}

theorem Aside.noting {x : Operation α} (h : Aside x) : Noting x := h.records_eq

namespace Noting

theorem bind {x : Operation α} {f : α → Operation β} (hx : Noting x) (hf : ∀ a, Noting (f a)) :
    Noting (x >>= f) := by
  intro s
  obtain ⟨rs, hr, hc⟩ := hx s
  rw [result_bind]
  rcases e : x.result s with ⟨r, t⟩
  rw [e] at hr
  cases r with
  | error f => exact ⟨rs, hr, hc⟩
  | ok a =>
    obtain ⟨rs', hr', hc'⟩ := hf a t
    exact ⟨rs ++ rs', by rw [hr', hr, List.append_assoc], List.forall_mem_append.2 ⟨hc, hc'⟩⟩

theorem of_get {f : Session → Operation α} (hf : ∀ s, Noting (f s)) : Noting (get >>= f) :=
  fun s => hf s s

theorem addMade (m : Made) :
    Noting (modify fun s => { s with made := s.made ++ [m] } : Operation Unit) :=
  fun _ => ⟨[], by simp, by simp⟩

end Noting

end Operation

namespace FieldSet

open Operation

theorem noting_forClass (owner qualifier : Value) : Noting (forClass owner qualifier) := by
  have told : ∀ (o : Offerer) (f : String → String → Operation Value), (∀ n q, Noting (f n q)) →
      ∀ v, Noting (do f (← plain (o.name (← get))) (← plain v)) :=
    fun o f hf v => .of_get fun s => (Aside.plain _).noting.bind fun n =>
      (Aside.plain v).noting.bind fun q => hf n q
  unfold forClass
  refine (Aside.asking _).noting.bind fun m => (Aside.asking _).noting.bind fun k =>
    (Aside.offererOf _).noting.bind fun o => .of_get fun s =>
    (Aside.asking _).noting.bind fun found => ?_
  cases found with
  | some h => exact told o _ (fun _ _ => ((Aside.note _ _).bind fun _ => .pure _).noting) _
  | none =>
    exact told o _ (fun _ _ => (Aside.note _ _).noting.bind fun _ =>
      (Aside.build o _).noting.bind fun h => (Noting.addMade _).bind fun _ =>
      (Aside.theStore.bind fun _ => (Aside.note _ _).bind fun _ => .pure _).noting) _

end FieldSet

theorem Plan.noting_offeredFields (p : Plan) : Operation.Noting p.offeredFields := by
  unfold offeredFields
  split
  · exact (Operation.Aside.makeProxy _).noting
  · exact FieldSet.noting_forClass _ _

end Criteria
