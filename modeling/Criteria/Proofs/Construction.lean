import Criteria.Builder.Create

set_option autoImplicit false

namespace Criteria

theorem Value.withMark_mark (v : Value) : v.withMark v.mark = v := by
  cases v <;> rfl

namespace Operation

theorem of_bind {α β : Type} {x : Operation α} {f : α → Operation β} {s t : Session} {b : β}
    (h : (x >>= f).result s = (.ok b, t)) :
    ∃ a u, x.result s = (.ok a, u) ∧ (f a).result u = (.ok b, t) := by
  rw [result_bind] at h
  rcases hx : x.result s with ⟨r, u⟩
  rw [hx] at h
  cases r with
  | error e => simp at h
  | ok a => exact ⟨a, u, rfl, h⟩

theorem of_asking {α : Type} {q : Store → Except Fault α} {s t : Session} {a : α}
    (h : (asking q).result s = (.ok a, t)) : q s.store = .ok a ∧ s = t := by
  rw [result_asking] at h
  exact ⟨congrArg Prod.fst h, congrArg Prod.snd h⟩

theorem result_fresh_eq (v : Value) (s : Session) :
    ∃ m marks, (fresh v).result s =
      (.ok (v.withMark m), { s with store := { s.store with marks } }) := by
  unfold fresh
  split
  · exact ⟨none, s.store.marks, rfl⟩
  · exact ⟨s.store.mark.1, s.store.mark.2.marks, rfl⟩

theorem result_settled_eq (v : Value) (s : Session) :
    ∃ m marks, (settled v).result s =
      (.ok (v.withMark m), { s with store := { s.store with marks } }) := by
  unfold settled
  split
  · exact ⟨v.mark, s.store.marks, by rw [Value.withMark_mark]; rfl⟩
  · exact result_fresh_eq v s

theorem result_composed_eq (t : String) (s : Session) :
    ∃ m marks, (composed t).result s =
      (.ok (.text m t), { s with store := { s.store with marks } }) := by
  unfold composed
  split
  · exact ⟨none, s.store.marks, rfl⟩
  · exact ⟨s.store.mark.1, s.store.mark.2.marks, rfl⟩

theorem result_drain_of_list {h : Handle} {items : List Value} {s : Session}
    (hc : s.store.cell? h = some (.list items)) : (drain (.shared h)).result s = (.ok items, s) := by
  have elements_eq : s.store.elements (.shared h) = .ok items := by
    simp [Store.elements, Store.elements?, hc, Cell.elements?]
  have passed_eq : ∀ n, s.store.passed (.shared h) n = s.store := by
    intro n
    simp [Store.passed, hc]
  simp only [drain, result_bind, result_asking, elements_eq, result_modify, passed_eq, result_pure]

end Operation

namespace Plan

open Operation

structure Fresh (p : Plan) (s : Session) (b : Builder) : Prop where
  base : b.base = p.base
  start : startIndex s.store p.start = .ok b.index
  writable : b.index < Whole.bound
  conditions : b.conditions = p.conditions
  bound : b.bound = []
  order : b.order = none
  reserved : ∃ u w, p.reservedArgs.result u = (.ok b.reserved, w)

def completed (p : Plan) (index : Nat) (fields : Value) : Operation Value := do
  p.conditions.forM noteCondition
  let reserved ← p.reservedArgs
  let base ← plain p.base
  let start ← asking fun _ => Whole.written index
  note .info .builder
    (s!"Initializing ConditionBuilder for '{base}' " ++
      s!"(start_index={start}, reserved_args={reserved.length})")
  share (.builder { base := p.base, index, model := some p.model, fields := some fields
                    conditions := p.conditions, reserved, met := some (index, p.start.mark) })

theorem make_eq (p : Plan) : p.make = (do
    let index ← asking fun s => startIndex s p.start
    let fields ← p.offeredFields
    p.completed index fields) := rfl

/-- A construction goes as far as its fields are found, and then on to its end. -/
theorem result_make {p : Plan} {s : Session} {n : Nat} (hn : startIndex s.store p.start = .ok n) :
    p.make.result s = match p.offeredFields.result s with
      | (.error f, u) => (.error f, u)
      | (.ok fields, u) => (p.completed n fields).result u := by
  simp only [make_eq, result_bind, result_asking, hn]
  rcases p.offeredFields.result s with ⟨_ | _, _⟩ <;> rfl

theorem exists_completed {p : Plan} {n : Nat} {fields v : Value} {s t : Session}
    (h : (p.completed n fields).result s = (.ok v, t)) :
    ∃ k b, v = .shared k ∧ t.store.builder? k = some b ∧ b.base = p.base ∧ b.index = n ∧
      n < Whole.bound ∧ b.fields = some fields ∧ b.conditions = p.conditions ∧ b.bound = [] ∧
      b.order = none ∧ ∃ u w, p.reservedArgs.result u = (.ok b.reserved, w) := by
  unfold completed at h
  obtain ⟨_, s₁, _, h₁⟩ := of_bind h
  obtain ⟨reserved, s₂, hr, h₂⟩ := of_bind h₁
  obtain ⟨base, s₃, _, h₃⟩ := of_bind h₂
  obtain ⟨start, s₄, hs, h₄⟩ := of_bind h₃
  obtain ⟨_, s₅, _, h₅⟩ := of_bind h₄
  have hw := (of_asking hs).1
  rw [result_share] at h₅
  cases h₅
  have hb := Builder.builder?_eq_some.2 (Store.cell?_alloc s₅.store (.builder
    { base := p.base, index := n, model := some p.model, fields := some fields
      conditions := p.conditions, reserved, met := some (n, p.start.mark) }))
  have hl : n < Whole.bound := by
    unfold Whole.written at hw
    split at hw
    · next hlt => simpa using hlt
    · cases hw
  exact ⟨_, _, rfl, hb, rfl, rfl, hl, rfl, rfl, rfl, rfl, s₁, s₂, hr⟩

theorem exists_fresh {p : Plan} {s t : Session} {v : Value}
    (h : p.make.result s = (.ok v, t)) :
    ∃ k b, v = .shared k ∧ t.store.builder? k = some b ∧ p.Fresh s b := by
  rw [make_eq] at h
  obtain ⟨n, s₁, hn, h₁⟩ := of_bind h
  obtain ⟨fields, s₂, _, h₂⟩ := of_bind h₁
  obtain ⟨k, b, hv, hb, base, rfl, writable, _, conditions, bound, order, reserved⟩ :=
    exists_completed h₂
  exact ⟨k, b, hv, hb, base, (of_asking hn).1, writable, conditions, bound, order, reserved⟩

theorem Fresh.of_make {p : Plan} {s t : Session} {h : Handle} {b : Builder}
    (hm : p.make.result s = (.ok (.shared h), t)) (hb : t.store.builder? h = some b) :
    p.Fresh s b := by
  obtain ⟨k, c, e, hc, hf⟩ := exists_fresh hm
  cases e
  rw [hb] at hc
  cases hc
  exact hf

theorem exists_make {n : Nat} (hn : n < Whole.bound) (base : String) (s : Session) :
    ∃ t h b, (make { base := .text none base, start := .int none n }).result s =
      (.ok (.shared h), t) ∧ t.store.builder? h = some b ∧ b.index = n ∧ b.reserved = [] := by
  have hw : Whole.written (n : Int) = .ok (toString (n : Int)) :=
    Whole.written_of_lt _ (by simpa using hn)
  have hf : ∃ v u, (FieldsProxy.make (.text none "")).result s = (.ok v, u) := ⟨_, _, rfl⟩
  obtain ⟨v, u, hf⟩ := hf
  unfold make
  simp only [result_bind, result_asking, startIndex, offeredFields, hf, conditions, result_pure,
    reservedArgs, plain, hw, result_note, result_share]
  exact ⟨_, _, _, rfl, Builder.builder?_eq_some.2 (Store.cell?_alloc ..), rfl, rfl⟩

end Plan

end Criteria
