import Criteria.Proofs.Fitness
import Criteria.Proofs.Trail

set_option autoImplicit false

namespace Criteria

namespace Store

structure Collects (s : Store) (v : Value) : Prop where
  sized : ∀ kind, s.length v ≠ .error (.noLength kind)
  passes : s.iterable v = true

def barred (s : Store) (v : Value) : Bool :=
  match v, s.cellOf? v with
  | .text .., _ | .bytes .., _ | _, some (.byteArray _) | _, some (.dict ..) => true
  | _, _ => false

/-- A list holds the elements of a value in order, in a cell that is not in the store. -/
structure Lists (s t : Store) (v w : Value) : Prop where
  exists_cell : ∃ k items, w = .shared k ∧ s.cell? k = none ∧ t.cell? k = some (.list items) ∧
    s.elements? v = some items

variable {s : Store} {v : Value}

theorem countedLength_ne (n : Nat) (kind : String) : countedLength n ≠ .error (.noLength kind) := by
  unfold countedLength
  split <;> simp

theorem toldLength_ne (n : Int) (kind : String) : toldLength n ≠ .error (.noLength kind) := by
  unfold toldLength
  split
  · split <;> simp
  · simp

theorem iterable_of_uncounted (h : s.collectionSize? v = none)
    (sized : ∀ kind, s.length v ≠ .error (.noLength kind)) : s.iterable v = false := by
  unfold length at sized
  rw [h] at sized
  split at sized
  · next n hc =>
    cases v <;> simp_all [cellOf?, iterable, elements?, Cell.elements?]
  · next b hc =>
    cases v <;> simp_all [cellOf?, iterable, elements?, Cell.elements?]
  · contradiction
  · exact absurd rfl (sized _)

theorem iterable_of_counted {n : Nat} (h : s.collectionSize? v = some n) : s.iterable v = true := by
  cases v with
  | shared k =>
    obtain ⟨c, hc, hs⟩ := Option.bind_eq_some_iff.1 h
    cases c <;> cases hs <;> simp [iterable, elements?, hc, Cell.elements?]
  | classOf c =>
    unfold collectionSize? at h
    split at h <;> simp_all [iterable, elements?]
  | range | text | bytes | tuple | point => rfl
  | _ => cases h

theorem collects_iff : s.Collects v ↔ (s.collectionSize? v).isSome = true := by
  cases h : s.collectionSize? v with
  | none =>
    refine iff_of_false (fun c => ?_) (by simp)
    exact Bool.false_ne_true ((iterable_of_uncounted h c.sized).symm.trans c.passes)
  | some n =>
    refine iff_of_true ⟨fun kind => ?_, iterable_of_counted h⟩ rfl
    unfold length
    rw [h]
    split
    · exact toldLength_ne _ _
    · simp
    · exact countedLength_ne _ _
    · contradiction

theorem listable_iff : s.listable v = true ↔ s.Collects v ∧ s.barred v = false := by
  rw [collects_iff]
  cases v with
  | shared k =>
    cases hc : s.cell? k with
    | none => simp [listable, collectionSize?, hc]
    | some c =>
      cases c <;> simp [listable, barred, collectionSize?, cellOf?, Cell.collectionSize?, hc]
  | _ => simp [listable, barred, cellOf?, collectionSize?]

theorem of_stream {generated : Bool} {rest : List Value}
    (h : s.cellOf? v = some (.stream generated rest)) :
    s.present v = .ok true ∧ ¬ s.Collects v := by
  rw [collects_iff]
  cases v with
  | shared k =>
    have hc : s.cell? k = some (.stream generated rest) := h
    simp [present, collectionSize?, hc, Cell.collectionSize?]
  | _ => cases h

theorem exists_of_path? {path : String} (h : s.path? v = some path) :
    ∃ p, s.fieldPath v = .ok p ∧ s.plain p = .ok path := by
  rw [path?_eq] at h
  split at h
  · next p hp =>
    refine ⟨p, hp, ?_⟩
    unfold written? at h
    cases hw : s.plain p with
    | ok w => rw [hw] at h; cases h; rfl
    | error f => rw [hw] at h; cases h
  · cases h

end Store

namespace Request

variable {s : Store} {field values : Value} {path : String}

theorem rule_within (hp : s.path? field = some path) (present : s.present values = .ok true) :
    (within field values).rule s =
      if s.listable values then .ok (.add (.within path) [binding s values])
      else .error (.withinKind (s.shortName values)) := by
  obtain ⟨p, read, written⟩ := Store.exists_of_path? hp
  simp only [rule, ruleWithin, read, present, bind, Except.bind, if_true]
  split
  · rw [written]
  · rfl

end Request

namespace BuilderCall

open Builder

theorem result_of_request {a : BuilderCall} {r : Request} {h : Handle} {b : Builder} {s : Session}
    (ha : a.request? = some r) (hb : s.store.builder? h = some b) :
    (a.perform h).result s =
      (((request h r).result s).1.map fun _ => .shared h, ((request h r).result s).2) := by
  cases a with
  | index => cases ha
  | call name g =>
    obtain ⟨op, hn, taken⟩ := Option.bind_eq_some_iff.1 ha
    obtain ⟨t, ht, rfl⟩ := Option.map_eq_some_iff.1 taken
    have result_eq := Call.result_onBuilder (g := g) hb hn
    cases e : op.1.take g with
    | error f => rw [e] at ht; cases ht
    | ok t' =>
      rw [e] at ht result_eq
      cases ht
      exact result_eq

end BuilderCall

namespace Builder

open Operation

/-- The call has taken a collection whole. The builder has one more condition, whose single number
stands for one more argument. A tuple or a set is bound as a fresh list of its elements, any other
collection as it is, and what is bound is bound as it is from then on. -/
structure Gathered (h : Handle) (b : Builder) (path : String) (values : Value) (d : CallMade) :
    Prop where
  answer : d.answer = .ok (.shared h)
  exists_bound : ∃ w,
    d.after.store.builder? h = some { b with
      index := b.index + 1
      conditions := b.conditions ++ [path ++ " in ?" ++ toString b.index]
      bound := b.bound ++ [w] } ∧
    (if Request.listed d.before.store values then d.before.store.Lists d.after.store values w
      else w = values) ∧
    (Collection.normalized w).result d.after = (.ok w, d.after)

section Within

variable {h : Handle} {b : Builder} {s : Session} {field values : Value} {path : String}

theorem add_within (b : Builder) (path : String) (w : Value) :
    b.add (.within path) [w] = { b with
      index := b.index + 1
      conditions := b.conditions ++ [path ++ " in ?" ++ toString b.index]
      bound := b.bound ++ [w] } := by
  simp only [add, Clause.render, placeholder, Text.placeholderMark, Clause.arity]
  have mark : path ++ " in " ++ "?" = path ++ " in ?" := String.append_assoc
  rw [← String.append_assoc, mark]

theorem normalized_of_kept {v : Value} (h : s.store.copied? v = none) :
    (Collection.normalized v).result s = (.ok v, s) := by
  simp only [Collection.normalized, Operation.result_bind, Operation.result_theStore,
    Request.binding, h]
  rfl

theorem copied?_eq_elements? {s : Store} {v : Value} {items : List Value}
    (h : s.copied? v = some items) : s.elements? v = some items := by
  unfold Store.copied? at h
  split at h
  · exact h
  · exact h
  · split at h
    · next hc => cases h; simp [Store.elements?, hc, Cell.elements?]
    · cases h
  · cases h

theorem startingAt_within {bs : List Binding} (hn : b.index < Whole.bound) :
    (Ruling.add (.within path) bs).startingAt b.index = .add (.within path) bs :=
  Ruling.startingAt_add_of_le bs (by simp only [Clause.arity]; omega)

theorem lists_of_copied {items : List Value} (hb : s.store.builder? h = some b)
    (hn : b.index < Whole.bound) (hp : s.store.path? field = some path)
    (present : s.store.present values = .ok true) (listable : s.store.listable values = true)
    (copied : s.store.copied? values = some items) :
    ((request h (.within field values)).result s).2.store.cell? ⟨s.store.size⟩ =
      some (.list items) := by
  have rule_eq := Request.rule_within hp present
  have bindings : (⟨s.store, .within field values⟩ : RequestAt).bindings b.index =
      [.copy (s.store.shortName values) items] := by
    simp only [RequestAt.bindings, RequestAt.ruling, rule_eq, listable, if_true, Except.map,
      startingAt_within hn, Request.binding, copied]
  exact cell?_copied hb bindings

theorem bound_within (hb : s.store.builder? h = some b) (hn : b.index < Whole.bound)
    (hp : s.store.path? field = some path) (present : s.store.present values = .ok true)
    (listable : s.store.listable values = true) :
    ∃ w, boundFrom s.store.size [Request.binding s.store values] = [w] ∧
      (if Request.listed s.store values
        then s.store.Lists ((request h (.within field values)).result s).2.store values w
        else w = values) ∧
      ((request h (.within field values)).result s).2.store.copied? w = none := by
  rw [Request.listed_eq_copied?]
  cases copied : s.store.copied? values with
  | none =>
    refine ⟨values, by simp only [Request.binding, copied, boundFrom], rfl, ?_⟩
    exact ((keeps_request hb values).listed ⟨listable, copied⟩).2
  | some items =>
    have hc := lists_of_copied hb hn hp present listable copied
    have free : s.store.cell? ⟨s.store.size⟩ = none := by simp [Store.cell?, Store.size]
    refine ⟨.shared ⟨s.store.size⟩, by simp only [Request.binding, copied, boundFrom], ?_, ?_⟩
    · exact ⟨_, items, rfl, free, hc, copied?_eq_elements? copied⟩
    · simp only [Store.copied?, hc]

/-- What an `in` condition makes of a present value, for a reference that can be written. -/
theorem gathered_or_refused {a : BuilderCall} (asked : a.request? = some (.within field values))
    (hb : s.store.builder? h = some b) (hp : s.store.path? field = some path)
    (present : s.store.present values = .ok true) :
    (s.store.Collects values ∧ s.store.barred values = false → b.index < Whole.bound →
      (CallMade.of h a s).Shows h → Gathered h b path values (CallMade.of h a s)) ∧
    (¬ (s.store.Collects values ∧ s.store.barred values = false) →
      (a.perform h).result s = (.error (.withinKind (s.store.shortName values)), s)) ∧
    (∀ generated rest, s.store.cellOf? values = some (.stream generated rest) →
      (a.perform h).result s = (.error (.withinKind (s.store.shortName values)), s)) := by
  have result_eq := BuilderCall.result_of_request asked hb
  have rule_eq := Request.rule_within hp present
  have refused : ¬ (s.store.Collects values ∧ s.store.barred values = false) →
      (a.perform h).result s = (.error (.withinKind (s.store.shortName values)), s) := by
    intro unfit
    rw [← Store.listable_iff] at unfit
    rw [if_neg unfit] at rule_eq
    rw [result_eq, result_request_of_error hb rule_eq]
    rfl
  refine ⟨fun fit hn shows => ?_, refused, fun generated rest hs => refused fun c => ?_⟩
  · rw [← Store.listable_iff] at fit
    rw [if_pos fit] at rule_eq
    obtain ⟨w, bound_eq, held, kept⟩ := bound_within hb hn hp present fit
    have after_eq := builder?_request h b (.within field values) s hb
    rw [rule_eq, Except.map, startingAt_within hn, Builder.after, bound_eq] at after_eq
    have left : (CallMade.of h a s).after = ((request h (.within field values)).result s).2 := by
      rw [CallMade.of, result_eq]
    have result_ok := result_request_of_ok hb rule_eq
    rw [startingAt_within hn] at result_ok
    refine ⟨?_, w, by rw [left, after_eq, add_within], by rw [left]; exact held,
      normalized_of_kept (by rw [left]; exact kept)⟩
    obtain ⟨t, ht⟩ := shows b _ hb (by rw [left]; exact after_eq)
    have bound_drop : (b.add (.within path) [w]).bound.drop b.bound.length = [w] := by
      simp [add]
    have answer_eq := fst_carryOut_add h b (.within path) [Request.binding s.store values] s
    have same : (request h (.within field values)).result s =
        (carryOut h b (.add (.within path) [Request.binding s.store values])).result s := result_ok
    rw [bound_drop, left, same] at ht
    rw [bound_eq, addRecord, ht] at answer_eq
    rw [CallMade.of, result_eq, same, answer_eq]
    rfl
  · exact (Store.of_stream hs).2 c.1

end Within

theorem gathered_tuple :
    ∃ t b, (do
        let _ ← (Plan.of (.text none "from Foo") (.int none 1) [] .null (.text none "")).make
        share (.stream true [])).result {} = (.ok (.shared ⟨2⟩), t) ∧
      t.store.builder? ⟨1⟩ = some b ∧
      Gathered ⟨1⟩ b "a" (.tuple none [.int none 2, .int none 2]) (CallMade.of ⟨1⟩ (.call "in_"
        { places := [.text none "a", .tuple none [.int none 2, .int none 2]] }) t) ∧
      (Call.onBuilder ⟨1⟩ "in_" { places := [.text none "a", .shared ⟨2⟩] }).result t =
        (.error (.withinKind "generator"), t) := by
  let t : Session := ((do
    let _ ← (Plan.of (.text none "from Foo") (.int none 1) [] .null (.text none "")).make
    share (.stream true []) : Operation Value).result {}).2
  have hb : t.store.builder? ⟨1⟩ = some _ := rfl
  have hn : 1 < Whole.bound := Whole.two_le_bound
  have row := gathered_or_refused (a := .call "in_"
    { places := [.text none "a", .tuple none [.int none 2, .int none 2]] }) rfl hb rfl rfl
  have pass := gathered_or_refused (a := .call "in_" { places := [.text none "a", .shared ⟨2⟩] })
    rfl hb rfl rfl
  exact ⟨t, _, rfl, hb,
    row.1 ⟨Store.collects_iff.2 rfl, rfl⟩ hn (CallMade.shows_of (by decide +kernel)),
    pass.2.2 _ _ rfl⟩

/-- Behind the last number that can be written no collection is taken. -/
theorem exists_not_gathered :
    ∃ t h u b,
      (Plan.make { base := .text none "from Foo",
                   start := .int none ↑(Whole.bound - 1) }).result {} = (.ok (.shared h), t) ∧
      Course h t [⟨t.store, .compare .equal (.text none "a") (.int none 1)⟩] u ∧
      u.store.builder? h = some b ∧ u.store.path? (.text none "b") = some "b" ∧
      u.store.present (.tuple none [.int none 1]) = .ok true ∧
      u.store.Collects (.tuple none [.int none 1]) ∧
      u.store.barred (.tuple none [.int none 1]) = false ∧
      (CallMade.of h
        (.call "in_" { places := [.text none "b", .tuple none [.int none 1]] }) u).answer =
        .error (.tooManyDigits none) := by
  have hl := Whole.two_le_bound
  obtain ⟨t, h, b, hm, hb, hi, -⟩ :=
    Plan.exists_make (n := Whole.bound - 1) (by omega) "from Foo" {}
  let x : RequestAt := ⟨t.store, .compare .equal (.text none "a") (.int none 1)⟩
  have hc : Course h t [x] _ := .request (.done _)
  have hx : x.demand? = some (.compare "a" .equal, [.itself (.int none 1)]) := rfl
  have he := (@RequestAt.emission?_of_le x _ _ b.index hx (by rw [hi, Clause.arity]; omega)).1
  have hu := hc.builder? hb
  have index_eq : (b.afterRequests [x]).index = Whole.bound := by
    rw [afterRequests, afterRequests, index_afterRequest, RequestAt.next_of_some he, hi,
      Clause.arity]
    omega
  refine ⟨t, h, _, _, hm, hc, hu, rfl, rfl, Store.collects_iff.2 rfl, rfl, ?_⟩
  rw [CallMade.of, BuilderCall.result_of_request
    (r := .within (.text none "b") (.tuple none [.int none 1])) rfl
    hu, result_request_of_ok hu (Request.rule_within rfl rfl),
    Ruling.startingAt_add_of_lt _ (by simp [Clause.arity]) (by rw [index_eq, Clause.arity]; omega)]
  rfl

end Builder

end Criteria
