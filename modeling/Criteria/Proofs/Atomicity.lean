import Criteria.Builder.Call
import Criteria.Proofs.Numbering

set_option autoImplicit false

namespace Criteria

namespace Ruling

theorem startingAt_eq (ruling : Ruling) (index : Nat) :
    ruling.startingAt index = ruling ∨ ∃ spent f, ruling.startingAt index = tear spent f := by
  cases ruling with
  | skip path operation value => exact Or.inl rfl
  | add clause bindings =>
    by_cases h : writable index clause.arity < clause.arity
    · exact Or.inr ⟨_, _, if_pos h⟩
    · exact Or.inl (if_neg h)
  | tear spent f =>
    obtain ⟨g, hg⟩ := startingAt_tear index spent f
    exact Or.inr ⟨_, g, hg⟩
  | order clause => exact Or.inl rfl

theorem eq_of_startingAt {r q : Ruling} {index : Nat} (h : r.startingAt index = q)
    (hq : ∀ spent f, q ≠ tear spent f) : r = q := by
  rcases r.startingAt_eq index with e | ⟨spent, f, e⟩
  · exact e.symm.trans h
  · exact absurd (h.symm.trans e) (hq spent f)

end Ruling

namespace Builder

open Operation

theorem fst_noted (message : Store → Except Fault String) (s : Session) :
    ((noted message).result s).1 = (message s.store).map fun _ => () := by
  simp only [noted, result_bind, result_asking]
  cases message s.store <;> rfl

theorem fst_carryOut_add (h : Handle) (b : Builder) (c : Clause) (bs : List Binding) (s : Session) :
    ((carryOut h b (.add c bs)).result s).1 =
      (addRecord ((carryOut h b (.add c bs)).result s).2.store (c.render b.index)
        (boundFrom s.store.size bs)).map fun _ => () := by
  have hv := result_bindValues bs s
  simp only [carryOut, result_bind]
  rcases e : (bindValues bs).result s with ⟨r, t⟩
  rw [e] at hv
  subst hv
  simp only [result_put, fst_noted, result_noted]

theorem fst_carryOut_order (h : Handle) (b : Builder) (o : Option Value) (s : Session) :
    ((carryOut h b (.order o)).result s).1 =
      (orderRecord ((carryOut h b (.order o)).result s).2.store o).map fun _ => () := by
  simp only [carryOut, result_bind, result_put, fst_noted, result_noted]

theorem result_request_of_error {h : Handle} {b : Builder} {r : Request} {s : Session} {f : Fault}
    (hb : s.store.builder? h = some b) (hr : r.rule s.store = .error f) :
    (request h r).result s = (.error f, { s with store := r.passed s.store }) := by
  simp only [request, theBuilder, perform, result_bind, result_theStore, hb, result_pure,
    result_modify, hr, result_refuse]

theorem result_request_of_ok {h : Handle} {b : Builder} {r : Request} {s : Session}
    {ruling : Ruling} (hb : s.store.builder? h = some b) (hr : r.rule s.store = .ok ruling) :
    (request h r).result s =
      (carryOut h b (ruling.startingAt b.index)).result { s with store := r.passed s.store } := by
  simp only [request, theBuilder, perform, result_bind, result_theStore, hb, result_pure,
    result_modify, hr]

/-- What the builder may be after a call that was not refused: as it was when nothing is asked for,
and otherwise with the whole clause or the order. -/
inductive Applied (s : Store) (r : Request) (b : Builder) : Builder → Prop where
  | nothing (h : r.demand? s = none) : Applied s r b b
  | clause (c : Clause) (bs : List Binding) (h : r.demand? s = some (c, bs))
      (hl : (boundFrom s.size bs).length = c.arity) :
      Applied s r b (b.add c (boundFrom s.size bs))
  | order (o : Option Value) (h : r.rule s = .ok (.order o)) : Applied s r b (b.orderBy o)

/-- A call that is refused leaves the builder as it was. One that is not gives `own`, and the
builder has taken the whole request. -/
def Atomic {α : Type} (own : α) (h : Handle) (b : Builder) (s : Store) (r : Request) :
    Except Fault α × Session → Prop
  | (.error _, t) => t.store.builder? h = some b
  | (.ok a, t) => a = own ∧ ∃ c, t.store.builder? h = some c ∧ Applied s r b c

/-- Nothing can be refused any more once the builder has changed. What is bound or set is shown in
the cells that the request leaves. -/
def Completes (h : Handle) (b : Builder) (r : Request) (s : Session) : Prop :=
  let left := ((request h r).result s).2.store
  match (r.rule s.store).map (Ruling.startingAt b.index) with
  | .ok (.add _ bs) => ∃ w, left.shownList (boundFrom s.store.size bs) = .ok w
  | .ok (.tear numbers _) => numbers = 0
  | .ok (.order o) => o = b.order ∨ ∃ w, orderRecord left o = .ok w
  | _ => True

theorem add_ne (b : Builder) (c : Clause) (vs : List Value) : b.add c vs ≠ b := by
  intro e
  have h := congrArg (fun x => x.conditions.length) e
  simp at h

theorem spend_eq_iff (b : Builder) (numbers : Nat) : b.spend numbers = b ↔ numbers = 0 := by
  constructor
  · intro e
    have h := congrArg index e
    simpa [spend] using h
  · rintro rfl
    rfl

theorem orderBy_eq_iff (b : Builder) (o : Option Value) : b.orderBy o = b ↔ o = b.order := by
  constructor
  · exact congrArg order
  · rintro rfl
    rfl

theorem addRecord_eq_ok {s : Store} {condition : String} {vs : List Value} :
    (∃ w, addRecord s condition vs = .ok w) ↔ ∃ w, s.shownList vs = .ok w := by
  unfold addRecord
  cases s.shownList vs <;> simp [bind, Except.bind]

theorem atomic_of_change {h : Handle} {b c : Builder} {s : Store} {r : Request}
    {e : Except Fault Unit × Session} {x : Except Fault String}
    (he : e.1 = x.map fun _ => ()) (hc : e.2.store.builder? h = some c) (ha : Applied s r b c) :
    Atomic () h b s r e ↔ c = b ∨ ∃ w, x = .ok w := by
  obtain ⟨a, t⟩ := e
  subst he
  have ht : t.store.builder? h = some c := hc
  cases x with
  | error f => simp [Except.map, Atomic, ht]
  | ok w => simp [Except.map, Atomic, ht, ha]

section Rulings

variable {h : Handle} {b : Builder} {r : Request} {s : Store} {t : Session}

theorem atomic_skip (path operation : String) (value : Value) (ht : t.store.builder? h = some b)
    (hd : r.demand? s = none) :
    Atomic () h b s r ((carryOut h b (.skip path operation value)).result t) := by
  have after_eq := builder?_carryOut h b (.skip path operation value) t (builder?_eq_some.1 ht)
  rcases e : (carryOut h b (.skip path operation value)).result t with ⟨x, u⟩
  rw [e] at after_eq
  cases x with
  | error f => exact after_eq
  | ok a => exact ⟨rfl, b, after_eq, .nothing hd⟩

theorem atomic_add_iff {c : Clause} {bs : List Binding} (ht : t.store.builder? h = some b)
    (hs : t.store.size = s.size) (hd : r.demand? s = some (c, bs)) :
    Atomic () h b s r ((carryOut h b (.add c bs)).result t) ↔
      ∃ w, ((carryOut h b (.add c bs)).result t).2.store.shownList (boundFrom s.size bs) =
        .ok w := by
  have after_eq := builder?_carryOut h b (.add c bs) t (builder?_eq_some.1 ht)
  have fst_eq := fst_carryOut_add h b c bs t
  rw [hs] at after_eq fst_eq
  have hl : (boundFrom s.size bs).length = c.arity := by
    obtain ⟨hc, hb⟩ := Request.demand?_eq_some.1 hd
    rw [length_boundFrom, Request.length_of_bindings hc hb]
  rw [atomic_of_change fst_eq after_eq (.clause c bs hd hl), addRecord_eq_ok]
  exact or_iff_right (add_ne b c _)

theorem atomic_tear_iff (numbers : Nat) (f : Fault) (ht : t.store.builder? h = some b) :
    Atomic () h b s r ((carryOut h b (.tear numbers f)).result t) ↔ numbers = 0 := by
  have after_eq := builder?_carryOut h b (.tear numbers f) t (builder?_eq_some.1 ht)
  have refused : (carryOut h b (.tear numbers f)).result t =
      (.error f, ((carryOut h b (.tear numbers f)).result t).2) := rfl
  rw [refused, Atomic, after_eq, Option.some.injEq]
  exact spend_eq_iff b numbers

theorem atomic_order_iff {o : Option Value} (ht : t.store.builder? h = some b)
    (hr : r.rule s = .ok (.order o)) :
    Atomic () h b s r ((carryOut h b (.order o)).result t) ↔
      o = b.order ∨ ∃ w, orderRecord ((carryOut h b (.order o)).result t).2.store o = .ok w := by
  have after_eq := builder?_carryOut h b (.order o) t (builder?_eq_some.1 ht)
  have fst_eq := fst_carryOut_order h b o t
  rw [atomic_of_change fst_eq after_eq (.order o hr)]
  exact or_congr_left (orderBy_eq_iff b o)

end Rulings

theorem atomic_request_iff {h : Handle} {b : Builder} {r : Request} {s : Session}
    (hb : s.store.builder? h = some b) :
    Atomic () h b s.store r ((request h r).result s) ↔ Completes h b r s := by
  have demand := r.demand?_eq_rule s.store
  unfold Completes
  cases hr : r.rule s.store with
  | error f =>
    have after_eq := builder?_request h b r s hb
    rw [hr] at after_eq
    rw [result_request_of_error hb hr] at after_eq ⊢
    exact iff_of_true after_eq trivial
  | ok ruling =>
    rw [hr] at demand
    have ht : (r.passed s.store).builder? h = some b :=
      builder?_eq_some.2 (cell?_request_passed s.store r h b (builder?_eq_some.1 hb))
    have hs := size_request_passed s.store r
    rw [result_request_of_ok hb hr]
    simp only [Except.map]
    rcases ruling.startingAt_eq b.index with e | ⟨numbers, f, e⟩
    · rw [e]
      cases ruling with
      | skip path operation value =>
        exact iff_of_true (atomic_skip path operation value ht demand) trivial
      | add c bs => exact atomic_add_iff ht hs demand
      | tear numbers f => exact atomic_tear_iff numbers f ht
      | order o => exact atomic_order_iff ht hr
    · rw [e]
      exact atomic_tear_iff numbers f ht

end Builder

namespace Call

open Operation Builder

theorem result_onBuilder {h : Handle} {b : Builder} {name : String} {sig : Signature}
    {mk : Taken → Request} {g : Given} {s : Session} (hb : s.store.builder? h = some b)
    (hn : requesting? name = some (sig, mk)) :
    (onBuilder h name g).result s =
      match sig.take g with
      | .error f => (.error f, s)
      | .ok t => (((request h (mk t)).result s).1.map fun _ => .shared h,
          ((request h (mk t)).result s).2) := by
  simp only [onBuilder, theBuilder, result_bind, result_theStore, hb, result_pure, hn,
    result_asking]
  cases sig.take g with
  | error f => rfl
  | ok t =>
    simp only
    rcases (request h (mk t)).result s with ⟨x, u⟩
    cases x <;> rfl

/-- A call whose arguments do not fit does nothing. Any other is atomic just when its request
completes. -/
theorem atomic_iff {h : Handle} {b : Builder} {name : String} {sig : Signature}
    {mk : Taken → Request} {g : Given} {s : Session} (hb : s.store.builder? h = some b)
    (hn : requesting? name = some (sig, mk)) :
    match sig.take g with
    | .error f => (onBuilder h name g).result s = (.error f, s)
    | .ok t => Atomic (.shared h) h b s.store (mk t) ((onBuilder h name g).result s) ↔
        Completes h b (mk t) s := by
  have result_eq := result_onBuilder (g := g) hb hn
  cases ht : sig.take g with
  | error f =>
    rw [ht] at result_eq
    exact result_eq
  | ok t =>
    rw [ht] at result_eq
    have hr := atomic_request_iff (r := mk t) hb
    simp only at result_eq ⊢
    rw [← hr, result_eq]
    generalize (request h (mk t)).result s = e
    obtain ⟨x, u⟩ := e
    cases x with
    | error f => exact Iff.rfl
    | ok a => simp [Atomic, Except.map]

theorem atomic_equal :
    ∃ t b, (Plan.of (.text none "from Foo") (.int none 1) [] .null (.text none "")).make.result {} =
        (.ok (.shared ⟨1⟩), t) ∧ t.store.builder? ⟨1⟩ = some b ∧
      Atomic (.shared ⟨1⟩) ⟨1⟩ b t.store (.compare .equal (.text none "a") (.int none 3))
        ((onBuilder ⟨1⟩ "equal" { places := [.text none "a", .int none 3] }).result t) := by
  let t := ((Plan.of (.text none "from Foo") (.int none 1) [] .null
    (.text none "")).make.result {}).2
  have hm : (Plan.of (.text none "from Foo") (.int none 1) [] .null
    (.text none "")).make.result {} = (.ok (.shared ⟨1⟩), t) := rfl
  have hb : t.store.builder? ⟨1⟩ = some _ := rfl
  have hn : requesting? "equal" = some _ := rfl
  have ha := atomic_iff (g := { places := [.text none "a", .int none 3] }) hb hn
  exact ⟨t, _, hm, hb, ha.2 ⟨_, rfl⟩⟩

/-- A value that cannot be shown is refused when its clause has entered. -/
theorem exists_not_atomic :
    ∃ t b, (do
        let _ ← (Plan.of (.text none "from Foo") (.int none 1) [] .null (.text none "")).make
        let f ← Field.make (.text none "o.x")
        Attribute.erase f "_path"
        share (.list [f])).result {} = (.ok (.shared ⟨3⟩), t) ∧
      t.store.builder? ⟨1⟩ = some b ∧
      ¬ Atomic (.shared ⟨1⟩) ⟨1⟩ b t.store (.compare .equal (.text none "a") (.shared ⟨3⟩))
        ((onBuilder ⟨1⟩ "equal" { places := [.text none "a", .shared ⟨3⟩] }).result t) := by
  refine ⟨_, _, rfl, rfl, ?_⟩
  intro h
  have e := congrArg (Option.map Builder.index) h
  cases e

end Call

end Criteria
