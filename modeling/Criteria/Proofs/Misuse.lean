import Criteria.Proofs.Atomicity
import Criteria.Proofs.Checking
import Criteria.Proofs.KeepsButPasses

/-! Misuse of the operations that add a clause. A call is refused just when a check of its arguments
fails, and then for the first that does, unless a check cannot be made, the numbers of the clause
cannot be written or an argument cannot be shown once it is bound.
-/

set_option autoImplicit false

namespace Criteria

namespace Builder

open Operation Request

/-- What is to come of a request: the first of its checks that fails refuses it and leaves what is
there, and a request that passes all of them is not refused. -/
def Checked (h : Handle) (s : Session) (r : Request) : Except Fault Value × Session → Prop
  | (x, t) =>
    match r.misuse? s.store with
    | some m =>
      x = .error (m.fault s.store) ∧ (m.fault s.store).kind = m.kind ∧
        s.store.KeepsButPasses t.store ∧ t.records = s.records
    | none => x = .ok (.shared h)

def Enters (h : Handle) (b : Builder) (s : Session) (r : Request) : Prop :=
  ∃ c bs, r.demand? s.store = some (c, bs) ∧ b.index + c.arity ≤ Whole.bound ∧
    ∃ w, ((request h r).result s).2.store.shownList (boundFrom s.store.size bs) = .ok w

def Served (h : Handle) (b : Builder) (s : Session) (r : Request) : Prop :=
  Check.Told (r.checks s.store) ∧
    (r.misuse? s.store = none → ∃ isPresent, r.counts? s.store = some isPresent ∧
      if isPresent then Enters h b s r else r.Named s.store)

section

variable {h : Handle} {b : Builder} {r : Request} {s : Session}

theorem shown_of_counts (shown : ∀ v ∈ r.operands, ∃ w, s.store.shown v = .ok w)
    (h : r.counts? s.store = some false) : ∃ w, (r.passed s.store).shown r.absent = .ok w := by
  have keepsButPasses := Store.KeepsButPasses.request_passed s.store r
  have absent : ∀ v, (s.store.present v).toOption = some false → s.store.present v = .ok false := by
    intro v hv
    cases hp : s.store.present v <;> simp_all [Except.toOption]
  cases r with
  | compare op field value => exact shown value (by simp [operands])
  | like field value mode | likeAny fields value mode =>
    obtain ⟨w, hw⟩ := shown value (by simp [operands])
    exact ⟨w, (keepsButPasses.shown_absent (absent value h)).trans hw⟩
  | within field values => exact shown values (by simp [operands])
  | between field lower upper =>
    obtain ⟨v, hv⟩ := shown lower (by simp [operands])
    obtain ⟨w, hw⟩ := shown upper (by simp [operands])
    refine ⟨tupleText [v, w], ?_⟩
    simp only [Store.shown] at hv hw
    simp [Request.absent, Request.passed, Store.shown, Value.shownWith, Value.shownAll,
      Frame.holdsRow, Frame.within, hv, hw, bind, Except.bind]
  | orderBy c => exact ⟨_, rfl⟩

theorem fst_tear (spent : Nat) (f : Fault) (t : Session) :
    ∀ u, ((carryOut h b ((Ruling.tear spent f).startingAt b.index)).result t).1 ≠ .ok u := by
  obtain ⟨g, hg⟩ := Ruling.startingAt_tear b.index spent f
  rw [hg]
  intro u e
  cases e

theorem fst_request_of_add {c : Clause} {bs : List Binding} (hb : s.store.builder? h = some b)
    (hr : r.rule s.store = .ok (.add c bs)) :
    ((request h r).result s).1 = .ok () ↔ Enters h b s r := by
  have demand : r.demand? s.store = some (c, bs) := by rw [demand?_eq_rule, hr]
  have entered : Enters h b s r ↔ b.index + c.arity ≤ Whole.bound ∧
      ∃ w, ((request h r).result s).2.store.shownList (boundFrom s.store.size bs) = .ok w := by
    unfold Enters
    rw [demand]
    constructor
    · rintro ⟨_, _, same, rest⟩
      cases same
      exact rest
    · exact fun rest => ⟨c, bs, rfl, rest⟩
  have result_eq := result_request_of_ok hb hr
  rw [entered, result_eq]
  by_cases hn : b.index + c.arity ≤ Whole.bound
  · rw [Ruling.startingAt_add_of_le bs hn, fst_carryOut_add, ← addRecord_eq_ok, size_request_passed]
    simp only [hn, true_and]
    generalize addRecord _ _ _ = x
    cases x <;> simp [Except.map]
  · rw [Ruling.startingAt_add_of_lt bs (arity_pos_of_form (demand?_eq_some.1 demand).1) (by omega)]
    simp [hn, carryOut, result_bind]

theorem fst_request_of_ruled (hb : s.store.builder? h = some b)
    (shown : ∀ v ∈ r.operands, ∃ w, s.store.shown v = .ok w)
    (ruled : r.Ruled s.store (r.rule s.store)) :
    ((request h r).result s).1 = .ok () ↔
      ∃ isPresent, r.counts? s.store = some isPresent ∧
        if isPresent then Enters h b s r else r.Named s.store := by
  have refused : ∀ f, r.rule s.store = .error f → ((request h r).result s).1 ≠ .ok () := by
    intro f hf
    rw [result_request_of_error hb hf]
    simp
  cases hc : r.counts? s.store with
  | none =>
    rw [Ruled, hc] at ruled
    obtain ⟨f, hf⟩ := ruled
    simp [refused f hf]
  | some isPresent =>
    cases isPresent with
    | false =>
      obtain ⟨w, hw⟩ := shown_of_counts shown hc
      rw [Ruled, hc] at ruled
      rcases ruled with ⟨named, path, operation, hr⟩ | ⟨unnamed, f, hf⟩
      · rw [result_request_of_ok hb hr]
        simp [Ruling.startingAt, carryOut, fst_noted, skipRecord, hw, named, Except.map, bind,
          Except.bind]
      · simp [refused f hf, unnamed]
    | true =>
      rw [Ruled, hc] at ruled
      cases hf : r.form? s.store with
      | none =>
        have unasked : ¬ Enters h b s r := by simp [Enters, demand?_of_form hf]
        rw [hf] at ruled
        rcases ruled with ⟨f, hr⟩ | ⟨n, f, hr⟩
        · simp [refused f hr, unasked]
        · rw [result_request_of_ok hb hr]
          simp [fst_tear, unasked]
      | some c =>
        rw [hf] at ruled
        obtain ⟨bs, hr⟩ := ruled
        simp [fst_request_of_add hb hr]

theorem checked_request_iff (hb : s.store.builder? h = some b) (unordered : ∀ c, r ≠ .orderBy c)
    (shown : ∀ v ∈ r.operands, ∃ w, s.store.shown v = .ok w) :
    Checked h s r (((request h r).result s).1.map fun _ => .shared h, ((request h r).result s).2) ↔
      Served h b s r := by
  have sifted := (sifted_rule unordered shown).cases
  have misuse : r.misuse? s.store = ((r.checks s.store).find? Check.failed).map Check.misuse := rfl
  unfold Checked Served
  cases hc : (r.checks s.store).find? Check.failed with
  | some c =>
    rw [hc] at misuse sifted
    rw [misuse]
    rcases sifted with ⟨told, hr⟩ | ⟨untold, f, hr, differs⟩
    · rw [result_request_of_error hb hr]
      have keepsButPasses := Store.KeepsButPasses.request_passed s.store r
      simp [Except.map, Misuse.kind_fault, keepsButPasses, told]
    · rw [result_request_of_error hb hr]
      simp only [untold, false_and, iff_false]
      rintro ⟨same, kind_eq, -⟩
      cases same
      exact differs kind_eq
  | none =>
    rw [hc] at misuse sifted
    rw [misuse]
    have outcome : (((request h r).result s).1.map fun _ => Value.shared h) = .ok (.shared h) ↔
        ((request h r).result s).1 = .ok () := by
      cases ((request h r).result s).1 <;> simp [Except.map]
    simp only [Option.map_none, outcome]
    rcases sifted with ⟨told, ruled⟩ | ⟨untold, f, hr⟩
    · rw [fst_request_of_ruled hb shown ruled]
      simp [told]
    · rw [result_request_of_error hb hr]
      simp [untold]

end

end Builder

namespace Call

open Builder

theorem unordered_of_requesting {name : String} {sig : Signature} {mk : Taken → Request}
    (hn : requesting? name = some (sig, mk)) (other : name ≠ "order_by") (t : Taken) (c : Value) :
    mk t ≠ .orderBy c := by
  unfold requesting? at hn
  split at hn <;> cases hn <;> first | exact absurd rfl other | simp

/-- A call whose arguments do not fit does nothing. -/
theorem checked_iff {h : Handle} {b : Builder} {name : String} {sig : Signature}
    {mk : Taken → Request} {g : Given} {s : Session} (hb : s.store.builder? h = some b)
    (hn : requesting? name = some (sig, mk)) (other : name ≠ "order_by") :
    match sig.take g with
    | .error f => (onBuilder h name g).result s = (.error f, s)
    | .ok t => (∀ v ∈ (mk t).operands, ∃ w, s.store.shown v = .ok w) →
        (Checked h s (mk t) ((onBuilder h name g).result s) ↔ Served h b s (mk t)) := by
  have result_eq := result_onBuilder (g := g) hb hn
  cases ht : sig.take g with
  | error f =>
    rw [ht] at result_eq
    exact result_eq
  | ok t =>
    rw [ht] at result_eq
    intro shown
    rw [result_eq]
    exact checked_request_iff hb (unordered_of_requesting hn other t) shown

theorem checked_like :
    ∃ t b, (Plan.of (.text none "from Foo") (.int none 1) [] .null (.text none "")).make.result {} =
        (.ok (.shared ⟨1⟩), t) ∧ t.store.builder? ⟨1⟩ = some b ∧
      (Request.like (.int none 5) .null (.text none "nope")).misuse? t.store =
        some (.noReference (.int none 5)) ∧
      Checked ⟨1⟩ t (.like (.int none 5) .null (.text none "nope"))
        ((onBuilder ⟨1⟩ "like"
          { places := [.int none 5, .null, .text none "nope"] }).result t) := by
  let t := ((Plan.of (.text none "from Foo") (.int none 1) [] .null
    (.text none "")).make.result {}).2
  have hm : (Plan.of (.text none "from Foo") (.int none 1) [] .null
    (.text none "")).make.result {} = (.ok (.shared ⟨1⟩), t) := rfl
  have hb : t.store.builder? ⟨1⟩ = some _ := rfl
  have hn : requesting? "like" = some _ := rfl
  have shown : ∀ v ∈ [Value.int none 5, .null, .text none "nope"],
      ∃ w, t.store.shown v = .ok w := by
    simp only [List.forall_mem_cons]
    exact ⟨⟨_, rfl⟩, ⟨_, rfl⟩, ⟨_, rfl⟩, by simp⟩
  have ha := checked_iff (g := { places := [.int none 5, .null, .text none "nope"] }) hb hn
    (by decide)
  have misused : (Request.like (.int none 5) .null (.text none "nope")).misuse? t.store =
    some (.noReference (.int none 5)) := rfl
  refine ⟨t, _, hm, hb, misused, (ha shown).2 ⟨?_, ?_⟩⟩
  · intro c hc
    cases hc
  · intro passed
    cases misused.symm.trans passed

/-- A range of more numbers than can be counted is neither absent nor bound. -/
theorem exists_not_checked :
    ∃ t b, (Plan.of (.text none "from Foo") (.int none 1) [] .null (.text none "")).make.result {} =
        (.ok (.shared ⟨1⟩), t) ∧ t.store.builder? ⟨1⟩ = some b ∧
      (∀ v ∈ [Value.text none "a", .range none 0 9223372036854775808 1],
        ∃ w, t.store.shown v = .ok w) ∧
      ¬ Checked ⟨1⟩ t (.compare .equal (.text none "a") (.range none 0 9223372036854775808 1))
        ((onBuilder ⟨1⟩ "equal"
          { places := [.text none "a", .range none 0 9223372036854775808 1] }).result t) := by
  refine ⟨_, _, rfl, rfl, ?_, ?_⟩
  · simp only [List.forall_mem_cons]
    exact ⟨⟨_, rfl⟩, ⟨_, rfl⟩, by simp⟩
  · intro h
    have e : (Except.error Fault.countOverflow : Except Fault Value) = .ok (.shared ⟨1⟩) := h
    cases e

end Call

end Criteria
