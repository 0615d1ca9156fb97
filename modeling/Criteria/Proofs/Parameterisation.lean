import Criteria.Proofs.Outcome
import Mathlib.Data.List.Defs

/-! Values and query texts. What a request does to a query is its trace, and the trace follows from
the fields that the request refers to and from what becomes of the request. Two courses that differ
in their values alone therefore lead to one query, and their arguments differ only where the values
do.
-/

set_option autoImplicit false

namespace Criteria

/-- What becomes of a request. It is accepted also when its clause cannot be written afterwards. -/
inductive Outcome where
  | refused
  | skipped
  | accepted
  deriving DecidableEq, Repr

inductive Trace where
  | nothing
  | clause (c : Clause)
  | broken (numbers : Nat)

namespace Trace

def entered (n : Nat) : Trace → Option Clause
  | clause c => if n + c.arity ≤ Whole.bound then some c else none
  | _ => none

def lost (n : Nat) : Trace → Nat
  | nothing => 0
  | clause c => if n + c.arity ≤ Whole.bound then 0 else Whole.bound - n
  | broken numbers => Ruling.writable n numbers

end Trace

namespace RequestAt

def outcome (t : RequestAt) : Outcome :=
  match t.request.rule t.store with
  | .error _ => .refused
  | .ok (.skip ..) => .skipped
  | .ok _ => .accepted

def written (t : RequestAt) : Trace :=
  match t.request.form? t.store, t.request.broken? t.store with
  | some c, _ => .clause c
  | none, some numbers => .broken numbers
  | none, none => .nothing

def trace (t : RequestAt) : Trace := if t.outcome = .accepted then t.written else .nothing

/-- The trace tells which clause enters and how many numbers are lost, wherever the numbers are. -/
theorem trace_spec (t : RequestAt) (n : Nat) :
    (t.emission? n).map Emission.clause = t.trace.entered n ∧ t.lost n = t.trace.lost n := by
  have hd := demand?_eq t
  have hb := @Request.broken?_of_tear t.store t.request
  have ho := @Request.orderBy_of_order t.store t.request
  rcases e : t.request.rule t.store with f | _ | ⟨c, bs⟩ | ⟨spent, f⟩ | o
  · simp [emission?, lost, ruling, e, Except.map, trace, outcome, Trace.entered, Trace.lost]
  · simp [emission?, lost, ruling, e, Except.map, Ruling.startingAt, trace, outcome, Trace.entered,
      Trace.lost]
  · rw [e] at hd
    have ht : t.trace = .clause c := by
      simp [trace, outcome, e, written, (Request.demand?_eq_some.1 hd).1]
    by_cases hn : n + c.arity ≤ Whole.bound
    · obtain ⟨he, hl⟩ := emission?_of_le hd hn
      simp [he, hl, ht, Trace.entered, Trace.lost, hn]
    · obtain ⟨he, hl⟩ := emission?_of_lt hd (Nat.lt_of_not_le hn)
      simp [he, hl, ht, Trace.entered, Trace.lost, hn]
  · have ht : t.trace = .broken spent := by
      simp [trace, outcome, e, written, hb e, Request.form?_of_broken (hb e)]
    obtain ⟨g, hg⟩ := Ruling.startingAt_tear n spent f
    simp [emission?, lost, ruling, e, Except.map, hg, ht, Trace.entered, Trace.lost]
  · obtain ⟨clause, hc⟩ := ho e
    have ht : t.trace = .nothing := by
      simp [trace, written, hc, Request.form?, Request.broken?]
    simp [emission?, lost, ruling, e, Except.map, Ruling.startingAt, ht, Trace.entered, Trace.lost]

theorem fragment_emission? (t : RequestAt) (n : Nat) :
    (t.emission? n).map Emission.fragment = (t.trace.entered n).map (Clause.render n) := by
  rw [← (trace_spec t n).1]
  cases he : t.emission? n with
  | none => rfl
  | some e => rw [Option.map_some, Emission.fragment, (emission?_eq_some he).1]; rfl

end RequestAt

/-- Two values that callers cannot tell apart when they are bound. -/
inductive Binding.Alike : Binding → Binding → Prop where
  | itself (v : Value) : Alike (.itself v) (.itself v)
  | text (m k : Mark) (w : String) : Alike (.itself (.text m w)) (.itself (.text k w))
  | copy (name : String) (items : List Value) : Alike (.copy name items) (.copy name items)

theorem Binding.Alike.refl (b : Binding) : Alike b b := by
  cases b with
  | itself v => exact .itself v
  | copy name items => exact .copy name items

namespace MatchMode

def stoodFor? : Value → Option MatchMode
  | .mode m => some m
  | .text _ w => ofLabel? w
  | _ => none

theorem refused_ne_ok (s : Store) (v : Value) (m : MatchMode) : ofValue.refused s v ≠ .ok m := by
  unfold ofValue.refused
  cases s.shown v <;> simp [bind, Except.bind]

theorem stoodFor?_of_ofValue {s : Store} {v : Value} {m : MatchMode}
    (h : ofValue s v = .ok m) : stoodFor? v = some m := by
  have hr := refused_ne_ok s v m
  unfold ofValue at h
  cases v with
  | mode k =>
    cases h
    rfl
  | text a w =>
    cases hf : s.fingerprint (.text a w) with
    | error f =>
      simp only [hf] at h
      split at h
      · exact absurd h hr
      · cases h
    | ok p =>
      simp only [hf] at h
      split at h
      · next hl =>
        cases h
        exact hl
      · exact absurd h hr
  | _ =>
    simp only at h
    split at h
    · split at h
      · exact absurd h hr
      · cases h
    · next e => cases e
    · exact absurd h hr

end MatchMode

namespace Request

def values : Request → List Value
  | compare _ _ value => [value]
  | like _ value mode | likeAny _ value mode => [value, mode]
  | within _ values => [values]
  | between _ lower upper => [lower, upper]
  | orderBy _ => []

/-- Two requests of one kind that refer to the same fields, each in its own cells. The values and
the modes are left open. -/
inductive SameShape (s t : Store) : Request → Request → Prop where
  | compare {f g : Value} (op : Comparison) (v w : Value) (h : s.reference? f = t.reference? g) :
      SameShape s t (compare op f v) (compare op g w)
  | like {f g : Value} (v w m k : Value) (h : s.reference? f = t.reference? g) :
      SameShape s t (like f v m) (like g w k)
  | likeAny {fs gs : Value} (v w m k : Value) (h : s.references? fs = t.references? gs) :
      SameShape s t (likeAny fs v m) (likeAny gs w k)
  | within {f g : Value} (v w : Value) (h : s.reference? f = t.reference? g) :
      SameShape s t (within f v) (within g w)
  | between {f g : Value} (v w x y : Value) (h : s.reference? f = t.reference? g) :
      SameShape s t (between f v x) (between g w y)
  | orderBy {c d : Value} (h : (orderBy c).orderSet? s = (orderBy d).orderSet? t) :
      SameShape s t (orderBy c) (orderBy d)

namespace SameShape

variable {s t : Store} {q r : Request}

theorem form? (h : SameShape s t q r) : q.form? s = r.form? t := by
  cases h with
  | likeAny v w m k h => simp only [Request.form?, Store.paths?, h]
  | orderBy h => rfl
  | _ => simp only [Request.form?, Store.path?, *]

theorem broken? (h : SameShape s t q r) : q.broken? s = r.broken? t := by
  cases h with
  | likeAny v w m k h => simp only [Request.broken?, h]
  | between v w x y h => simp only [Request.broken?, h]
  | _ => rfl

theorem orderSet? (h : SameShape s t q r) : q.orderSet? s = r.orderSet? t := by
  cases h with
  | orderBy h => exact h
  | _ => rfl

end SameShape

theorem mode_eq_of_ofValue {s t : Store} {v : Value} {m k : MatchMode}
    (hm : MatchMode.ofValue s v = .ok m) (hk : MatchMode.ofValue t v = .ok k) : m = k := by
  have hs := MatchMode.stoodFor?_of_ofValue hm
  rw [MatchMode.stoodFor?_of_ofValue hk] at hs
  exact (Option.some.inj hs).symm

theorem pattern?_alike {s t : Store} {mode value p q : Value}
    (hp : s.pattern? mode value = some p) (hq : t.pattern? mode value = some q) :
    Binding.Alike (.itself p) (.itself q) := by
  unfold Store.pattern? at hp hq
  cases hm : MatchMode.ofValue s mode with
  | error f => simp [hm] at hp
  | ok m =>
    cases hk : MatchMode.ofValue t mode with
    | error f => simp [hk] at hq
    | ok k =>
      have e := mode_eq_of_ofValue hm hk
      subst e
      simp only [hm] at hp
      simp only [hk] at hq
      cases value with
      | text a w =>
        simp only [MatchMode.patternOf, Except.toOption, Option.some.injEq] at hp hq
        subst hp hq
        split
        · exact .itself _
        · exact .text _ _ _
      | _ => cases hp

theorem binding_eq {s t : Store} {v : Value} (h : s.cellOf? v = t.cellOf? v) :
    binding s v = binding t v := by
  cases v with
  | shared k =>
    have hk : s.cell? k = t.cell? k := h
    simp only [binding, Store.copied?, Store.shortName, hk]
  | _ => rfl

theorem bindings?_alike {s t : Store} {q r : Request} {n : Nat} {bs cs : List Binding}
    (h : SameShape s t q r) (hv : q.values = r.values)
    (hc : ∀ v ∈ q.values, binding s v = binding t v) (hb : q.bindings? s n = some bs)
    (hd : r.bindings? t n = some cs) : List.Forall₂ Binding.Alike bs cs := by
  cases h with
  | compare op v w h =>
    cases hv
    simp only [bindings?, Option.ite_none_right_eq_some, Option.some.injEq] at hb hd
    obtain ⟨-, rfl⟩ := hb
    obtain ⟨-, rfl⟩ := hd
    exact .cons (.itself _) .nil
  | like v w m k h =>
    cases hv
    simp only [bindings?, Option.ite_none_right_eq_some, Option.map_eq_some_iff] at hb hd
    obtain ⟨-, p, hp, rfl⟩ := hb
    obtain ⟨-, q, hq, rfl⟩ := hd
    exact .cons (pattern?_alike hp hq) .nil
  | likeAny v w m k h =>
    cases hv
    simp only [bindings?, Option.ite_none_right_eq_some, Option.map_eq_some_iff] at hb hd
    obtain ⟨-, p, hp, rfl⟩ := hb
    obtain ⟨-, q, hq, rfl⟩ := hd
    have ha := pattern?_alike hp hq
    induction n with
    | zero => exact .nil
    | succ n ih => exact .cons ha ih
  | within v w h =>
    cases hv
    simp only [bindings?, Option.ite_none_right_eq_some, Option.some.injEq] at hb hd
    obtain ⟨-, rfl⟩ := hb
    obtain ⟨-, rfl⟩ := hd
    rw [hc v (List.mem_singleton.2 rfl)]
    exact .cons (.refl _) .nil
  | between v w x y h =>
    cases hv
    simp only [bindings?, Option.ite_none_right_eq_some, Option.some.injEq] at hb hd
    obtain ⟨-, rfl⟩ := hb
    obtain ⟨-, rfl⟩ := hd
    exact .cons (.itself _) (.cons (.itself _) .nil)
  | orderBy h => cases hb

end Request

namespace RequestAt

def bindings (t : RequestAt) (index : Nat) : List Binding :=
  match t.ruling index with
  | .ok (.add _ bs) => bs
  | _ => []

def shares (index : Nat) : List RequestAt → List (RequestAt × List Binding)
  | [] => []
  | t :: ts => (t, t.bindings index) :: shares (t.next index) ts

def boundBy (shares : List (RequestAt × List Binding)) : List Value :=
  shares.flatMap fun x => Builder.boundFrom x.1.store.size x.2

structure Paired (x y : RequestAt) : Prop where
  shape : Request.SameShape x.store y.store x.request y.request
  outcome : x.outcome = y.outcome

def SameValues (x y : RequestAt) : Prop :=
  x.request.values = y.request.values ∧
    ∀ v ∈ x.request.values, x.store.cellOf? v = y.store.cellOf? v

/-- Both bind as many arguments, and differ in them only where they differ in their values. -/
def SharesMatch (x y : RequestAt × List Binding) : Prop :=
  x.2.length = y.2.length ∧ (SameValues x.1 y.1 → List.Forall₂ Binding.Alike x.2 y.2)

theorem values_emission? (t : RequestAt) (n : Nat) :
    (t.emission? n).toList.flatMap Emission.values =
      Builder.boundFrom t.store.size (t.bindings n) := by
  unfold emission? bindings
  rcases t.ruling n with f | _ | _ | _ | _ <;> simp [Builder.boundFrom]

theorem boundBy_shares (n : Nat) (ts : List RequestAt) :
    boundBy (shares n ts) = (emissions n ts).flatMap Emission.values := by
  induction ts generalizing n with
  | nil => rfl
  | cons t ts ih =>
    rw [emissions, List.flatMap_append, values_emission?, ← ih]
    rfl

theorem next_eq_trace (t : RequestAt) (n : Nat) :
    t.next n = n + (t.trace.entered n).elim 0 Clause.arity + t.trace.lost n := by
  obtain ⟨he, hl⟩ := trace_spec t n
  rw [next, hl, ← he]
  cases t.emission? n <;> simp

theorem bindings_of_none {t : RequestAt} {n : Nat} (h : t.emission? n = none) :
    t.bindings n = [] := by
  rcases e : t.ruling n with f | _ | ⟨c, bs⟩ | _ | _
  case ok.add => simp [emission?, e] at h
  all_goals simp [bindings, e]

theorem bindings_spec (t : RequestAt) (n : Nat) :
    match t.trace.entered n with
    | some c => t.demand? = some (c, t.bindings n)
    | none => t.bindings n = [] := by
  rw [← (trace_spec t n).1]
  cases he : t.emission? n with
  | none => exact bindings_of_none he
  | some e =>
    obtain ⟨-, bs, hd, -⟩ := emission?_eq_some he
    have hn : n + e.clause.arity ≤ Whole.bound := by
      by_cases h : n + e.clause.arity ≤ Whole.bound
      · exact h
      · rw [(emission?_of_lt hd (Nat.lt_of_not_le h)).1] at he
        cases he
    have hr := ruling_of_demand hd n
    rw [Ruling.startingAt_add_of_le bs hn] at hr
    simp only [Option.map_some, bindings, hr]
    exact hd

theorem length_bindings (t : RequestAt) (n : Nat) :
    (t.bindings n).length = (t.trace.entered n).elim 0 Clause.arity := by
  have h := bindings_spec t n
  cases he : t.trace.entered n with
  | none =>
    rw [he] at h
    rw [h]
    rfl
  | some c =>
    rw [he] at h
    exact length_of_demand h

section Pairs

variable {x y : RequestAt}

theorem Paired.trace (h : Paired x y) : x.trace = y.trace := by
  simp only [RequestAt.trace, written, h.outcome, h.shape.form?, h.shape.broken?]

theorem Paired.next (h : Paired x y) (n : Nat) : x.next n = y.next n := by
  rw [next_eq_trace, next_eq_trace, h.trace]

theorem bindings_alike (shape : Request.SameShape x.store y.store x.request y.request)
    (trace_eq : x.trace = y.trace) (hv : x.request.values = y.request.values)
    (hc : ∀ v ∈ x.request.values, Request.binding x.store v = Request.binding y.store v) (n : Nat) :
    List.Forall₂ Binding.Alike (x.bindings n) (y.bindings n) := by
  have hx := bindings_spec x n
  have hy := bindings_spec y n
  rw [trace_eq] at hx
  cases he : y.trace.entered n with
  | none =>
    rw [he] at hx hy
    rw [hx, hy]
    exact .nil
  | some c =>
    rw [he] at hx hy
    exact Request.bindings?_alike shape hv hc (Request.demand?_eq_some.1 hx).2
      (Request.demand?_eq_some.1 hy).2

theorem Paired.shares (h : Paired x y) (n : Nat) :
    SharesMatch (x, x.bindings n) (y, y.bindings n) := by
  refine ⟨?_, fun same => ?_⟩
  · rw [length_bindings, length_bindings, h.trace]
  · exact bindings_alike h.shape h.trace same.1 (fun v hv => Request.binding_eq (same.2 v hv)) n

end Pairs

variable {xs ys : List RequestAt}

theorem allLost_paired (h : List.Forall₂ Paired xs ys) (n : Nat) :
    allLost n xs = allLost n ys := by
  induction h generalizing n with
  | nil => rfl
  | cons hxy _ ih =>
    rw [allLost, allLost, (trace_spec _ n).2, (trace_spec _ n).2, hxy.trace, hxy.next, ih]

theorem emissions_paired (h : List.Forall₂ Paired xs ys) (n : Nat) :
    (emissions n xs).map Emission.fragment = (emissions n ys).map Emission.fragment ∧
      (emissions n xs).map Emission.clause = (emissions n ys).map Emission.clause := by
  induction h generalizing n with
  | nil => exact ⟨rfl, rfl⟩
  | @cons x y xs ys hxy _ ih =>
    obtain ⟨hf, hc⟩ := ih (y.next n)
    have ho : ∀ {α : Type} (f : Emission → α), (x.emission? n).map f = (y.emission? n).map f →
        (x.emission? n).toList.map f = (y.emission? n).toList.map f := by
      intro α f hf
      rw [← Option.toList_map, hf, Option.toList_map]
    have hfx : (x.emission? n).map Emission.fragment = (y.emission? n).map Emission.fragment := by
      rw [fragment_emission?, fragment_emission?, hxy.trace]
    have hcx : (x.emission? n).map Emission.clause = (y.emission? n).map Emission.clause := by
      rw [(trace_spec x n).1, (trace_spec y n).1, hxy.trace]
    simp only [emissions, List.map_append, hxy.next, hf, hc, ho _ hfx, ho _ hcx, and_self]

theorem shares_paired (h : List.Forall₂ Paired xs ys) (n : Nat) :
    List.Forall₂ SharesMatch (shares n xs) (shares n ys) := by
  induction h generalizing n with
  | nil => exact .nil
  | cons hxy _ ih =>
    rw [shares, shares, hxy.next]
    exact .cons (hxy.shares n) (ih _)

theorem length_boundBy_eq {as bs : List (RequestAt × List Binding)}
    (h : List.Forall₂ SharesMatch as bs) : (boundBy as).length = (boundBy bs).length := by
  induction h with
  | nil => rfl
  | cons hab _ ih =>
    unfold boundBy at ih ⊢
    rw [List.flatMap_cons, List.flatMap_cons, List.length_append, List.length_append, ih,
      Builder.length_boundFrom, Builder.length_boundFrom, hab.1]

theorem orders_paired (h : List.Forall₂ Paired xs ys) :
    xs.filterMap orderSet? = ys.filterMap orderSet? := by
  induction h with
  | nil => rfl
  | @cons x y xs ys hxy _ ih =>
    have ho : x.orderSet? = y.orderSet? := hxy.shape.orderSet?
    rw [List.filterMap_cons, List.filterMap_cons, ho, ih]

theorem lastOrder_paired (h : List.Forall₂ Paired xs ys) : lastOrder xs = lastOrder ys := by
  rw [lastOrder, lastOrder, orders_paired h]

end RequestAt

/-- Two courses that differ in their values and in what is reserved alone lead to one query with the
same numbers. Their arguments are as many behind those that are reserved, and differ only where the
values do. -/
theorem same_query {p q : Plan} {s₁ s₂ t₁ t₂ u₁ u₂ : Session} {h₁ h₂ : Handle} {b₁ b₂ : Builder}
    {m₁ m₂ : Mark} {base : String} {xs ys : List RequestAt}
    (hm₁ : p.make.result s₁ = (.ok (.shared h₁), t₁)) (hb₁ : t₁.store.builder? h₁ = some b₁)
    (hm₂ : q.make.result s₂ = (.ok (.shared h₂), t₂)) (hb₂ : t₂.store.builder? h₂ = some b₂)
    (hp : p.base = .text m₁ base) (hq : q.base = .text m₂ base)
    (hcond : p.conditions = q.conditions) (hstart : b₁.index = b₂.index)
    (hx : ∀ x ∈ xs, x.Worded fun _ => True) (hy : ∀ y ∈ ys, y.Worded fun _ => True)
    (hxy : List.Forall₂ RequestAt.Paired xs ys)
    (hc₁ : Course h₁ t₁ xs u₁) (hc₂ : Course h₂ t₂ ys u₂) :
    ∃ c₁ c₂ text index size, u₁.store.builder? h₁ = some c₁ ∧ u₂.store.builder? h₂ = some c₂ ∧
      Seen c₁ u₁ text (b₁.reserved ++ RequestAt.boundBy (RequestAt.shares b₁.index xs)) index size ∧
      Seen c₂ u₂ text (b₂.reserved ++ RequestAt.boundBy (RequestAt.shares b₂.index ys)) index size ∧
      (RequestAt.boundBy (RequestAt.shares b₁.index xs)).length =
        (RequestAt.boundBy (RequestAt.shares b₂.index ys)).length ∧
      List.Forall₂ RequestAt.SharesMatch (RequestAt.shares b₁.index xs)
        (RequestAt.shares b₂.index ys) := by
  obtain ⟨c₁, hc₁', seen₁⟩ := hc₁.seen hm₁ hb₁ hp hx
  obtain ⟨c₂, hc₂', seen₂⟩ := hc₂.seen hm₂ hb₂ hq hy
  obtain ⟨fragments, clauses⟩ := RequestAt.emissions_paired hxy b₁.index
  have matched := RequestAt.shares_paired hxy b₁.index
  have lengths := congrArg List.length clauses
  rw [List.length_map, List.length_map] at lengths
  rw [Emission.taken, fragments, clauses, lengths, RequestAt.allLost_paired hxy,
    RequestAt.lastOrder_paired hxy, hcond, ← RequestAt.boundBy_shares, ← Emission.taken] at seen₁
  rw [← hstart, ← RequestAt.boundBy_shares] at seen₂
  rw [← hstart]
  exact ⟨c₁, c₂, _, _, _, hc₁', hc₂', seen₁, seen₂, RequestAt.length_boundBy_eq matched, matched⟩

theorem same_query_compare :
    ∃ t₁ t₂ u₁ u₂ c₁ c₂ text index size,
      (Plan.of (.text none "from Foo") (.int none 1) [] .null (.text none "")).make.result {} =
        (.ok (.shared ⟨1⟩), t₁) ∧
      (Plan.of (.text none "from Foo") (.int none 1) [.int none 7] .null
        (.text none "")).make.result {} = (.ok (.shared ⟨1⟩), t₂) ∧
      Course ⟨1⟩ t₁ [⟨t₁.store, .compare .equal (.text none "a") (.int none 3)⟩] u₁ ∧
      Course ⟨1⟩ t₂ [⟨t₂.store, .compare .equal (.text none "a") (.text none "?9 or b = 1")⟩] u₂ ∧
      u₁.store.builder? ⟨1⟩ = some c₁ ∧ u₂.store.builder? ⟨1⟩ = some c₂ ∧
      Seen c₁ u₁ text [.int none 3] index size ∧
      Seen c₂ u₂ text [.int none 7, .text none "?9 or b = 1"] index size := by
  let p : List Value → Plan := fun vs =>
    .of (.text none "from Foo") (.int none 1) vs .null (.text none "")
  let t : List Value → Session := fun vs => ((p vs).make.result {}).2
  have hm₁ : (p []).make.result {} = (.ok (.shared ⟨1⟩), t []) := rfl
  have hm₂ : (p [.int none 7]).make.result {} = (.ok (.shared ⟨1⟩), t [.int none 7]) := rfl
  have hc := fun (v : Value) (s : Session) => Course.request (h := ⟨1⟩) (s := s)
    (r := .compare .equal (.text none "a") v) (Course.done _)
  have hw : ∀ v s, ∀ x ∈ [(⟨s, .compare .equal (.text none "a") v⟩ : RequestAt)],
      x.Worded fun _ => True := fun v s => List.forall_mem_singleton.2
    (.of_form (d := .compare "a" .equal) rfl fun _ _ => trivial)
  have hp : List.Forall₂ RequestAt.Paired
      [⟨(t []).store, .compare .equal (.text none "a") (.int none 3)⟩]
      [⟨(t [.int none 7]).store, .compare .equal (.text none "a") (.text none "?9 or b = 1")⟩] :=
    .cons ⟨.compare .equal _ _ rfl, rfl⟩ .nil
  obtain ⟨c₁, c₂, text, index, size, hc₁, hc₂, seen₁, seen₂, -, -⟩ :=
    same_query hm₁ rfl hm₂ rfl rfl rfl rfl rfl (hw _ _) (hw _ _) hp (hc _ (t [])) (hc _ (t _))
  exact ⟨_, _, _, _, c₁, c₂, text, index, size, hm₁, hm₂, hc _ _, hc _ _, hc₁, hc₂, seen₁, seen₂⟩

end Criteria
