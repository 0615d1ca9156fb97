import Criteria.Proofs.Atomicity
import Criteria.Proofs.Construction
import Criteria.Proofs.SameButBuilders

/-! What the records tell of a builder. Each call of a builder adds records that say what became of
it: `Told` lists what they can be, call by call. Since a clause is recorded just when it enters, the
conditions and the arguments of a builder can be read off the records of its calls.
-/

set_option autoImplicit false

namespace Criteria

namespace Record

def hasWords (words : String) (r : Record) : Bool :=
  r.channel = .builder && words.toList.isPrefixOf r.message.toList

def ofStatic (condition : String) : Record :=
  ⟨.debug, .builder, "Registered static condition: '" ++ condition ++ "'"⟩

def ofAdded (condition shown : String) : Record :=
  ⟨.debug, .builder, "Added condition '" ++ condition ++ "' with args " ++ shown⟩

def ofBuilt (query : String) : Record := ⟨.info, .builder, "Built query: '" ++ query ++ "'"⟩

theorem hasWords_of_append (words more : String) (l : Level) :
    hasWords words ⟨l, .builder, words ++ more⟩ = true := by
  simp [hasWords]

theorem hasWords_of_channel {words : String} {r : Record} (h : r.channel ≠ .builder) :
    hasWords words r = false := by
  simp [hasWords, h]

theorem hasWords_of_head {words first more : String} {l : Level} {c d : Char}
    (hw : words.toList.head? = some c) (hf : first.toList.head? = some d) (h : c ≠ d) :
    hasWords words ⟨l, .builder, first ++ more⟩ = false := by
  obtain ⟨ws, hw⟩ := List.head?_eq_some_iff.1 hw
  obtain ⟨fs, hf⟩ := List.head?_eq_some_iff.1 hf
  simp [hasWords, String.toList_append, hw, hf, List.isPrefixOf, h]

end Record

def addedWords : String := "Added condition '"

def staticWords : String := "Registered static condition: '"

/-- What a record of a clause tells: its text, its arguments as they were shown, and the cells in
which they were. -/
structure Report where
  condition : String
  values : List Value
  shown : String
  store : Store

def Report.record (e : Report) : Record := .ofAdded e.condition e.shown

/-- A call of a builder: one of its operations, or a look at its next number. -/
inductive BuilderCall where
  | call (name : String) (g : Given)
  | index

namespace BuilderCall

open Builder

def perform (h : Handle) : BuilderCall → Operation Value
  | call name g => Call.onBuilder h name g
  | index => Attribute.read (.shared h) "index"

def Known : BuilderCall → Prop
  | call name _ => name ∈ Operations.ofBuilder
  | index => True

def request? : BuilderCall → Option Request
  | call name g => (requesting? name).bind fun op => (op.1.take g).toOption.map op.2
  | index => none

def Clausal (a : BuilderCall) (r : Request) : Prop := a.request? = some r ∧ ∀ c, r ≠ .orderBy c

def Names (a : BuilderCall) (name : String) : Prop := ∃ g, a = .call name g

def Silent (a : BuilderCall) : Prop :=
  a = .index ∨ ∃ name ∈ ["args", "__len__", "__bool__", "__repr__"], a.Names name

end BuilderCall

/-- A call that was made, with what came of it. -/
structure CallMade where
  ask : BuilderCall
  before : Session
  answer : Except Fault Value
  after : Session

namespace CallMade

def of (h : Handle) (a : BuilderCall) (s : Session) : CallMade :=
  ⟨a, s, ((a.perform h).result s).1, ((a.perform h).result s).2⟩

def records (d : CallMade) : List Record := d.after.records.drop d.before.records.length

def Shows (h : Handle) (d : CallMade) : Prop :=
  ∀ b c, d.before.store.builder? h = some b → d.after.store.builder? h = some c →
    ∃ w, d.after.store.shownList (c.bound.drop b.bound.length) = .ok w

/-- Callers gave nothing that is called in place of the operations that build a query. -/
def Own (h : Handle) (d : CallMade) : Prop :=
  ∀ name ∈ ["build", "args"], d.before.store.givenTo? (.shared h) name = none

end CallMade

namespace Request

def listed (s : Store) (v : Value) : Bool :=
  match v, s.cellOf? v with
  | .tuple .., _ | .point .., _ | _, some (.set ..) => true
  | _, _ => false

def conversions (s : Store) : Request → List Record
  | within _ values =>
    if listed s values then
      [⟨.debug, .values, "Converted " ++ s.shortName values ++ " to list for 'in'"⟩]
    else []
  | _ => []

end Request

namespace Builder

/-- A query as its record has it. That of a query that is no text is read before the query is told
apart from equal ones by its mark. -/
def Reads (s : Store) (v : Value) (w : String) : Prop :=
  match v with
  | .text _ t => w = t
  | v => ∃ (u : Store) (q : Value), u.cells = s.cells ∧ u.extras = s.extras ∧
      q.withMark v.mark = v ∧ u.plain q = .ok w

def Keeps (b c : Builder) : Prop := c.conditions = b.conditions ∧ c.bound = b.bound

end Builder

/-- The records of a call on a builder that was `b` and is `c`, by what came of the call. -/
inductive CallMade.Told (d : CallMade) (b c : Builder) : List Record → Prop where
  | refused {f : Fault} : d.answer = .error f → b.Keeps c → Told d b c []
  | added {r : Request} {v : Value} {condition shown : String} {values : List Value} :
      d.ask.Clausal r → d.answer = .ok v →
      c.conditions = b.conditions ++ [condition] → c.bound = b.bound ++ values →
      d.after.store.shownList values = .ok shown →
      Told d b c (r.conversions d.before.store ++ [.ofAdded condition shown])
  | skipped {r : Request} {v value : Value} {path operation message : String} :
      d.ask.Clausal r → d.answer = .ok v → b.Keeps c →
      Builder.skipRecord d.after.store path operation value = .ok message →
      Told d b c [⟨.debug, .builder, message⟩]
  | ordered {o v : Value} {message : String} :
      d.ask.request? = some (.orderBy o) → d.answer = .ok v → b.Keeps c →
      Builder.orderRecord d.after.store c.order = .ok message →
      Told d b c [⟨.debug, .builder, message⟩]
  | built {q : Value} {query : String} :
      d.ask.Names "build" → d.answer = .ok q → b.Keeps c → Builder.Reads d.after.store q query →
      Told d b c [.ofBuilt query]
  | queried {q : Value} {m k : Mark} {query : String} {u : Session} :
      d.ask.Names "build_query" → d.answer = .ok (.query m q (.tuple k b.args)) → b.Keeps c →
      b.buildNoted.result d.before = (.ok q, u) → Builder.Reads u.store q query →
      Told d b c [.ofBuilt query]
  | silent {v : Value} : d.ask.Silent → d.answer = .ok v → b.Keeps c → Told d b c []

namespace Store

theorem builder?_put {s : Store} {h : Handle} {c : Cell} (hs : s.builder? h = none)
    (hc : ∀ b, c ≠ .builder b) (k : Handle) : (s.put h c).builder? k = s.builder? k := by
  by_cases e : h = k
  · subst e
    cases hd : s.cell? h with
    | none =>
      have hl : s.cells.length ≤ h.index := List.getElem?_eq_none_iff.1 hd
      simp [builder?, put, cell?, hl]
    | some d =>
      rw [hs, builder?, cell?_put_self s h c d hd]
      cases c with
      | builder b => exact absurd rfl (hc b)
      | _ => rfl
  · rw [builder?, builder?, cell?_put_of_ne s h k c e]

end Store

namespace Builder

open Operation

theorem Keeps.refl (b : Builder) : b.Keeps b := ⟨rfl, rfl⟩

theorem result_noted_eq (message : Store → Except Fault String) (s : Session) :
    (noted message).result s =
      match message s.store with
      | .ok m => (.ok (), { s with records := s.records ++ [⟨.debug, .builder, m⟩] })
      | .error f => (.error f, s) := by
  simp only [noted, result_bind, result_asking]
  cases message s.store <;> simp

def copyRecords : List Binding → List Record
  | [] => []
  | .itself _ :: xs => copyRecords xs
  | .copy name _ :: xs => ⟨.debug, .values, copyRecord name⟩ :: copyRecords xs

theorem records_bindValues (bs : List Binding) (s : Session) :
    ((bindValues bs).result s).2.records = s.records ++ copyRecords bs := by
  induction bs generalizing s with
  | nil => simp [bindValues, copyRecords]
  | cons x xs ih =>
    cases x with
    | itself v =>
      have hx := ih s
      simp only [bindValues, bindValue, result_bind, result_pure, copyRecords]
      rcases e : (bindValues xs).result s with ⟨r, t⟩
      rw [e] at hx
      cases r <;> exact hx
    | copy name items =>
      let u : Session := { s with
        records := s.records ++ [⟨.debug, .values, copyRecord name⟩]
        store := (s.store.alloc (.list items)).2 }
      have hx := ih u
      simp only [bindValues, bindValue, result_bind, result_note, result_share, copyRecords]
      rcases e : (bindValues xs).result u with ⟨r, t⟩
      rw [e] at hx
      cases r <;> simpa [u] using hx

theorem records_carryOut_add {h : Handle} {b : Builder} {c : Clause} {bs : List Binding}
    {s : Session} {message : String}
    (hm : addRecord ((carryOut h b (.add c bs)).result s).2.store (c.render b.index)
      (boundFrom s.store.size bs) = .ok message) :
    ((carryOut h b (.add c bs)).result s).2.records =
      s.records ++ (copyRecords bs ++ [⟨.debug, .builder, message⟩]) := by
  have hv := result_bindValues bs s
  have hr := records_bindValues bs s
  simp only [carryOut, result_bind] at hm ⊢
  rcases e : (bindValues bs).result s with ⟨r, t⟩
  rw [e] at hv hr hm
  subst hv
  simp only [result_put, result_noted] at hm
  simp only [result_put, result_noted_eq, hm]
  rw [← List.append_assoc, ← hr]

def Quiet {α : Type} (x : Operation α) : Prop :=
  ∀ s, (∃ cells, (x.result s).2 = { s with store := { s.store with cells } }) ∧
    ∀ h, (x.result s).2.store.builder? h = s.store.builder? h

namespace Quiet

variable {α β : Type}

theorem pure (a : α) : Quiet (Pure.pure a) := fun s => ⟨⟨s.store.cells, rfl⟩, fun _ => rfl⟩

theorem refuse (f : Fault) : Quiet (refuse f : Operation α) :=
  fun s => ⟨⟨s.store.cells, rfl⟩, fun _ => rfl⟩

theorem bind {x : Operation α} {f : α → Operation β} (hx : Quiet x) (hf : ∀ a, Quiet (f a)) :
    Quiet (x >>= f) := by
  intro s
  obtain ⟨⟨cs, e⟩, hs⟩ := hx s
  rw [result_bind]
  rcases hr : x.result s with ⟨r, t⟩
  rw [hr] at e hs
  cases r with
  | error f => exact ⟨⟨cs, e⟩, hs⟩
  | ok a =>
    obtain ⟨⟨cs', e'⟩, ht⟩ := hf a t
    refine ⟨⟨cs', ?_⟩, fun h => (ht h).trans (hs h)⟩
    rw [e', show t = _ from e]

theorem extend (built : Value) (more : String) : Quiet (extend built more) := by
  intro s
  unfold Builder.extend
  split
  · exact pure _ s
  · simp only [result_bind, result_theStore]
    split
    · next k items _ hc =>
      have hk : s.store.cell? k = some (.list items) := hc
      refine ⟨⟨_, rfl⟩, Store.builder?_put ?_ fun _ => Cell.noConfusion⟩
      rw [Store.builder?, hk]
    · next k items _ hc =>
      have hk : s.store.cell? k = some (.deque items) := hc
      refine ⟨⟨_, rfl⟩, Store.builder?_put ?_ fun _ => Cell.noConfusion⟩
      rw [Store.builder?, hk]
    · exact refuse _ s

theorem orderText (o : Value) : Quiet (orderText o) := by
  intro s
  cases o <;> exact ⟨⟨s.store.cells, rfl⟩, fun _ => rfl⟩

theorem build (b : Builder) : Quiet b.build := by
  have ordered : ∀ built o, Quiet (do Builder.extend built (← Builder.orderText o)) :=
    fun built o => (orderText o).bind (extend built)
  unfold Builder.build
  by_cases hc : b.conditions.isEmpty = true
  · simp only [hc, if_true, pure_bind]
    cases b.order with
    | none => exact pure b.base
    | some o => exact ordered b.base o
  · simp only [hc]
    refine bind (extend b.base b.whereText) fun built => ?_
    cases b.order with
    | none => exact pure built
    | some o => exact ordered built o

end Quiet

theorem withMark_withMark_mark (v : Value) (m : Mark) :
    v.withMark (v.withMark m).mark = v.withMark m := by
  cases v <;> rfl

theorem told_buildNoted (b : Builder) (s : Session) :
    (∀ h, (b.buildNoted.result s).2.store.builder? h = s.store.builder? h) ∧
      (b.buildNoted.result s).2.store.extras = s.store.extras ∧
      match b.buildNoted.result s with
      | (.error _, t) => t.records = s.records
      | (.ok v, t) => ∃ w, t.records = s.records ++ [.ofBuilt w] ∧ Reads t.store v w := by
  obtain ⟨⟨cells, e⟩, kept⟩ := Quiet.build b s
  rcases he : b.build.result s with ⟨r, t⟩
  rw [he] at e kept
  subst e
  cases r with
  | error f =>
    have told : b.buildNoted.result s =
        (.error f, { s with store := { s.store with cells } }) := by
      simp only [buildNoted, result_bind, he]
    rw [told]
    exact ⟨kept, rfl, rfl⟩
  | ok v =>
    cases hp : ({ s.store with cells } : Store).plain v with
    | error f =>
      simp only [buildNoted, result_bind, he, result_asking, builtRecord, hp]
      exact ⟨kept, rfl, rfl⟩
    | ok w =>
      obtain ⟨m, marks, hs⟩ := result_settled_eq v
        { s with
          store := { s.store with cells }
          records := s.records ++ [.ofBuilt w] }
      have told : b.buildNoted.result s = (.ok (v.withMark m), { s with
          store := { s.store with cells, marks }
          records := s.records ++ [.ofBuilt w] }) := by
        simp only [buildNoted, result_bind, he, result_asking, builtRecord, hp]
        exact hs
      rw [told]
      refine ⟨kept, rfl, w, rfl, ?_⟩
      cases v with
      | text k t => exact (Except.ok.inj hp).symm
      | _ => exact ⟨{ s.store with cells }, _, rfl, rfl, withMark_withMark_mark _ m, hp⟩

end Builder

namespace Request

theorem listed_eq_copied? (s : Store) (v : Value) : listed s v = (s.copied? v).isSome := by
  cases v with
  | shared k =>
    simp only [listed, Store.copied?, Store.cellOf?]
    rcases s.cell? k with _ | c
    · rfl
    · cases c <;> rfl
  | _ => rfl

theorem copyRecords_replicate (n : Nat) (v : Value) :
    Builder.copyRecords (List.replicate n (.itself v)) = [] := by
  induction n with
  | zero => rfl
  | succ n ih => exact ih

theorem order_of_ruleOrderBy {s : Store} {c : Value} {ruling : Ruling}
    (h : ruleOrderBy s c = .ok ruling) : ∃ o, ruling = .order o := by
  cases hp : s.fieldPath c with
  | ok p =>
    rw [ruleOrderBy_of_ok hp] at h
    cases hb : s.present p with
    | error f => simp [hb, Except.map] at h
    | ok b =>
      simp only [hb, Except.map, Except.ok.injEq] at h
      exact ⟨_, h.symm⟩
  | error f =>
    by_cases hn : c = .null
    · subst hn
      cases h
      exact ⟨none, rfl⟩
    · obtain ⟨f', hf⟩ := ruleOrderBy_of_error hp hn
      rw [hf] at h
      cases h

theorem copyRecords_bindings {s : Store} {r : Request} {n : Nat} {bs : List Binding}
    (h : r.bindings? s n = some bs) : Builder.copyRecords bs = r.conversions s := by
  cases r with
  | within field values =>
    simp only [bindings?] at h
    split at h
    · simp only [Option.some.injEq] at h
      simp only [← h, conversions, listed_eq_copied?, binding]
      cases s.copied? values <;> rfl
    · cases h
  | likeAny fields value mode =>
    simp only [bindings?] at h
    split at h
    · obtain ⟨p, -, rfl⟩ := Option.map_eq_some_iff.1 h
      exact copyRecords_replicate n p
    · cases h
  | like field value mode =>
    simp only [bindings?] at h
    split at h
    · obtain ⟨p, -, rfl⟩ := Option.map_eq_some_iff.1 h
      rfl
    · cases h
  | compare op field value =>
    simp only [bindings?] at h
    split at h
    · simp only [Option.some.injEq] at h
      rw [← h]
      rfl
    · cases h
  | between field lower upper =>
    simp only [bindings?] at h
    split at h
    · simp only [Option.some.injEq] at h
      rw [← h]
      rfl
    · cases h
  | orderBy clause => cases h

end Request

namespace CallMade

open Operation Builder

structure Settles (h : Handle) (d : CallMade) (b c : Builder) (new : List Record) : Prop where
  builder? : d.after.store.builder? h = some c
  records : d.after.records = d.before.records ++ new
  told : d.Told b c new

section Requests

variable {h : Handle} {d : CallMade} {b : Builder} {r : Request}

theorem clausal_of_rule {s : Store} {ruling : Ruling} (ha : d.ask.request? = some r)
    (hr : r.rule s = .ok ruling) (hn : ∀ o, ruling ≠ .order o) : d.ask.Clausal r := by
  refine ⟨ha, ?_⟩
  rintro c rfl
  obtain ⟨o, e⟩ := Request.order_of_ruleOrderBy hr
  exact hn o e

theorem settles_request (hb : d.before.store.builder? h = some b) (ha : d.ask.request? = some r)
    (answer : d.answer = ((request h r).result d.before).1.map fun _ => .shared h)
    (left : d.after = ((request h r).result d.before).2) (hs : d.Shows h) :
    ∃ c new, d.Settles h b c new := by
  have after_eq := builder?_request h b r d.before hb
  have demand := r.demand?_eq_rule d.before.store
  rw [← left] at after_eq
  cases e : r.rule d.before.store with
  | error f =>
    rw [e] at after_eq
    rw [result_request_of_error hb e] at answer left
    exact ⟨_, [], after_eq, by simp [left], .refused answer (.refl b)⟩
  | ok ruling =>
    have clausal := clausal_of_rule ha e
    rw [e] at after_eq demand
    rw [result_request_of_ok hb e] at answer left
    simp only [Except.map] at after_eq
    cases hx : ruling.startingAt b.index with
    | skip path operation value =>
      have same : ruling = .skip path operation value :=
        Ruling.eq_of_startingAt hx fun _ _ => Ruling.noConfusion
      rw [hx] at after_eq answer left
      rw [carryOut, result_noted_eq] at answer left
      cases hm : skipRecord (r.passed d.before.store) path operation value with
      | error f =>
        simp only [hm] at answer left
        exact ⟨_, [], after_eq, by simp [left], .refused answer (.refl b)⟩
      | ok message =>
        simp only [hm] at answer left
        refine ⟨_, [⟨.debug, .builder, message⟩], after_eq, by simp [left], ?_⟩
        exact .skipped (clausal fun o => by simp [same]) answer (.refl b) (by rw [left]; exact hm)
    | add c bs =>
      have same : ruling = .add c bs :=
        Ruling.eq_of_startingAt hx fun _ _ => Ruling.noConfusion
      subst same
      have copies := Request.copyRecords_bindings (Request.demand?_eq_some.1 demand).2
      rw [hx] at after_eq answer left
      obtain ⟨w, hw⟩ : ∃ w, d.after.store.shownList (boundFrom d.before.store.size bs) = .ok w := by
        simpa [Builder.after, Builder.add] using hs b _ hb after_eq
      have shown : addRecord d.after.store (c.render b.index) (boundFrom d.before.store.size bs) =
          .ok ("Added condition '" ++ c.render b.index ++ "' with args " ++ w) := by
        rw [addRecord, hw]
        rfl
      rw [left, ← size_request_passed d.before.store r] at shown
      rw [fst_carryOut_add, shown] at answer
      have records := records_carryOut_add shown
      rw [← left, copies] at records
      exact ⟨_, _, after_eq, records, .added (clausal fun o => by simp) answer rfl rfl hw⟩
    | tear n f =>
      rw [hx] at after_eq answer left
      exact ⟨_, [], after_eq, by simp [left, carryOut, result_bind], .refused answer ⟨rfl, rfl⟩⟩
    | order o =>
      have same : ruling = .order o :=
        Ruling.eq_of_startingAt hx fun _ _ => Ruling.noConfusion
      rw [hx] at after_eq answer left
      simp only [carryOut, result_bind, result_put, result_noted_eq] at answer left
      cases hm : orderRecord ((r.passed d.before.store).put h (.builder (b.orderBy o))) o with
      | error f =>
        simp only [hm] at answer left
        exact ⟨_, [], after_eq, by simp [left], .refused answer ⟨rfl, rfl⟩⟩
      | ok message =>
        simp only [hm] at answer left
        refine ⟨_, [⟨.debug, .builder, message⟩], after_eq, by simp [left], ?_⟩
        have ordered := Request.agrees_rule d.before.store r
        rw [e, same] at ordered
        obtain ⟨v, rfl⟩ := ordered
        exact .ordered ha answer ⟨rfl, rfl⟩ (by rw [left]; exact hm)

end Requests

end CallMade

namespace Call

open Operation Builder

theorem result_onBuilder_telling {h : Handle} {b : Builder} {name : String} {g : Given}
    {s : Session} {tell : Operation Value} (hb : s.store.builder? h = some b)
    (hn : requesting? name = none) (ht : telling? h b name = some tell) :
    (onBuilder h name g).result s =
      match (Builder.signature name [] []).take g with
      | .error f => (.error f, s)
      | .ok _ => tell.result s := by
  simp only [onBuilder, theBuilder, result_bind, result_theStore, hb, result_pure, hn, ht,
    result_asking]
  cases (Builder.signature name [] []).take g <;> rfl

end Call

namespace Builder

open Operation

theorem givenTo?_of_builder {s t : Store} {h : Handle} {b c : Builder}
    (hs : s.builder? h = some b) (ht : t.builder? h = some c) (he : s.extras = t.extras)
    (name : String) : s.givenTo? (.shared h) name = t.givenTo? (.shared h) name := by
  have hs := builder?_eq_some.1 hs
  have ht := builder?_eq_some.1 ht
  simp only [Store.givenTo?, Store.owner?, Store.libraryClass?, Store.cellOf?, hs, ht,
    Store.givenToClass?, Store.given, he]

theorem result_buildQuery {h : Handle} {b : Builder} {s : Session}
    (hb : s.store.builder? h = some b)
    (hg : ∀ name ∈ ["build", "args"], s.store.givenTo? (.shared h) name = none) :
    (∃ f t, b.buildNoted.result s = (.error f, t) ∧ (buildQuery h b).result s = (.error f, t)) ∨
      ∃ q u m k t, b.buildNoted.result s = (.ok q, u) ∧
        (buildQuery h b).result s = (.ok (.query m q (.tuple k b.args)), t) ∧
        t.records = u.records ∧ t.store.builder? h = some b := by
  obtain ⟨kept, extras_eq, -⟩ := told_buildNoted b s
  have text_eq : (toldText h b).result s = b.buildNoted.result s := by
    simp only [toldText, told, result_bind, result_theStore, hg "build" (by simp)]
  rcases e : b.buildNoted.result s with ⟨r, u⟩
  rw [e] at kept extras_eq
  cases r with
  | error f =>
    refine .inl ⟨f, u, rfl, ?_⟩
    simp only [buildQuery, result_bind, text_eq, e]
  | ok q =>
    have hu : u.store.builder? h = some b := (kept h).trans hb
    have none_eq := givenTo?_of_builder hb hu extras_eq.symm "args"
    rw [hg "args" (by simp)] at none_eq
    refine .inr ⟨q, u, ?_⟩
    let v : Store := (u.store.alloc (.list b.args)).2
    have drained := result_drain_of_list (s := { u with store := v })
      (Store.cell?_alloc u.store (.list b.args))
    have result_eq : (buildQuery h b).result s =
        (.ok (.query v.mark.1 q (.tuple v.mark.2.mark.1 b.args)),
          { u with store := v.mark.2.mark.2 }) := by
      simp only [buildQuery, result_bind, text_eq, e, told, result_theStore, ← none_eq, argsList,
        result_share, result_mark, result_pure]
      rw [drained]
    refine ⟨_, _, _, rfl, result_eq, rfl, ?_⟩
    have hc := Store.cell?_alloc_of_some u.store (.list b.args) _ h (builder?_eq_some.1 hu)
    exact builder?_eq_some.2 hc

end Builder

namespace CallMade

open Operation Builder

variable {h : Handle} {s : Session} {b : Builder}

theorem settles_of_silent {d : CallMade} {c : Builder} (hd : d.ask.Silent)
    (hc : d.after.store.builder? h = some c) (hk : b.Keeps c)
    (hr : d.after.records = d.before.records) : ∃ c new, d.Settles h b c new := by
  refine ⟨c, [], hc, by simp [hr], ?_⟩
  cases ha : d.answer with
  | error f => exact .refused ha hk
  | ok v => exact .silent hd ha hk

theorem settles_of_refused {d : CallMade} {f : Fault} (hb : d.before.store.builder? h = some b)
    (ha : d.answer = .error f) (hd : d.after = d.before) : ∃ c new, d.Settles h b c new := by
  refine ⟨b, [], by rw [hd]; exact hb, by simp [hd], .refused ha (.refl b)⟩

theorem result_perform_index (hb : s.store.builder? h = some b) :
    (BuilderCall.index.perform h).result s = (Attribute.indexOf h b).result s := by
  have hc := builder?_eq_some.1 hb
  simp [BuilderCall.perform, Attribute.read, Attribute.ofBuilder, result_bind, Store.cellOf?, hc]

theorem result_index (hb : s.store.builder? h = some b) :
    ∃ v marks met, (BuilderCall.index.perform h).result s =
      (.ok v, { s with
        store := ({ s.store with marks } : Store).put h (.builder { b with met }) }) := by
  have hc := builder?_eq_some.1 hb
  have read_eq := result_perform_index hb
  cases hm : b.met.filter fun m => m.1 = b.index with
  | some m =>
    refine ⟨.int m.2 m.1, s.store.marks, b.met, ?_⟩
    simp only [read_eq, Attribute.indexOf, hm, result_pure, Store.put_self hc]
  | none =>
    obtain ⟨m, marks, hf⟩ := result_fresh_eq (.int none b.index) s
    refine ⟨.int m b.index, marks, some (b.index, m), ?_⟩
    simp only [read_eq, Attribute.indexOf, hm, result_bind, hf, result_put, result_pure]
    rfl

theorem settles_index (hb : s.store.builder? h = some b) :
    ∃ c new, (of h .index s).Settles h b c new := by
  obtain ⟨v, marks, met, e⟩ := result_index hb
  refine settles_of_silent (.inl rfl) (c := { b with met }) ?_ ⟨rfl, rfl⟩ (by rw [of, e])
  rw [of, e]
  exact builder?_eq_some.2 (Store.cell?_put_self _ _ _ _ (builder?_eq_some.1 hb))

theorem settles_telling {name : String} {g : Given} {tell : Operation Value}
    (hb : s.store.builder? h = some b) (hn : requesting? name = none)
    (ht : telling? h b name = some tell)
    (hd : ∀ d : CallMade, d.ask = .call name g → d.before = s → d.answer = (tell.result s).1 →
      d.after = (tell.result s).2 → ∃ c new, d.Settles h b c new) :
    ∃ c new, (of h (.call name g) s).Settles h b c new := by
  have result_eq := Call.result_onBuilder_telling (g := g) hb hn ht
  cases e : (Builder.signature name [] []).take g with
  | error f =>
    rw [e] at result_eq
    exact settles_of_refused hb (congrArg Prod.fst result_eq) (congrArg Prod.snd result_eq)
  | ok t =>
    rw [e] at result_eq
    exact hd _ rfl rfl (congrArg Prod.fst result_eq) (congrArg Prod.snd result_eq)

def outputs : List String := ["build", "build_query", "args", "__len__", "__bool__", "__repr__"]

theorem requesting?_or_telling :
    ∀ name ∈ Operations.ofBuilder, (requesting? name).isSome ∨ name ∈ outputs := by
  decide

theorem settles_silent {name : String} {g : Given} {tell : Operation Value}
    (hb : s.store.builder? h = some b) (hn : requesting? name = none)
    (ht : telling? h b name = some tell) (hs : name ∈ ["args", "__len__", "__bool__", "__repr__"])
    (hc : (tell.result s).2.store.builder? h = some b)
    (hr : (tell.result s).2.records = s.records) :
    ∃ c new, (of h (.call name g) s).Settles h b c new := by
  refine settles_telling hb hn ht fun d hd before ha hl => ?_
  exact settles_of_silent (.inr ⟨name, hs, g, hd⟩) (by rw [hl]; exact hc) (.refl b)
    (by rw [hl, before]; exact hr)

theorem settles_build {g : Given} (hb : s.store.builder? h = some b) :
    ∃ c new, (of h (.call "build" g) s).Settles h b c new := by
  refine settles_telling hb rfl rfl fun d hd hs ha hl => ?_
  obtain ⟨kept, -, told⟩ := told_buildNoted b s
  rcases e : b.buildNoted.result s with ⟨x, t⟩
  rw [e] at kept told ha hl
  have hc : d.after.store.builder? h = some b := by
    rw [hl, kept]
    exact hb
  cases x with
  | error f => exact ⟨b, [], hc, by simpa [hl, hs] using told, .refused ha (.refl b)⟩
  | ok q =>
    obtain ⟨w, records, reads⟩ := told
    refine ⟨b, _, hc, by rw [hl, hs]; exact records, .built ⟨g, hd⟩ ha (.refl b) ?_⟩
    rw [hl]
    exact reads

theorem settles_buildQuery {g : Given} (hb : s.store.builder? h = some b)
    (ho : (of h (.call "build_query" g) s).Own h) :
    ∃ c new, (of h (.call "build_query" g) s).Settles h b c new := by
  refine settles_telling hb rfl rfl fun d hd hs ha hl => ?_
  obtain ⟨kept, -, told⟩ := told_buildNoted b s
  rcases result_buildQuery hb ho with ⟨f, t, e, result_eq⟩ | ⟨q, u, m, k, t, e, result_eq, same, hc⟩
  · rw [e] at kept told
    rw [result_eq] at ha hl
    refine ⟨b, [], by rw [hl, kept]; exact hb, by simpa [hl, hs] using told, .refused ha (.refl b)⟩
  · rw [e] at told
    rw [result_eq] at ha hl
    obtain ⟨w, records, reads⟩ := told
    refine ⟨b, _, by rw [hl]; exact hc, by rw [hl, hs, same]; exact records,
      .queried ⟨g, hd⟩ ha (.refl b) (by rw [hs]; exact e) reads⟩

/-- Every call of a builder is told by its records. -/
theorem settles_of_known {a : BuilderCall} (hb : s.store.builder? h = some b) (ha : a.Known)
    (hs : (of h a s).Shows h) (ho : (of h a s).Own h) :
    ∃ c new, (of h a s).Settles h b c new := by
  cases a with
  | index => exact settles_index hb
  | call name g =>
    cases hq : requesting? name with
    | some op =>
      obtain ⟨sig, mk⟩ := op
      have result_eq := Call.result_onBuilder (g := g) hb hq
      cases ht : sig.take g with
      | error f =>
        rw [ht] at result_eq
        exact settles_of_refused hb (congrArg Prod.fst result_eq) (congrArg Prod.snd result_eq)
      | ok t =>
        rw [ht] at result_eq
        have asked : (BuilderCall.call name g).request? = some (mk t) := by
          simp [BuilderCall.request?, hq, ht, Except.toOption]
        exact settles_request hb asked (congrArg Prod.fst result_eq) (congrArg Prod.snd result_eq)
          hs
    | none =>
      have told := (requesting?_or_telling name ha).resolve_left (by simp [hq])
      simp only [outputs, List.mem_cons, List.not_mem_nil, or_false] at told
      rcases told with rfl | rfl | rfl | rfl | rfl | rfl
      · exact settles_build hb
      · exact settles_buildQuery hb ho
      · refine settles_silent hb hq rfl (by simp) (builder?_eq_some.2 ?_) rfl
        exact Store.cell?_alloc_of_some _ _ _ _ (builder?_eq_some.1 hb)
      · obtain ⟨m, marks, e⟩ := result_fresh_eq (.int none b.size) s
        exact settles_silent hb hq rfl (by simp) (by rw [e]; exact hb) (by rw [e])
      · exact settles_silent hb hq rfl (by simp) hb rfl
      · have quiet : ((do composed (← shown (.shared h))).result s).2.store.builder? h = some b ∧
            ((do composed (← shown (.shared h))).result s).2.records = s.records := by
          simp only [result_bind, shown, result_asking]
          cases s.store.shown (.shared h) with
          | error f => exact ⟨hb, rfl⟩
          | ok t =>
            obtain ⟨m, marks, e⟩ := result_composed_eq t s
            simp only [e]
            exact ⟨hb, trivial⟩
        exact settles_silent hb hq rfl (by simp) quiet.1 quiet.2

theorem records_of_settles {d : CallMade} {b c : Builder} {new : List Record}
    (hd : d.Settles h b c new) : d.records = new := by
  rw [records, hd.records, List.drop_left]

theorem Told.reports {d : CallMade} {b c : Builder} {new : List Record} (hd : d.Told b c new) :
    ∃ rs : List Report, new.filter (Record.hasWords addedWords) = rs.map Report.record ∧
      c.conditions = b.conditions ++ rs.map Report.condition ∧
      c.bound = b.bound ++ rs.flatMap Report.values ∧
      ∀ r ∈ rs, r.store = d.after.store ∧ r.store.shownList r.values = .ok r.shown := by
  have nothing : b.Keeps c → ∀ new : List Record, (∀ r ∈ new, Record.hasWords addedWords r = false) →
      ∃ rs : List Report, new.filter (Record.hasWords addedWords) = rs.map Report.record ∧
        c.conditions = b.conditions ++ rs.map Report.condition ∧
        c.bound = b.bound ++ rs.flatMap Report.values ∧
        ∀ r ∈ rs, r.store = d.after.store ∧ r.store.shownList r.values = .ok r.shown := by
    intro hk new hn
    refine ⟨[], ?_, by simpa using hk.1, by simpa using hk.2, by simp⟩
    simpa using hn
  cases hd with
  | refused ha hk => exact nothing hk [] (by simp)
  | silent hs ha hk => exact nothing hk [] (by simp)
  | @added r v condition shown values hr ha hc hv hw =>
    refine ⟨[⟨condition, values, shown, d.after.store⟩], ?_, by simpa using hc, by simpa using hv,
      by simpa using hw⟩
    have conversions : (r.conversions d.before.store).filter (Record.hasWords addedWords) = [] := by
      cases r with
      | within field values =>
        simp only [Request.conversions]
        split <;> rfl
      | _ => rfl
    have added : Record.hasWords addedWords (.ofAdded condition shown) = true := by
      simp only [Record.ofAdded, String.append_assoc]
      exact Record.hasWords_of_append _ _ _
    simp [List.filter_append, conversions, added, Report.record]
  | @skipped r v value path operation message hr ha hk hm =>
    refine nothing hk _ (List.forall_mem_singleton.2 ?_)
    simp only [skipRecord, bind, Except.bind] at hm
    split at hm <;> cases hm
    simp only [String.append_assoc]
    exact Record.hasWords_of_head rfl rfl (by decide)
  | @ordered o v message hr ha hk hm =>
    refine nothing hk _ (List.forall_mem_singleton.2 ?_)
    obtain ⟨w, e⟩ : ∃ w, message = "Order by set to: " ++ w := by
      simp only [orderRecord, bind, Except.bind] at hm
      split at hm
      · exact ⟨_, (Except.ok.inj hm).symm⟩
      · split at hm <;> cases hm
        exact ⟨_, rfl⟩
    rw [e]
    exact Record.hasWords_of_head rfl rfl (by decide)
  | @built q query hn ha hk hq =>
    refine nothing hk _ (List.forall_mem_singleton.2 ?_)
    simp only [Record.ofBuilt, String.append_assoc]
    exact Record.hasWords_of_head rfl rfl (by decide)
  | @queried q m k query u hn ha hk hb hq =>
    refine nothing hk _ (List.forall_mem_singleton.2 ?_)
    simp only [Record.ofBuilt, String.append_assoc]
    exact Record.hasWords_of_head rfl rfl (by decide)

end CallMade

end Criteria
