import Criteria.Proofs.Confinement
import Criteria.Proofs.Finding
import Criteria.Proofs.Telling

/-! What a builder takes over when callers hand values to it. It keeps its own list of the arguments
that stand first, makes a list of its own where it is given a set, and of fields it keeps the paths
alone. So a change of what callers hold reaches no builder, and it reaches an argument only through
the values that callers handed over to be bound.
-/

set_option autoImplicit false

namespace Criteria

theorem Value.handlesOf_append (vs ws : List Value) :
    handlesOf (vs ++ ws) = handlesOf vs ++ handlesOf ws := by
  induction vs with
  | nil => rfl
  | cons v vs ih => simp [handlesOf, ih]

namespace Collection

open Operation

def Changed (s : Store) (args : List Value) (c d : Cell) : Prop :=
  d = emptied c ∨ ∃ item ∈ args, extended s item c = .ok d

theorem store_apply (h : Handle) (change : Change) (args : List Value) (s : Session) :
    ((apply (.shared h) change args).result s).2.store = s.store ∨
      ∃ c d, s.store.cell? h = some c ∧
        ((apply (.shared h) change args).result s).2.store = s.store.put h d ∧
        args.length = change.arity ∧ Changed s.store args c d := by
  unfold apply
  simp only [result_bind, result_theStore]
  split
  · next k c hk hc =>
    cases hk
    split
    · next arity => exact .inr ⟨c, _, hc, rfl, arity.symm, .inl rfl⟩
    · exact .inl rfl
  · next k c item hk hc =>
    cases hk
    split
    · next arity =>
      simp only [result_bind, result_asking]
      cases he : extended s.store item c with
      | error f => exact .inl rfl
      | ok d => exact .inr ⟨c, d, hc, rfl, arity.symm, .inr ⟨item, List.mem_singleton.2 rfl, he⟩⟩
    · exact .inl rfl
  · split <;> exact .inl rfl

variable {s : Store} {args : List Value}

theorem Changed.longName {c d : Cell} (h : Changed s args c d) : d.longName = c.longName := by
  rcases h with rfl | ⟨item, -, he⟩
  · cases c <;> first | rfl | (rename_i ordered _; cases ordered <;> rfl)
  · cases c with
    | byteArray data =>
      cases hb : byteOf s item <;> simp [extended, hb, bind, Except.bind] at he
      rw [← he]
      rfl
    | set fixed members =>
      simp only [extended, bind, Except.bind] at he
      split at he
      · cases he
      · split at he
        · cases he
        · split at he <;> cases he <;> cases fixed <;> rfl
    | _ =>
      cases he
      rfl

theorem Changed.builder {b : Builder} {d : Cell} (h : Changed s args (.builder b) d) :
    d = .builder b := by
  rcases h with rfl | ⟨item, -, he⟩
  · rfl
  · exact (Except.ok.inj he).symm

theorem Changed.list {items : List Value} {d : Cell} (h : Changed s args (.list items) d) :
    ∃ more, d = .list more ∧ ∀ v ∈ more, v ∈ items ∨ v ∈ args := by
  rcases h with rfl | ⟨item, hm, he⟩
  · exact ⟨[], rfl, by simp⟩
  · refine ⟨items ++ [item], (Except.ok.inj he).symm, fun v hv => ?_⟩
    rcases List.mem_append.1 hv with h | h
    · exact .inl h
    · exact .inr (List.mem_singleton.1 h ▸ hm)

end Collection

/-- What is known of a run: the builders that were made in it, the lists that were made for them,
and the values that callers handed over to be bound. -/
structure Stock where
  builders : List Handle := []
  copies : List Handle := []
  handed : List Value := []

/-- The values that callers hand over to be bound as they are. Of what is bound as a list these are
its elements. A text with a mode makes a new text, and fields are handed over for their paths. -/
def Request.handed (s : Store) : Request → List Value
  | compare _ _ value => [value]
  | within _ values => (binding s values).values
  | between _ lower upper => [lower, upper]
  | like .. | likeAny .. | orderBy _ => []

def Builder.copiesFrom (next : Nat) : List Binding → List Handle
  | [] => []
  | .itself _ :: xs => copiesFrom next xs
  | .copy _ _ :: xs => ⟨next⟩ :: copiesFrom (next + 1) xs

def RequestAt.handed (t : RequestAt) (index : Nat) : List Value :=
  if (t.emission? index).isSome then t.request.handed t.store else []

namespace Stock

def requested (k : Stock) (t : RequestAt) (index : Nat) : Stock :=
  { k with
    copies := k.copies ++ Builder.copiesFrom t.store.size (t.bindings index)
    handed := k.handed ++ t.handed index }

def asked (k : Stock) (h : Handle) (a : BuilderCall) (s : Store) : Stock :=
  match a.request?, s.builder? h with
  | some r, some b => k.requested ⟨s, r⟩ b.index
  | _, _ => k

def changed (k : Stock) (h : Handle) (c : Change) (args : List Value) : Stock :=
  if h ∈ k.copies ∧ args.length = c.arity then { k with handed := k.handed ++ args } else k

def Keeps (k : Stock) (s t : Store) : Prop :=
  ∀ h ∈ k.builders ++ k.copies, t.cell? h = s.cell? h

/-- The cells that an argument can name: those that a value names that was handed over, and the
lists that were made. -/
def Named (k : Stock) (h : Handle) : Prop := h ∈ Value.handlesOf k.handed ∨ h ∈ k.copies

end Stock

/-- Runs that make builders from texts, call them, and change what callers hold, in any order. The
fields of a model are found in a way that leaves builders and their lists alone, and so is whatever
else is done. -/
inductive Handling : Stock → Session → Prop where
  | start (s : Session) : Handling {} s
  | meanwhile {k : Stock} {s t : Session} :
      Handling k s → k.Keeps s.store t.store → Handling k t
  | make {k : Stock} {s t : Session} {p : Plan} {m : Mark} {w : String} {h : Handle} {b : Builder} :
      Handling k s → p.base = .text m w →
      k.Keeps s.store (p.offeredFields.result s).2.store →
      p.make.result s = (.ok (.shared h), t) → t.store.builder? h = some b →
      Handling
        { k with builders := h :: k.builders, handed := k.handed ++ b.reserved } t
  | refuse {k : Stock} {s t : Session} {p : Plan} {f : Fault} :
      Handling k s → k.Keeps s.store (p.offeredFields.result s).2.store →
      p.make.result s = (.error f, t) → Handling k t
  | ask {k : Stock} {s : Session} {h : Handle} {a : BuilderCall} :
      Handling k s → h ∈ k.builders → a.Known →
      Handling (k.asked h a s.store) ((a.perform h).result s).2
  | change {k : Stock} {s : Session} {h : Handle} {c : Change} {args : List Value} :
      Handling k s →
      Handling (k.changed h c args) ((Collection.apply (.shared h) c args).result s).2

/-- What a run keeps: the builders are made from texts, their arguments name what was handed over
and the lists that were made, and those lists hold what was handed over. -/
structure Stock.Sound (k : Stock) (s : Store) : Prop where
  builder : ∀ h ∈ k.builders, ∃ b m w, s.builder? h = some b ∧ b.base = .text m w ∧
    ∀ v ∈ b.args, v.Within k.Named
  copy : ∀ h ∈ k.copies, ∃ items, s.cell? h = some (.list items) ∧
    ∀ v ∈ items, v.Within (· ∈ Value.handlesOf k.handed)

namespace Stock

open Builder

variable {k : Stock} {s t : Store}

theorem Sound.keeps (hk : k.Sound s) (h : k.Keeps s t) : k.Sound t := by
  refine ⟨fun i hi => ?_, fun j hj => ?_⟩
  · obtain ⟨b, m, w, hb, rest⟩ := hk.builder i hi
    have same := h i (List.mem_append_left _ hi)
    exact ⟨b, m, w, builder?_eq_some.2 (same.trans (builder?_eq_some.1 hb)), rest⟩
  · obtain ⟨items, hc, rest⟩ := hk.copy j hj
    exact ⟨items, (h j (List.mem_append_right _ hj)).trans hc, rest⟩

theorem Sound.keeps_of_keepsButPasses (hk : k.Sound s) (h : s.KeepsButPasses t) : k.Keeps s t := by
  intro i hi
  rcases List.mem_append.1 hi with hb | hc
  · obtain ⟨b, m, w, hb, -⟩ := hk.builder i hb
    rw [h i _ (builder?_eq_some.1 hb) fun _ _ => Cell.noConfusion, builder?_eq_some.1 hb]
  · obtain ⟨items, hc, -⟩ := hk.copy i hc
    rw [h i _ hc fun _ _ => Cell.noConfusion, hc]

theorem Sound.keepsButPasses (hk : k.Sound s) (h : s.KeepsButPasses t) : k.Sound t :=
  hk.keeps (hk.keeps_of_keepsButPasses h)

theorem Keeps.trans {u : Store} (h : k.Keeps s t) (g : k.Keeps t u) : k.Keeps s u :=
  fun i hi => (g i hi).trans (h i hi)

theorem Named.more {h : Handle} (hn : k.Named h) (copies : List Handle) (handed : List Value) :
    Named { k with copies := k.copies ++ copies, handed := k.handed ++ handed } h := by
  simp only [Named, Value.handlesOf_append, List.mem_append] at hn ⊢
  exact hn.imp .inl .inl

theorem Sound.more (hk : k.Sound s) (copies : List Handle) (handed : List Value)
    (hc : ∀ h ∈ copies, ∃ items, s.cell? h = some (.list items) ∧
      ∀ v ∈ items, v.Within (· ∈ Value.handlesOf (k.handed ++ handed))) :
    Sound { k with copies := k.copies ++ copies, handed := k.handed ++ handed } s := by
  refine ⟨fun i hi => ?_, fun j hj => ?_⟩
  · obtain ⟨b, m, w, hb, base, args⟩ := hk.builder i hi
    exact ⟨b, m, w, hb, base, fun v hv j hj => (args v hv j hj).more _ _⟩
  · rcases List.mem_append.1 hj with hj | hj
    · obtain ⟨items, hi, within⟩ := hk.copy j hj
      refine ⟨items, hi, fun v hv i hi => ?_⟩
      rw [Value.handlesOf_append]
      exact List.mem_append_left _ (within v hv i hi)
    · exact hc j hj

theorem Sound.hand (hk : k.Sound s) (handed : List Value) :
    Sound { k with handed := k.handed ++ handed } s := by
  simpa using hk.more [] handed (by simp)

end Stock

namespace RequestAt

theorem within_bindings (s : Store) (r : Request) (index : Nat) :
    ∀ x ∈ (⟨s, r⟩ : RequestAt).bindings index, ∀ v ∈ x.values,
      v.Within (· ∈ Value.handlesOf ((⟨s, r⟩ : RequestAt).handed index)) := by
  have entered : ∀ x ∈ (⟨s, r⟩ : RequestAt).bindings index,
      (⟨s, r⟩ : RequestAt).handed index = r.handed s := by
    intro x hx
    unfold bindings at hx
    split at hx
    · next e =>
      have emitted : ((⟨s, r⟩ : RequestAt).emission? index).isSome = true := by simp [emission?, e]
      rw [RequestAt.handed, if_pos emitted]
    · cases hx
  suffices h : ∀ x ∈ (⟨s, r⟩ : RequestAt).bindings index, ∀ v ∈ x.values,
      v.Within (· ∈ Value.handlesOf (r.handed s)) by
    intro x hx
    rw [entered x hx]
    exact h x hx
  have handed : ∀ {v}, v ∈ r.handed s → v.Within (· ∈ Value.handlesOf (r.handed s)) :=
    fun hv j hj => Value.mem_handlesOf.2 ⟨_, hv, hj⟩
  have pattern : ∀ {mode value q}, s.pattern? mode value = some q →
      q.Within (· ∈ Value.handlesOf (r.handed s)) := by
    intro mode value q hq
    unfold Store.pattern? at hq
    split at hq
    · next m _ =>
      cases hp : m.patternOf s value with
      | ok q' =>
        rw [hp] at hq
        cases hq
        exact Store.Region.within_patternOf hp
      | error f =>
        rw [hp] at hq
        cases hq
    · cases hq
  intro x hx v hv
  have demanded : ∃ n bs, r.bindings? s n = some bs ∧ x ∈ bs := by
    unfold bindings ruling at hx
    cases e : r.rule s with
    | error f => simp [e, Except.map] at hx
    | ok ruling =>
      simp only [e, Except.map] at hx
      rcases ruling.startingAt_eq index with same | ⟨spent, f, torn⟩
      · rw [same] at hx
        split at hx
        · next c bs hr =>
          have hd := Request.demand?_eq_rule s r
          rw [e, hr] at hd
          exact ⟨_, bs, (Request.demand?_eq_some.1 hd).2, hx⟩
        · cases hx
      · simp [torn] at hx
  obtain ⟨n, bs, hb, hx⟩ := demanded
  cases r with
  | compare op field value =>
    simp only [Request.bindings?, Option.ite_none_right_eq_some, Option.some.injEq] at hb
    obtain ⟨-, rfl⟩ := hb
    cases List.mem_singleton.1 hx
    cases List.mem_singleton.1 hv
    exact handed (by simp [Request.handed])
  | within field values =>
    simp only [Request.bindings?, Option.ite_none_right_eq_some, Option.some.injEq] at hb
    obtain ⟨-, rfl⟩ := hb
    cases List.mem_singleton.1 hx
    exact handed hv
  | between field lower upper =>
    simp only [Request.bindings?, Option.ite_none_right_eq_some, Option.some.injEq] at hb
    obtain ⟨-, rfl⟩ := hb
    simp only [List.mem_cons, List.not_mem_nil, or_false] at hx
    rcases hx with rfl | rfl <;> cases List.mem_singleton.1 hv <;>
      exact handed (by simp [Request.handed])
  | like field value mode =>
    simp only [Request.bindings?, Option.ite_none_right_eq_some, Option.map_eq_some_iff] at hb
    obtain ⟨-, q, hq, rfl⟩ := hb
    cases List.mem_singleton.1 hx
    cases List.mem_singleton.1 hv
    exact pattern hq
  | likeAny fields value mode =>
    simp only [Request.bindings?, Option.ite_none_right_eq_some, Option.map_eq_some_iff] at hb
    obtain ⟨-, q, hq, rfl⟩ := hb
    cases List.eq_of_mem_replicate hx
    cases List.mem_singleton.1 hv
    exact pattern hq
  | orderBy clause => cases hb

end RequestAt

namespace Stock

open Builder

variable {k : Stock} {s t : Store}

theorem cell?_copiesFrom {R : Handle → Prop} {bs : List Binding}
    (h : ∀ x ∈ bs, ∀ v ∈ x.values, v.Within R) :
    ∀ j ∈ copiesFrom s.size bs, ∃ items, (s.copying bs).cell? j = some (.list items) ∧
      ∀ v ∈ items, v.Within R := by
  induction bs generalizing s with
  | nil => exact fun j hj => absurd hj List.not_mem_nil
  | cons x xs ih =>
    have hxs := fun y hy => h y (List.mem_cons_of_mem _ hy)
    cases x with
    | itself v => exact ih hxs
    | copy name items =>
      have size_eq : (s.alloc (.list items)).2.size = s.size + 1 := by
        simp [Store.alloc, Store.size]
      refine List.forall_mem_cons.2 ⟨⟨items, ?_, h _ (List.mem_cons_self ..)⟩, ?_⟩
      · exact Store.KeepsButPasses.copying _ xs _ _ (Store.cell?_alloc s _) fun _ _ =>
          Cell.noConfusion
      · rw [← size_eq]
        exact ih hxs

theorem within_boundFrom {R : Handle → Prop} {bs : List Binding} (n : Nat)
    (h : ∀ x ∈ bs, ∀ v ∈ x.values, v.Within R) :
    ∀ v ∈ boundFrom n bs, v.Within fun j => R j ∨ j ∈ copiesFrom n bs := by
  induction bs generalizing n with
  | nil => exact fun v hv => absurd hv List.not_mem_nil
  | cons x xs ih =>
    have hx := h x (List.mem_cons_self ..)
    have hxs := fun m => ih m fun y hy => h y (List.mem_cons_of_mem _ hy)
    cases x with
    | itself v =>
      exact List.forall_mem_cons.2 ⟨fun j hj => .inl (hx v (List.mem_singleton.2 rfl) j hj), hxs n⟩
    | copy name items =>
      refine List.forall_mem_cons.2 ⟨fun j hj => ?_, fun v hv j hj => ?_⟩
      · cases List.mem_singleton.1 hj
        exact .inr (List.mem_cons_self ..)
      · exact (hxs (n + 1) v hv j hj).imp_right (List.mem_cons_of_mem _)

theorem Sound.put {h : Handle} {b : Builder} {m : Mark} {w : String} (hk : k.Sound s)
    (hb : (s.builder? h).isSome) (base : b.base = .text m w)
    (args : ∀ v ∈ b.args, v.Within k.Named) : k.Sound (s.put h (.builder b)) := by
  obtain ⟨c, hc⟩ := Option.isSome_iff_exists.1 hb
  have hc := builder?_eq_some.1 hc
  refine ⟨fun i hi => ?_, fun j hj => ?_⟩
  · by_cases e : h = i
    · subst e
      exact ⟨b, m, w, builder?_eq_some.2 (Store.cell?_put_self _ _ _ _ hc), base, args⟩
    · obtain ⟨d, m, w, hd, rest⟩ := hk.builder i hi
      refine ⟨d, m, w, builder?_eq_some.2 ?_, rest⟩
      rw [Store.cell?_put_of_ne _ _ _ _ e]
      exact builder?_eq_some.1 hd
  · obtain ⟨items, hj, rest⟩ := hk.copy j hj
    refine ⟨items, ?_, rest⟩
    rw [Store.cell?_put_of_ne, hj]
    rintro rfl
    rw [hc] at hj
    cases hj

theorem Sound.request {h : Handle} {b : Builder} {r : Request} {s : Session}
    (hk : k.Sound s.store) (hh : h ∈ k.builders) (hb : s.store.builder? h = some b) :
    (k.requested ⟨s.store, r⟩ b.index).Sound ((request h r).result s).2.store := by
  let bs := (⟨s.store, r⟩ : RequestAt).bindings b.index
  have taken := RequestAt.within_bindings s.store r b.index
  have passed := (Store.KeepsButPasses.request_passed s.store r).trans (.copying _ bs)
  have grown := (hk.keepsButPasses passed).more (copiesFrom s.store.size bs)
    ((⟨s.store, r⟩ : RequestAt).handed b.index) (by
      rw [← size_request_passed s.store r, Value.handlesOf_append]
      exact cell?_copiesFrom fun x hx v hv j hj => List.mem_append_right _ (taken x hx v hv j hj))
  obtain ⟨c, m, w, hc, base, args⟩ := hk.builder h hh
  cases hb.symm.trans hc
  have still := passed h _ (builder?_eq_some.1 hb) fun _ _ => Cell.noConfusion
  rw [store_request hb]
  refine grown.put (by rw [builder?_eq_some.2 still]; rfl) ((base_afterRequest _ _).trans base)
    fun v hv => ?_
  rw [Builder.args, reserved_afterRequest, bound_afterRequest, RequestAt.values_emission?,
    ← List.append_assoc] at hv
  rcases List.mem_append.1 hv with hv | hv
  · exact fun j hj => (args v hv j hj).more _ _
  · refine fun j hj => (within_boundFrom _ taken v hv j hj).imp (fun hj => ?_)
      (List.mem_append_right _)
    rw [Value.handlesOf_append]
    exact List.mem_append_right _ hj

theorem Sound.ask {h : Handle} {a : BuilderCall} {s : Session} (hk : k.Sound s.store)
    (hh : h ∈ k.builders) (ha : a.Known) :
    (k.asked h a s.store).Sound ((a.perform h).result s).2.store := by
  obtain ⟨b, m, w, hb, base, args⟩ := hk.builder h hh
  cases a with
  | index =>
    obtain ⟨v, marks, met, e⟩ := CallMade.result_index hb
    rw [e]
    have same := hk.keepsButPasses (t := { s.store with marks }) (.of_cells rfl)
    exact same.put (b := { b with met }) (Option.isSome_iff_exists.2 ⟨b, hb⟩) base args
  | call name g =>
    cases hq : requesting? name with
    | some op =>
      obtain ⟨sig, mk⟩ := op
      have result_eq := Call.result_onBuilder (g := g) hb hq
      simp only [BuilderCall.perform, asked, BuilderCall.request?, hq, hb, Option.bind_some]
      rw [result_eq]
      cases sig.take g with
      | error f => exact hk
      | ok t => exact hk.request hh hb
    | none =>
      have unasked : k.asked h (.call name g) s.store = k := by
        simp [asked, BuilderCall.request?, hq]
      have told := (CallMade.requesting?_or_telling name ha).resolve_left (by simp [hq])
      obtain ⟨tell, ht⟩ : ∃ tell, telling? h b name = some tell := by
        simp only [CallMade.outputs, List.mem_cons, List.not_mem_nil, or_false] at told
        rcases told with rfl | rfl | rfl | rfl | rfl | rfl <;> exact ⟨_, rfl⟩
      rw [unasked, BuilderCall.perform, Call.result_onBuilder_telling hb hq ht]
      split
      · exact hk
      · exact hk.keepsButPasses ((Operation.KeepsButPasses.telling base ht).store s)

theorem Sound.builder?_changed {h : Handle} {c d : Cell} {args : List Value} (hk : k.Sound s)
    (hc : s.cell? h = some c) (hd : Collection.Changed s args c d) :
    ∀ i ∈ k.builders, (s.put h d).builder? i = s.builder? i := by
  intro i hi
  obtain ⟨b, m, w, hb, -⟩ := hk.builder i hi
  by_cases e : h = i
  · subst e
    cases hc.symm.trans (builder?_eq_some.1 hb)
    rw [hd.builder, Store.put_self hc]
  · rw [Store.builder?, Store.builder?, Store.cell?_put_of_ne _ _ _ _ e]

theorem Sound.change {h : Handle} {change : Change} {c d : Cell} {args : List Value}
    (hk : k.Sound s) (hc : s.cell? h = some c) (arity : args.length = change.arity)
    (hd : Collection.Changed s args c d) : (k.changed h change args).Sound (s.put h d) := by
  have builder_eq := hk.builder?_changed hc hd
  have others : ∀ j ∈ k.copies, h ≠ j → ∃ items, (s.put h d).cell? j = some (.list items) ∧
      ∀ v ∈ items, v.Within (· ∈ Value.handlesOf k.handed) := by
    intro j hj e
    obtain ⟨items, hi, within⟩ := hk.copy j hj
    exact ⟨items, (Store.cell?_put_of_ne _ _ _ _ e).trans hi, within⟩
  unfold changed
  split
  · next hm =>
    obtain ⟨items, hi, within⟩ := hk.copy h hm.1
    cases hc.symm.trans hi
    obtain ⟨more, rfl, from_eq⟩ := hd.list
    refine ⟨fun i hi => ?_, fun j hj => ?_⟩
    · obtain ⟨b, m, w, hb, base, args⟩ := hk.builder i hi
      refine ⟨b, m, w, (builder_eq i hi).trans hb, base, fun v hv j hj => ?_⟩
      simpa using (args v hv j hj).more [] _
    · by_cases e : h = j
      · subst e
        refine ⟨more, Store.cell?_put_self _ _ _ _ hc, fun v hv j hj => ?_⟩
        rw [Value.handlesOf_append]
        rcases from_eq v hv with hv | hv
        · exact List.mem_append_left _ (within v hv j hj)
        · exact List.mem_append_right _ (Value.mem_handlesOf.2 ⟨v, hv, hj⟩)
      · obtain ⟨items, hi, within⟩ := others j hj e
        refine ⟨items, hi, fun v hv i hi => ?_⟩
        rw [Value.handlesOf_append]
        exact List.mem_append_left _ (within v hv i hi)
  · next hm =>
    refine ⟨fun i hi => ?_, fun j hj => others j hj ?_⟩
    · obtain ⟨b, m, w, hb, rest⟩ := hk.builder i hi
      exact ⟨b, m, w, (builder_eq i hi).trans hb, rest⟩
    · rintro rfl
      exact hm ⟨hj, arity⟩

theorem Sound.make {p : Plan} {s : Session} (hk : k.Sound s.store)
    (hf : k.Keeps s.store (p.offeredFields.result s).2.store) :
    k.Sound (p.make.result s).2.store := by
  rw [Plan.make_eq, Operation.result_bind, Operation.result_asking]
  cases Plan.startIndex s.store p.start with
  | error f => exact hk
  | ok n =>
    simp only
    rw [Operation.result_bind]
    rcases e : p.offeredFields.result s with ⟨r, u⟩
    rw [e] at hf
    cases r with
    | error f => exact hk.keeps hf
    | ok fields =>
      exact (hk.keeps hf).keepsButPasses ((Operation.KeepsButPasses.completed p n fields).store u)

theorem Sound.made {p : Plan} {s t : Session} {m : Mark} {w : String} {h : Handle} {b : Builder}
    (hk : k.Sound s.store) (base : p.base = .text m w)
    (hf : k.Keeps s.store (p.offeredFields.result s).2.store)
    (made : p.make.result s = (.ok (.shared h), t)) (hb : t.store.builder? h = some b) :
    Sound { k with builders := h :: k.builders, handed := k.handed ++ b.reserved } t.store := by
  have fresh := Plan.Fresh.of_make made hb
  have kept := hk.make hf
  rw [made] at kept
  have grown := kept.hand b.reserved
  refine ⟨List.forall_mem_cons.2 ⟨⟨b, m, w, hb, fresh.base.trans base, fun v hv j hj => ?_⟩,
    grown.builder⟩, grown.copy⟩
  rw [Builder.args, fresh.bound, List.append_nil] at hv
  exact .inl (Value.mem_handlesOf.2 ⟨v, List.mem_append_right _ hv, hj⟩)

end Stock

namespace Store

theorem LeadsTo.shared {s : Store} {hs : List Handle} {v : Value} (h : s.LeadsTo hs v) :
    ∃ j ∈ v.handles, s.LeadsTo hs (.shared j) := by
  cases h with
  | here hj hm => exact ⟨_, hj, .here (List.mem_singleton.2 rfl) hm⟩
  | through hj hc hw h => exact ⟨_, hj, .through (List.mem_singleton.2 rfl) hc hw h⟩

theorem not_leadsTo_of_sound {k : Stock} {s : Store} {h : Handle} (hk : k.Sound s)
    (hc : h ∉ k.copies) (hh : ∀ v ∈ k.handed, ¬ s.LeadsTo [h] v) {v : Value}
    (hv : v.Within k.Named) : ¬ s.LeadsTo [h] v := by
  have handed : ∀ {j}, j ∈ Value.handlesOf k.handed → ¬ s.LeadsTo [h] (.shared j) := by
    intro j hj leads
    obtain ⟨w, hw, hj⟩ := Value.mem_handlesOf.1 hj
    exact hh w hw (leads.of_shared hj)
  intro leads
  obtain ⟨j, hj, leads⟩ := leads.shared
  rcases hv j hj with named | copied
  · exact handed named leads
  · -- A list that was made for a builder leads on only through what was handed over.
    obtain ⟨items, hi, within⟩ := hk.copy j copied
    cases leads with
    | here hm hs =>
      cases List.mem_singleton.1 hm
      cases List.mem_singleton.1 hs
      exact hc copied
    | through hm hd hw leads =>
      cases List.mem_singleton.1 hm
      cases hd.symm.trans hi
      obtain ⟨i, hi, leads⟩ := leads.shared
      exact handed (within _ hw i hi) leads

theorem longName_put {s : Store} {h : Handle} {c d : Cell} (hc : s.cell? h = some c)
    (hd : d.longName = c.longName) (v : Value) : (s.put h d).longName v = s.longName v := by
  cases v with
  | shared j =>
    by_cases e : h = j
    · subst e
      simp [longName, cell?_put_self _ _ _ _ hc, hc, hd]
    · simp [longName, cell?_put_of_ne _ _ _ _ e]
  | _ => rfl

end Store

namespace Builder

open Operation

theorem fst_buildNoted_eq {b : Builder} {m : Mark} {w : String} (hb : b.base = .text m w)
    {s t : Session} (marks : t.store.marks = s.store.marks)
    (named : ∀ o ∈ b.order, t.store.longName o = s.store.longName o) :
    (b.buildNoted.result t).1 = (b.buildNoted.result s).1 := by
  have settled_eq : ∀ (v : Value) {u v' : Session}, v'.store.marks = u.store.marks →
      ((settled v).result v').1 = ((settled v).result u).1 := by
    intro v u v' e
    unfold settled fresh
    split
    · rfl
    · split
      · rfl
      · exact congrArg (fun n => Except.ok (v.withMark (some n))) e
  have text : ∀ k w, (∀ u, b.build.result u = (.ok (.text k w), u)) →
      (b.buildNoted.result t).1 = (b.buildNoted.result s).1 := by
    intro k w built
    have plain : ∀ u : Store, builtRecord u (.text k w) = .ok ("Built query: '" ++ w ++ "'") :=
      fun _ => rfl
    simp only [buildNoted, result_bind, built, result_asking, plain, result_note]
    exact settled_eq _ marks
  have refused : ∀ o, (∀ k w, o ≠ .text k w) → b.order = some o → ∀ u : Session,
      b.build.result u = (.error (.onlyConcatenates "str" (u.store.longName o)), u) := by
    intro o hn ho u
    have told : (orderText o).result u =
        (.error (.onlyConcatenates "str" (u.store.longName o)), u) := by
      cases o with
      | text k w => exact absurd rfl (hn k w)
      | _ => rfl
    by_cases hc : b.conditions.isEmpty = true
    · simp [build, hb, ho, hc, result_bind, told]
    · simp [build, hb, ho, hc, result_bind, result_extend_text, told]
  -- An order that is no text is refused by its class, and a change of a cell keeps the class.
  cases ho : b.order with
  | none => exact text _ _ fun u => result_build_of_text u hb ho
  | some o =>
    by_cases ht : ∃ k w, o = .text k w
    · obtain ⟨k, w, rfl⟩ := ht
      exact text _ _ fun u => result_build_of_text_order u hb ho
    · have built := refused o (fun k w e => ht ⟨k, w, e⟩) ho
      simp only [buildNoted, result_bind, built, named o ho]

end Builder

namespace Handling

variable {k : Stock} {s : Session}

theorem sound (run : Handling k s) : k.Sound s.store := by
  induction run with
  | start s => exact ⟨by simp, by simp⟩
  | meanwhile _ keeps ih => exact ih.keeps keeps
  | make _ base keeps made hb ih => exact ih.made base keeps made hb
  | refuse _ keeps made ih =>
    have kept := ih.make keeps
    rw [made] at kept
    exact kept
  | ask _ hh ha ih => exact ih.ask hh ha
  | @change k s h c args _ ih =>
    rcases Collection.store_apply h c args s with e | ⟨c, d, hc, e, arity, hd⟩
    · rw [e, Stock.changed]
      split
      · exact ih.hand args
      · exact ih
    · rw [e]
      exact ih.change hc arity hd

theorem keeps_of_null (run : Handling k s) {p : Plan} (hm : p.model = .null) :
    k.Keeps s.store (p.offeredFields.result s).2.store := by
  unfold Plan.offeredFields
  rw [hm]
  exact run.sound.keeps_of_keepsButPasses ((Operation.KeepsButPasses.makeProxy _).store s)

/-- The fields of a class are found without a change, but for what its hints do. -/
theorem keeps_of_class (run : Handling k s) {p : Plan} {c : ClassRef} {m : Mark} {a : String}
    (hm : p.model = .classOf c) (hq : p.qualifier = .text m a)
    (harmless : (s.declaration c).Hinted → k.Keeps s.store (s.hinted c).store) :
    k.Keeps s.store (p.offeredFields.result s).2.store := by
  unfold Plan.offeredFields
  rw [hm, hq]
  rcases FieldSet.finds_forClass c m a s with
    keepsButPasses | ⟨-, keepsButPasses | ⟨hinted, keepsButPasses⟩⟩
  · exact run.sound.keeps_of_keepsButPasses keepsButPasses
  · exact run.sound.keeps_of_keepsButPasses keepsButPasses
  · have kept := harmless hinted
    exact kept.trans ((run.sound.keeps kept).keeps_of_keepsButPasses keepsButPasses)

theorem keeps_of_harmless (run : Handling k s) {p : Plan} {c : ClassRef} {m : Mark} {a : String}
    (hm : p.model = .classOf c) (hq : p.qualifier = .text m a)
    (harmless : Model.Harmless s (s.line c)) : k.Keeps s.store (p.offeredFields.result s).2.store :=
  run.keeps_of_class hm hq fun _ => run.sound.keeps_of_keepsButPasses harmless.keepsButPasses

/-- A change of what callers hold leaves every builder, and so its next number, its size and its
arguments, and also the query that it builds. What is in the arguments stays as well, when nothing
that was handed over leads to what is changed, and it is no list that was made for a builder. -/
theorem unchanged {h : Handle} {c : Change} {args : List Value} {t : Session}
    (run : Handling k s) (ht : ((Collection.apply (.shared h) c args).result s).2 = t) :
    ∀ i ∈ k.builders, ∃ b, s.store.builder? i = some b ∧ t.store.builder? i = some b ∧
      (b.buildNoted.result t).1 = (b.buildNoted.result s).1 ∧
      (h ∉ k.copies → (∀ v ∈ k.handed, ¬ s.store.LeadsTo [h] v) →
        ∀ v ∈ b.args, ∀ j d, s.store.LeadsTo [j] v → s.store.cell? j = some d →
          t.store.cell? j = some d) := by
  intro i hi
  have sound := run.sound
  obtain ⟨b, m, w, hb, base, taken⟩ := sound.builder i hi
  subst ht
  rcases Collection.store_apply h c args s with e | ⟨c, d, hc, e, -, hd⟩
  · refine ⟨b, hb, by rw [e]; exact hb, ?_, fun _ _ v _ j d _ hj => by rw [e]; exact hj⟩
    exact Builder.fst_buildNoted_eq base (by rw [e]) (by rw [e]; simp)
  · refine ⟨b, hb, by rw [e, sound.builder?_changed hc hd i hi, hb], ?_, ?_⟩
    · refine Builder.fst_buildNoted_eq base (by rw [e]; rfl) fun o _ => ?_
      rw [e, Store.longName_put hc hd.longName]
    · intro hm hh v hv j d' leads hj
      have other : h ≠ j := by
        rintro rfl
        exact Store.not_leadsTo_of_sound sound hm hh (taken v hv) leads
      rw [e, Store.cell?_put_of_ne _ _ _ _ other, hj]

theorem unchanged_append :
    ∃ (s t u : Session) (b : Builder),
      (do
        let inner ← Operation.share (.list [.int none 7])
        Operation.share (.list [inner])).result {} = (.ok (.shared ⟨1⟩), s) ∧
      (Plan.make { base := .text none "from Foo", reserved := .shared ⟨1⟩ }).result s =
        (.ok (.shared ⟨3⟩), t) ∧
      ((Collection.apply (.shared ⟨1⟩) .append [.int none 8]).result t).2 = u ∧
      u.store.cell? ⟨1⟩ = some (.list [.shared ⟨0⟩, .int none 8]) ∧
      u.store.builder? ⟨3⟩ = some b ∧ b.args = [.shared ⟨0⟩] ∧
      (b.buildNoted.result u).1 = (b.buildNoted.result t).1 ∧
      u.store.cell? ⟨0⟩ = some (.list [.int none 7]) := by
  let p : Plan := { base := .text none "from Foo", reserved := .shared ⟨1⟩ }
  let s : Session := { store := { cells := [.list [.int none 7], .list [.shared ⟨0⟩]] } }
  let t : Session := (p.make.result s).2
  have made : p.make.result s = (.ok (.shared ⟨3⟩), t) := rfl
  have hb : t.store.builder? ⟨3⟩ = some _ := rfl
  have run : Handling _ t := .make (.start s) rfl (keeps_of_null (.start s) rfl) made hb
  have changed : ((Collection.apply (.shared ⟨1⟩) .append [.int none 8]).result t).2 = _ := rfl
  obtain ⟨b, hb, hb', built, deep⟩ := unchanged run changed _ (List.mem_singleton.2 rfl)
  cases hb
  have apart : ¬ t.store.LeadsTo [⟨1⟩] (.shared ⟨0⟩) := by
    rintro (⟨hj, hm⟩ | ⟨hj, hc, hw, leads⟩)
    · cases List.mem_singleton.1 hj
      cases List.mem_singleton.1 hm
    · cases List.mem_singleton.1 hj
      cases hc
      cases List.mem_singleton.1 hw
      exact Store.not_leadsTo_of_nil rfl leads
  refine ⟨s, t, _, _, rfl, made, rfl, rfl, hb', rfl, built, ?_⟩
  exact deep (by simp) (List.forall_mem_singleton.2 apart) (.shared ⟨0⟩) (List.mem_singleton.2 rfl)
    ⟨0⟩ _ (.here (List.mem_singleton.2 rfl) (List.mem_singleton.2 rfl)) rfl

end Handling

end Criteria
