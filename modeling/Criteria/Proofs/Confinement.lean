import Criteria.Proofs.Reach

set_option autoImplicit false

namespace Criteria

def Binding.values : Binding → List Value
  | itself v => [v]
  | copy _ items => items

def Ruling.Within (R : Handle → Prop) : Ruling → Prop
  | skip _ _ value => value.Within R
  | add _ bindings => ∀ x ∈ bindings, ∀ v ∈ x.values, v.Within R
  | order clause => ∀ c ∈ clause, c.Within R
  | tear .. => True

namespace Store.Region

variable {hs : List Handle} {s : Store} {R : Handle → Prop} (g : Region hs s R)

theorem within_bind {α : Type} {x : Except Fault α} {f : α → Except Fault Ruling}
    (h : ∀ a, x = .ok a → ∀ ruling, f a = .ok ruling → ruling.Within R) :
    ∀ ruling, (x >>= f) = .ok ruling → ruling.Within R := by
  intro ruling hr
  cases x with
  | error e => cases hr
  | ok a => exact h a rfl ruling hr

theorem within_patternOf {m : MatchMode} {v q : Value} (h : m.patternOf s v = .ok q) :
    q.Within R := by
  cases v with
  | text k w =>
    cases h
    split <;> exact Value.within_of_nil rfl
  | _ => cases h

theorem within_ruleLikeAny {fields value mode : Value} (hv : value.Within R) :
    ∀ ruling, Request.ruleLikeAny s fields value mode = .ok ruling → ruling.Within R := by
  unfold Request.ruleLikeAny
  split
  · exact within_bind fun x hx ruling h => by cases h
  · refine within_bind fun items hi => within_bind fun paths hp => ?_
    split
    · exact fun ruling h => by cases h
    · refine within_bind fun m hm => within_bind fun b hb => ?_
      split
      · refine within_bind fun q hq => ?_
        have within := within_patternOf (R := R) hq
        intro ruling h
        split at h
        · cases h
          trivial
        · cases h
          simp only [Ruling.Within, List.mem_map]
          rintro x ⟨y, -, rfl⟩
          simpa [Binding.values] using within
      · refine within_bind fun ts hts => ?_
        intro ruling h
        cases h
        exact hv

include g

theorem within_binding {v : Value} (hv : v.Within R) :
    ∀ x ∈ (Request.binding s v).values, x.Within R := by
  unfold Request.binding
  cases h : s.copied? v with
  | none => simpa [Binding.values] using hv
  | some items =>
    have he : s.elements? v = some items := by
      cases v with
      | tuple | point => exact h
      | shared k =>
        simp only [copied?] at h
        split at h
        · next hc => simpa [elements?, hc, Cell.elements?] using h
        · cases h
      | _ => cases h
    exact g.within_elements? hv he

theorem within_ruleOrderBy {clause : Value} (hc : clause.Within R) :
    ∀ ruling, Request.ruleOrderBy s clause = .ok ruling → ruling.Within R := by
  intro ruling h
  cases hp : s.fieldPath clause with
  | ok p =>
    have within := g.within_fieldPath hc hp
    rw [Request.ruleOrderBy_of_ok hp] at h
    cases hb : s.present p with
    | error f => simp [hb, Except.map] at h
    | ok b =>
      simp only [hb, Except.map, Except.ok.injEq] at h
      subst h
      cases b <;> simp [Ruling.Within, within]
  | error f =>
    by_cases hn : clause = .null
    · subst hn
      cases h
      exact fun c hc => by cases hc
    · obtain ⟨f', hf⟩ := Request.ruleOrderBy_of_error hp hn
      rw [hf] at h
      cases h

theorem within_rule {r : Request} (hr : ∀ v ∈ r.operands, v.Within R) :
    ∀ ruling, r.rule s = .ok ruling → ruling.Within R := by
  cases r with
  | compare op field value =>
    have hv := hr value (by simp [Request.operands])
    refine within_bind fun p hp => within_bind fun b hb => within_bind fun x hx => ?_
    intro ruling h
    split at h
    · cases h
      simpa [Ruling.Within, Binding.values] using hv
    · cases h
      exact hv
  | like field value mode =>
    have hv := hr value (by simp [Request.operands])
    refine within_bind fun p hp => within_bind fun m hm => within_bind fun b hb => ?_
    split
    · refine within_bind fun q hq => within_bind fun x hx => ?_
      intro ruling h
      cases h
      simpa [Ruling.Within, Binding.values] using within_patternOf hq
    · refine within_bind fun x hx => ?_
      intro ruling h
      cases h
      exact hv
  | likeAny fields value mode =>
    exact within_ruleLikeAny (hr value (by simp [Request.operands]))
  | within field values =>
    have hv := hr values (by simp [Request.operands])
    refine within_bind fun p hp => within_bind fun b hb => ?_
    split
    · split
      · refine within_bind fun x hx => ?_
        intro ruling h
        cases h
        simpa [Ruling.Within] using g.within_binding hv
      · exact fun ruling h => by cases h
    · refine within_bind fun x hx => ?_
      intro ruling h
      cases h
      exact hv
  | between field lower upper =>
    have hl := hr lower (by simp [Request.operands])
    have hu := hr upper (by simp [Request.operands])
    refine within_bind fun p hp => within_bind fun b hb => ?_
    split
    · intro ruling h
      split at h
      · cases h
        trivial
      · cases h
        simp [Ruling.Within, Binding.values, hl, hu]
    · refine within_bind fun x hx => ?_
      intro ruling h
      cases h
      intro k hk
      obtain ⟨v, hm, hv⟩ := Value.mem_handlesOf.1 hk
      simp only [List.mem_cons, List.not_mem_nil, or_false] at hm
      rcases hm with rfl | rfl
      · exact hl k hv
      · exact hu k hv
  | orderBy clause =>
    exact g.within_ruleOrderBy (hr clause (by simp [Request.operands]))

theorem alloc {c : Cell} (hc : ∀ v ∈ c.held, v.Within R) : Region hs (s.alloc c).2 R := by
  refine ⟨g.off, ?_⟩
  intro k hk d hd
  rw [cell?_alloc_eq] at hd
  split at hd
  · cases hd
    exact hc
  · exact g.closed k hk d hd

theorem copying {bs : List Binding} (hb : ∀ x ∈ bs, ∀ v ∈ x.values, v.Within R) :
    Region hs (s.copying bs) R := by
  induction bs generalizing s with
  | nil => exact g
  | cons x xs ih =>
    have hx := hb x (List.mem_cons_self ..)
    have hxs := fun y hy => hb y (List.mem_cons_of_mem _ hy)
    cases x with
    | itself v => exact ih g hxs
    | copy name items => exact ih (g.alloc hx) hxs

theorem put {h : Handle} {c : Cell} (hc : R h → ∀ v ∈ c.held, v.Within R) :
    Region hs (s.put h c) R := by
  refine ⟨g.off, ?_⟩
  intro k hk d hd
  by_cases e : h = k
  · subst e
    cases hs' : s.cell? h with
    | none =>
      have hl : s.cells.length ≤ h.index := List.getElem?_eq_none_iff.1 hs'
      simp [Store.put, cell?, hl] at hd
    | some c' =>
      rw [cell?_put_self s h c c' hs'] at hd
      cases hd
      exact hc hk
  · rw [cell?_put_of_ne s h k c e] at hd
    exact g.closed k hk d hd

theorem passed (v : Value) (n : Nat) : Region hs (s.passed v n) R := by
  cases v with
  | shared k =>
    simp only [Store.passed]
    split
    · next generated rest hc =>
      refine g.put fun hk v hv => ?_
      exact g.closed k hk _ hc v (List.mem_of_mem_drop hv)
    · exact g
  | _ => exact g

theorem request_passed (r : Request) : Region hs (r.passed s) R := by
  have marked : ∀ {u : Store}, Region hs u R → Region hs u.mark.2 R := fun gu => ⟨gu.off, gu.closed⟩
  cases r with
  | like => exact marked g
  | likeAny fields value mode =>
    simp only [Request.passed]
    split
    · exact g
    · split
      · exact marked (g.passed _ _)
      · exact g
  | _ => exact g

theorem grown {n : Nat} (hn : s.size ≤ n) (ho : ∀ k ∈ hs, k.index < n) :
    Region hs s fun k => R k ∨ n ≤ k.index := by
  refine ⟨?_, ?_⟩
  · rintro k (hk | hk) hm
    · exact g.off k hk hm
    · exact absurd (ho k hm) (Nat.not_lt.2 hk)
  · rintro k (hk | hk) c hc w hw j hj
    · exact .inl (g.closed k hk c hc w hw j hj)
    · exact absurd (lt_size_of_cell? hc) (Nat.not_lt.2 (Nat.le_trans hn hk))

end Store.Region

theorem Ruling.Within.startingAt {R : Handle → Prop} {ruling : Ruling} (h : ruling.Within R)
    (n : Nat) : (ruling.startingAt n).Within R := by
  cases ruling with
  | add clause bindings =>
    simp only [Ruling.startingAt]
    split
    · trivial
    · exact h
  | tear spent f =>
    simp only [Ruling.startingAt]
    split <;> trivial
  | _ => exact h

namespace Builder

open Store

variable {hs : List Handle} {R : Handle → Prop}

theorem within_boundFrom {n : Nat} {bs : List Binding}
    (h : ∀ x ∈ bs, ∀ v ∈ x.values, v.Within R) (m : Nat) (hm : n ≤ m) :
    ∀ v ∈ boundFrom m bs, v.Within fun k => R k ∨ n ≤ k.index := by
  induction bs generalizing m with
  | nil => exact fun v hv => absurd hv List.not_mem_nil
  | cons x xs ih =>
    have hx := h x (List.mem_cons_self ..)
    have hxs := ih fun y hy => h y (List.mem_cons_of_mem _ hy)
    cases x with
    | itself v =>
      have hv := hx v (List.mem_singleton.2 rfl)
      exact List.forall_mem_cons.2 ⟨fun k hk => .inl (hv k hk), hxs m hm⟩
    | copy name items =>
      refine List.forall_mem_cons.2 ⟨?_, hxs (m + 1) (Nat.le_succ_of_le hm)⟩
      intro k hk
      cases List.mem_singleton.1 hk
      exact .inr hm

end Builder

theorem Store.Region.request {hs : List Handle} {R : Handle → Prop} {h : Handle} {b : Builder}
    {r : Request} {s : Session} {t : Store} (g : Region hs s.store R)
    (w : SameButBuilders hs s.store t)
    (hh : h ∈ hs) (hb : s.store.builder? h = some b) (hr : ∀ v ∈ r.operands, v.Within R) :
    Region hs ((Builder.request h r).result s).2.store
      fun k => R k ∨ s.store.size ≤ k.index := by
  have old : ∀ k ∈ hs, k.index < s.store.size := by
    intro k hk
    obtain ⟨⟨c, hc⟩, -⟩ := w.builders k hk
    exact lt_size_of_cell? (Builder.builder?_eq_some.1 hc)
  have grown := g.grown (Nat.le_refl _) old
  have bound : ∀ x ∈ (⟨s.store, r⟩ : RequestAt).bindings b.index, ∀ v ∈ x.values,
      v.Within fun k => R k ∨ s.store.size ≤ k.index := by
    intro x hx v hv k hk
    cases e : r.rule s.store with
    | error f => simp [RequestAt.bindings, RequestAt.ruling, e, Except.map] at hx
    | ok ruling =>
      have within := (g.within_rule hr ruling e).startingAt b.index
      simp only [RequestAt.bindings, RequestAt.ruling, e, Except.map] at hx
      split at hx
      · next he =>
        rw [Except.ok.inj he] at within
        exact .inl (within x hx v hv k hk)
      · cases hx
  rw [Builder.store_request hb]
  exact ((grown.request_passed r).copying bound).put fun hR => absurd hh (grown.off h hR)

namespace Builder

open Store

variable {hs : List Handle} {R : Handle → Prop}

/-- A request of values that lead to neither of two builders with one next number gives the same for
both, in stores that differ in them alone. -/
theorem fst_request_eq {h k : Handle} {b c : Builder} {r : Request} {s t : Session}
    (g : Region hs s.store R) (w : SameButBuilders hs s.store t.store) (hh : h ∈ hs) (hk : k ∈ hs)
    (hb : s.store.builder? h = some b) (hc : t.store.builder? k = some c)
    (hi : b.index = c.index) (hr : ∀ v ∈ r.operands, v.Within R) :
    ((request h r).result s).1 = ((request k r).result t).1 := by
  have rule_eq := g.rule_eq w hr
  have bindings_eq : (⟨s.store, r⟩ : RequestAt).bindings b.index =
    (⟨t.store, r⟩ : RequestAt).bindings c.index := by
    simp only [RequestAt.bindings, RequestAt.ruling, rule_eq, hi]
  have after := w.request hh hk hb hc bindings_eq
  cases e : r.rule s.store with
  | error f => rw [result_request_of_error hb e, result_request_of_error hc (rule_eq ▸ e)]
  | ok ruling =>
    have within := (g.within_rule hr ruling e).startingAt b.index
    have region := g.request w hh hb hr
    rw [result_request_of_ok hb e] at after region ⊢
    rw [result_request_of_ok hc (rule_eq ▸ e), ← hi] at after ⊢
    cases hx : ruling.startingAt b.index with
    | skip path operation value =>
      rw [hx] at within
      simp only [carryOut, fst_noted, skipRecord,
        ((g.request_passed r).readAlike (w.request_passed r)).shown_eq within]
    | add clause bindings =>
      rw [hx] at within after region
      have size_eq : (r.passed s.store).size = (r.passed t.store).size := (w.request_passed r).size
      have bound := within_boundFrom within s.store.size (Nat.le_refl _)
      rw [fst_carryOut_add, fst_carryOut_add, ← size_eq, size_request_passed]
      simp only [addRecord, (region.readAlike after).shownList_eq bound, hi]
    | tear spent f => rfl
    | order clause =>
      rw [hx] at within after region
      rw [fst_carryOut_order, fst_carryOut_order]
      cases clause with
      | none => rfl
      | some o =>
        have shown := (region.readAlike after).shown_eq (v := o) fun j hj => .inl (within o rfl j hj)
        simp only [orderRecord, shown]

end Builder

end Criteria
