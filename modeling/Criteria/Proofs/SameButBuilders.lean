import Criteria.Proofs.SameButHeld
import Criteria.Proofs.Parameterisation

/-! Two stores that differ in what some builders hold, and in nothing else. A request asks of a
builder only that it is one, so it reads the same in both stores, and it leaves two such stores
behind when it makes the same arguments in both.
-/

set_option autoImplicit false

namespace Criteria

namespace MatchMode

theorem ofValue_of_stoodFor (s : Store) {v : Value} {m : MatchMode} (h : stoodFor? v = some m) :
    ofValue s v = .ok m := by
  cases v with
  | mode k =>
    cases h
    rfl
  | text a w =>
    have hf : ∃ p, s.fingerprint (.text a w) = .ok p := ⟨_, rfl⟩
    obtain ⟨p, hf⟩ := hf
    have hl : ofLabel? w = some m := h
    simp only [ofValue, hf, hl]
  | _ => cases h

end MatchMode

namespace Request

def operands : Request → List Value
  | compare _ field value => [field, value]
  | like field value mode => [field, value, mode]
  | likeAny fields value mode => [fields, value, mode]
  | within field values => [field, values]
  | between field lower upper => [field, lower, upper]
  | orderBy clause => [clause]

def references (s : Store) : Request → List Value
  | compare _ field _ | like field _ _ | within field _ | between field _ _ => [field]
  | likeAny fields _ _ =>
    if s.isReference fields then []
    else
      match s.candidates fields with
      | .ok items => items
      | .error _ => []
  | orderBy clause => [clause]

end Request

/-- Every reference that has a path has a text for it, with a property. -/
def RequestAt.Spelled (P : String → Prop) (t : RequestAt) : Prop :=
  ∀ v ∈ t.request.references t.store, ∀ p, t.store.fieldPath v = .ok p →
    ∃ m w, p = .text m w ∧ P w

namespace Request

theorem mapM_reference?_eq {s t : Store} {vs : List Value}
    (h : ∀ v ∈ vs, s.reference? v = t.reference? v) :
    vs.mapM s.reference? = vs.mapM t.reference? := by
  induction vs with
  | nil => rfl
  | cons v vs ih =>
    have hv := h v (List.mem_cons_self ..)
    have hvs := ih fun x hx => h x (List.mem_cons_of_mem _ hx)
    rw [List.mapM_cons, List.mapM_cons, hv, hvs]

theorem SameShape.of_sameButHeld {P : String → Prop} {s t : Store} {r : Request}
    (ho : ∀ v ∈ r.operands, s.SameButHeld t v) (hr : ∀ v ∈ r.references s, s.SameButHeld t v)
    (h : (⟨s, r⟩ : RequestAt).Spelled P) : SameShape s t r r := by
  have reference_eq : ∀ v ∈ r.references s, s.reference? v = t.reference? v := by
    intro v hv
    simp only [Store.reference?, ← (hr v hv).fieldPath_eq]
    cases hp : s.fieldPath v with
    | error f => rfl
    | ok p =>
      obtain ⟨m, x, rfl, -⟩ := h v hv p hp
      rfl
  cases r with
  | compare op f v => exact .compare op v v (reference_eq f (List.mem_singleton.2 rfl))
  | like f v m => exact .like v v m m (reference_eq f (List.mem_singleton.2 rfl))
  | within f v => exact .within v v (reference_eq f (List.mem_singleton.2 rfl))
  | between f v x => exact .between v v x x (reference_eq f (List.mem_singleton.2 rfl))
  | orderBy c =>
    refine .orderBy ?_
    simp only [Request.orderSet?, (ho c (List.mem_singleton.2 rfl)).fieldPath_eq]
  | likeAny fs v m =>
    have sameButHeld := ho fs (List.mem_cons_self ..)
    refine .likeAny v v m m ?_
    simp only [Store.references?, ← sameButHeld.isReference_eq, ← sameButHeld.candidates_eq]
    simp only [Request.references] at reference_eq
    split
    · rfl
    · next hf =>
      rw [if_neg hf] at reference_eq
      cases hc : s.candidates fs with
      | error f => rfl
      | ok items =>
        rw [hc] at reference_eq
        exact mapM_reference?_eq reference_eq

end Request

namespace Store

theorem cell?_alloc_eq (s : Store) (c : Cell) (k : Handle) :
    (s.alloc c).2.cell? k = if k.index = s.size then some c else s.cell? k := by
  by_cases h : k.index = s.size
  · have e : k = (s.alloc c).1 := by cases k; simp_all [alloc]
    rw [if_pos h, e, cell?_alloc]
  · rw [if_neg h]
    simp only [alloc, cell?, size] at h ⊢
    rw [List.getElem?_append]
    split
    · rfl
    · rw [List.getElem?_eq_none (by simp; omega), List.getElem?_eq_none (by omega)]

theorem lt_size_of_cell? {s : Store} {k : Handle} {c : Cell} (h : s.cell? k = some c) :
    k.index < s.size := (List.getElem?_eq_some_iff.1 h).1

/-- The stores agree except on the builders in the cells `hs`. -/
structure SameButBuilders (hs : List Handle) (s t : Store) : Prop where
  size : s.size = t.size
  marks : s.marks = t.marks
  extras : s.extras = t.extras
  same : ∀ k, k ∉ hs → s.cell? k = t.cell? k
  builders : ∀ k ∈ hs, (∃ b, s.builder? k = some b) ∧ ∃ c, t.builder? k = some c

namespace SameButBuilders

theorem of_alloc (s : Store) (b c : Builder) :
    SameButBuilders [⟨s.size⟩] (s.alloc (.builder b)).2 (s.alloc (.builder c)).2 := by
  have hb := fun b => Builder.builder?_eq_some.2 (cell?_alloc s (.builder b))
  refine ⟨by simp [Store.alloc, Store.size], rfl, rfl, ?_, ?_⟩
  · intro k hk
    have hi : ¬ k.index = s.size := fun e => hk (List.mem_singleton.2 (by cases k; simp_all))
    rw [cell?_alloc_eq, cell?_alloc_eq, if_neg hi, if_neg hi]
  · intro k hk
    cases List.mem_singleton.1 hk
    exact ⟨⟨b, hb b⟩, c, hb c⟩

variable {hs : List Handle} {s t : Store} (w : SameButBuilders hs s t)

include w

theorem cell (k : Handle) : s.cell? k = t.cell? k ∨
    ∃ b c, s.cell? k = some (.builder b) ∧ t.cell? k = some (.builder c) := by
  by_cases hk : k ∈ hs
  · obtain ⟨⟨b, hb⟩, c, hc⟩ := w.builders k hk
    exact Or.inr ⟨b, c, Builder.builder?_eq_some.1 hb, Builder.builder?_eq_some.1 hc⟩
  · exact Or.inl (w.same k hk)

theorem sameButHeld (v : Value) : SameButHeld s t v := by
  cases v with
  | shared k =>
    rcases w.cell k with e | ⟨b, c, e, f⟩
    · exact .of_eq e
    · unfold SameButHeld
      simp only [cellOf?, e, f]
      exact .some (.builder b c)
  | _ => exact .none

theorem shortName_eq (v : Value) : s.shortName v = t.shortName v := (w.sameButHeld v).shortName_eq

theorem longName_eq (v : Value) : s.longName v = t.longName v := (w.sameButHeld v).longName_eq

theorem candidates_eq (v : Value) : s.candidates v = t.candidates v :=
  (w.sameButHeld v).candidates_eq

theorem fieldPath_eq (v : Value) : s.fieldPath v = t.fieldPath v := (w.sameButHeld v).fieldPath_eq

theorem isReference_eq (v : Value) : s.isReference v = t.isReference v :=
  (w.sameButHeld v).isReference_eq

theorem listable_eq (v : Value) : s.listable v = t.listable v := (w.sameButHeld v).listable_eq

theorem binding_eq (v : Value) : Request.binding s v = Request.binding t v :=
  (w.sameButHeld v).binding_eq

theorem mark : SameButBuilders hs s.mark.2 t.mark.2 := by
  refine ⟨w.size, ?_, w.extras, w.same, w.builders⟩
  simp only [Store.mark, w.marks]

theorem alloc (c : Cell) : SameButBuilders hs (s.alloc c).2 (t.alloc c).2 := by
  have hn : ∀ k ∈ hs, ∀ (u : Store) (d : Builder), u.builder? k = some d →
      (u.alloc c).2.builder? k = some d := by
    intro k _ u d hd
    exact Builder.builder?_eq_some.2 (cell?_alloc_of_some u c _ k (Builder.builder?_eq_some.1 hd))
  refine ⟨?_, w.marks, w.extras, ?_, ?_⟩
  · have h := w.size
    simp only [Store.alloc, Store.size, List.length_append] at h ⊢
    rw [h]
  · intro k hk
    rw [cell?_alloc_eq, cell?_alloc_eq, w.size, w.same k hk]
  · intro k hk
    obtain ⟨⟨b, hb⟩, d, hd⟩ := w.builders k hk
    exact ⟨⟨b, hn k hk s b hb⟩, d, hn k hk t d hd⟩

theorem put_same {k : Handle} (c : Cell) (hk : k ∉ hs) :
    SameButBuilders hs (s.put k c) (t.put k c) := by
  refine ⟨?_, w.marks, w.extras, ?_, ?_⟩
  · have h := w.size
    simpa [Store.put, Store.size] using h
  · intro j hj
    by_cases e : k = j
    · subst e
      have hs := w.same k hj
      cases hc : t.cell? k with
      | none =>
        rw [hc] at hs
        have hb : ∀ u : Store, u.cell? k = none → (u.put k c).cell? k = none := by
          intro u hu
          have hl : u.cells.length ≤ k.index := List.getElem?_eq_none_iff.1 hu
          simp [Store.put, cell?, hl]
        rw [hb s hs, hb t hc]
      | some d =>
        rw [hc] at hs
        rw [cell?_put_self s k c d hs, cell?_put_self t k c d hc]
    · rw [cell?_put_of_ne s k j c e, cell?_put_of_ne t k j c e, w.same j hj]
  · intro j hj
    have e : k ≠ j := fun h => hk (h ▸ hj)
    have hn : ∀ u : Store, (u.put k c).builder? j = u.builder? j := by
      intro u
      simp only [builder?, cell?_put_of_ne u k j c e]
    rw [hn, hn]
    exact w.builders j hj

theorem put_builders {h k : Handle} (b c : Builder) (hh : h ∈ hs) (hk : k ∈ hs) :
    SameButBuilders hs (s.put h (.builder b)) (t.put k (.builder c)) := by
  have hp : ∀ (u : Store) (j : Handle) (d e : Builder), u.builder? j = some d →
      ∀ i, (∃ x, u.builder? i = some x) → ∃ x, (u.put j (.builder e)).builder? i = some x := by
    intro u j d e hd i hi
    by_cases hij : j = i
    · subst hij
      exact ⟨e, Builder.builder?_eq_some.2
        (cell?_put_self u j _ _ (Builder.builder?_eq_some.1 hd))⟩
    · simpa only [builder?, cell?_put_of_ne u j i _ hij] using hi
  refine ⟨?_, w.marks, w.extras, ?_, ?_⟩
  · have h := w.size
    simpa [Store.put, Store.size] using h
  · intro j hj
    have eh : h ≠ j := fun e => hj (e ▸ hh)
    have ek : k ≠ j := fun e => hj (e ▸ hk)
    rw [cell?_put_of_ne s h j _ eh, cell?_put_of_ne t k j _ ek, w.same j hj]
  · intro j hj
    obtain ⟨⟨d, hd⟩, -⟩ := w.builders h hh
    obtain ⟨-, e, he⟩ := w.builders k hk
    obtain ⟨hs, ht⟩ := w.builders j hj
    exact ⟨hp s h d b hd j hs, hp t k e c he j ht⟩

theorem passed (v : Value) (n : Nat) : SameButBuilders hs (s.passed v n) (t.passed v n) := by
  cases v with
  | shared k =>
    rcases w.cell k with e | ⟨b, c, e, f⟩
    · simp only [Store.passed, e]
      split
      · next hc =>
        refine w.put_same _ fun hk => ?_
        obtain ⟨-, c, hc'⟩ := w.builders k hk
        rw [Builder.builder?_eq_some.1 hc'] at hc
        cases hc
      · exact w
    · simpa only [Store.passed, e, f] using w
  | _ => exact w

theorem referencesRead_eq (vs : List Value) :
    Request.referencesRead s vs = Request.referencesRead t vs := by
  induction vs with
  | nil => rfl
  | cons v vs ih => simp only [Request.referencesRead, w.fieldPath_eq, ih]

theorem request_passed (r : Request) : SameButBuilders hs (r.passed s) (r.passed t) := by
  cases r with
  | like => exact w.mark
  | likeAny fields value mode =>
    simp only [Request.passed, w.isReference_eq, w.candidates_eq]
    split
    · exact w
    · split
      · next items _ =>
        rw [w.referencesRead_eq]
        exact (w.passed _ _).mark
      · exact w
  | _ => exact w

theorem counts_eq (v : Value) : s.counts v = t.counts v := (w.sameButHeld v).counts_eq

theorem patternOf_eq (m : MatchMode) (v : Value) : m.patternOf s v = m.patternOf t v := by
  simp only [MatchMode.patternOf, Store.mark, w.marks, w.shortName_eq]

theorem pattern?_eq (mode value : Value) : s.pattern? mode value = t.pattern? mode value := by
  simp only [pattern?]
  cases hm : MatchMode.ofValue s mode with
  | ok m =>
    have hs := MatchMode.stoodFor?_of_ofValue hm
    rw [MatchMode.ofValue_of_stoodFor t hs]
    simp only [w.patternOf_eq]
  | error f =>
    cases hk : MatchMode.ofValue t mode with
    | ok m =>
      have hs := MatchMode.stoodFor?_of_ofValue hk
      rw [MatchMode.ofValue_of_stoodFor s hs] at hm
      cases hm
    | error g => rfl

theorem bindings?_eq (n : Nat) (r : Request) : r.bindings? s n = r.bindings? t n := by
  cases r with
  | orderBy clause => rfl
  | _ => simp only [Request.bindings?, w.counts_eq, w.pattern?_eq, w.listable_eq, w.binding_eq]

theorem sameShape {P : String → Prop} {r : Request} (h : (⟨s, r⟩ : RequestAt).Spelled P) :
    Request.SameShape s t r r :=
  .of_sameButHeld (fun v _ => w.sameButHeld v) (fun v _ => w.sameButHeld v) h

theorem demand?_eq {P : String → Prop} {r : Request} (h : (⟨s, r⟩ : RequestAt).Spelled P) :
    r.demand? s = r.demand? t := by
  simp only [Request.demand?, (w.sameShape h).form?, w.bindings?_eq]

end SameButBuilders

def copying (s : Store) : List Binding → Store
  | [] => s
  | .itself _ :: xs => s.copying xs
  | .copy _ items :: xs => (s.alloc (.list items)).2.copying xs

theorem SameButBuilders.copying {hs : List Handle} {s t : Store} (w : SameButBuilders hs s t)
    (bs : List Binding) :
    SameButBuilders hs (s.copying bs) (t.copying bs) := by
  induction bs generalizing s t with
  | nil => exact w
  | cons x xs ih =>
    cases x with
    | itself v => exact ih w
    | copy name items => exact ih (w.alloc _)

theorem put_self {s : Store} {h : Handle} {c : Cell} (hc : s.cell? h = some c) : s.put h c = s := by
  obtain ⟨hl, e⟩ := List.getElem?_eq_some_iff.1 hc
  simp [put, ← e]

end Store

namespace Builder

open Operation

theorem store_bindValues (bs : List Binding) (s : Session) :
    ((bindValues bs).result s).2.store = s.store.copying bs := by
  induction bs generalizing s with
  | nil => rfl
  | cons x xs ih =>
    cases x with
    | itself v =>
      have hx := ih s
      simp only [bindValues, bindValue, result_bind, result_pure, Store.copying]
      rcases e : (bindValues xs).result s with ⟨r, t⟩
      rw [e] at hx
      cases r <;> exact hx
    | copy name items =>
      let u : Session := { s with
        records := s.records ++ [⟨.debug, .values, copyRecord name⟩]
        store := (s.store.alloc (.list items)).2 }
      have hx := ih u
      simp only [bindValues, bindValue, result_bind, result_note, result_share, Store.copying]
      rcases e : (bindValues xs).result u with ⟨r, t⟩
      rw [e] at hx
      cases r <;> exact hx

theorem store_request {h : Handle} {b : Builder} {r : Request} {s : Session}
    (hb : s.store.builder? h = some b) :
    ((request h r).result s).2.store =
      ((r.passed s.store).copying ((⟨s.store, r⟩ : RequestAt).bindings b.index)).put h
        (.builder (b.afterRequest ⟨s.store, r⟩)) := by
  have hp := cell?_request_passed s.store r h b (builder?_eq_some.1 hb)
  have same := Store.put_self hp
  simp only [request, theBuilder, perform, result_bind, result_theStore, hb, result_pure,
    result_modify, afterRequest, RequestAt.bindings, RequestAt.ruling]
  cases r.rule s.store with
  | error f => simpa [Except.map, Store.copying, after] using same.symm
  | ok ruling =>
    simp only [Except.map]
    cases ruling.startingAt b.index with
    | skip path operation value =>
      simpa [carryOut, result_noted, Store.copying, after] using same.symm
    | add c bs =>
      let u : Session := { s with store := r.passed s.store }
      have values_eq := result_bindValues bs u
      have store_eq := store_bindValues bs u
      rcases e : (bindValues bs).result u with ⟨x, v⟩
      rw [e] at values_eq store_eq
      subst values_eq
      have hv : v.store = (r.passed s.store).copying bs := store_eq
      simp only [carryOut, result_bind, e, result_put, result_noted, after, hv, u,
        size_request_passed]
    | tear spent f => simp [carryOut, result_bind, Store.copying, after]
    | order clause => simp [carryOut, result_bind, result_noted, Store.copying, after]

end Builder

theorem Store.SameButBuilders.request {hs : List Handle} {h k : Handle} {b c : Builder}
    {r : Request} {s t : Session} (w : SameButBuilders hs s.store t.store) (hh : h ∈ hs) (hk : k ∈ hs)
    (hb : s.store.builder? h = some b) (hc : t.store.builder? k = some c)
    (e : (⟨s.store, r⟩ : RequestAt).bindings b.index =
      (⟨t.store, r⟩ : RequestAt).bindings c.index) :
    SameButBuilders hs ((Builder.request h r).result s).2.store
      ((Builder.request k r).result t).2.store := by
  rw [Builder.store_request hb, Builder.store_request hc, e]
  exact ((w.request_passed r).copying _).put_builders _ _ hh hk

end Criteria
