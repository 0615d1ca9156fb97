import Criteria.Proofs.Growth
import Criteria.Proofs.Outcome
import Criteria.Proofs.Recovery

/-! Queries that are gone on with in another builder. The new builder starts with the base of the old
one, its conditions as one text, its next number and its arguments. Asked for the same, both
give the same answers and build the same query, unless they are told of each other.
-/

set_option autoImplicit false

namespace Criteria

namespace Text

def behindWhere (base built : String) : String :=
  String.ofList (built.toList.drop (base ++ whereWord).toList.length)

theorem behindWhere_append (base w : String) : behindWhere base (base ++ (whereWord ++ w)) = w := by
  have h : (base ++ (whereWord ++ w)).toList = (base ++ whereWord).toList ++ w.toList := by
    simp [String.toList_append]
  rw [behindWhere, h, List.drop_left, String.ofList_toList]

theorem intercalate_joined (w : String) (cs ds : List String) (hc : cs ≠ []) :
    w.intercalate (w.intercalate cs :: ds) = w.intercalate (cs ++ ds) := by
  cases cs with
  | nil => exact absurd rfl hc
  | cons c cs =>
    induction cs generalizing c with
    | nil => rfl
    | cons d cs ih => exact ih (c ++ w ++ d) (List.cons_ne_nil _ _)

end Text

def RequestAt.inTurn (h k : Handle) : List Request → Session → List RequestAt
  | [], _ => []
  | r :: rs, s =>
    ⟨s.store, r⟩ ::
      inTurn h k rs ((Builder.request k r).result ((Builder.request h r).result s).2).2

theorem RequestAt.request_mem_of_inTurn {h k : Handle} {rs : List Request} {s : Session}
    {x : RequestAt} (hx : x ∈ inTurn h k rs s) : x.request ∈ rs := by
  induction rs generalizing s with
  | nil => cases hx
  | cons r rs ih =>
    rcases List.mem_cons.1 hx with rfl | hx
    · exact List.mem_cons_self ..
    · exact List.mem_cons_of_mem _ (ih hx)

namespace Builder

open Operation Text

/-- The plan of a builder that goes on where `b` is, from its query and its arguments. -/
def continued (b : Builder) (built args : Value) : Plan :=
  { base := b.base, start := .int none b.index, reserved := args
    condition :=
      match b.base, built with
      | .text _ base, .text _ t => .text none (behindWhere base t)
      | _, _ => .null }

def resumed (b : Builder) : Operation Value := do
  let built ← b.buildNoted
  let args ← b.argsList
  (b.continued built args).make

def answers (h : Handle) : List Request → Session → List (Except Fault Unit)
  | [], _ => []
  | r :: rs, s => ((request h r).result s).1 :: answers h rs ((request h r).result s).2

def answersInTurn (h k : Handle) : List Request → Session → List (Except Fault Unit × Except Fault Unit)
  | [], _ => []
  | r :: rs, s =>
    let (x, t) := (request h r).result s
    let (y, u) := (request k r).result t
    (x, y) :: answersInTurn h k rs u

def requestsInTurn (h k : Handle) : List Request → Session → Session
  | [], s => s
  | r :: rs, s => requestsInTurn h k rs ((request k r).result ((request h r).result s).2).2

/-- Two builders of one query, which may hold its conditions in other parts, and arguments that `E`
relates. -/
structure Resumes (E : Value → Value → Prop) (base : String) (a b : Builder) : Prop where
  base : ∃ m k, a.base = .text m base ∧ b.base = .text k base
  nonempty : a.conditions ≠ [] ∧ b.conditions ≠ []
  conditions : andWord.intercalate a.conditions = andWord.intercalate b.conditions
  args : List.Forall₂ E a.args b.args
  index : a.index = b.index
  order : a.order = b.order

namespace Resumes

variable {E : Value → Value → Prop} {base : String} {a b : Builder}

theorem add (h : Resumes E base a b) (c : Clause) {vs ws : List Value} (same : List.Forall₂ E vs ws) :
    Resumes E base (a.add c vs) (b.add c ws) := by
  -- One of the two lists is shorter, so they are put together before they are compared.
  obtain ⟨ha, hb⟩ := h.nonempty
  refine ⟨h.base, ⟨by simp [Builder.add], by simp [Builder.add]⟩, ?_, ?_, ?_, h.order⟩
  · rw [conditions_add, conditions_add, ← intercalate_joined _ _ _ ha, h.conditions,
      intercalate_joined _ _ _ hb, h.index]
  · rw [args_add, args_add]
    exact List.rel_append h.args same
  · rw [index_add, index_add, h.index]

theorem after {V : Value → Value → Prop} (h : Resumes E base a b) {n m : Nat}
    {x y : Except Fault Ruling} (refl : ∀ v, V v v) (ruled : Both (Ruling.Rel V) x y)
    (bound : ∀ c xs ys, x = .ok (.add c xs) → y = .ok (.add c ys) →
      List.Forall₂ (Binding.Rel V) xs ys → List.Forall₂ E (boundFrom n xs) (boundFrom m ys)) :
    Resumes E base (a.after n x) (b.after m y) := by
  cases ruled with
  | error => exact h
  | @ok x y rel =>
    cases x with
    | add c xs =>
      obtain ⟨ys, rfl, same⟩ := rel.of_add refl
      exact h.add c (bound c xs ys rfl rfl same)
    | skip =>
      cases rel
      exact h
    | tear spent f =>
      cases rel
      refine ⟨h.base, h.nonempty, h.conditions, h.args, ?_, h.order⟩
      simp only [Builder.after, spend, h.index]
    | order o =>
      cases rel
      exact ⟨h.base, h.nonempty, h.conditions, h.args, h.index, rfl⟩

theorem imp {F : Value → Value → Prop} (h : Resumes E base a b) (he : ∀ v w, E v w → F v w) :
    Resumes F base a b :=
  ⟨h.base, h.nonempty, h.conditions, h.args.imp he, h.index, h.order⟩

theorem grown {s t : Store} {hs : List Handle} (w : Store.Grown hs s t)
    (h : Resumes s.SameArgument base a b) : Resumes t.SameArgument base a b :=
  h.imp fun _ _ same => same.grown w

theorem requestInTurn {h k : Handle} {r : Request} {s : Session}
    (q : Resumes s.store.SameArgument base a b) (ne : h ≠ k)
    (ha : s.store.builder? h = some a) (hb : s.store.builder? k = some b)
    (apart : (⟨s.store, r⟩ : RequestAt).Apart [h, k]) {t u : Session}
    (ht : ((Builder.request h r).result s).2 = t) (hu : ((Builder.request k r).result t).2 = u) :
    ((Builder.request h r).result s).1 = ((Builder.request k r).result t).1 ∧
      ∃ a' b', u.store.builder? h = some a' ∧ u.store.builder? k = some b' ∧
        Resumes u.store.SameArgument base a' b' := by
  subst ht hu
  have hh : h ∈ [h, k] := List.mem_cons_self ..
  have hk : k ∈ [h, k] := List.mem_cons_of_mem _ (List.mem_singleton.2 rfl)
  have first := Store.Grown.request hh ha apart.lasting
  have ha' := builder?_request h a r s ha
  have hb' := builder?_eq_some.2 (cell?_request_of_ne r ha ne (builder?_eq_some.1 hb)
    fun _ _ => Cell.noConfusion)
  have second := Store.Grown.request hk hb' (RequestAt.Lasting.grown first apart.lasting
    apart.within)
  have ha'' := builder?_eq_some.2 (cell?_request_of_ne r hb' ne.symm (builder?_eq_some.1 ha')
    fun _ _ => Cell.noConfusion)
  refine ⟨fst_request_grown first hh hk ha hb' q.index apart.lasting apart.within, _, _, ha'',
    builder?_request k b r _ hb', ?_⟩
  have ruled := Ruling.both_startingAt (rule_grown first apart.within) a.index
  rw [← q.index]
  refine (q.grown (first.trans second)).after .same ruled fun c xs ys hx hy same => ?_
  have bound := bound_request r ha
  have bound' := bound_request r hb'
  simp only [RequestAt.bindings, RequestAt.ruling, hx, ← q.index, hy] at bound bound'
  exact Store.sameArgument_of_bound same (bound.imp fun _ _ h => h.grown second) bound'

/-- Any run that is made to both in turn gives the same on both, and leaves builders of one query. -/
theorem requestsInTurn {h k : Handle} {rs : List Request} {s : Session}
    (q : Resumes s.store.SameArgument base a b) (ne : h ≠ k)
    (ha : s.store.builder? h = some a) (hb : s.store.builder? k = some b)
    (apart : ∀ x ∈ RequestAt.inTurn h k rs s, x.Apart [h, k]) :
    (∀ p ∈ answersInTurn h k rs s, p.1 = p.2) ∧
      ∃ a' b', (Builder.requestsInTurn h k rs s).store.builder? h = some a' ∧
        (Builder.requestsInTurn h k rs s).store.builder? k = some b' ∧
        Resumes (Builder.requestsInTurn h k rs s).store.SameArgument base a' b' := by
  induction rs generalizing s a b with
  | nil => exact ⟨fun p hp => absurd hp List.not_mem_nil, a, b, ha, hb, q⟩
  | cons r rs ih =>
    obtain ⟨fst_eq, a', b', ha', hb', q'⟩ :=
      q.requestInTurn ne ha hb (apart _ (List.mem_cons_self ..)) rfl rfl
    obtain ⟨rest_eq, left⟩ := ih q' ha' hb' fun x hx => apart x (List.mem_cons_of_mem _ hx)
    exact ⟨List.forall_mem_cons.2 ⟨fst_eq, rest_eq⟩, left⟩

theorem fst_settled_eq {s t : Session} (h : s.store.marks = t.store.marks) (v : Value) :
    ((settled v).result s).1 = ((settled v).result t).1 := by
  unfold settled fresh
  split
  · rfl
  · split
    · rfl
    · simp only [result_bind, result_mark, Store.mark, h, result_pure]

theorem result_build_of_order {b : Builder} {m : Mark} {base : String} {o : Value} (s : Session)
    (hb : b.base = .text m base) (ho : b.order = some o) (hn : ∀ k w, o ≠ .text k w) :
    b.build.result s = (.error (.onlyConcatenates "str" (s.store.longName o)), s) := by
  have refused : (orderText o).result s =
      (.error (.onlyConcatenates "str" (s.store.longName o)), s) := by
    unfold orderText
    split
    · next k w => exact absurd rfl (hn k w)
    · simp [result_bind]
  by_cases hc : b.conditions.isEmpty = true
  · simp [build, hc, ho, result_bind, refused]
  · simp [build, hb, hc, ho, result_bind, result_extend_text, refused]

theorem built {hs : List Handle} {s t : Session} (h : Resumes E base a b)
    (w : Store.SameButBuilders hs s.store t.store) :
    (a.buildNoted.result s).1 = (b.buildNoted.result t).1 := by
  obtain ⟨m, k, ha, hb⟩ := h.base
  obtain ⟨hna, hnb⟩ := h.nonempty
  have where_eq : a.whereText = b.whereText := by
    simp [whereText, hna, hnb, h.conditions]
  have texts : ∀ (x : Value), (∀ u : Store, ∃ w, builtRecord u x = .ok w) →
      a.build.result s = (.ok x, s) → b.build.result t = (.ok x, t) →
      (a.buildNoted.result s).1 = (b.buildNoted.result t).1 := by
    intro x hx hs ht
    obtain ⟨ws, hws⟩ := hx s.store
    obtain ⟨wt, hwt⟩ := hx t.store
    simp only [buildNoted, result_bind, hs, ht, result_asking, hws, hwt, result_note]
    refine fst_settled_eq ?_ x
    exact w.marks
  have written : ∀ x (u : Store), ∃ w, builtRecord u (.text none x) = .ok w := fun _ _ => ⟨_, rfl⟩
  cases ho : b.order with
  | none =>
    have hs := result_build_of_text s ha (h.order.trans ho)
    have ht := result_build_of_text t hb ho
    simp only [List.isEmpty_iff, hna, hnb, if_false, where_eq] at hs ht
    exact texts _ (written _) hs ht
  | some o =>
    by_cases hn : ∀ k w, o ≠ .text k w
    · have hs := result_build_of_order s ha (h.order.trans ho) hn
      have ht := result_build_of_order t hb ho hn
      simp only [buildNoted, result_bind, hs, ht, w.longName_eq]
    · obtain ⟨k, x, rfl⟩ : ∃ k x, o = .text k x := by
        cases o with
        | text k x => exact ⟨k, x, rfl⟩
        | _ => exact absurd (fun _ _ => Value.noConfusion) hn
      have hs := result_build_of_text_order s ha (h.order.trans ho)
      have ht := result_build_of_text_order t hb ho
      rw [where_eq] at hs
      exact texts _ (written _) hs ht

theorem request {h k : Handle} {r : Request} {s t : Session} (q : Resumes Eq base a b)
    (w : Store.SameButBuilders [h, k] s.store t.store) (ha : s.store.builder? h = some a)
    (hb : t.store.builder? k = some b) (hr : ∀ v ∈ r.operands, ¬ s.store.LeadsTo [h, k] v) :
    ((Builder.request h r).result s).1 = ((Builder.request k r).result t).1 ∧
      Store.SameButBuilders [h, k] ((Builder.request h r).result s).2.store
        ((Builder.request k r).result t).2.store ∧
      ∃ a' b', ((Builder.request h r).result s).2.store.builder? h = some a' ∧
        ((Builder.request k r).result t).2.store.builder? k = some b' ∧ Resumes Eq base a' b' := by
  have region := s.store.region_of_leadsTo [h, k]
  have within := fun v hv => Store.within_of_not_leadsTo (hr v hv)
  have hh : h ∈ [h, k] := List.mem_cons_self ..
  have hk : k ∈ [h, k] := List.mem_cons_of_mem _ (List.mem_singleton.2 rfl)
  have rule_eq := region.rule_eq w within
  have bindings_eq : (⟨s.store, r⟩ : RequestAt).bindings a.index =
      (⟨t.store, r⟩ : RequestAt).bindings b.index := by
    simp only [RequestAt.bindings, RequestAt.ruling, rule_eq, q.index]
  refine ⟨fst_request_eq region w hh hk ha hb q.index within,
    w.request hh hk ha hb bindings_eq, _, _, builder?_request h a r s ha,
    builder?_request k b r t hb, ?_⟩
  rw [rule_eq, q.index, w.size]
  refine q.after (V := Eq) (fun _ => rfl) (Both.of_eq .same rfl) fun c xs ys hx hy _ => ?_
  cases hx.symm.trans hy
  exact List.forall₂_same.2 fun _ _ => rfl

theorem requests {h k : Handle} {rs : List Request} {s t : Session} (q : Resumes Eq base a b)
    (w : Store.SameButBuilders [h, k] s.store t.store) (ha : s.store.builder? h = some a)
    (hb : t.store.builder? k = some b)
    (hr : ∀ x ∈ RequestAt.ofRequests h rs s, ∀ v ∈ x.request.operands, ¬ x.store.LeadsTo [h, k] v) :
    answers h rs s = answers k rs t ∧
      Store.SameButBuilders [h, k] (Builder.requests h rs s).store (Builder.requests k rs t).store ∧
      ∃ a' b', (Builder.requests h rs s).store.builder? h = some a' ∧
        (Builder.requests k rs t).store.builder? k = some b' ∧ Resumes Eq base a' b' := by
  induction rs generalizing s t a b with
  | nil => exact ⟨rfl, w, a, b, ha, hb, q⟩
  | cons r rs ih =>
    obtain ⟨fst_eq, w', a', b', ha', hb', q'⟩ := q.request w ha hb (hr _ (List.mem_cons_self ..))
    obtain ⟨rest_eq, left⟩ := ih q' w' ha' hb' fun x hx => hr x (List.mem_cons_of_mem _ hx)
    exact ⟨by rw [answers, answers, fst_eq, rest_eq], left⟩

end Resumes

end Builder

theorem Clause.not_blank_render (c : Clause) (n : Nat) : Text.blank (c.render n) = false := by
  have mark : Text.blank "?" = false := by decide
  have bracket : Text.blank "(" = false := by decide
  have number : ∀ n, Text.blank (placeholder n) = false := by
    intro n
    simp [placeholder, Text.placeholderMark, Text.blank_append, mark]
  cases c <;> simp [render, Text.blank_append, number, bracket]

theorem Text.not_blank_intercalate {c : String} (w : String) (cs : List String)
    (h : blank c = false) : blank (w.intercalate (c :: cs)) = false := by
  cases cs with
  | nil => simpa using h
  | cons d ds => simp [String.intercalate_cons_cons, blank_append, h]

namespace Builder

open Operation Text

theorem result_buildNoted_unordered {a : Builder} {m : Mark} {base : String} (u : Session)
    (hb : a.base = .text m base) (ho : a.order = none) (hc : a.conditions ≠ []) :
    ∃ k v, a.buildNoted.result u =
        (.ok (.text k (base ++ (whereWord ++ andWord.intercalate a.conditions))), v) ∧
      v.store.cells = u.store.cells := by
  have built := result_build_of_text u hb ho
  have where_eq : a.whereText = whereWord ++ andWord.intercalate a.conditions := by
    simp [whereText, hc]
  simp only [List.isEmpty_iff, hc, if_false, where_eq] at built
  have record : ∀ x (t : Store), ∃ w, builtRecord t (.text none x) = .ok w := fun _ _ => ⟨_, rfl⟩
  obtain ⟨w, hw⟩ := record (base ++ (whereWord ++ andWord.intercalate a.conditions)) u.store
  simp only [buildNoted, result_bind, built, result_asking, hw, result_note]
  obtain ⟨k, v, hv⟩ := result_settled_text none
    (base ++ (whereWord ++ andWord.intercalate a.conditions))
    { u with records := u.records ++ [⟨.info, .builder, w⟩] }
  obtain ⟨x, t, hx, cells_eq⟩ := result_settled
    { u with records := u.records ++ [⟨.info, .builder, w⟩] }
    (.text none (base ++ (whereWord ++ andWord.intercalate a.conditions)))
  rw [hv] at hx
  cases hx
  exact ⟨k, _, hv, cells_eq⟩

theorem result_reservedArgs_of_list {p : Plan} {j : Handle} {items : List Value} {s : Session}
    (hp : p.reserved = .shared j) (hj : s.store.cell? j = some (.list items)) :
    p.reservedArgs.result s = (.ok items, s) := by
  have reservable_eq : Plan.reservable s.store (.shared j) = true := by
    simp [Plan.reservable, Store.cellOf?, hj, Store.iterable, Store.elements?, Cell.elements?]
  unfold Plan.reservedArgs
  rw [hp]
  simp only [result_bind, result_theStore, reservable_eq, if_true, result_drain_of_list hj]

theorem result_continued {a : Builder} {m k : Mark} {base : String} {j : Handle} {s : Session}
    (hb : a.base = .text m base) (ho : a.order = none) (hc : a.conditions ≠ [])
    (hw : blank (andWord.intercalate a.conditions) = false) (hi : a.index < Whole.bound)
    (hj : s.store.cell? j = some (.list a.args)) :
    ∃ h v b, (a.continued (.text k (base ++ (whereWord ++ andWord.intercalate a.conditions)))
        (.shared j)).make.result s = (.ok (.shared h), v) ∧
      v.store.builder? h = some b ∧ Resumes Eq base a b ∧
      s.store.size < h.index ∧ ∀ i c, s.store.cell? i = some c → v.store.cell? i = some c := by
  let p := a.continued (.text k (base ++ (whereWord ++ andWord.intercalate a.conditions)))
    (.shared j)
  have start : Plan.startIndex s.store p.start = .ok a.index := rfl
  have conditions_eq : p.conditions = [andWord.intercalate a.conditions] := by
    simp [p, continued, hb, Plan.conditions, behindWhere_append, hw]
  let u : Session := { s with store := (s.store.alloc (.proxy (some (.text none "")))).2 }
  have fields : p.offeredFields.result s = (.ok (.shared ⟨s.store.size⟩), u) := rfl
  have list : u.store.cell? j = some (.list a.args) := Store.cell?_alloc_of_some _ _ _ _ hj
  let record := "Registered static condition: '" ++ andWord.intercalate a.conditions ++ "'"
  let u' : Session := { u with records := u.records ++ [⟨.debug, .builder, record⟩] }
  have noted : (p.conditions.forM Plan.noteCondition).result u = (.ok (), u') := by
    rw [conditions_eq]
    rfl
  have reserved : p.reservedArgs.result u' = (.ok a.args, u') := result_reservedArgs_of_list rfl list
  have base_eq : (plain p.base).result u' = (.ok base, u') := by
    have hp : p.base = .text m base := hb
    rw [hp]
    rfl
  have written : Whole.written (a.index : Int) = .ok (toString (a.index : Int)) :=
    Whole.written_of_lt _ (by simpa using hi)
  have made : ∃ v b, p.make.result s = (.ok (.shared ⟨u.store.size⟩), v) ∧
      v.store = (u.store.alloc (.builder b)).2 ∧ b.base = p.base ∧ b.conditions = p.conditions ∧
      b.args = a.args ∧ b.index = a.index ∧ b.order = none := by
    unfold Plan.make
    simp only [result_bind, result_asking, start, fields, noted, reserved, base_eq, written,
      result_note, result_share]
    exact ⟨_, _, rfl, rfl, rfl, rfl, by simp [args], rfl, rfl⟩
  obtain ⟨v, b, hv, store_eq, base_b, conditions_b, args_b, index_b, order_b⟩ := made
  refine ⟨_, v, b, hv, ?_, ?_, ?_, ?_⟩
  · rw [store_eq]
    exact builder?_eq_some.2 (Store.cell?_alloc ..)
  · rw [conditions_eq] at conditions_b
    refine ⟨⟨m, m, hb, base_b.trans hb⟩, ⟨hc, by simp [conditions_b]⟩, ?_, ?_, index_b.symm,
      ho.trans order_b.symm⟩
    · rw [conditions_b, String.intercalate_singleton]
    · rw [args_b]
      exact List.forall₂_same.2 fun _ _ => rfl
  · simp [u, Store.alloc, Store.size]
  · intro i c hc
    rw [store_eq]
    exact Store.cell?_alloc_of_some _ _ _ _ (Store.cell?_alloc_of_some _ _ _ _ hc)

theorem result_resumed {a : Builder} {m : Mark} {base : String} (u : Session)
    (hb : a.base = .text m base) (ho : a.order = none) (hc : a.conditions ≠ [])
    (hw : blank (andWord.intercalate a.conditions) = false) (hi : a.index < Whole.bound) :
    ∃ k v b, a.resumed.result u = (.ok (.shared k), v) ∧ v.store.builder? k = some b ∧
      Resumes Eq base a b ∧
      ∀ j c, u.store.builder? j = some c → j ≠ k ∧ v.store.builder? j = some c := by
  obtain ⟨m', u₁, built, cells_eq⟩ := result_buildNoted_unordered u hb ho hc
  let u₂ : Session := { u₁ with store := (u₁.store.alloc (.list a.args)).2 }
  have list : u₂.store.cell? (u₁.store.alloc (.list a.args)).1 = some (.list a.args) :=
    Store.cell?_alloc ..
  obtain ⟨k, v, b, made, hk, resumes, new, kept⟩ := result_continued (k := m') hb ho hc hw hi list
  refine ⟨k, v, b, ?_, hk, resumes, ?_⟩
  · simp only [resumed, result_bind, built, argsList, result_share]
    exact made
  · intro j c hj
    have hj : u₁.store.cell? j = some (.builder c) := by
      rw [Store.cell?, cells_eq]
      exact builder?_eq_some.1 hj
    have hj := Store.cell?_alloc_of_some _ (.list a.args) _ _ hj
    refine ⟨?_, builder?_eq_some.2 (kept _ _ hj)⟩
    rintro rfl
    exact absurd (Store.lt_size_of_cell? hj) (Nat.lt_asymm new)

theorem index_lt_of_resumed {a : Builder} {u v : Session} {k : Handle}
    (h : a.resumed.result u = (.ok (.shared k), v)) : a.index < Whole.bound := by
  obtain ⟨built, _, -, h⟩ := of_bind h
  obtain ⟨args, _, -, h⟩ := of_bind h
  obtain ⟨_, b, -, -, fresh⟩ := Plan.exists_fresh h
  have start_eq : Except.ok a.index = Except.ok b.index := fresh.start
  rw [Except.ok.inj start_eq]
  exact fresh.writable

end Builder

theorem Plan.blank_eq_false_of_mem {p : Plan} {c : String} (h : c ∈ p.conditions) :
    Text.blank c = false := by
  unfold conditions at h
  split at h
  · split at h
    · cases h
    · next hb =>
      cases List.mem_singleton.1 h
      simpa using hb
  · cases h

theorem Course.exists_fresh {p : Plan} {s t u : Session} {h : Handle} {a : Builder}
    {ts : List RequestAt} (hm : p.make.result s = (.ok (.shared h), t)) (hc : Course h t ts u)
    (ha : u.store.builder? h = some a) : ∃ b, p.Fresh s b ∧ b.afterRequests ts = a := by
  obtain ⟨k, b, e, hb, fresh⟩ := Plan.exists_fresh hm
  cases e
  exact ⟨b, fresh, Option.some.inj ((hc.builder? hb).symm.trans ha)⟩

theorem Plan.Fresh.not_blank_conditions {p : Plan} {s : Session} {b : Builder} (f : p.Fresh s b)
    (ts : List RequestAt) : ∀ c ∈ (b.afterRequests ts).conditions, Text.blank c = false := by
  intro c hm
  rw [Builder.conditions_afterRequests, f.conditions, List.mem_append] at hm
  rcases hm with hm | hm
  · exact Plan.blank_eq_false_of_mem hm
  · obtain ⟨e, -, rfl⟩ := List.mem_map.1 hm
    exact e.clause.not_blank_render _

theorem Store.SameButBuilders.of_builders {hs : List Handle} {s : Store}
    (h : ∀ k ∈ hs, ∃ b, s.builder? k = some b) : Store.SameButBuilders hs s s :=
  ⟨rfl, rfl, rfl, fun _ _ => rfl, fun k hk => ⟨h k hk, h k hk⟩⟩

/-- What the builder `h` tells in one session is what `k` tells in the other, with arguments that `E`
relates. -/
def Builder.TellAlike (E : Value → Value → Prop) (h : Handle) (s : Session) (k : Handle)
    (t : Session) : Prop :=
  ∃ a b, s.store.builder? h = some a ∧ t.store.builder? k = some b ∧
    (a.buildNoted.result s).1 = (b.buildNoted.result t).1 ∧ List.Forall₂ E a.args b.args ∧
    a.index = b.index

open Builder in
/-- A query is gone on with in another builder as in its own, as long as its next number can be
written: in one session, when each request is made to both, and in two that part there. -/
theorem resumed_alike {p : Plan} {s t u : Session} {h : Handle} {a : Builder} {m : Mark}
    {base : String} {ts : List RequestAt} (hm : p.make.result s = (.ok (.shared h), t))
    (hp : p.base = .text m base) (hc : Course h t ts u) (ha : u.store.builder? h = some a)
    (hn : a.conditions ≠ []) (ho : a.order = none) (hi : a.index < Whole.bound) :
    ∃ k v, a.resumed.result u = (.ok (.shared k), v) ∧ v.store.builder? h = some a ∧
      (∀ rs, (∀ x ∈ RequestAt.inTurn h k rs v, x.Apart [h, k]) →
        (∀ p ∈ answersInTurn h k rs v, p.1 = p.2) ∧
        TellAlike (requestsInTurn h k rs v).store.SameArgument h (requestsInTurn h k rs v) k
          (requestsInTurn h k rs v)) ∧
      ∀ rs, (∀ x ∈ RequestAt.ofRequests h rs v, ∀ w ∈ x.request.operands,
        ¬ x.store.LeadsTo [h, k] w) →
        answers h rs v = answers k rs v ∧
        Store.SameButBuilders [h, k] (requests h rs v).store (requests k rs v).store ∧
        TellAlike Eq h (requests h rs v) k (requests k rs v) := by
  obtain ⟨b, fresh, rfl⟩ := hc.exists_fresh hm ha
  have hb : (b.afterRequests ts).base = .text m base := by rw [base_afterRequests, fresh.base, hp]
  have hw : Text.blank (Text.andWord.intercalate (b.afterRequests ts).conditions) = false := by
    have written := fresh.not_blank_conditions ts
    cases e : (b.afterRequests ts).conditions with
    | nil => exact absurd e hn
    | cons c cs => exact Text.not_blank_intercalate _ _ (written c (by simp [e]))
  obtain ⟨k, v, c, made, hk, resumes, kept⟩ := result_resumed u hb ho hn hw hi
  obtain ⟨apart, hh⟩ := kept h _ ha
  have both {w : Session} {x y : Builder} (hx : w.store.builder? h = some x)
      (hy : w.store.builder? k = some y) : Store.SameButBuilders [h, k] w.store w.store := by
    refine .of_builders fun j hj => ?_
    simp only [List.mem_cons, List.not_mem_nil, or_false] at hj
    rcases hj with rfl | rfl
    · exact ⟨_, hx⟩
    · exact ⟨_, hy⟩
  refine ⟨k, v, made, hh, fun rs hr => ?_, fun rs hr => ?_⟩
  · obtain ⟨answers_eq, a', b', ha', hb', left⟩ :=
      (resumes.imp (F := v.store.SameArgument) fun _ _ e => e ▸ .sameWords (.same _)).requestsInTurn
        apart hh hk hr
    exact ⟨answers_eq, a', b', ha', hb', left.built (both ha' hb'), left.args, left.index⟩
  · obtain ⟨answers_eq, sameButBuilders, a', b', ha', hb', left⟩ :=
      resumes.requests (both hh hk) hh hk hr
    exact ⟨answers_eq, sameButBuilders, a', b', ha', hb', left.built sameButBuilders, left.args,
      left.index⟩

open Builder in
theorem resumed_alike_compare :
    ∃ t u a k v,
      (Plan.of (.text none "from Foo") (.int none 1) [] .null (.text none "")).make.result {} =
        (.ok (.shared ⟨1⟩), t) ∧
      Course ⟨1⟩ t [⟨t.store, .compare .equal (.text none "a") (.int none 1)⟩] u ∧
      u.store.builder? ⟨1⟩ = some a ∧ a.resumed.result u = (.ok (.shared k), v) ∧
      let rs : List Request := [.compare .equal (.text none "b") (.int none 2),
        .within (.text none "c") (.tuple none [.int none 3, .int none 4]),
        .like (.text none "d") (.text none "x") (.mode .starting), .orderBy (.text none "b")]
      (∀ p ∈ answersInTurn ⟨1⟩ k rs v, p.1 = p.2) ∧
      TellAlike (requestsInTurn ⟨1⟩ k rs v).store.SameArgument ⟨1⟩ (requestsInTurn ⟨1⟩ k rs v) k
        (requestsInTurn ⟨1⟩ k rs v) ∧
      answers ⟨1⟩ rs v = answers k rs v ∧
      TellAlike Eq ⟨1⟩ (requests ⟨1⟩ rs v) k (requests k rs v) := by
  have hm : (Plan.of (.text none "from Foo") (.int none 1) [] .null (.text none "")).make.result {} =
      (.ok (.shared ⟨1⟩), _) := rfl
  have hc := fun t => Course.request (h := ⟨1⟩) (s := t)
    (r := .compare .equal (.text none "a") (.int none 1)) (Course.done _)
  obtain ⟨k, v, made, hk, inTurn, parted⟩ := resumed_alike hm rfl (hc _) rfl (by decide +kernel) rfl
    (by decide +kernel)
  let rs : List Request := [.compare .equal (.text none "b") (.int none 2),
    .within (.text none "c") (.tuple none [.int none 3, .int none 4]),
    .like (.text none "d") (.text none "x") (.mode .starting), .orderBy (.text none "b")]
  have plain : ∀ r ∈ rs, ∀ w ∈ r.operands, w.handles = [] ∧ w.rows = [] := by decide
  have lasting : ∀ r ∈ rs, ∀ s, (⟨s, r⟩ : RequestAt).Lasting := by
    intro r hr s fields value mode e
    have e : r = .likeAny fields value mode := e
    simp [rs, e] at hr
  obtain ⟨answers_eq, alike⟩ := inTurn rs fun x hx => by
    have mem := RequestAt.request_mem_of_inTurn hx
    exact .of_nil (lasting _ mem x.store) (fun w hw => (plain _ mem w hw).1)
      fun w hw => (plain _ mem w hw).2
  obtain ⟨parted_eq, -, apart⟩ := parted rs fun x hx w hw =>
    Store.not_leadsTo_of_nil (plain _ (RequestAt.request_mem_of_ofRequests hx) w hw).1
  exact ⟨_, _, _, k, v, hm, hc _, rfl, made, answers_eq, alike, parted_eq, apart⟩

open Builder in
/-- Behind the last number that can be written there is no builder to go on in. A builder that is told
of itself is shown without end, and what gives each element once gives the other one none. -/
theorem exists_not_resumed :
    (∃ t h u a,
      (Plan.make { base := .text none "from Foo",
                   start := .int none ↑(Whole.bound - 1) }).result {} = (.ok (.shared h), t) ∧
      Course h t [⟨t.store, .compare .equal (.text none "a") (.int none 1)⟩] u ∧
      u.store.builder? h = some a ∧ a.conditions ≠ [] ∧ a.order = none ∧
      ∀ k v, a.resumed.result u ≠ (.ok (.shared k), v)) ∧
    ∃ s t u a k v,
      s.store.cells = [.stream false [.text none "b"]] ∧
      (Plan.of (.text none "from Foo") (.int none 1) [] .null (.text none "")).make.result s =
        (.ok (.shared ⟨2⟩), t) ∧
      Course ⟨2⟩ t [⟨t.store, .compare .equal (.text none "a") (.int none 1)⟩] u ∧
      u.store.builder? ⟨2⟩ = some a ∧ a.resumed.result u = (.ok (.shared k), v) ∧
      (∃ p ∈ answersInTurn ⟨2⟩ k [.compare .equal (.text none "x") (.shared k)] v, p.1 ≠ p.2) ∧
      ∃ p ∈ answersInTurn ⟨2⟩ k [.likeAny (.shared ⟨0⟩) (.text none "v") (.mode .starting)] v,
        p.1 ≠ p.2 := by
  constructor
  · have hl := Whole.two_le_bound
    obtain ⟨t, h, b, hm, hb, hi, -⟩ :=
      Plan.exists_make (n := Whole.bound - 1) (by omega) "from Foo" {}
    let x : RequestAt := ⟨t.store, .compare .equal (.text none "a") (.int none 1)⟩
    have hc : Course h t [x] _ := .request (.done _)
    have hx : x.demand? = some (.compare "a" .equal, [.itself (.int none 1)]) := rfl
    have he := (@RequestAt.emission?_of_le x _ _ b.index hx (by rw [hi, Clause.arity]; omega)).1
    have hu := hc.builder? hb
    have index_eq : (b.afterRequests [x]).index = Whole.bound := by
      rw [afterRequests, afterRequests, index_afterRequest, RequestAt.next_of_some he, hi,
        Clause.arity]
      omega
    refine ⟨t, h, _, _, hm, hc, hu, ?_, ?_, ?_⟩
    · simp [afterRequests, conditions_afterRequest, he]
    · rw [afterRequests, afterRequests, order_afterRequest, (Plan.Fresh.of_make hm hb).order]
      rfl
    · intro k v made
      exact absurd index_eq (Nat.ne_of_lt (index_lt_of_resumed made))
  · let s : Session := { store := { cells := [.stream false [.text none "b"]] } }
    let p : Plan := .of (.text none "from Foo") (.int none 1) [] .null (.text none "")
    let t : Session := (p.make.result s).2
    let u : Session := ((request ⟨2⟩ (.compare .equal (.text none "a") (.int none 1))).result t).2
    let told : Request := .compare .equal (.text none "x") (.shared ⟨5⟩)
    let once : Request := .likeAny (.shared ⟨0⟩) (.text none "v") (.mode .starting)
    have hm : p.make.result s = (.ok (.shared ⟨2⟩), t) := rfl
    obtain ⟨a, ha, hb, ho, hn, hw, hi⟩ : ∃ a, u.store.builder? ⟨2⟩ = some a ∧
        a.base = .text none "from Foo" ∧ a.order = none ∧ a.conditions ≠ [] ∧
        Text.blank (Text.andWord.intercalate a.conditions) = false ∧ a.index < Whole.bound :=
      ⟨_, rfl, rfl, rfl, by decide +kernel, by decide +kernel, by decide +kernel⟩
    obtain ⟨k, v, -, made, -⟩ := result_resumed u hb ho hn hw hi
    have second : (u.store.builder? ⟨2⟩).map (fun a =>
        (a.resumed.result u).1.toOption.map Value.handles) = some (some [⟨5⟩]) := by decide +kernel
    have differ : ∀ r ∈ [told, once], (u.store.builder? ⟨2⟩).map (fun a =>
        (answersInTurn ⟨2⟩ ⟨5⟩ [r] (a.resumed.result u).2).map fun p => (p.1.isOk, p.2.isOk)) =
          some [(true, false)] := by decide +kernel
    rw [ha, Option.map_some, Option.some.injEq, made] at second
    cases second
    refine ⟨s, t, u, a, ⟨5⟩, v, rfl, hm, .request (.done _), ha, made, ?_⟩
    have apart : ∀ r ∈ [told, once], ∃ p ∈ answersInTurn ⟨2⟩ ⟨5⟩ [r] v, p.1 ≠ p.2 := by
      intro r hr
      have differ := differ r hr
      rw [ha, Option.map_some, Option.some.injEq, made] at differ
      refine ⟨_, List.mem_cons_self .., fun e => ?_⟩
      have e := congrArg Except.isOk e
      obtain ⟨first, second⟩ := Prod.mk.inj (List.cons.inj differ).1
      rw [first, second] at e
      cases e
    exact ⟨apart told (by simp), apart once (by simp)⟩

end Criteria
