import Criteria.Proofs.ClosedForm
import Criteria.Proofs.SameButBuilders

/-! Queries that start with different numbers. Two builders that are asked for the same and start `d`
apart stay `d` apart, whatever is skipped or refused, and bind the same arguments. Their texts
differ in the numbers of the placeholders alone, each of which is larger by `d`.
-/

set_option autoImplicit false

namespace Criteria

namespace Text

/-- Adds to the number of each placeholder. Digits that belong to one are passed over. -/
def renumberedOf (d : Nat) : Bool → List Char → List Char
  | _, [] => []
  | passing, c :: cs =>
    let digits := cs.takeWhile Char.isDigit
    if passing && c.isDigit then renumberedOf d true cs
    else if c = '?' ∧ digits ≠ [] then
      c :: (Nat.toDigits 10 (Nat.ofDigitChars 10 digits 0 + d) ++ renumberedOf d true cs)
    else c :: renumberedOf d false cs

def renumbered (d : Nat) (t : String) : String := String.ofList (renumberedOf d false t.toList)

theorem renumberedOf_passing (d : Nat) {us : List Char} (h : us.takeWhile Char.isDigit = []) :
    renumberedOf d true us = renumberedOf d false us := by
  cases us with
  | nil => rfl
  | cons c cs =>
    cases hc : c.isDigit with
    | true => simp [hc] at h
    | false => simp [renumberedOf, hc]

theorem renumberedOf_digits (d : Nat) {ds us : List Char} (hd : ∀ c ∈ ds, c.isDigit = true)
    (h : us.takeWhile Char.isDigit = []) :
    renumberedOf d true (ds ++ us) = renumberedOf d false us := by
  induction ds with
  | nil => exact renumberedOf_passing d h
  | cons c cs ih =>
    have hc := hd c (List.mem_cons_self ..)
    simp [renumberedOf, hc, ih fun x hx => hd x (List.mem_cons_of_mem _ hx)]

theorem renumberedOf_append (d : Nat) (passing : Bool) (xs ys : List Char)
    (h : ys.takeWhile Char.isDigit = []) :
    renumberedOf d passing (xs ++ ys) = renumberedOf d passing xs ++ renumberedOf d false ys := by
  induction xs generalizing passing with
  | nil =>
    cases passing with
    | false => rfl
    | true => exact renumberedOf_passing d h
  | cons c cs ih =>
    have digits_eq := takeWhile_append_of_end cs h
    simp only [List.cons_append, renumberedOf, digits_eq, ih]
    split
    · rfl
    · split
      · simp
      · rfl

theorem renumberedOf_of_none (d : Nat) {cs : List Char} (h : placeholdersOf cs = []) :
    renumberedOf d false cs = cs := by
  induction cs with
  | nil => rfl
  | cons c cs ih =>
    rw [placeholdersOf] at h
    by_cases hc : c = '?' ∧ cs.takeWhile Char.isDigit ≠ []
    · rw [if_pos hc] at h
      cases h
    · rw [if_neg hc] at h
      simp only [renumberedOf, Bool.false_and, Bool.false_eq_true, if_false, if_neg hc, ih h]

theorem renumberedOf_placeholder (d n : Nat) {us : List Char}
    (h : us.takeWhile Char.isDigit = []) :
    renumberedOf d false ((placeholder n).toList ++ us) =
      (placeholder (n + d)).toList ++ renumberedOf d false us := by
  have hd := takeWhile_digits n h
  have hr := renumberedOf_digits d (@isDigit_of_mem_digits n) h
  rw [toList_placeholder, toList_placeholder]
  simp only [List.cons_append, renumberedOf, Bool.false_and, Bool.false_eq_true, if_false, hd, hr,
    Nat.ofDigitChars_ten_toDigits]
  rw [if_pos ⟨trivial, Nat.toDigits_ne_nil⟩]

theorem renumbered_of_none (d : Nat) {t : String} (h : placeholders t = []) :
    renumbered d t = t := by
  rw [renumbered, renumberedOf_of_none d h, String.ofList_toList]

theorem renumbered_placeholder (d n : Nat) : renumbered d (placeholder n) = placeholder (n + d) := by
  have h := @renumberedOf_placeholder d n [] rfl
  simp only [List.append_nil] at h
  rw [renumbered, h, renumberedOf, List.append_nil, String.ofList_toList]

theorem renumbered_append (d : Nat) (t : String) {u : String}
    (h : u.toList.takeWhile Char.isDigit = []) :
    renumbered d (t ++ u) = renumbered d t ++ renumbered d u := by
  simp only [renumbered, String.toList_append, renumberedOf_append d false _ _ h,
    String.ofList_append]

theorem renumbered_separated (d : Nat) (t u : String) {w : String} (h : Separates w) :
    renumbered d (t ++ (w ++ u)) = renumbered d t ++ (w ++ renumbered d u) := by
  have hw := h.takeWhile_append u
  have hs : ∀ (cs us : List Char), '?' ∉ cs →
      renumberedOf d false (cs ++ us) = cs ++ renumberedOf d false us := by
    intro cs us hc
    induction cs with
    | nil => rfl
    | cons c cs ih =>
      simp only [List.mem_cons, not_or] at hc
      have hq : ¬ c = '?' := fun e => hc.1 e.symm
      simp [renumberedOf, hq, ih hc.2]
  rw [renumbered_append d t hw]
  simp only [renumbered, String.toList_append, hs _ _ h.1, String.ofList_append,
    String.ofList_toList]

theorem renumbered_intercalate (d : Nat) {w : String} (h : Separates w) (ts : List String) :
    renumbered d (w.intercalate ts) = w.intercalate (ts.map (renumbered d)) := by
  induction ts with
  | nil => rfl
  | cons t ts ih =>
    cases ts with
    | nil => simp
    | cons u us =>
      rw [String.intercalate_cons_cons, String.append_assoc, renumbered_separated d _ _ h, ih]
      simp only [List.map_cons, String.intercalate_cons_cons, String.append_assoc]

theorem renumbered_enclosed (d : Nat) (t : String) :
    renumbered d ("(" ++ t ++ ")") = "(" ++ renumbered d t ++ ")" := by
  have ho : Separates "(" := by decide
  have hc : Separates ")" := by decide
  have h := renumbered_separated d "" (t ++ ")") ho
  have he := renumbered_separated d t "" hc
  simp only [String.empty_append, String.append_empty] at h he
  have hn : ∀ u : String, renumbered d "" ++ u = u := fun u => String.empty_append
  have hr : renumbered d "" = "" := rfl
  rw [String.append_assoc, h, he, hn, hr, String.append_empty, String.append_assoc]

theorem renumbered_assembled (d : Nat) {base : String} {conditions : List String}
    {order : Option String} (hb : placeholders base = [])
    (ho : ∀ o, order = some o → placeholders o = []) :
    renumbered d (assembled base conditions order) =
      assembled base (conditions.map (renumbered d)) order := by
  have where_eq : renumbered d (base ++ wherePart conditions) =
      base ++ wherePart (conditions.map (renumbered d)) := by
    cases conditions with
    | nil => simpa [wherePart] using renumbered_of_none d hb
    | cons c cs =>
      have hw : Separates whereWord := by decide
      have ha : Separates andWord := by decide
      have h := renumbered_separated d base (andWord.intercalate (c :: cs)) hw
      rw [renumbered_of_none d hb, renumbered_intercalate d ha] at h
      exact h
  cases order with
  | none => simpa [assembled, orderPart] using where_eq
  | some o =>
    have hs : Separates orderWord := by decide
    simp only [assembled, orderPart]
    rw [renumbered_separated d _ o hs, where_eq, renumbered_of_none d (ho o rfl)]

end Text

namespace Clause

open Text

theorem renumbered_likes (d n : Nat) {ps : List String} (h : ∀ p ∈ ps, placeholders p = []) :
    (likes n ps).map (renumbered d) = likes (n + d) ps := by
  induction ps generalizing n with
  | nil => rfl
  | cons p ps ih =>
    have hs : Separates " like " := by decide
    have hp := renumbered_of_none d (h p (List.mem_cons_self ..))
    have hps := ih (n + 1) fun q hq => h q (List.mem_cons_of_mem _ hq)
    rw [likes, List.map_cons, hps, String.append_assoc, renumbered_separated d _ _ hs, hp,
      renumbered_placeholder, likes, String.append_assoc, Nat.add_right_comm]

theorem renumbered_render (d n : Nat) {c : Clause} (h : ∀ p ∈ c.paths, placeholders p = []) :
    renumbered d (c.render n) = c.render (n + d) := by
  have word : ∀ (p w : String) (k : Nat), placeholders p = [] → Separates w →
      renumbered d (p ++ (w ++ placeholder k)) = p ++ (w ++ placeholder (k + d)) := by
    intro p w k hp hw
    rw [renumbered_separated d _ _ hw, renumbered_of_none d hp, renumbered_placeholder]
  cases c with
  | compare p op =>
    have hp := h p (List.mem_singleton.2 rfl)
    have hs : Separates (" " ++ op.symbol ++ " ") := by cases op <;> decide
    have e : ∀ k, (compare p op).render k = p ++ ((" " ++ op.symbol ++ " ") ++ placeholder k) := by
      intro k
      simp [render, String.append_assoc]
    rw [e, e, word p _ n hp hs]
  | like p =>
    have hp := h p (List.mem_singleton.2 rfl)
    rw [render, render, String.append_assoc, String.append_assoc, word p _ n hp (by decide)]
  | likeAny ps =>
    have hs : Separates orWord := by decide
    have likes_eq : (likes n ps).map (renumbered d) = likes (n + d) ps := renumbered_likes d n h
    rw [render, render, renumbered_enclosed, renumbered_intercalate d hs, likes_eq]
  | within p =>
    have hp := h p (List.mem_singleton.2 rfl)
    rw [render, render, String.append_assoc, String.append_assoc, word p _ n hp (by decide)]
  | between p =>
    have hp := h p (List.mem_singleton.2 rfl)
    have ha : Separates " and " := by decide
    have hb : Separates " between " := by decide
    have e : ∀ k, (between p).render k =
        p ++ (" between " ++ (placeholder k ++ (" and " ++ placeholder (k + 1)))) := by
      intro k
      simp [render, String.append_assoc]
    rw [e, e, renumbered_separated d _ _ hb, renumbered_separated d _ _ ha,
      renumbered_of_none d hp, renumbered_placeholder, renumbered_placeholder, Nat.add_right_comm]

example : Text.renumbered 1 ((between "a").render 9) = "a between ?10 and ?11" := by decide

end Clause

namespace Demanded

open Text

theorem renumbered_rendered (d n : Nat) {ds : List Demanded}
    (h : ∀ x ∈ ds, ∀ p ∈ x.1.paths, placeholders p = []) :
    (rendered n ds).map (renumbered d) = rendered (n + d) ds := by
  induction ds generalizing n with
  | nil => rfl
  | cons x xs ih =>
    have hx := Clause.renumbered_render d n (h x (List.mem_cons_self ..))
    have hxs := ih (n + x.1.arity) fun y hy => h y (List.mem_cons_of_mem _ hy)
    rw [rendered_cons, List.map_cons, hx, hxs, rendered_cons, Nat.add_right_comm]

end Demanded

theorem Course.seen_demanded {p : Plan} {s t u : Session} {h : Handle} {b : Builder} {m : Mark}
    {base : String} {ts : List RequestAt} {P : String → Prop}
    (hm : p.make.result s = (.ok (.shared h), t)) (hb : t.store.builder? h = some b)
    (hp : p.base = .text m base) (hw : ∀ x ∈ ts, x.Worded P) (hc : Course h t ts u)
    (hl : RequestAt.allLost b.index ts = 0)
    (hn : b.index + Demanded.numbers (RequestAt.demanded ts) ≤ Whole.bound) :
    ∃ c, u.store.builder? h = some c ∧
      Seen c u
        (Text.assembled base (p.conditions ++ Demanded.rendered b.index (RequestAt.demanded ts))
          (RequestAt.lastOrder ts))
        (b.reserved ++ (RequestAt.demanded ts).flatMap Prod.snd)
        (b.index + Demanded.numbers (RequestAt.demanded ts))
        (p.conditions.length + (RequestAt.demanded ts).length) := by
  obtain ⟨c, hb', seen⟩ := hc.seen hm hb hp hw
  have es := RequestAt.emissions_eq hl hn
  have taken_eq : Emission.taken (RequestAt.emissions b.index ts) =
      Demanded.numbers (RequestAt.demanded ts) := by
    rw [es, Emission.taken, Demanded.clauses_emitted, Demanded.numbers]
  have length_eq : (RequestAt.emissions b.index ts).length = (RequestAt.demanded ts).length := by
    rw [es, ← List.length_map (f := Emission.clause), Demanded.clauses_emitted, List.length_map]
  rw [taken_eq, length_eq, hl, es, Demanded.fragments_emitted, Demanded.values_emitted] at seen
  exact ⟨c, hb', seen⟩

namespace RequestAt

variable {P : String → Prop}

theorem Spelled.reference? {t : RequestAt} (h : t.Spelled P) {v : Value}
    (hv : v ∈ t.request.references t.store) {r : Option String}
    (hr : t.store.reference? v = some r) : ∃ w, r = some w ∧ P w := by
  unfold Store.reference? at hr
  cases hp : t.store.fieldPath v with
  | error f => simp [hp] at hr
  | ok p =>
    obtain ⟨m, w, rfl, hw⟩ := h v hv p hp
    rw [hp] at hr
    exact ⟨w, (Option.some.inj hr).symm, hw⟩

theorem mapM_reference?_of_spelled {s : Store} {vs : List Value} {ps : List (Option String)}
    (h : ∀ v ∈ vs, ∀ r, s.reference? v = some r → ∃ w, r = some w ∧ P w)
    (hp : vs.mapM s.reference? = some ps) : ∃ ws : List String, ps = ws.map some ∧ ∀ w ∈ ws, P w := by
  induction vs generalizing ps with
  | nil =>
    cases hp
    exact ⟨[], rfl, fun w hw => absurd hw List.not_mem_nil⟩
  | cons v vs ih =>
    simp only [List.mapM_cons, Option.bind_eq_bind, Option.bind_eq_some_iff, Option.pure_def,
      Option.some.injEq] at hp
    obtain ⟨r, hr, rs, hrs, rfl⟩ := hp
    obtain ⟨w, rfl, hw⟩ := h v (List.mem_cons_self ..) r hr
    obtain ⟨ws, rfl, hws⟩ := ih (fun x hx => h x (List.mem_cons_of_mem _ hx)) hrs
    exact ⟨w :: ws, rfl, List.forall_mem_cons.2 ⟨hw, hws⟩⟩

theorem references?_of_spelled {s : Store} {fields value mode : Value} {ps : List (Option String)}
    (h : (⟨s, .likeAny fields value mode⟩ : RequestAt).Spelled P)
    (hp : s.references? fields = some ps) : ∃ ws : List String, ps = ws.map some ∧ ∀ w ∈ ws, P w := by
  have hr := fun v hv r => @Spelled.reference? _ _ h v hv r
  unfold Store.references? at hp
  simp only [Request.references] at hr
  split at hp
  · cases hp
  · next hi =>
    rw [if_neg hi] at hr
    cases hc : s.candidates fields with
    | error f => simp [hc] at hp
    | ok items =>
      simp only [hc] at hp hr
      exact mapM_reference?_of_spelled hr hp

theorem Spelled.broken? {t : RequestAt} (h : t.Spelled P) : t.request.broken? t.store = none := by
  obtain ⟨s, r⟩ := t
  cases r with
  | likeAny fields value mode =>
    simp only [Request.broken?]
    cases hp : s.references? fields with
    | none => rfl
    | some ps =>
      obtain ⟨ws, rfl, -⟩ := references?_of_spelled h hp
      simp
  | between field lower upper =>
    have hf : s.reference? field ≠ some none := by
      intro hn
      obtain ⟨w, hw, -⟩ := h.reference? (List.mem_singleton.2 rfl) hn
      cases hw
    simp only [Request.broken?, if_neg hf]
  | _ => rfl

theorem Spelled.path? {s : Store} {r : Request} {v : Value} {w : String}
    (h : (⟨s, r⟩ : RequestAt).Spelled P) (hv : v ∈ r.references s) (hw : s.path? v = some w) :
    P w := by
  obtain ⟨x, hx, hp⟩ := h.reference? hv (Option.join_eq_some_iff.1 hw)
  cases hx
  exact hp

theorem Spelled.worded {t : RequestAt} (h : t.Spelled P) : t.Worded P := by
  obtain ⟨s, r⟩ := t
  refine ⟨?_, ?_⟩
  · intro c hc p hp
    cases r with
    | orderBy c => cases hc
    | likeAny fields value mode =>
      obtain ⟨qs, hqs, rfl⟩ := Option.map_eq_some_iff.1 hc
      unfold Store.paths? at hqs
      cases hr : s.references? fields with
      | none => simp [hr] at hqs
      | some rs =>
        obtain ⟨ws, rfl, hws⟩ := references?_of_spelled h hr
        simp only [hr, Option.bind_some, Request.mapM_id_map_some,
          Option.ite_none_left_eq_some, Option.some.injEq] at hqs
        obtain ⟨-, rfl⟩ := hqs
        exact hws p hp
    | _ =>
      obtain ⟨q, hq, rfl⟩ := Option.map_eq_some_iff.1 hc
      cases List.mem_singleton.1 hp
      exact h.path? (List.mem_singleton.2 rfl) hq
  · intro c p hr hp
    cases hr
    exact h c (List.mem_singleton.2 rfl) p hp

theorem paths_of_demanded {ts : List RequestAt} (h : ∀ t ∈ ts, t.Worded P) :
    ∀ d ∈ demanded ts, ∀ p ∈ d.1.paths, P p := by
  intro d hd
  obtain ⟨t, ht, hd⟩ := List.mem_filterMap.1 hd
  obtain ⟨⟨c, bs⟩, hc, rfl⟩ := Option.map_eq_some_iff.1 hd
  exact (h t ht).paths c (Request.demand?_eq_some.1 hc).1

theorem allLost_eq_zero {n : Nat} {ts : List RequestAt}
    (hb : ∀ t ∈ ts, t.request.broken? t.store = none)
    (hn : n + Demanded.numbers (demanded ts) ≤ Whole.bound) : allLost n ts = 0 := by
  induction ts generalizing n with
  | nil => rfl
  | cons t ts ih =>
    have hbs := fun x hx => hb x (List.mem_cons_of_mem _ hx)
    rw [demanded_cons] at hn
    rw [allLost]
    cases hd : t.demand? with
    | none =>
      rw [hd] at hn
      obtain ⟨he, hl | ⟨k, hk, -⟩⟩ := emission?_of_none hd n
      · have hx : t.next n = n := by rw [next_of_none he, hl, Nat.add_zero]
        rw [hl, hx, ih hbs hn]
      · rw [hb t (List.mem_cons_self ..)] at hk
        cases hk
    | some d =>
      obtain ⟨c, bs⟩ := d
      rw [hd] at hn
      simp only [Option.map_some, Option.toList_some, List.singleton_append,
        Demanded.numbers_cons] at hn
      obtain ⟨he, hl⟩ := emission?_of_le hd (by omega : n + c.arity ≤ Whole.bound)
      have hx : t.next n = n + c.arity := next_of_some he
      rw [hl, hx, ih hbs (by omega)]

/-- One request in cells that differ in the builders `hs` alone. -/
structure Abreast (hs : List Handle) (x y : RequestAt) : Prop where
  request : x.request = y.request
  sameButBuilders : Store.SameButBuilders hs x.store y.store

namespace Abreast

variable {hs : List Handle} {x y : RequestAt}

theorem demand?_eq (a : Abreast hs x y) (h : x.Spelled P) : x.demand? = y.demand? := by
  obtain ⟨s, r⟩ := x
  obtain ⟨t, _⟩ := y
  cases a.request
  exact a.sameButBuilders.demand?_eq h

theorem orderSet?_eq (a : Abreast hs x y) (h : x.Spelled P) : x.orderSet? = y.orderSet? := by
  obtain ⟨s, r⟩ := x
  obtain ⟨t, _⟩ := y
  cases a.request
  exact (a.sameButBuilders.sameShape h).orderSet?

theorem spelled (a : Abreast hs x y) (h : x.Spelled P) : y.Spelled P := by
  obtain ⟨s, r⟩ := x
  obtain ⟨t, _⟩ := y
  cases a.request
  have references_eq : r.references t = r.references s := by
    cases r with
    | likeAny fields value mode =>
      simp only [Request.references, a.sameButBuilders.isReference_eq,
        a.sameButBuilders.candidates_eq]
    | _ => rfl
  intro v hv p hp
  exact h v (references_eq ▸ hv) p ((a.sameButBuilders.fieldPath_eq v).trans hp)

theorem demanded_eq {xs ys : List RequestAt} (a : List.Forall₂ (Abreast hs) xs ys)
    (h : ∀ x ∈ xs, x.Spelled P) : demanded xs = demanded ys := by
  induction a with
  | nil => rfl
  | cons hxy _ ih =>
    have hx := hxy.demand?_eq (h _ (List.mem_cons_self ..))
    rw [demanded_cons, demanded_cons, hx, hxy.sameButBuilders.size,
      ih fun z hz => h z (List.mem_cons_of_mem _ hz)]

theorem lastOrder_eq {xs ys : List RequestAt} (a : List.Forall₂ (Abreast hs) xs ys)
    (h : ∀ x ∈ xs, x.Spelled P) : lastOrder xs = lastOrder ys := by
  have orders_eq : xs.filterMap orderSet? = ys.filterMap orderSet? := by
    induction a with
    | nil => rfl
    | cons hxy _ ih =>
      have hx := hxy.orderSet?_eq (h _ (List.mem_cons_self ..))
      have hxs := ih fun z hz => h z (List.mem_cons_of_mem _ hz)
      rw [List.filterMap_cons, List.filterMap_cons, hx, hxs]
  rw [lastOrder, lastOrder, orders_eq]

theorem spelled_all {xs ys : List RequestAt} (a : List.Forall₂ (Abreast hs) xs ys)
    (h : ∀ x ∈ xs, x.Spelled P) : ∀ y ∈ ys, y.Spelled P := by
  induction a with
  | nil => simp
  | cons hxy _ ih =>
    have hx := hxy.spelled (h _ (List.mem_cons_self ..))
    exact List.forall_mem_cons.2 ⟨hx, ih fun z hz => h z (List.mem_cons_of_mem _ hz)⟩

end Abreast

theorem Spelled.rest {t : RequestAt} (h : t.Spelled P) (hd : t.demand? = none) (n : Nat) :
    t.bindings n = [] ∧ t.next n = n := by
  obtain ⟨he, hl | ⟨k, hk, -⟩⟩ := emission?_of_none hd n
  · exact ⟨bindings_of_none he, by rw [next_of_none he, hl, Nat.add_zero]⟩
  · rw [h.broken?] at hk
    cases hk

theorem advance_of_demand {t : RequestAt} {c : Clause} {bs : List Binding} {n : Nat}
    (h : t.demand? = some (c, bs)) (hn : n + c.arity ≤ Whole.bound) :
    t.bindings n = bs ∧ t.next n = n + c.arity := by
  have hr := ruling_of_demand h n
  rw [Ruling.startingAt_add_of_le bs hn] at hr
  exact ⟨by rw [bindings, hr], next_of_some (emission?_of_le h hn).1⟩

/-- Requests to a builder that starts `d` later stay abreast, as long as its numbers can be
written. In the end the cells differ in the builder alone. -/
theorem abreast_ofRequests {h : Handle} {d : Nat} {rs : List Request} {s t : Session}
    {b c : Builder} (w : Store.SameButBuilders [h] s.store t.store)
    (hb : s.store.builder? h = some b)
    (hc : t.store.builder? h = some c) (hi : c.index = b.index + d)
    (hw : ∀ x ∈ ofRequests h rs s, x.Spelled P)
    (hn : c.index + Demanded.numbers (demanded (ofRequests h rs s)) ≤ Whole.bound) :
    List.Forall₂ (Abreast [h]) (ofRequests h rs s) (ofRequests h rs t) ∧
      Store.SameButBuilders [h] (Builder.requests h rs s).store
        (Builder.requests h rs t).store := by
  induction rs generalizing s t b c with
  | nil => exact ⟨.nil, w⟩
  | cons r rs ih =>
    let x : RequestAt := ⟨s.store, r⟩
    let y : RequestAt := ⟨t.store, r⟩
    have a : Abreast [h] x y := ⟨rfl, w⟩
    have hx : x.Spelled P := hw x (List.mem_cons_self ..)
    have hd := a.demand?_eq hx
    have step : x.bindings b.index = y.bindings c.index ∧ y.next c.index = x.next b.index + d ∧
        y.next c.index + Demanded.numbers
          (demanded (ofRequests h rs ((Builder.request h r).result s).2)) ≤ Whole.bound := by
      rw [ofRequests, demanded_cons] at hn
      change _ + Demanded.numbers ((x.demand?.map _).toList ++ _) ≤ _ at hn
      cases e : x.demand? with
      | none =>
        rw [e] at hn
        obtain ⟨hxb, hxn⟩ := hx.rest e b.index
        obtain ⟨hyb, hyn⟩ := (a.spelled hx).rest (hd ▸ e) c.index
        rw [hxb, hyb, hxn, hyn]
        exact ⟨rfl, hi, hn⟩
      | some p =>
        obtain ⟨k, bs⟩ := p
        rw [e] at hn
        simp only [Option.map_some, Option.toList_some, List.singleton_append,
          Demanded.numbers_cons] at hn
        have hyd : y.demand? = some (k, bs) := hd ▸ e
        obtain ⟨hxb, hxn⟩ := advance_of_demand e (by omega : b.index + k.arity ≤ Whole.bound)
        obtain ⟨hyb, hyn⟩ := advance_of_demand hyd (by omega : c.index + k.arity ≤ Whole.bound)
        rw [hxb, hyb, hxn, hyn]
        exact ⟨rfl, by omega, by omega⟩
    obtain ⟨bindings_eq, index_eq, fits⟩ := step
    have hh : h ∈ [h] := List.mem_singleton.2 rfl
    have hb' : ((Builder.request h r).result s).2.store.builder? h = some (b.afterRequest x) :=
      Builder.builder?_request h b r s hb
    have hc' : ((Builder.request h r).result t).2.store.builder? h = some (c.afterRequest y) :=
      Builder.builder?_request h c r t hc
    rw [← Builder.index_afterRequest, ← Builder.index_afterRequest] at index_eq
    rw [← Builder.index_afterRequest] at fits
    obtain ⟨rest, left⟩ := ih (w.request hh hh hb hc bindings_eq) hb' hc' index_eq
      (fun z hz => hw z (List.mem_cons_of_mem _ hz)) fits
    exact ⟨.cons a rest, left⟩

end RequestAt

namespace Plan

open Operation

def startingAt (p : Plan) (m : Mark) (n : Nat) : Plan := { p with start := .int m n }

theorem make_startingAt {p : Plan} {s t : Session} {h : Handle} {m : Mark} {n : Nat}
    (hm : (p.startingAt m n).make.result s = (.ok (.shared h), t)) (l : Mark) {k : Nat}
    (hk : k < Whole.bound) :
    ∃ u b c, (p.startingAt l k).make.result s = (.ok (.shared h), u) ∧
      t.store.builder? h = some b ∧ u.store.builder? h = some c ∧ b.index = n ∧ c.index = k ∧
      b.reserved = c.reserved ∧ Store.SameButBuilders [h] t.store u.store := by
  unfold make at hm
  obtain ⟨_, s₁, hn, hm⟩ := of_bind hm
  obtain ⟨fields, s₂, hf, hm⟩ := of_bind hm
  obtain ⟨_, s₃, hc, hm⟩ := of_bind hm
  obtain ⟨reserved, s₄, hr, hm⟩ := of_bind hm
  obtain ⟨base, s₅, hb, hm⟩ := of_bind hm
  obtain ⟨start, s₆, hs, hm⟩ := of_bind hm
  obtain ⟨hn, rfl⟩ := of_asking hn
  obtain ⟨-, rfl⟩ := of_asking hs
  cases hn
  simp only [result_bind, result_note, result_share] at hm
  cases hm
  -- Nothing but the first number is read from the start, so the other making goes the same way.
  have hi : startIndex s.store (p.startingAt l k).start = .ok k := rfl
  have hf : (p.startingAt l k).offeredFields.result s = (.ok fields, s₂) := hf
  have hc : ((p.startingAt l k).conditions.forM noteCondition).result s₂ = (.ok _, s₃) := hc
  have hr : (p.startingAt l k).reservedArgs.result s₃ = (.ok reserved, s₄) := hr
  have hb : (plain (p.startingAt l k).base).result s₄ = (.ok base, s₅) := hb
  have hw : Whole.written (k : Int) = .ok (toString (k : Int)) :=
    Whole.written_of_lt _ (by simpa using hk)
  have made : ∃ u c, (p.startingAt l k).make.result s = (.ok (.shared ⟨s₅.store.size⟩), u) ∧
      u.store = (s₅.store.alloc (.builder c)).2 ∧ c.index = k ∧ c.reserved = reserved := by
    unfold make
    simp only [result_bind, result_asking, result_note, result_share, hi, hf, hc, hr, hb, hw]
    exact ⟨_, _, rfl, rfl, rfl, rfl⟩
  obtain ⟨u, c, hu, store_eq, index_eq, reserved_eq⟩ := made
  have hb' := fun b => Builder.builder?_eq_some.2 (Store.cell?_alloc s₅.store (.builder b))
  refine ⟨u, _, c, hu, hb' _, ?_, rfl, index_eq, reserved_eq.symm, ?_⟩
  · rw [store_eq]
    exact hb' c
  · rw [store_eq]
    exact .of_alloc s₅.store _ c

end Plan

open Text Demanded in
/-- A builder that starts `d` later and is asked for the same has the same arguments and the same
length. Its next number is `d` more, and so is the number of each placeholder of its query. All cells
but its own are the same, so the arguments hold the same. -/
theorem renumbered_seen {p : Plan} {s t : Session} {h : Handle} {m l k : Mark} {base : String}
    {n d : Nat} {rs : List Request}
    (hm : (p.startingAt m n).make.result s = (.ok (.shared h), t)) (hp : p.base = .text k base)
    (hbase : placeholders base = []) (hcond : ∀ c ∈ p.conditions, placeholders c = [])
    (hw : ∀ x ∈ RequestAt.ofRequests h rs t, x.Spelled fun w => placeholders w = [])
    (hn : n + d < Whole.bound)
    (hle : n + d + numbers (RequestAt.demanded (RequestAt.ofRequests h rs t)) ≤ Whole.bound) :
    ∃ t' c c' text args index size,
      (p.startingAt l (n + d)).make.result s = (.ok (.shared h), t') ∧
      (Builder.requests h rs t).store.builder? h = some c ∧
      (Builder.requests h rs t').store.builder? h = some c' ∧
      Seen c (Builder.requests h rs t) text args index size ∧
      Seen c' (Builder.requests h rs t') (renumbered d text) args (index + d) size ∧
      Store.SameButBuilders [h] (Builder.requests h rs t).store
        (Builder.requests h rs t').store := by
  obtain ⟨t', b, b', hm', hb, hb', rfl, index_eq, reserved_eq, sameButBuilders⟩ :=
    Plan.make_startingAt hm l hn
  obtain ⟨abreast, left⟩ := RequestAt.abreast_ofRequests sameButBuilders hb hb' index_eq hw
    (index_eq ▸ hle)
  have hw' := RequestAt.Abreast.spelled_all abreast hw
  have worded := fun x hx => (hw x hx).worded
  have worded' := fun x hx => (hw' x hx).worded
  have demanded_eq := RequestAt.Abreast.demanded_eq abreast hw
  have order_eq := RequestAt.Abreast.lastOrder_eq abreast hw
  have lost := RequestAt.allLost_eq_zero (fun x hx => (hw x hx).broken?) (n := b.index) (by omega)
  have lost' := RequestAt.allLost_eq_zero (fun x hx => (hw' x hx).broken?) (n := b'.index)
    (by rw [← demanded_eq, index_eq]; exact hle)
  obtain ⟨c, hc, seen⟩ := (Course.of_requests h rs t).seen_demanded hm hb hp worded lost (by omega)
  obtain ⟨c', hc', seen'⟩ := (Course.of_requests h rs t').seen_demanded hm' hb' hp worded' lost'
    (by rw [← demanded_eq, index_eq]; exact hle)
  refine ⟨t', c, c', _, _, _, _, hm', hc, hc', seen, ?_, left⟩
  have conditions_eq : (p.startingAt m b.index).conditions.map (renumbered d) =
      (p.startingAt l (b.index + d)).conditions :=
    (List.map_congr_left fun c hc => renumbered_of_none d (hcond c hc)).trans (List.map_id _)
  have rendered_eq := renumbered_rendered d b.index (RequestAt.paths_of_demanded worded)
  rw [renumbered_assembled d hbase fun o => RequestAt.lastOrder_worded worded, List.map_append,
    rendered_eq, conditions_eq]
  rw [← demanded_eq, ← order_eq, ← reserved_eq, index_eq, Nat.add_right_comm] at seen'
  exact seen'

theorem renumbered_seen_between :
    ∃ t t' c c' args index size,
      let rs : List Request := [.between (.text none "a") (.int none 3) (.int none 4),
        .within (.text none "b") (.tuple none [.int none 5])]
      (Plan.of (.text none "from Foo") (.int none 9) [] .null (.text none "")).make.result {} =
        (.ok (.shared ⟨1⟩), t) ∧
      (Plan.of (.text none "from Foo") (.int none 10) [] .null (.text none "")).make.result {} =
        (.ok (.shared ⟨1⟩), t') ∧
      Seen c (Builder.requests ⟨1⟩ rs t) "from Foo where a between ?9 and ?10 and b in ?11" args
        index size ∧
      Seen c' (Builder.requests ⟨1⟩ rs t') "from Foo where a between ?10 and ?11 and b in ?12" args
        (index + 1) size ∧
      args = [.int none 3, .int none 4, .shared ⟨2⟩] ∧
      (Builder.requests ⟨1⟩ rs t').store.cell? ⟨2⟩ = some (.list [.int none 5]) := by
  let p : Plan := .of (.text none "from Foo") (.int none 1) [] .null (.text none "")
  let t : Session := ((p.startingAt none 9).make.result {}).2
  let rs : List Request := [.between (.text none "a") (.int none 3) (.int none 4),
    .within (.text none "b") (.tuple none [.int none 5])]
  have hm : (p.startingAt none (9 : Nat)).make.result {} = (.ok (.shared ⟨1⟩), t) := rfl
  have spelled : ∀ x ∈ RequestAt.ofRequests ⟨1⟩ rs t,
      x.Spelled fun w => Text.placeholders w = [] := by
    rintro ⟨u, r⟩ hx v hv q hq
    rcases List.mem_pair.1 (RequestAt.request_mem_of_ofRequests hx) with rfl | rfl
    · cases List.mem_singleton.1 hv
      cases hq
      exact ⟨none, "a", rfl, by decide⟩
    · cases List.mem_singleton.1 hv
      cases hq
      exact ⟨none, "b", rfl, by decide⟩
  obtain ⟨t', c, c', text, args, index, size, hm', hb, hb', seen, seen', sameButBuilders⟩ :=
    @renumbered_seen p {} t ⟨1⟩ none none none "from Foo" 9 1 rs hm rfl (by decide)
      (fun _ hc => absurd hc List.not_mem_nil) spelled (by decide +kernel) (by decide +kernel)
  have list : (Builder.requests ⟨1⟩ rs t).store.cell? ⟨2⟩ = some (.list [.int none 5]) := rfl
  rw [sameButBuilders.same ⟨2⟩ (by simp)] at list
  cases hb
  have text_eq : text = "from Foo where a between ?9 and ?10 and b in ?11" :=
    (seen.text_eq rfl rfl).trans (by decide)
  have args_eq : args = [.int none 3, .int none 4, .shared ⟨2⟩] := seen.args.symm
  subst text_eq args_eq
  exact ⟨t, t', _, c', _, index, size, hm, hm', seen, seen', rfl, list⟩

end Criteria
