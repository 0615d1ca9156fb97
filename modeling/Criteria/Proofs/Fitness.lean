import Criteria.Proofs.KeepsButPasses

set_option autoImplicit false

namespace Criteria

def Binding.Counted : Binding → Prop
  | itself _ => True
  | copy _ items => items ≠ [] ∧ items.length ≤ lengthLimit

namespace Store

def Intact (s t : Store) (v : Value) : Prop :=
  s.cellOf? v = t.cellOf? v ∨ s.collectionSize? v = none ∧ t.collectionSize? v = none

/-- What the first store says for binding a value, the second one says too. -/
structure Keeps (s t : Store) (v : Value) : Prop where
  present : s.present v = .ok true → t.present v = .ok true
  listed : s.listable v = true ∧ s.copied? v = none → t.listable v = true ∧ t.copied? v = none

theorem listable_of_size {s : Store} {v : Value} (h : s.collectionSize? v = none) :
    s.listable v = false := by
  cases v with
  | text | bytes => rfl
  | shared k =>
    simp only [collectionSize?] at h
    cases hc : s.cell? k with
    | none => simp only [listable, hc]
    | some c =>
      rw [hc, Option.bind_some] at h
      cases c <;> simp_all [listable, Cell.collectionSize?]
  | _ => simp [listable, h]

namespace Keeps

variable {s t u : Store} {v : Value}

theorem of_sameButHeld (h : s.SameButHeld t v) : Keeps s t v :=
  ⟨by rw [h.present_eq]; exact id, by rw [h.listable_eq, h.copied?_eq]; exact id⟩

theorem refl (s : Store) (v : Value) : Keeps s s v := ⟨id, id⟩

theorem trans (h : Keeps s t v) (g : Keeps t u v) : Keeps s u v :=
  ⟨g.present ∘ h.present, g.listed ∘ h.listed⟩

theorem of_intact (h : s.Intact t v) : Keeps s t v := by
  rcases h with same | ⟨hs, ht⟩
  · exact of_sameButHeld (.of_eq same)
  · cases v with
    | shared k =>
      refine ⟨fun _ => by simp [Store.present, ht], fun listed => ?_⟩
      rw [listable_of_size hs] at listed
      cases listed.1
    | _ => exact of_sameButHeld (.of_eq rfl)

theorem passed (s : Store) (v w : Value) (n : Nat) : Keeps s (s.passed v n) w := by
  refine of_intact ?_
  unfold Store.passed
  split
  · next k =>
    split
    · next generated rest hk =>
      cases w with
      | shared j =>
        by_cases e : k = j
        · subst e
          refine .inr ⟨?_, ?_⟩
          · simp [collectionSize?, hk, Cell.collectionSize?]
          · simp [collectionSize?, cell?_put_self s k _ _ hk, Cell.collectionSize?]
        · exact .inl (cell?_put_of_ne s k j _ e).symm
      | _ => exact .inl rfl
    · exact .inl rfl
  · exact .inl rfl

theorem request_passed (s : Store) (r : Request) (w : Value) : Keeps s (r.passed s) w := by
  cases r with
  | likeAny fields value mode =>
    simp only [Request.passed]
    split
    · exact refl s w
    · split
      · exact (passed s _ w _).trans (of_sameButHeld (.of_eq rfl))
      · exact refl s w
  | like => exact of_sameButHeld (.of_eq rfl)
  | _ => exact refl s w

theorem alloc {items : List Value} (s : Store) (some_item : items ≠ [])
    (counted : items.length ≤ lengthLimit) (w : Value) : Keeps s (s.alloc (.list items)).2 w := by
  cases w with
  | shared k =>
    by_cases e : k.index = s.size
    · have free : s.cell? k = none := List.getElem?_eq_none (Nat.le_of_eq e.symm)
      have there : (s.alloc (.list items)).2.cell? k = some (.list items) := by
        rw [cell?_alloc_eq, if_pos e]
      refine ⟨fun _ => ?_, fun listed => ?_⟩
      · simp [Store.present, collectionSize?, there, Cell.collectionSize?, countedLength, counted,
          some_item, bind, Except.bind]
      · simp [listable, free] at listed
    · exact of_sameButHeld (.of_eq (by simp only [cellOf?, cell?_alloc_eq, if_neg e]))
  | _ => exact of_sameButHeld (.of_eq rfl)

theorem copying {bs : List Binding} (s : Store) (counted : ∀ x ∈ bs, x.Counted) (w : Value) :
    Keeps s (s.copying bs) w := by
  induction bs generalizing s with
  | nil => exact refl s w
  | cons x xs ih =>
    have rest := fun s => ih s fun y hy => counted y (List.mem_cons_of_mem _ hy)
    cases x with
    | itself v => exact rest s
    | copy name items =>
      obtain ⟨some_item, small⟩ := counted _ (List.mem_cons_self ..)
      exact (alloc s some_item small w).trans (rest _)

end Keeps

theorem present_of_counts {s : Store} {v : Value} (h : s.counts v = true) :
    s.present v = .ok true := by
  unfold counts at h
  split at h
  · next e => rw [e, h]
  · cases h

theorem counted_of_present {s : Store} {v : Value} {n : Nat} (h : s.present v = .ok true)
    (hn : s.collectionSize? v = some n) (wordless : ∀ m w, v ≠ .text m w) :
    n ≠ 0 ∧ n ≤ lengthLimit := by
  have told : (do .ok ((← countedLength n) != 0) : Except Fault Bool) = .ok true := by
    cases v with
    | text m w => exact absurd rfl (wordless m w)
    | null | unset => cases hn
    | _ =>
      unfold present at h
      simpa only [hn] using h
  unfold countedLength at told
  split at told
  · next small => exact ⟨by simpa [bind, Except.bind] using told, small⟩
  · cases told

theorem counted_of_copied {s : Store} {v : Value} {items : List Value}
    (h : s.present v = .ok true) (copied : s.copied? v = some items) :
    items ≠ [] ∧ items.length ≤ lengthLimit := by
  have sized : s.collectionSize? v = some items.length ∧ ∀ m w, v ≠ .text m w := by
    cases v with
    | tuple m vs | point m vs =>
      cases copied
      exact ⟨rfl, by simp⟩
    | shared k =>
      simp only [copied?] at copied
      split at copied
      · next members hk =>
        cases copied
        simp [collectionSize?, hk, Cell.collectionSize?]
      · cases copied
    | _ => cases copied
  obtain ⟨some_item, small⟩ := counted_of_present h sized.1 sized.2
  exact ⟨fun e => some_item (by rw [e]; rfl), small⟩

end Store

namespace Request

theorem counted_bindings {s : Store} {r : Request} {n : Nat} {bs : List Binding}
    (h : r.bindings? s n = some bs) : ∀ x ∈ bs, x.Counted := by
  have itself : ∀ vs : List Value, ∀ x ∈ vs.map Binding.itself, x.Counted := by
    intro vs x hx
    obtain ⟨v, -, rfl⟩ := List.mem_map.1 hx
    trivial
  cases r with
  | compare op field value =>
    simp only [bindings?] at h
    split at h <;> cases h
    exact itself [value]
  | like field value mode =>
    simp only [bindings?] at h
    split at h
    · obtain ⟨p, -, rfl⟩ := Option.map_eq_some_iff.1 h
      exact itself [p]
    · cases h
  | likeAny fields value mode =>
    simp only [bindings?] at h
    split at h
    · obtain ⟨p, -, rfl⟩ := Option.map_eq_some_iff.1 h
      rw [← List.map_replicate]
      exact itself _
    · cases h
  | within field values =>
    simp only [bindings?] at h
    split at h
    · next counts =>
      cases h
      have present := Store.present_of_counts (Bool.and_eq_true_iff.1 counts).1
      intro x hx
      cases List.mem_singleton.1 hx
      unfold binding
      split
      · next items copied => exact Store.counted_of_copied present copied
      · trivial
    · cases h
  | between field lower upper =>
    simp only [bindings?] at h
    split at h <;> cases h
    exact itself [lower, upper]
  | orderBy c => cases h

end Request

namespace RequestAt

theorem counted_bindings (t : RequestAt) (n : Nat) : ∀ x ∈ t.bindings n, x.Counted := by
  have spec := bindings_spec t n
  split at spec
  · exact Request.counted_bindings (Request.demand?_eq_some.1 spec).2
  · simp [spec]

theorem bindings_of_emission {t : RequestAt} {n : Nat} {e : Emission} (h : t.emission? n = some e) :
    t.demand? = some (e.clause, t.bindings n) := by
  have spec := bindings_spec t n
  rwa [← (trace_spec t n).1, h] at spec

end RequestAt

namespace Emission

def Wrapped (value v : Value) : Prop :=
  ∃ k l w, ∃ before ∈ ["", MatchMode.wildcard], ∃ behind ∈ ["", MatchMode.wildcard],
    value = .text k w ∧ v = .text l (before ++ w ++ behind)

def Suits (s : Store) (r : Request) (e : Emission) : Prop :=
  match r, e.clause with
  | .compare op _ value, .compare _ symbol => symbol = op ∧ e.values = [value]
  | .like _ value _, .like _ | .likeAny _ value _, .likeAny _ => ∀ v ∈ e.values, Wrapped value v
  | .within .., .within _ => ∀ v ∈ e.values, s.listable v = true ∧ s.copied? v = none
  | .between _ lower upper, .between _ => e.values = [lower, upper]
  | _, _ => False

/-- Each argument counts and is what the clause takes. -/
structure Fit (s : Store) (r : Request) (e : Emission) : Prop where
  length : e.values.length = e.clause.arity
  present : ∀ v ∈ e.values, s.present v = .ok true
  suits : e.Suits s r

theorem Fit.keeps {s t : Store} {r : Request} {e : Emission} (h : Fit s r e)
    (keeps : ∀ v ∈ e.values, s.Keeps t v) : Fit t r e := by
  refine ⟨h.length, fun v hv => (keeps v hv).present (h.present v hv), ?_⟩
  have suits := h.suits
  unfold Suits at suits ⊢
  split at suits
  case h_4 => exact fun v hv => (keeps v hv).listed (suits v hv)
  all_goals exact suits

end Emission

namespace MatchMode

theorem wrapped_pattern (m : MatchMode) (k l : Mark) (w : String) :
    Emission.Wrapped (.text k w) (.text l (m.pattern w)) := by
  cases m with
  | exact => exact ⟨k, l, w, "", by simp, "", by simp, rfl, by simp [pattern]⟩
  | starting => exact ⟨k, l, w, "", by simp, wildcard, by simp, rfl, by simp [pattern]⟩
  | ending => exact ⟨k, l, w, wildcard, by simp, "", by simp, rfl, by simp [pattern]⟩
  | anywhere => exact ⟨k, l, w, wildcard, by simp, wildcard, by simp, rfl, by simp [pattern]⟩

theorem blank_pattern (m : MatchMode) {w : String} (h : Text.blank w = false) :
    Text.blank (m.pattern w) = false := by
  cases m <;> simp [pattern, Text.blank_append, h]

end MatchMode

namespace Store

theorem wrapped_of_pattern {s : Store} {mode value p : Value} (counts : s.counts value = true)
    (h : s.pattern? mode value = some p) :
    Emission.Wrapped value p ∧ ∀ t : Store, t.present p = .ok true := by
  have present := present_of_counts counts
  unfold pattern? at h
  cases hm : MatchMode.ofValue s mode with
  | error f => simp [hm] at h
  | ok m =>
    cases value with
    | text k w =>
      have worded : Text.blank w = false := by simpa using present
      by_cases he : m = .exact
      · simp only [hm, MatchMode.patternOf, he, if_true, Except.toOption, Option.some.injEq] at h
        subst h
        exact ⟨MatchMode.wrapped_pattern .exact k k w, fun t => by simp [worded]⟩
      · simp only [hm, MatchMode.patternOf, he, if_false, Except.toOption, Option.some.injEq] at h
        subst h
        exact ⟨m.wrapped_pattern k _ w, fun t => by simp [m.blank_pattern worded]⟩
    | _ => simp [hm, MatchMode.patternOf, Except.toOption] at h

end Store

namespace Builder

open Emission

variable {h : Handle} {b : Builder} {r : Request} {s : Session}

theorem keeps_request (hb : s.store.builder? h = some b) (v : Value) :
    s.store.Keeps ((request h r).result s).2.store v := by
  have counted := RequestAt.counted_bindings ⟨s.store, r⟩ b.index
  rw [store_request hb]
  exact (Store.Keeps.request_passed _ _ v).trans ((Store.Keeps.copying _ counted v).trans
    (.of_sameButHeld (Store.AllSameButHeld.put_builder _ (builder?_copying r hb) v)))

theorem cell?_copied {name : String} {items : List Value} (hb : s.store.builder? h = some b)
    (bindings : (⟨s.store, r⟩ : RequestAt).bindings b.index = [.copy name items]) :
    ((request h r).result s).2.store.cell? ⟨s.store.size⟩ = some (.list items) := by
  have other : h ≠ ⟨s.store.size⟩ := by
    rintro rfl
    exact Nat.lt_irrefl _ (Store.lt_size_of_cell? (builder?_eq_some.1 hb))
  rw [store_request hb, Store.cell?_put_of_ne _ _ _ _ other, bindings]
  simp only [Store.copying, Store.cell?_alloc_eq, size_request_passed, if_true]

theorem boundFrom_itself (n : Nat) (vs : List Value) : boundFrom n (vs.map .itself) = vs := by
  induction vs with
  | nil => rfl
  | cons v vs ih => simp [boundFrom, ih]

theorem fit_copied {e : Emission} {field values : Value} {items : List Value} {path : String}
    (hb : s.store.builder? h = some b) (length_eq : e.values.length = e.clause.arity)
    (clause_eq : .within path = e.clause) (present : s.store.present values = .ok true)
    (copied : s.store.copied? values = some items)
    (bindings : (⟨s.store, .within field values⟩ : RequestAt).bindings b.index =
      [Request.binding s.store values])
    (values_eq : e.values = boundFrom s.store.size [Request.binding s.store values]) :
    Fit ((request h (.within field values)).result s).2.store (.within field values) e := by
  obtain ⟨some_item, small⟩ := Store.counted_of_copied present copied
  simp only [Request.binding, copied] at bindings values_eq
  have there := cell?_copied hb bindings
  have values_eq : e.values = [.shared ⟨s.store.size⟩] := values_eq
  refine ⟨length_eq, ?_, ?_⟩
  · simp [values_eq, Store.present, Store.collectionSize?, there, Cell.collectionSize?,
      countedLength, small, some_item, bind, Except.bind]
  · unfold Suits
    rw [← clause_eq]
    simp [values_eq, Store.listable, Store.copied?, there, Cell.collectionSize?]

theorem fit_emission {e : Emission} (hb : s.store.builder? h = some b)
    (he : (⟨s.store, r⟩ : RequestAt).emission? b.index = some e) :
    Fit ((request h r).result s).2.store r e := by
  have length_eq := RequestAt.length_emission he
  have keeps := keeps_request (r := r) hb
  obtain ⟨-, bs, demand, values_eq⟩ := RequestAt.emission?_eq_some he
  have bound_eq : bs = (⟨s.store, r⟩ : RequestAt).bindings b.index := by
    rw [RequestAt.bindings_of_emission he] at demand
    cases demand
    rfl
  obtain ⟨form, bindings⟩ := Request.demand?_eq_some.1 demand
  have form : r.form? s.store = some e.clause := form
  have bindings : r.bindings? s.store e.clause.arity = some bs := bindings
  cases r with
  | compare op field value =>
    obtain ⟨p, -, clause_eq⟩ := Option.map_eq_some_iff.1 form
    simp only [Request.bindings?] at bindings
    split at bindings <;> cases bindings
    next counts =>
    refine Fit.keeps ⟨length_eq, ?_, ?_⟩ fun v _ => keeps v
    · simp [values_eq, boundFrom, Store.present_of_counts counts]
    · unfold Suits
      rw [← clause_eq]
      exact ⟨rfl, values_eq⟩
  | like field value mode =>
    obtain ⟨path, -, clause_eq⟩ := Option.map_eq_some_iff.1 form
    simp only [Request.bindings?] at bindings
    split at bindings
    · next counts =>
      obtain ⟨p, pattern, rfl⟩ := Option.map_eq_some_iff.1 bindings
      obtain ⟨wrapped, present⟩ := Store.wrapped_of_pattern counts pattern
      have values_eq : e.values = [p] := values_eq
      refine ⟨length_eq, by simp [values_eq, present], ?_⟩
      unfold Suits
      rw [← clause_eq]
      simpa [values_eq] using wrapped
    · cases bindings
  | likeAny fields value mode =>
    obtain ⟨paths, -, clause_eq⟩ := Option.map_eq_some_iff.1 form
    simp only [Request.bindings?] at bindings
    split at bindings
    · next counts =>
      obtain ⟨p, pattern, rfl⟩ := Option.map_eq_some_iff.1 bindings
      obtain ⟨wrapped, present⟩ := Store.wrapped_of_pattern counts pattern
      rw [← List.map_replicate, boundFrom_itself] at values_eq
      have all_p : ∀ v ∈ e.values, v = p := by simp [values_eq]
      refine ⟨length_eq, fun v hv => all_p v hv ▸ present _, ?_⟩
      unfold Suits
      rw [← clause_eq]
      exact fun v hv => all_p v hv ▸ wrapped
    · cases bindings
  | within field values =>
    obtain ⟨path, -, clause_eq⟩ := Option.map_eq_some_iff.1 form
    simp only [Request.bindings?] at bindings
    split at bindings <;> cases bindings
    next accepted =>
    obtain ⟨counts, listable⟩ := Bool.and_eq_true_iff.1 accepted
    have present := Store.present_of_counts counts
    cases copied : s.store.copied? values with
    | none =>
      have values_eq : e.values = [values] := by
        simp [values_eq, Request.binding, copied, boundFrom]
      refine Fit.keeps ⟨length_eq, by simp [values_eq, present], ?_⟩ fun v _ => keeps v
      unfold Suits
      rw [← clause_eq]
      simp [values_eq, listable, copied]
    | some items => exact fit_copied hb length_eq clause_eq present copied bound_eq.symm values_eq
  | between field lower upper =>
    obtain ⟨p, -, clause_eq⟩ := Option.map_eq_some_iff.1 form
    simp only [Request.bindings?] at bindings
    split at bindings <;> cases bindings
    next counts =>
    obtain ⟨hl, hu⟩ := Bool.and_eq_true_iff.1 counts
    refine Fit.keeps ⟨length_eq, ?_, ?_⟩ fun v _ => keeps v
    · simp [values_eq, boundFrom, Store.present_of_counts hl, Store.present_of_counts hu]
    · unfold Suits
      rw [← clause_eq]
      exact values_eq
  | orderBy c => cases form

end Builder

structure Use where
  asked : RequestAt
  index : Nat

namespace Use

def emission? (x : Use) : Option Emission := x.asked.emission? x.index

def emissions (xs : List Use) : List Emission := xs.filterMap emission?

end Use

/-- Requests to the builder in the cell `h`. What callers do in between leaves its conditions and
its arguments, and the collections among them. -/
inductive Usage (h : Handle) : Session → List Use → Session → Prop where
  | done (s : Session) : Usage h s [] s
  | meanwhile {s u t : Session} {b c : Builder} {xs : List Use} :
      s.store.builder? h = some b → u.store.builder? h = some c →
      c.conditions = b.conditions → c.bound = b.bound →
      (∀ v ∈ b.bound, s.store.Intact u.store v) → Usage h u xs t → Usage h s xs t
  | request {s t : Session} {b : Builder} {r : Request} {xs : List Use} :
      s.store.builder? h = some b → Usage h ((Builder.request h r).result s).2 xs t →
      Usage h s (⟨⟨s.store, r⟩, b.index⟩ :: xs) t

namespace Usage

variable {h : Handle} {s t : Session} {xs : List Use} {b : Builder}

/-- What a run adds to a builder, and what it leaves of what the builder was bound to before. -/
theorem spec (run : Usage h s xs t) (hb : s.store.builder? h = some b) :
    ∃ c, t.store.builder? h = some c ∧
      c.conditions = b.conditions ++ (Use.emissions xs).map Emission.fragment ∧
      c.bound = b.bound ++ (Use.emissions xs).flatMap Emission.values ∧
      (∀ v ∈ b.bound, s.store.Keeps t.store v) ∧
      ∀ x ∈ xs, ∀ e, x.emission? = some e → e.Fit t.store x.asked.request := by
  induction run generalizing b with
  | done s =>
    exact ⟨b, hb, by simp [Use.emissions], by simp [Use.emissions], fun v _ => .refl _ v, by simp⟩
  | meanwhile hb' hc conditions_eq bound_eq intact _ ih =>
    rw [hb] at hb'
    cases hb'
    obtain ⟨d, hd, conditions_d, bound_d, keeps, fit⟩ := ih hc
    refine ⟨d, hd, by rw [conditions_d, conditions_eq], by rw [bound_d, bound_eq], ?_, fit⟩
    rw [bound_eq] at keeps
    exact fun v hv => (Store.Keeps.of_intact (intact v hv)).trans (keeps v hv)
  | @request s t b r xs hb' _ ih =>
    rw [hb] at hb'
    cases hb'
    have after_eq : _ = some (b.afterRequest ⟨s.store, r⟩) := Builder.builder?_request h b r s hb
    have emissions_eq : Use.emissions (⟨⟨s.store, r⟩, b.index⟩ :: xs) =
        ((⟨s.store, r⟩ : RequestAt).emission? b.index).toList ++ Use.emissions xs := by
      simp only [Use.emissions, Use.emission?, List.filterMap_cons]
      cases (⟨s.store, r⟩ : RequestAt).emission? b.index <;> rfl
    have bound_eq := Builder.bound_afterRequest b ⟨s.store, r⟩
    obtain ⟨d, hd, conditions_d, bound_d, keeps, fit⟩ := ih after_eq
    refine ⟨d, hd, ?_, ?_, fun v hv => ?_, fun x hx e he => ?_⟩
    · rw [conditions_d, Builder.conditions_afterRequest, emissions_eq, List.map_append,
        List.append_assoc]
    · rw [bound_d, bound_eq, emissions_eq, List.flatMap_append, List.append_assoc]
    · have still : v ∈ (b.afterRequest ⟨s.store, r⟩).bound := by
        rw [bound_eq]
        exact List.mem_append_left _ hv
      exact (Builder.keeps_request hb v).trans (keeps v still)
    · rcases List.mem_cons.1 hx with rfl | hx
      · have he : (⟨s.store, r⟩ : RequestAt).emission? b.index = some e := he
        refine (Builder.fit_emission hb he).keeps fun v hv => keeps v ?_
        rw [bound_eq, he]
        exact List.mem_append_right _ (by simpa using hv)
      · exact fit x hx e he

end Usage

/-- Each argument of a builder fits its clause, from when the builder is made. -/
theorem Usage.fit {p : Plan} {s t u : Session} {h : Handle} {xs : List Use}
    (made : p.make.result s = (.ok (.shared h), t)) (run : Usage h t xs u) :
    ∃ c, u.store.builder? h = some c ∧
      c.conditions = p.conditions ++ (Use.emissions xs).map Emission.fragment ∧
      c.bound = (Use.emissions xs).flatMap Emission.values ∧
      ∀ x ∈ xs, ∀ e, x.emission? = some e → e.Fit u.store x.asked.request := by
  obtain ⟨k, b, same, hb, fresh⟩ := Plan.exists_fresh made
  cases same
  obtain ⟨c, hc, conditions_eq, bound_eq, -, fit⟩ := run.spec hb
  rw [fresh.conditions] at conditions_eq
  rw [fresh.bound, List.nil_append] at bound_eq
  exact ⟨c, hc, conditions_eq, bound_eq, fit⟩

theorem Usage.fit_of_two :
    ∃ t u xs c, (Plan.of (.text none "from Foo") (.int none 1) [] .null (.text none "")).make.result
        {} = (.ok (.shared ⟨1⟩), t) ∧ Usage ⟨1⟩ t xs u ∧ u.store.builder? ⟨1⟩ = some c ∧
      c.conditions = ["a in ?1", "b like ?2"] ∧ c.bound.length = 2 ∧
      ∀ x ∈ xs, ∀ e, x.emission? = some e → e.Fit u.store x.asked.request := by
  let t := ((Plan.of (.text none "from Foo") (.int none 1) [] .null
    (.text none "")).make.result {}).2
  let t₁ := ((Builder.request ⟨1⟩
    (.within (.text none "a") (.tuple none [.int none 1, .int none 2]))).result t).2
  let u := ((Builder.request ⟨1⟩
    (.like (.text none "b") (.text none "x") (.mode .anywhere))).result t₁).2
  have made : (Plan.of (.text none "from Foo") (.int none 1) [] .null
    (.text none "")).make.result {} = (.ok (.shared ⟨1⟩), t) := rfl
  have hb : t.store.builder? ⟨1⟩ = some _ := rfl
  have hb₁ : t₁.store.builder? ⟨1⟩ = some _ := rfl
  have run : Usage ⟨1⟩ t _ u := .request hb (.request hb₁ (.done u))
  obtain ⟨c, hc, conditions_eq, bound_eq, fit⟩ := Usage.fit made run
  refine ⟨t, u, _, c, made, run, hc, ?_, ?_, fit⟩
  · rw [conditions_eq]
    decide +kernel
  · rw [bound_eq]
    decide +kernel

end Criteria
