import Criteria.Proofs.KeepsButPasses

set_option autoImplicit false

namespace Criteria

def Value.Old (n : Nat) (v : Value) : Prop := ∀ k, v = .shared k → k.index < n

namespace Store

/-- Both stores hold alike what there was before the cell number `n`. -/
structure SameBefore (n : Nat) (s t : Store) : Prop where
  left : n ≤ s.size
  right : n ≤ t.size
  cell : ∀ k : Handle, k.index < n → Option.Rel Cell.SameButHeld (s.cell? k) (t.cell? k)

namespace SameBefore

variable {n : Nat} {s t u : Store}

theorem refl (h : n ≤ s.size) : SameBefore n s s := by
  refine ⟨h, h, fun k _ => ?_⟩
  cases s.cell? k with
  | none => exact .none
  | some c => exact .some (.same c)

theorem symm (w : SameBefore n s t) : SameBefore n t s := by
  refine ⟨w.right, w.left, fun k hk => ?_⟩
  have h := w.cell k hk
  rcases e : s.cell? k with _ | c <;> rcases f : t.cell? k with _ | d <;> rw [e, f] at h <;> cases h
  · exact .none
  · next h => exact .some h.symm

theorem trans (w : SameBefore n s t) (x : SameBefore n t u) : SameBefore n s u := by
  refine ⟨w.left, x.right, fun k hk => ?_⟩
  have h := w.cell k hk
  have g := x.cell k hk
  rcases e : s.cell? k with _ | c <;> rcases f : t.cell? k with _ | d <;> rw [e, f] at h <;> cases h
  · rw [f] at g
    exact g
  · next h =>
    rw [f] at g
    rcases i : u.cell? k with _ | c <;> rw [i] at g <;> cases g
    next g => exact .some (h.trans g)

theorem sameButHeld (w : SameBefore n s t) {v : Value} (hv : v.Old n) : s.SameButHeld t v := by
  cases v with
  | shared k => exact w.cell k (hv k rfl)
  | _ => exact .none

theorem alloc (h : n ≤ s.size) (c : Cell) : SameBefore n s (s.alloc c).2 := by
  refine ⟨h, by simp only [Store.alloc, size, List.length_append] at h ⊢; omega, fun k hk => ?_⟩
  rw [cell?_alloc_of_lt s c k (Nat.lt_of_lt_of_le hk h)]
  exact (refl h).cell k hk

theorem marked (h : n ≤ s.size) (marks : Nat) : SameBefore n s { s with marks } :=
  ⟨h, h, (refl h).cell⟩

theorem put (h : n ≤ s.size) {k : Handle} {c d : Cell} (hc : s.cell? k = some c)
    (hd : c.SameButHeld d) :
    SameBefore n s (s.put k d) := by
  refine ⟨h, by simpa [Store.put, size] using h, fun j hj => ?_⟩
  by_cases e : k = j
  · subst e
    rw [cell?_put_self s k d c hc, hc]
    exact .some hd
  · rw [cell?_put_of_ne s k j d e]
    exact (refl h).cell j hj

theorem copying (h : n ≤ s.size) (bs : List Binding) : SameBefore n s (s.copying bs) := by
  induction bs generalizing s with
  | nil => exact refl h
  | cons x xs ih =>
    cases x with
    | itself v => exact ih h
    | copy name items =>
      have made := alloc h (.list items)
      exact made.trans (ih made.right)

theorem passed (w : SameBefore n s t) {v : Value} (hv : v.Old n) (m : Nat) :
    SameBefore n (s.passed v m) (t.passed v m) := by
  cases v with
  | shared k =>
    rcases (w.sameButHeld hv).cell with e | ⟨b, c, e, f⟩ | ⟨es, fs, e, f⟩
    · simp only [Store.passed, e]
      split
      · next generated rest hc =>
        refine ⟨by simpa [Store.put, size] using w.left, by simpa [Store.put, size] using w.right,
          fun j hj => ?_⟩
        by_cases i : k = j
        · subst i
          rw [cell?_put_self _ _ _ _ (e.trans hc), cell?_put_self _ _ _ _ hc]
          exact .some (.same _)
        · rw [cell?_put_of_ne _ _ _ _ i, cell?_put_of_ne _ _ _ _ i]
          exact w.cell j hj
      · exact w
    · simpa only [Store.passed, e, f] using w
    · simpa only [Store.passed, e, f] using w
  | _ => exact w

end SameBefore

theorem referencesRead_eq {s t : Store} {vs : List Value} (h : ∀ v ∈ vs, s.SameButHeld t v) :
    Request.referencesRead s vs = Request.referencesRead t vs := by
  induction vs with
  | nil => rfl
  | cons v vs ih =>
    have hv := h v (List.mem_cons_self ..)
    have hvs := ih fun x hx => h x (List.mem_cons_of_mem _ hx)
    simp only [Request.referencesRead, hv.fieldPath_eq, hvs]

end Store

structure RequestAt.Rooted (n : Nat) (t : RequestAt) : Prop where
  operands : ∀ v ∈ t.request.operands, v.Old n
  references : ∀ v ∈ t.request.references t.store, v.Old n

/-- The request uses up nothing that gives each element once. -/
def RequestAt.Lasting (t : RequestAt) : Prop :=
  ∀ fields value mode, t.request = .likeAny fields value mode →
    ∀ generated rest, t.store.cellOf? fields ≠ some (.stream generated rest)

theorem RequestAt.Lasting.passed {s : Store} {r : Request} (hl : (⟨s, r⟩ : RequestAt).Lasting) :
    r.passed s = s ∨ r.passed s = s.mark.2 := by
  cases r with
  | like => exact .inr rfl
  | likeAny fields value mode =>
    simp only [Request.passed]
    split
    · exact .inl rfl
    · split
      · next items _ =>
        have same : s.passed fields (Request.referencesRead s items) = s := by
          cases fields with
          | shared k =>
            simp only [Store.passed]
            split
            · next generated rest hc => exact absurd hc (hl _ _ _ rfl generated rest)
            · rfl
          | _ => rfl
        rw [same]
        exact .inr rfl
      · exact .inl rfl
  | _ => exact .inl rfl

namespace Store.SameBefore

variable {n : Nat} {s t : Store} {r : Request}

theorem request_passed (w : SameBefore n s t) (hr : (⟨s, r⟩ : RequestAt).Rooted n) :
    SameBefore n (r.passed s) (r.passed t) := by
  have marked : ∀ {s t : Store}, SameBefore n s t → SameBefore n s.mark.2 t.mark.2 := fun w =>
    (SameBefore.marked w.left _).symm.trans (w.trans (.marked w.right _))
  cases r with
  | like => exact marked w
  | likeAny fields value mode =>
    have old := hr.operands fields (List.mem_cons_self ..)
    have sameButHeld := w.sameButHeld old
    simp only [Request.passed, ← sameButHeld.isReference_eq, ← sameButHeld.candidates_eq]
    split
    · exact w
    · next single =>
      split
      · next items hi =>
        have items_eq : (Request.likeAny fields value mode).references s = items := by
          simp [Request.references, single, hi]
        rw [← referencesRead_eq fun v hv => w.sameButHeld (hr.references v (items_eq ▸ hv))]
        exact marked (w.passed old _)
      · exact w
  | _ => exact w

theorem of_lasting (h : n ≤ s.size) (hl : (⟨s, r⟩ : RequestAt).Lasting) :
    SameBefore n s (r.passed s) := by
  rcases hl.passed with e | e <;> rw [e]
  · exact refl h
  · exact .marked h _

theorem of_request {h : Handle} {b : Builder} {s : Session} (hb : s.store.builder? h = some b)
    (hn : n ≤ s.store.size) :
    SameBefore n (r.passed s.store) ((Builder.request h r).result s).2.store := by
  have hs : n ≤ (r.passed s.store).size := by rwa [Builder.size_request_passed]
  let bs := (⟨s.store, r⟩ : RequestAt).bindings b.index
  have copied := copying hs bs
  have kept := Builder.builder?_eq_some.1 (Builder.builder?_copying r hb)
  rw [Builder.store_request hb]
  exact copied.trans (put copied.right kept (.builder _ _))

theorem request {h : Handle} {b c : Builder} {s t : Session} (w : SameBefore n s.store t.store)
    (hb : s.store.builder? h = some b) (hc : t.store.builder? h = some c)
    (hr : (⟨s.store, r⟩ : RequestAt).Rooted n) :
    SameBefore n ((Builder.request h r).result s).2.store
      ((Builder.request h r).result t).2.store :=
  (of_request hb w.left).symm.trans ((w.request_passed hr).trans (of_request hc w.right))

end Store.SameBefore

namespace MatchMode

theorem ofValue_cases (s t : Store) (v : Value) :
    (∃ m, ofValue s v = .ok m ∧ ofValue t v = .ok m) ∨
      ∃ f g, ofValue s v = .error f ∧ ofValue t v = .error g := by
  cases h : stoodFor? v with
  | some m => exact .inl ⟨m, ofValue_of_stoodFor s h, ofValue_of_stoodFor t h⟩
  | none =>
    have refused : ∀ u : Store, ∃ f, ofValue u v = .error f := by
      intro u
      cases e : ofValue u v with
      | error f => exact ⟨f, rfl⟩
      | ok m => cases h.symm.trans (stoodFor?_of_ofValue e)
    obtain ⟨f, hf⟩ := refused s
    obtain ⟨g, hg⟩ := refused t
    exact .inr ⟨f, g, hf, hg⟩

theorem patternOf_cases (s t : Store) (m : MatchMode) (v : Value) :
    (∃ p q, m.patternOf s v = .ok p ∧ m.patternOf t v = .ok q) ∨
      ∃ f g, m.patternOf s v = .error f ∧ m.patternOf t v = .error g := by
  cases v with
  | text k w => exact .inl ⟨_, _, rfl, rfl⟩
  | _ => exact .inr ⟨_, _, rfl, rfl⟩

end MatchMode

namespace Request

def outcomeOf : Except Fault Ruling → Outcome
  | .error _ => .refused
  | .ok (.skip ..) => .skipped
  | .ok _ => .accepted

theorem fieldPaths_eq {s t : Store} {vs : List Value} (h : ∀ v ∈ vs, s.SameButHeld t v) :
    fieldPaths s vs = fieldPaths t vs := by
  induction vs with
  | nil => rfl
  | cons v vs ih =>
    have hv := h v (List.mem_cons_self ..)
    have hvs := ih fun x hx => h x (List.mem_cons_of_mem _ hx)
    simp only [fieldPaths, hv.fieldPath_eq, hvs]

theorem texts_of_fieldPaths {s : Store} {vs ps : List Value}
    (h : ∀ v ∈ vs, ∀ p, s.fieldPath v = .ok p → ∃ m w, p = .text m w)
    (hp : fieldPaths s vs = .ok ps) :
    ∃ ts, ∀ u : Store, pathTexts u ps = .ok ts ∧ ∀ n, joinTexts u n ps = .ok ts := by
  induction vs generalizing ps with
  | nil =>
    cases hp
    exact ⟨[], fun _ => ⟨rfl, fun _ => rfl⟩⟩
  | cons v vs ih =>
    unfold fieldPaths at hp
    cases hv : s.fieldPath v with
    | error f => simp [hv, bind, Except.bind] at hp
    | ok p =>
      cases hvs : fieldPaths s vs with
      | error f => simp [hv, hvs, bind, Except.bind] at hp
      | ok qs =>
        simp only [hv, hvs, bind, Except.bind] at hp
        cases hp
        obtain ⟨m, w, rfl⟩ := h v (List.mem_cons_self ..) p hv
        obtain ⟨ts, hts⟩ := ih (fun x hx => h x (List.mem_cons_of_mem _ hx)) hvs
        refine ⟨w :: ts, fun u => ⟨?_, fun n => ?_⟩⟩
        · have plain : u.plain (.text m w) = .ok w := rfl
          simp only [pathTexts, plain, (hts u).1]
        · simp only [joinTexts, (hts u).2, bind, Except.bind]

end Request

namespace RequestAt

variable {n : Nat} {s t : Store} {r : Request} {P : String → Prop}

/-- One request of what there was before has one outcome in both stores. -/
theorem outcome_eq (w : s.SameBefore n t) (hr : (⟨s, r⟩ : RequestAt).Rooted n)
    (spelled : (⟨s, r⟩ : RequestAt).Spelled P) :
    (⟨s, r⟩ : RequestAt).outcome = (⟨t, r⟩ : RequestAt).outcome := by
  have sameButHeld : ∀ v ∈ r.operands, s.SameButHeld t v := fun v hv =>
    w.sameButHeld (hr.operands v hv)
  have text : ∀ v ∈ r.references s, ∀ p, s.fieldPath v = .ok p → ∃ m w, p = .text m w :=
    fun v hv p hp =>
      let ⟨m, w, e, _⟩ := spelled v hv p hp
      ⟨m, w, e⟩
  have plain : ∀ (u : Store) (m : Mark) (w : String), u.plain (.text m w) = .ok w :=
    fun _ _ _ => rfl
  -- Faults may name cells, which differ, so the rulings are compared only as to what they come to.
  change Request.outcomeOf (r.rule s) = Request.outcomeOf (r.rule t)
  cases r with
  | compare op f v =>
    have hf := sameButHeld f (by simp [Request.operands])
    have hv := sameButHeld v (by simp [Request.operands])
    simp only [Request.rule, Request.ruleCompare, ← hf.fieldPath_eq, ← hv.present_eq]
    cases hp : s.fieldPath f with
    | error g => rfl
    | ok p =>
      obtain ⟨m, x, rfl⟩ := text f (List.mem_singleton.2 rfl) p hp
      cases s.present v with
      | error g => rfl
      | ok b => cases b <;> simp [plain, bind, Except.bind, Request.outcomeOf]
  | like f v m =>
    have hf := sameButHeld f (by simp [Request.operands])
    have hv := sameButHeld v (by simp [Request.operands])
    simp only [Request.rule, Request.ruleLike, ← hf.fieldPath_eq, ← hv.present_eq]
    cases hp : s.fieldPath f with
    | error g => rfl
    | ok p =>
      obtain ⟨k, x, rfl⟩ := text f (List.mem_singleton.2 rfl) p hp
      rcases MatchMode.ofValue_cases s t m with ⟨m, hs, ht⟩ | ⟨f, g, hs, ht⟩
      · cases hb : s.present v with
        | error g => simp [hs, ht, bind, Except.bind, Request.outcomeOf]
        | ok b =>
          rcases MatchMode.patternOf_cases s t m v with ⟨p, q, hp, hq⟩ | ⟨f, g, hp, hq⟩ <;>
            cases b <;> simp [hs, ht, hp, hq, plain, bind, Except.bind, Request.outcomeOf]
      · simp [hs, ht, bind, Except.bind, Request.outcomeOf]
  | likeAny fs v m =>
    have hf := sameButHeld fs (by simp [Request.operands])
    have hv := sameButHeld v (by simp [Request.operands])
    have hi : ∀ x ∈ (Request.likeAny fs v m).references s, s.SameButHeld t x :=
      fun x hx => w.sameButHeld (hr.references x hx)
    simp only [Request.references] at text hi
    simp only [Request.rule, Request.ruleLikeAny, ← hf.isReference_eq, ← hf.candidates_eq,
      ← hv.present_eq]
    by_cases single : s.isReference fs = true
    · rw [if_pos single, if_pos single]
      cases s.shown fs <;> cases t.shown fs <;> rfl
    · rw [if_neg single] at text hi
      rw [if_neg single, if_neg single]
      cases hc : s.candidates fs with
      | error g => rfl
      | ok items =>
        rw [hc] at text hi
        simp only [bind, Except.bind, ← Request.fieldPaths_eq hi]
        cases hp : Request.fieldPaths s items with
        | error g => rfl
        | ok ps =>
          obtain ⟨ts, written⟩ := Request.texts_of_fieldPaths text hp
          simp only
          by_cases he : ps.isEmpty = true
          · rw [if_pos he, if_pos he]
          · rw [if_neg he, if_neg he]
            rcases MatchMode.ofValue_cases s t m with ⟨m, hs, ht⟩ | ⟨f, g, hs, ht⟩
            · cases hb : s.present v with
              | error g => simp [hs, ht, Request.outcomeOf]
              | ok b =>
                rcases MatchMode.patternOf_cases s t m v with ⟨p, q, hp, hq⟩ | ⟨f, g, hp, hq⟩ <;>
                  cases b <;>
                  simp [hs, ht, hp, hq, (written _).1, (written _).2, Request.outcomeOf]
            · simp [hs, ht, Request.outcomeOf]
  | within f v =>
    have hf := sameButHeld f (by simp [Request.operands])
    have hv := sameButHeld v (by simp [Request.operands])
    simp only [Request.rule, Request.ruleWithin, ← hf.fieldPath_eq, ← hv.present_eq,
      ← hv.listable_eq, ← hv.shortName_eq, ← hv.binding_eq]
    cases hp : s.fieldPath f with
    | error g => rfl
    | ok p =>
      obtain ⟨m, x, rfl⟩ := text f (List.mem_singleton.2 rfl) p hp
      simp only [plain, bind, Except.bind]
  | between f v x =>
    have hf := sameButHeld f (by simp [Request.operands])
    have hv := sameButHeld v (by simp [Request.operands])
    have hx := sameButHeld x (by simp [Request.operands])
    simp only [Request.rule, Request.ruleBetween, Request.bounded, ← hf.fieldPath_eq,
      ← hv.present_eq, ← hx.present_eq]
    cases hp : s.fieldPath f with
    | error g => rfl
    | ok p =>
      obtain ⟨m, y, rfl⟩ := text f (List.mem_singleton.2 rfl) p hp
      simp only [plain, bind, Except.bind]
  | orderBy c =>
    have hc := sameButHeld c (by simp [Request.operands])
    simp only [Request.rule]
    cases hp : s.fieldPath c with
    | ok p =>
      obtain ⟨m, x, rfl⟩ := text c (List.mem_singleton.2 rfl) p hp
      rw [Request.ruleOrderBy_of_ok hp, Request.ruleOrderBy_of_ok (hc.fieldPath_eq ▸ hp)]
      rfl
    | error f =>
      by_cases e : c = .null
      · rw [e]
        rfl
      · obtain ⟨g, hg⟩ := Request.ruleOrderBy_of_error hp e
        obtain ⟨i, hi⟩ := Request.ruleOrderBy_of_error (hc.fieldPath_eq ▸ hp) e
        rw [hg, hi]
        rfl

/-- One request in two stores that hold alike what it is made of. Its references have texts for
their paths. -/
structure Matched (P : String → Prop) (n : Nat) (y x : RequestAt) : Prop where
  request : y.request = x.request
  sameBefore : y.store.SameBefore n x.store
  rooted : y.Rooted n
  spelled : y.Spelled P

namespace Matched

variable {x y : RequestAt}

theorem paired (h : Matched P n y x) : Paired y x := by
  obtain ⟨t, r⟩ := y
  obtain ⟨s, q⟩ := x
  obtain ⟨rfl, sameBefore, rooted, spelled⟩ := h
  exact ⟨.of_sameButHeld (fun v hv => sameBefore.sameButHeld (rooted.operands v hv))
    (fun v hv => sameBefore.sameButHeld (rooted.references v hv)) spelled,
      outcome_eq sameBefore rooted spelled⟩

theorem bindings (h : Matched P n y x) (index : Nat) :
    List.Forall₂ Binding.Alike (y.bindings index) (x.bindings index) := by
  have paired := h.paired
  obtain ⟨t, r⟩ := y
  obtain ⟨s, q⟩ := x
  obtain ⟨rfl, sameBefore, rooted, -⟩ := h
  refine bindings_alike paired.shape paired.trace rfl (fun v hv => ?_) index
  refine (sameBefore.sameButHeld (rooted.operands v ?_)).binding_eq
  revert hv
  cases r <;> simp +contextual [Request.values, Request.operands]

theorem worded (h : Matched P n y x) :
    y.Worded (fun _ => True) ∧ x.Worded fun _ => True := by
  obtain ⟨t, r⟩ := y
  obtain ⟨s, q⟩ := x
  obtain ⟨rfl, sameBefore, rooted, spelled⟩ := h
  have text : ∀ c p, r = .orderBy c → t.fieldPath c = .ok p → ∃ m o, p = .text m o ∧ True := by
    rintro c p rfl hp
    obtain ⟨m, o, e, -⟩ := spelled c (List.mem_singleton.2 rfl) p hp
    exact ⟨m, o, e, trivial⟩
  refine ⟨⟨fun _ _ _ _ => trivial, text⟩, ⟨fun _ _ _ _ => trivial, fun c p e hp => ?_⟩⟩
  have old := rooted.operands c (by rw [show r = .orderBy c from e]; exact List.mem_singleton.2 rfl)
  exact text c p e ((sameBefore.sameButHeld old).fieldPath_eq.trans hp)

variable {xs ys : List RequestAt}

theorem worded_all (h : List.Forall₂ (Matched P n) ys xs) :
    (∀ y ∈ ys, y.Worded fun _ => True) ∧ ∀ x ∈ xs, x.Worded fun _ => True := by
  induction h with
  | nil => simp
  | cons hyx _ ih =>
    exact ⟨List.forall_mem_cons.2 ⟨hyx.worded.1, ih.1⟩,
      List.forall_mem_cons.2 ⟨hyx.worded.2, ih.2⟩⟩

theorem shares (h : List.Forall₂ (Matched P n) ys xs) (index : Nat) :
    List.Forall₂ (fun y x => List.Forall₂ Binding.Alike y.2 x.2) (RequestAt.shares index ys)
      (RequestAt.shares index xs) := by
  induction h generalizing index with
  | nil => exact .nil
  | cons hyx _ ih =>
    rw [RequestAt.shares, RequestAt.shares, hyx.paired.next]
    exact .cons (hyx.bindings index) (ih _)

end Matched

end RequestAt

end Criteria
