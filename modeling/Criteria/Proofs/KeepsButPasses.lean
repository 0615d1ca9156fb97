import Criteria.Builder.Call
import Criteria.Proofs.Construction
import Criteria.Proofs.SameButBuilders
import Mathlib.Data.List.Forall2

set_option autoImplicit false

namespace Criteria

namespace Store

/-- All cells that are there stay as they are, but for those that give each element once. -/
def KeepsButPasses (s t : Store) : Prop :=
  ∀ k c, s.cell? k = some c → (∀ generated rest, c ≠ .stream generated rest) → t.cell? k = some c

namespace KeepsButPasses

variable {s t u : Store}

theorem refl (s : Store) : KeepsButPasses s s := fun _ _ hc _ => hc

theorem of_cells (h : t.cells = s.cells) : KeepsButPasses s t := fun k c hc _ => by
  rw [cell?, h]
  exact hc

theorem trans (h : KeepsButPasses s t) (g : KeepsButPasses t u) : KeepsButPasses s u :=
  fun k c hc hs => g k c (h k c hc hs) hs

theorem alloc (s : Store) (c : Cell) : KeepsButPasses s (s.alloc c).2 :=
  fun _ _ hd _ => cell?_alloc_of_some _ _ _ _ hd

theorem passed (s : Store) (v : Value) (n : Nat) : KeepsButPasses s (s.passed v n) := by
  intro k c hc hs
  unfold Store.passed
  split
  · next j =>
    split
    · next generated rest hj =>
      have hk : j ≠ k := by
        rintro rfl
        exact hs _ _ (Option.some.inj (hc.symm.trans hj))
      rw [cell?_put_of_ne _ _ _ _ hk]
      exact hc
    · exact hc
  · exact hc

theorem request_passed (s : Store) (r : Request) : KeepsButPasses s (r.passed s) := by
  cases r with
  | likeAny fields value mode =>
    simp only [Request.passed]
    split
    · exact refl s
    · split
      · exact passed _ _ _
      · exact refl s
  | _ => exact of_cells rfl

theorem copying (s : Store) (bs : List Binding) : KeepsButPasses s (s.copying bs) := by
  induction bs generalizing s with
  | nil => exact refl s
  | cons x xs ih =>
    cases x with
    | itself v => exact ih s
    | copy name items => exact (alloc s _).trans (ih _)

end KeepsButPasses

/-- What is bound for a binding: its value, or a list of its elements in a cell behind number `n`. -/
inductive Bound (s : Store) (n : Nat) : Binding → Value → Prop where
  | itself (v : Value) : Bound s n (.itself v) v
  | copy {name : String} {items : List Value} {k : Handle} (hk : n ≤ k.index)
      (hc : s.cell? k = some (.list items)) : Bound s n (.copy name items) (.shared k)

theorem Bound.put_builder {s : Store} {n : Nat} {x : Binding} {v : Value} {h : Handle}
    {b : Builder} (c : Builder) (hb : s.builder? h = some b) (bound : s.Bound n x v) :
    (s.put h (.builder c)).Bound n x v := by
  cases bound with
  | itself => exact .itself v
  | @copy name items k hk hc =>
    have other : h ≠ k := by
      rintro rfl
      cases (Builder.builder?_eq_some.1 hb).symm.trans hc
    exact .copy hk ((cell?_put_of_ne _ _ _ _ other).trans hc)

theorem bound_copying {n : Nat} (s : Store) (bs : List Binding) (hn : n ≤ s.size) :
    List.Forall₂ ((s.copying bs).Bound n) bs (Builder.boundFrom s.size bs) := by
  induction bs generalizing s with
  | nil => exact .nil
  | cons x xs ih =>
    cases x with
    | itself v => exact .cons (.itself v) (ih s hn)
    | copy name items =>
      have size_eq : (s.alloc (.list items)).2.size = s.size + 1 := by
        simp [Store.alloc, Store.size]
      have rest := ih (s.alloc (.list items)).2 (by omega)
      rw [size_eq] at rest
      refine .cons (.copy hn ?_) rest
      exact KeepsButPasses.copying _ xs _ _ (Store.cell?_alloc s _) fun _ _ => Cell.noConfusion

/-- The stores agree except on what builders and field sets hold. -/
def AllSameButHeld (s t : Store) : Prop := ∀ v, s.SameButHeld t v

namespace AllSameButHeld

variable {s t u : Store}

theorem refl (s : Store) : s.AllSameButHeld s := fun _ => .of_eq rfl

theorem put_builder {h : Handle} {b : Builder} (c : Builder) (hb : s.builder? h = some b) :
    s.AllSameButHeld (s.put h (.builder c)) := by
  have hc := Builder.builder?_eq_some.1 hb
  intro v
  cases v with
  | shared k =>
    by_cases e : h = k
    · subst e
      unfold SameButHeld
      simp only [cellOf?, hc, cell?_put_self s h _ _ hc]
      exact .some (.builder b c)
    · exact .of_eq (cell?_put_of_ne s h k _ e).symm
  | _ => exact .none

end AllSameButHeld

theorem shownWith_empty {c : Cell} (h : c.collectionSize? = some 0) :
    ∃ w, ∀ look around, c.shownWith look around = .ok w := by
  cases c with
  | list items | deque items | bag items =>
    obtain rfl := List.length_eq_zero_iff.1 (Option.some.inj h)
    exact ⟨_, fun _ _ => rfl⟩
  | set fixed members =>
    obtain rfl := List.length_eq_zero_iff.1 (Option.some.inj h)
    exact ⟨_, fun _ _ => rfl⟩
  | dict ordered entries =>
    obtain rfl := List.length_eq_zero_iff.1 (Option.some.inj h)
    cases ordered <;> exact ⟨_, fun _ _ => rfl⟩
  | byteArray data => exact ⟨_, fun _ _ => rfl⟩
  | _ => cases h

theorem shown_empty {c : Cell} (empty : c.collectionSize? = some 0) :
    ∃ w, ∀ (s : Store) (k : Handle), s.cell? k = some c → s.shown (.shared k) = .ok w := by
  obtain ⟨w, shown⟩ := shownWith_empty empty
  refine ⟨w, fun s k hc => ?_⟩
  change s.cellShown s.showingDepth [] k = .ok w
  obtain ⟨n, hn⟩ : ∃ n, s.showingDepth = n + 1 :=
    Nat.exists_eq_add_one.2 (Nat.mul_pos (Nat.succ_pos _) (Nat.succ_pos _))
  rw [hn]
  unfold cellShown
  simp only [hc]
  split
  · simpa using shown _ _
  · cases empty
  · exact shown _ _

theorem eq_zero_of_countedLength {n : Nat}
    (h : (do .ok ((← countedLength n) != 0) : Except Fault Bool) = .ok false) : n = 0 := by
  unfold countedLength at h
  split at h
  · simpa [bind, Except.bind] using h
  · cases h

theorem KeepsButPasses.shown_absent {s t : Store} {v : Value} (keepsButPasses : s.KeepsButPasses t)
    (h : s.present v = .ok false) : t.shown v = s.shown v := by
  cases v with
  | shared k =>
    unfold present at h
    simp only [collectionSize?] at h
    split at h
    · cases h
    · next n hn =>
      obtain ⟨c, hc, sized⟩ := Option.bind_eq_some_iff.1 hn
      obtain rfl := eq_zero_of_countedLength h
      obtain ⟨w, shown⟩ := shown_empty sized
      have kept : t.cell? k = some c := by
        refine keepsButPasses k c hc ?_
        rintro _ _ rfl
        cases sized
      rw [shown s k hc, shown t k kept]
  | tuple m items | point m items =>
    obtain rfl := List.length_eq_zero_iff.1 (eq_zero_of_countedLength h)
    simp [shown, Value.shownWith, Value.shownAll, Frame.holdsRow]
  | null | unset | text | bytes | classOf | range => simp only [shown, Value.shownWith]
  | _ => cases h

end Store

namespace Builder

variable {h : Handle} {b : Builder} {s : Session}

theorem builder?_copying (r : Request) (hb : s.store.builder? h = some b) :
    ((r.passed s.store).copying ((⟨s.store, r⟩ : RequestAt).bindings b.index)).builder? h =
      some b :=
  builder?_eq_some.2 (Store.KeepsButPasses.copying _ _ _ _
    (Store.KeepsButPasses.request_passed _ r _ _ (builder?_eq_some.1 hb)
      fun _ _ => Cell.noConfusion)
    fun _ _ => Cell.noConfusion)

theorem cell?_request_of_ne {k : Handle} {c : Cell} (r : Request) (hb : s.store.builder? h = some b)
    (other : h ≠ k) (hc : s.store.cell? k = some c)
    (lasts : ∀ generated rest, c ≠ .stream generated rest) :
    ((request h r).result s).2.store.cell? k = some c := by
  rw [store_request hb, Store.cell?_put_of_ne _ _ _ _ other]
  exact Store.KeepsButPasses.copying _ _ _ _
    (Store.KeepsButPasses.request_passed _ r _ _ hc lasts) lasts

theorem bound_request (r : Request) (hb : s.store.builder? h = some b) :
    List.Forall₂ (((request h r).result s).2.store.Bound s.store.size)
      ((⟨s.store, r⟩ : RequestAt).bindings b.index)
      (boundFrom s.store.size ((⟨s.store, r⟩ : RequestAt).bindings b.index)) := by
  have bound := Store.bound_copying (n := s.store.size) (r.passed s.store)
    ((⟨s.store, r⟩ : RequestAt).bindings b.index) (Nat.le_of_eq (size_request_passed ..).symm)
  rw [size_request_passed] at bound
  rw [store_request hb]
  exact bound.imp fun _ _ h => h.put_builder _ (builder?_copying r hb)

end Builder

/-- The operation takes no cell away and changes only those that give each element once. It makes no
field set. -/
structure Operation.KeepsButPasses {α : Type} (x : Operation α) : Prop where
  store : ∀ s : Session, s.store.KeepsButPasses (x.result s).2.store
  made : ∀ s : Session, (x.result s).2.made = s.made

namespace Operation.KeepsButPasses

variable {α β : Type}

theorem of_cells {x : Operation α}
    (h : ∀ s, (x.result s).2.store.cells = s.store.cells ∧ (x.result s).2.made = s.made) :
    KeepsButPasses x :=
  ⟨fun s => .of_cells (h s).1, fun s => (h s).2⟩

@[grind .] theorem pure (a : α) : KeepsButPasses (Pure.pure a) := of_cells fun _ => ⟨rfl, rfl⟩

@[grind .] theorem refuse (f : Fault) : KeepsButPasses (refuse f : Operation α) :=
  of_cells fun _ => ⟨rfl, rfl⟩

@[grind .] theorem theStore : KeepsButPasses theStore := of_cells fun _ => ⟨rfl, rfl⟩

@[grind .] theorem asking (q : Store → Except Fault α) : KeepsButPasses (asking q) :=
  of_cells fun s => by rw [result_asking]; exact ⟨rfl, rfl⟩

@[grind .] theorem note (l : Level) (c : Channel) (m : String) : KeepsButPasses (note l c m) :=
  of_cells fun _ => ⟨rfl, rfl⟩

@[grind .] theorem mark : KeepsButPasses mark := of_cells fun _ => ⟨rfl, rfl⟩

@[grind .] theorem share (c : Cell) : KeepsButPasses (share c) :=
  ⟨fun s => .alloc s.store c, fun _ => rfl⟩

@[grind .] theorem bind {x : Operation α} {f : α → Operation β} (hx : KeepsButPasses x)
    (hf : ∀ a, KeepsButPasses (f a)) : KeepsButPasses (x >>= f) := by
  refine ⟨fun s => ?_, fun s => ?_⟩
  · have h := hx.store s
    rw [result_bind]
    rcases e : x.result s with ⟨r, t⟩
    rw [e] at h
    cases r with
    | error f => exact h
    | ok a => exact h.trans ((hf a).store t)
  · have h := hx.made s
    rw [result_bind]
    rcases e : x.result s with ⟨r, t⟩
    rw [e] at h
    cases r with
    | error f => exact h
    | ok a => exact ((hf a).made t).trans h

@[grind .] theorem fresh (v : Value) : KeepsButPasses (fresh v) := by
  unfold Operation.fresh
  grind

@[grind .] theorem composed (t : String) : KeepsButPasses (composed t) := by
  unfold Operation.composed
  grind

@[grind .] theorem settled (v : Value) : KeepsButPasses (settled v) := by
  unfold Operation.settled
  grind

@[grind .] theorem shown (v : Value) : KeepsButPasses (shown v) := asking _

@[grind .] theorem plain (v : Value) : KeepsButPasses (plain v) := asking _

@[grind .] theorem call (v : Value) : KeepsButPasses (call v) := by
  unfold Operation.call
  grind

theorem mapM_of_mem {f : α → Operation β} {l : List α} (hf : ∀ a ∈ l, KeepsButPasses (f a)) :
    KeepsButPasses (l.mapM f) := by
  induction l with
  | nil => simpa using pure _
  | cons a l ih =>
    have rest := ih fun b hb => hf b (List.mem_cons_of_mem _ hb)
    rw [List.mapM_cons]
    exact (hf a (List.mem_cons_self ..)).bind fun b => rest.bind fun _ => pure _

@[grind .] theorem mapM {f : α → Operation β} (hf : ∀ a, KeepsButPasses (f a)) (l : List α) :
    KeepsButPasses (l.mapM f) :=
  mapM_of_mem fun a _ => hf a

theorem forM {f : α → Operation Unit} (hf : ∀ a, KeepsButPasses (f a)) (l : List α) :
    KeepsButPasses (l.forM f) := by
  induction l with
  | nil => exact pure _
  | cons a l ih => exact (hf a).bind fun _ => ih

@[grind .] theorem drain (v : Value) : KeepsButPasses (drain v) := by
  have passed : ∀ n, KeepsButPasses (modify fun s => { s with store := s.store.passed v n } :
      Operation Unit) := fun n => ⟨fun s => .passed s.store v n, fun _ => rfl⟩
  unfold Operation.drain
  refine (asking _).bind fun items => (passed _).bind fun _ => ?_
  split <;> first | exact mapM fresh _ | exact pure _

@[grind .] theorem told (h : Handle) (name : String) {own : Operation Value}
    (ho : KeepsButPasses own) :
    KeepsButPasses (Builder.told h name own) := by
  unfold Builder.told
  grind

@[grind .] theorem orderText (o : Value) : KeepsButPasses (Builder.orderText o) := by
  unfold Builder.orderText
  grind

@[grind .] theorem reservedArgs (p : Plan) : KeepsButPasses p.reservedArgs := by
  unfold Plan.reservedArgs
  grind

theorem completed (p : Plan) (n : Nat) (fields : Value) :
    KeepsButPasses (p.completed n fields) := by
  have noted : KeepsButPasses (p.conditions.forM Plan.noteCondition) := forM (fun _ => note _ _ _) _
  unfold Plan.completed
  grind

theorem build {b : Builder} {m : Mark} {t : String} (hb : b.base = .text m t) :
    KeepsButPasses b.build := by
  have ordered : ∀ o k w, KeepsButPasses (do Builder.extend (.text k w) (← Builder.orderText o)) :=
    fun o _ _ => (orderText o).bind fun _ => pure _
  have text : ∀ more, Builder.extend (.text m t) more = Pure.pure (.text none (t ++ more)) :=
    fun _ => rfl
  unfold Builder.build
  rw [hb]
  by_cases hc : b.conditions.isEmpty = true
  · simp only [hc, if_true, pure_bind]
    cases b.order with
    | none => exact pure _
    | some o => exact ordered o _ _
  · simp only [hc, text, pure_bind]
    cases b.order with
    | none => exact pure _
    | some o => exact ordered o _ _

theorem buildNoted {b : Builder} {m : Mark} {t : String} (hb : b.base = .text m t) :
    KeepsButPasses b.buildNoted := by
  have := build hb
  unfold Builder.buildNoted
  grind

theorem buildQuery {b : Builder} {m : Mark} {t : String} (h : Handle) (hb : b.base = .text m t) :
    KeepsButPasses (b.buildQuery h) := by
  have := buildNoted hb
  unfold Builder.buildQuery Builder.toldText Builder.argsList
  grind

theorem telling {h : Handle} {b : Builder} {m : Mark} {t name : String} {tell : Operation Value}
    (hb : b.base = .text m t) (ht : Builder.telling? h b name = some tell) :
    KeepsButPasses tell := by
  have := buildNoted hb
  have := buildQuery h hb
  have args : KeepsButPasses b.argsList := share _
  unfold Builder.telling? at ht
  split at ht <;> cases ht <;> grind

end Operation.KeepsButPasses

end Criteria
