import Criteria.Proofs.Confinement
import Criteria.Proofs.Depth
import Criteria.Proofs.SameBefore
import Criteria.Proofs.SameToCallers

set_option autoImplicit false

namespace Criteria

namespace Store

inductive Reaches (s : Store) : Value → Value → Prop where
  | here (v : Value) : Reaches s v v
  | held {v w x : Value} {k : Handle} {c : Cell} :
      k ∈ v.handles → s.cell? k = some c → w ∈ c.held → Reaches s w x → Reaches s v x
  | given {v w x : Value} {k : Handle} {name : String} :
      k ∈ v.handles → s.givenTo? (.shared k) name = some w → Reaches s w x → Reaches s v x

/-- No cell that the value leads to is missing, and no mark of a row is still to be given. -/
def Has (s : Store) (v : Value) : Prop :=
  ∀ w, s.Reaches v w → (∀ k ∈ w.handles, k.index < s.size) ∧ ∀ m ∈ w.rows, m < s.marks

namespace Has

variable {s : Store} {v w : Value} {k : Handle}

theorem of_nil (hs : v.handles = []) (ms : v.rows = []) : s.Has v := by
  have none {k : Handle} : k ∉ v.handles := fun hk => absurd (hs ▸ hk) List.not_mem_nil
  intro w hw
  cases hw with
  | here => exact ⟨fun k hk => absurd hk none, fun m hm => absurd (ms ▸ hm) List.not_mem_nil⟩
  | held hk => exact absurd hk none
  | given hk => exact absurd hk none

theorem of_mem (h : s.Has v) (hk : k ∈ v.handles) : s.Has (.shared k) := by
  intro x hx
  cases hx with
  | here =>
    refine ⟨fun j hj => ?_, fun m hm => absurd hm List.not_mem_nil⟩
    cases List.mem_singleton.1 hj
    exact (h v (.here v)).1 k hk
  | held hj hc hw hx =>
    cases List.mem_singleton.1 hj
    exact h x (.held hk hc hw hx)
  | given hj hg hx =>
    cases List.mem_singleton.1 hj
    exact h x (.given hk hg hx)

theorem held {c : Cell} (h : s.Has (.shared k)) (hc : s.cell? k = some c) (hw : w ∈ c.held) :
    s.Has w := fun _ hx => h _ (.held (List.mem_singleton.2 rfl) hc hw hx)

theorem given {name : String} (h : s.Has (.shared k))
    (hg : s.givenTo? (.shared k) name = some w) : s.Has w :=
  fun _ hx => h _ (.given (List.mem_singleton.2 rfl) hg hx)

theorem exists_cell (h : s.Has (.shared k)) : ∃ c, s.cell? k = some c :=
  ⟨_, List.getElem?_eq_getElem ((h _ (.here _)).1 k (List.mem_singleton.2 rfl))⟩

end Has

def Clear (hs : List Handle) (s : Store) (k : Handle) : Prop :=
  ¬ s.LeadsTo hs (.shared k) ∧ s.Has (.shared k)

theorem region_clear (hs : List Handle) (s : Store) : Region hs s (s.Clear hs) := by
  have region := s.region_of_leadsTo hs
  refine ⟨fun k hk => region.off k hk.1, fun k hk c hc w hw j hj => ⟨?_, ?_⟩⟩
  · exact region.closed k hk.1 c hc w hw j hj
  · exact (hk.2.held hc hw).of_mem hj

theorem bounded_clear (hs : List Handle) (s : Store) : s.Bounded (s.Clear hs) s.size s.marks :=
  ⟨fun k hk => (hk.2 _ (.here _)).1 k (List.mem_singleton.2 rfl),
    fun _ hk _ hc v hv => (hk.2.held hc hv v (.here v)).2⟩

theorem within_clear {hs : List Handle} {s : Store} {v : Value} (apart : ¬ s.LeadsTo hs v)
    (has : s.Has v) : v.Within (s.Clear hs) :=
  fun k hk => ⟨within_of_not_leadsTo apart k hk, has.of_mem hk⟩

/-- The second store has all of the first, but for what is in the builders `hs`. -/
structure Grown (hs : List Handle) (s t : Store) : Prop where
  size : s.size ≤ t.size
  marks : s.marks ≤ t.marks
  extras : s.extras = t.extras
  cell : ∀ k c, s.cell? k = some c →
    t.cell? k = some c ∨ k ∈ hs ∧ ∃ b d, c = .builder b ∧ t.cell? k = some (.builder d)

namespace Grown

variable {hs : List Handle} {s t u : Store}

theorem refl (hs : List Handle) (s : Store) : Grown hs s s :=
  ⟨Nat.le_refl _, Nat.le_refl _, rfl, fun _ _ => .inl⟩

theorem trans (w : Grown hs s t) (x : Grown hs t u) : Grown hs s u := by
  refine ⟨w.size.trans x.size, w.marks.trans x.marks, w.extras.trans x.extras, fun k c hc => ?_⟩
  rcases w.cell k c hc with h | ⟨hk, b, d, rfl, h⟩
  · exact x.cell k c h
  · rcases x.cell k _ h with h | ⟨-, d', e, -, h⟩
    · exact .inr ⟨hk, b, d, rfl, h⟩
    · exact .inr ⟨hk, b, e, rfl, h⟩

theorem mark (hs : List Handle) (s : Store) : Grown hs s s.mark.2 :=
  ⟨Nat.le_refl _, Nat.le_add_right .., rfl, fun _ _ => .inl⟩

theorem alloc (hs : List Handle) (s : Store) (c : Cell) : Grown hs s (s.alloc c).2 :=
  ⟨by simp [Store.alloc, Store.size], Nat.le_refl _, rfl,
    fun _ _ hd => .inl (cell?_alloc_of_some _ _ _ _ hd)⟩

theorem copying (hs : List Handle) (s : Store) (bs : List Binding) :
    Grown hs s (s.copying bs) := by
  induction bs generalizing s with
  | nil => exact refl hs s
  | cons x xs ih =>
    cases x with
    | itself v => exact ih s
    | copy name items => exact (alloc hs s (.list items)).trans (ih _)

theorem put {h : Handle} {b : Builder} (hh : h ∈ hs) (hb : s.builder? h = some b) (c : Builder) :
    Grown hs s (s.put h (.builder c)) := by
  have there := Builder.builder?_eq_some.1 hb
  refine ⟨by simp [Store.put, Store.size], Nat.le_refl _, rfl, fun k d hd => ?_⟩
  by_cases e : h = k
  · subst e
    cases there.symm.trans hd
    exact .inr ⟨hh, b, c, rfl, cell?_put_self _ _ _ _ there⟩
  · exact .inl ((cell?_put_of_ne _ _ _ _ e).trans hd)

theorem request_passed {r : Request} (hs : List Handle) (hl : (⟨s, r⟩ : RequestAt).Lasting) :
    Grown hs s (r.passed s) := by
  rcases hl.passed with e | e <;> rw [e]
  · exact refl hs s
  · exact mark hs s

theorem request {h : Handle} {b : Builder} {r : Request} {s : Session} (hh : h ∈ hs)
    (hb : s.store.builder? h = some b) (hl : (⟨s.store, r⟩ : RequestAt).Lasting) :
    Grown hs s.store ((Builder.request h r).result s).2.store := by
  rw [Builder.store_request hb]
  exact ((request_passed hs hl).trans (copying hs _ _)).trans
    (put hh (Builder.builder?_copying r hb) _)

variable (w : Grown hs s t)

include w

theorem sameButHeld {v : Value} (hv : ∀ k ∈ v.handles, k.index < s.size) : s.SameButHeld t v := by
  cases v with
  | shared k =>
    have lt := hv k (List.mem_singleton.2 rfl)
    have hc : s.cell? k = some s.cells[k.index] := List.getElem?_eq_getElem lt
    unfold SameButHeld
    simp only [cellOf?]
    rcases w.cell k _ hc with h | ⟨-, b, d, e, h⟩
    · rw [h, hc]
      exact .some (.same _)
    · rw [h, hc, e]
      exact .some (.builder b d)
  | _ => exact .none

theorem cell?_list {k : Handle} {items : List Value} (hc : s.cell? k = some (.list items)) :
    t.cell? k = some (.list items) := by
  rcases w.cell k _ hc with h | ⟨-, _, _, e, -⟩
  · exact h
  · cases e

theorem cell_eq {k : Handle} (hk : s.Clear hs k) : s.cell? k = t.cell? k := by
  obtain ⟨c, hc⟩ := hk.2.exists_cell
  rcases w.cell k c hc with h | ⟨hm, -⟩
  · rw [h, hc]
  · exact absurd hm ((region_clear hs s).off k hk)

theorem calledAlike {k : Handle} (hk : s.Clear hs k) : CalledAlike s t k := by
  have given_eq : s.givenTo? (.shared k) "args" = t.givenTo? (.shared k) "args" :=
    givenTo?_congr (w.cell_eq hk) w.extras _
  refine ⟨given_eq, fun v hv => ?_⟩
  exact called_congr (w.sameButHeld (hk.2.given hv v (.here v)).1).longName_eq

theorem readAlike : ReadAlike (s.Clear hs) s t := by
  have g := region_clear hs s
  have b := bounded_clear hs s
  have deep : (s.size + s.marks + 1) * (s.size + 1) ≤ (t.size + t.marks + 1) * (t.size + 1) :=
    Nat.mul_le_mul (Nat.succ_le_succ (Nat.add_le_add w.size w.marks)) (Nat.succ_le_succ w.size)
  have shown : ∀ d a k, s.Clear hs k → s.cellShown d a k = t.cellShown d a k := by
    intro d
    induction d with
    | zero => exact fun _ _ _ => rfl
    | succ d ih =>
      intro a k hk
      have l : Look.Within (s.Clear hs) (fun _ => True) Eq (fun _ => False) (s.cellShown d)
        (t.cellShown d) := .of_eq fun a j hj => .of_eq (ih a j hj)
      exact (cellShown_succ l (w.cell_eq hk) (w.calledAlike hk)
        (fun c hc v hv => ⟨g.closed k hk c hc v hv, fun _ _ => trivial⟩) rfl .rfl fun _ => rfl).eq
  have prints : ∀ d k, s.Clear hs k → s.cellFingerprint d k = t.cellFingerprint d k := by
    intro d
    induction d with
    | zero => exact fun _ _ => rfl
    | succ d ih =>
      exact fun k hk => (cellFingerprint_succ (fun j hj => .of_eq (ih j hj)) (w.cell_eq hk)
        (g.closed k hk)).eq
  refine ⟨fun k hk => w.cell_eq hk, fun a k hk => ?_, fun k hk => ?_⟩
  · exact (b.cellShown_eq g (Nat.le_refl _) deep hk).trans (shown _ a k hk)
  · exact (b.cellFingerprint_eq g (Nat.le_succ _) (Nat.succ_le_succ w.size) hk).trans (prints _ k hk)

end Grown

namespace ReadAlike

variable {hs : List Handle} {R : Handle → Prop} {s t u : Store}

theorem symm (w : ReadAlike R s t) : ReadAlike R t s :=
  ⟨fun k hk => (w.cell k hk).symm, fun a k hk => (w.look a k hk).symm,
    fun k hk => (w.print k hk).symm⟩

theorem trans (w : ReadAlike R s t) (x : ReadAlike R t u) : ReadAlike R s u :=
  ⟨fun k hk => (w.cell k hk).trans (x.cell k hk), fun a k hk => (w.look a k hk).trans (x.look a k hk),
    fun k hk => (w.print k hk).trans (x.print k hk)⟩

theorem region (w : ReadAlike R s t) (g : Region hs s R) : Region hs t R :=
  ⟨g.off, fun k hk c hc => g.closed k hk c ((w.cell k hk).trans hc)⟩

theorem bounded {n m : Nat} (w : ReadAlike R s t) (b : s.Bounded R n m) : t.Bounded R n m :=
  ⟨b.cells, fun k hk c hc => b.rows k hk c ((w.cell k hk).trans hc)⟩

end ReadAlike

end Store

/-- The request uses up nothing that gives each element once, and it is made of values that lead to none
of `hs` and to nothing that is missing. -/
structure RequestAt.Apart (hs : List Handle) (t : RequestAt) : Prop where
  lasting : t.Lasting
  apart : ∀ v ∈ t.request.operands, ¬ t.store.LeadsTo hs v
  has : ∀ v ∈ t.request.operands, t.store.Has v

theorem RequestAt.Apart.of_nil {hs : List Handle} {t : RequestAt} (lasting : t.Lasting)
    (handles : ∀ v ∈ t.request.operands, v.handles = [])
    (rows : ∀ v ∈ t.request.operands, v.rows = []) : t.Apart hs :=
  ⟨lasting, fun v hv => Store.not_leadsTo_of_nil (handles v hv),
    fun v hv => .of_nil (handles v hv) (rows v hv)⟩

theorem RequestAt.Apart.within {hs : List Handle} {t : RequestAt} (h : t.Apart hs) :
    ∀ v ∈ t.request.operands, v.Within (t.store.Clear hs) :=
  fun v hv => Store.within_clear (h.apart v hv) (h.has v hv)

structure Frame.Alike (R : Handle → Prop) (a b : List Frame) : Prop where
  cell : ∀ k, R k → (Frame.cell k ∈ a ↔ Frame.cell k ∈ b)
  row : ∀ m, Frame.row m ∈ a ↔ Frame.row m ∈ b

theorem Frame.Alike.cons {R : Handle → Prop} {a b : List Frame} (h : Alike R a b) (f : Frame) :
    Alike R (f :: a) (f :: b) :=
  ⟨fun k hk => by simp only [List.mem_cons, h.cell k hk],
    fun m => by simp only [List.mem_cons, h.row m]⟩

namespace Store

variable {hs : List Handle} {R : Handle → Prop} {s t : Store} {n m : Nat}

theorem Region.cellShown_around (g : Region hs s R) (d : Nat) {a b : List Frame}
    (h : Frame.Alike R a b) {k : Handle} (hk : R k) : s.cellShown d a k = s.cellShown d b k := by
  induction d generalizing a b k with
  | zero => rfl
  | succ d ih =>
    have l : Look.Within R (fun _ => True) (Frame.Alike R) (fun _ => False) (s.cellShown d)
        (s.cellShown d) :=
      ⟨fun h j hj => .of_eq (ih h hj), fun h m _ => h.row m, fun h m _ _ => h.cons _⟩
    exact (cellShown_succ l rfl ⟨rfl, fun _ _ => rfl⟩
      (fun c hc v hv => ⟨g.closed k hk c hc v hv, fun _ _ => trivial⟩) h (h.cell k hk)
      fun _ => h.cons _).eq

/-- A list behind the region is shown with the items as they are shown alone. -/
theorem Bounded.shown_list (b : s.Bounded R n m) (g : Region hs s R) (hm : m ≤ s.marks)
    {k : Handle} {items : List Value} (hk : n ≤ k.index) (hc : s.cell? k = some (.list items))
    (within : ∀ v ∈ items, v.Within R) : s.shown (.shared k) = s.shownList items := by
  have hn : n < s.size := Nat.lt_of_le_of_lt hk (lt_size_of_cell? hc)
  obtain ⟨d, hd, deep⟩ : ∃ d, s.showingDepth = d + 1 ∧ (n + m + 1) * (n + 1) ≤ d := by
    have enough : (n + m + 1) * (n + 1) < s.showingDepth :=
      Nat.mul_lt_mul_of_le_of_lt (by omega) (by omega) (by omega)
    exact ⟨s.showingDepth - 1, by omega, by omega⟩
  have l : Look.Within R (fun _ => True) (Frame.Alike R) (fun _ => False) (s.cellShown d) s.look := by
    refine ⟨fun h j hj => .of_eq ?_, fun h m _ => h.row m, fun h m _ _ => h.cons _⟩
    rw [look, hd, g.cellShown_around d h hj]
    exact b.cellShown_eq g deep (Nat.le_succ d) hj
  have apart : Frame.Alike R [Frame.cell k] [] := by
    refine ⟨fun j hj => ?_, by simp⟩
    have other : j ≠ k := fun e => absurd (b.cells j hj) (Nat.not_lt.2 (e ▸ hk))
    simpa using other
  have items_eq := (Value.shownAll_within l items within (fun _ _ _ _ => trivial) apart).eq
  change s.cellShown s.showingDepth [] k = _
  rw [hd, cellShown, hc]
  simp [Cell.innerText?, Cell.shownWith, items_eq, shownList]

theorem Bound.le {k : Nat} {x : Binding} {v : Value} (h : s.Bound n x v) (hk : k ≤ n) :
    s.Bound k x v := by
  cases h with
  | itself => exact .itself v
  | copy hn hc => exact .copy (hk.trans hn) hc

theorem Bound.grown {x : Binding} {v : Value} (w : Grown hs s t) (h : s.Bound n x v) :
    t.Bound n x v := by
  cases h with
  | itself => exact .itself v
  | copy hn hc => exact .copy hn (w.cell?_list hc)

theorem ReadAlike.shownList_bound (w : ReadAlike R s t) (g : Region hs s R) (b : s.Bounded R n m)
    (hs' : m ≤ s.marks) (ht : m ≤ t.marks) {xs ys : List Binding} {vs ws : List Value}
    (rel : List.Forall₂ (Binding.Rel Value.SameWords) xs ys) (hx : List.Forall₂ (s.Bound n) xs vs)
    (hy : List.Forall₂ (t.Bound n) ys ws) (within : ∀ x ∈ xs, ∀ v ∈ x.values, v.Within R) :
    s.shownList vs = t.shownList ws := by
  have all_eq : Value.shownAll s.look [] vs = Value.shownAll t.look [] ws := by
    induction rel generalizing vs ws with
    | nil =>
      cases hx
      cases hy
      rfl
    | @cons x y xs ys first _ ih =>
      obtain ⟨v, vs, bound, rest, rfl⟩ := List.forall₂_cons_left_iff.1 hx
      obtain ⟨v', ws, bound', rest', rfl⟩ := List.forall₂_cons_left_iff.1 hy
      have within_x := within x (List.mem_cons_self ..)
      have shown_eq : s.shown v = t.shown v' := by
        cases first with
        | itself echoes =>
          cases bound
          cases bound'
          cases echoes with
          | same => exact w.shown_eq (within_x _ (List.mem_singleton.2 rfl))
          | text => rfl
        | copy name items =>
          cases bound with
          | copy hk hc =>
            cases bound' with
            | copy hk' hc' =>
              have items_eq : s.shownList items = t.shownList items := w.shownList_eq within_x
              rw [b.shown_list g hs' hk hc within_x, items_eq,
                (w.bounded b).shown_list (w.region g) ht hk' hc' within_x]
      have rest_eq := ih rest rest' fun z hz => within z (List.mem_cons_of_mem _ hz)
      simp only [Store.shown] at shown_eq
      simp only [Value.shownAll, shown_eq, rest_eq]
  rw [shownList, shownList, all_eq]

/-- Equal arguments: one value, texts of the same words, or lists of the same items. -/
inductive SameArgument (s : Store) : Value → Value → Prop where
  | sameWords {v w : Value} (h : v.SameWords w) : SameArgument s v w
  | lists {h k : Handle} {items : List Value} (hh : s.cell? h = some (.list items))
      (hk : s.cell? k = some (.list items)) : SameArgument s (.shared h) (.shared k)

theorem SameArgument.grown (w : Grown hs s t) {v x : Value} (h : s.SameArgument v x) :
    t.SameArgument v x := by
  cases h with
  | sameWords h => exact .sameWords h
  | lists hh hk => exact .lists (w.cell?_list hh) (w.cell?_list hk)

theorem sameArgument_of_bound {xs ys : List Binding} {vs ws : List Value} {k : Nat}
    (rel : List.Forall₂ (Binding.Rel Value.SameWords) xs ys) (hx : List.Forall₂ (s.Bound n) xs vs)
    (hy : List.Forall₂ (s.Bound k) ys ws) : List.Forall₂ s.SameArgument vs ws := by
  induction rel generalizing vs ws with
  | nil =>
    cases hx
    cases hy
    exact .nil
  | cons first _ ih =>
    obtain ⟨v, vs, bound, rest, rfl⟩ := List.forall₂_cons_left_iff.1 hx
    obtain ⟨w, ws, bound', rest', rfl⟩ := List.forall₂_cons_left_iff.1 hy
    refine .cons ?_ (ih rest rest')
    cases first with
    | itself echoes =>
      cases bound
      cases bound'
      exact .sameWords echoes
    | copy name items =>
      cases bound with
      | copy _ hc =>
        cases bound' with
        | copy _ hc' => exact .lists hc hc'

end Store

theorem Ruling.Rel.of_add {E : Value → Value → Prop} (refl : ∀ v, E v v) {c : Clause}
    {xs : List Binding} {y : Ruling} (h : Ruling.Rel E (.add c xs) y) :
    ∃ ys, y = .add c ys ∧ List.Forall₂ (Binding.Rel E) xs ys := by
  cases h with
  | add _ h => exact ⟨_, rfl, h⟩
  | same =>
    refine ⟨xs, rfl, List.forall₂_same.2 fun x _ => ?_⟩
    cases x with
    | itself v => exact .itself (refl v)
    | copy name items => exact .copy name items

theorem Ruling.Rel.startingAt {E : Value → Value → Prop} {x y : Ruling} (h : x.Rel E y) (n : Nat) :
    (x.startingAt n).Rel E (y.startingAt n) := by
  cases h with
  | same => exact .same _
  | add c h =>
    simp only [Ruling.startingAt]
    split
    · exact .same _
    · exact .add c h

theorem Ruling.both_startingAt {E : Value → Value → Prop} {x y : Except Fault Ruling}
    (h : Both (Ruling.Rel E) x y) (n : Nat) :
    Both (Ruling.Rel E) (x.map (Ruling.startingAt n)) (y.map (Ruling.startingAt n)) := by
  cases h with
  | error f => exact .error f
  | ok h => exact .ok (h.startingAt n)

namespace Builder

open Store

variable {hs : List Handle} {h k : Handle} {a b : Builder} {r : Request} {s t : Session}

theorem RequestAt.Lasting.grown {s t : Store} (w : Grown hs s t) (hl : (⟨s, r⟩ : RequestAt).Lasting)
    (hr : ∀ v ∈ r.operands, v.Within (s.Clear hs)) : (⟨t, r⟩ : RequestAt).Lasting := by
  intro fields value mode e generated rest hc
  have e : r = .likeAny fields value mode := e
  have within := hr fields (by simp [e, Request.operands])
  refine hl fields value mode e generated rest ?_
  cases fields with
  | shared j =>
    exact (w.cell_eq (within j (List.mem_singleton.2 rfl))).trans hc
  | _ => cases hc

theorem rule_grown {s t : Store} (w : Grown hs s t)
    (hr : ∀ v ∈ r.operands, v.Within (s.Clear hs)) :
    Both (Ruling.Rel Value.SameWords) (r.rule s) (r.rule t) :=
  w.readAlike.rule_both (region_clear hs s) .same (fun _ => .text ..) hr

/-- A request that was made to one builder gives the same when it is made to another one behind it. -/
theorem fst_request_grown (w : Grown hs s.store t.store) (hh : h ∈ hs) (hk : k ∈ hs)
    (ha : s.store.builder? h = some a) (hb : t.store.builder? k = some b) (hi : a.index = b.index)
    (hl : (⟨s.store, r⟩ : RequestAt).Lasting) (hr : ∀ v ∈ r.operands, v.Within (s.store.Clear hs)) :
    ((request h r).result s).1 = ((request k r).result t).1 := by
  have g := region_clear hs s.store
  have bounded := bounded_clear hs s.store
  have hl' := RequestAt.Lasting.grown w hl hr
  have ruled := rule_grown w hr
  have first := Grown.request hh ha hl
  have second := w.trans (Grown.request hk hb hl')
  have after := first.readAlike.symm.trans second.readAlike
  have bound := bound_request r ha
  have bound' := bound_request r hb
  simp only [RequestAt.bindings, RequestAt.ruling] at bound bound'
  generalize ea : r.rule s.store = x at ruled bound
  generalize eb : r.rule t.store = y at ruled bound'
  cases ruled with
  | error f => rw [result_request_of_error ha ea, result_request_of_error hb eb]
  | @ok x y rel =>
    have rel := rel.startingAt a.index
    have within := (g.within_rule hr x ea).startingAt a.index
    rw [result_request_of_ok ha ea] at first after bound ⊢
    rw [result_request_of_ok hb eb, ← hi] at second after bound' ⊢
    simp only [Except.map] at bound bound'
    generalize x.startingAt a.index = x at *
    generalize y.startingAt a.index = y at *
    cases x with
    | skip path operation value =>
      cases rel
      have passed := (Grown.request_passed hs hl).readAlike.symm.trans
        (w.trans (Grown.request_passed hs hl')).readAlike
      simp only [carryOut, fst_noted, skipRecord, passed.shown_eq within]
    | add clause xs =>
      obtain ⟨ys, rfl, same⟩ := rel.of_add .same
      have shown_eq := after.shownList_bound (first.readAlike.region g)
        (first.readAlike.bounded bounded) first.marks second.marks same bound
        (bound'.imp fun _ _ h => h.le w.size) within
      rw [fst_carryOut_add, fst_carryOut_add, size_request_passed, size_request_passed]
      simp only [addRecord, shown_eq, hi]
    | tear spent f =>
      cases rel
      rfl
    | order clause =>
      cases rel
      rw [fst_carryOut_order, fst_carryOut_order]
      cases clause with
      | none => rfl
      | some o => simp only [orderRecord, after.shown_eq (within o rfl)]

end Builder

end Criteria
