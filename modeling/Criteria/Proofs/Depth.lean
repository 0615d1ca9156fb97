import Criteria.Proofs.Reach
import Mathlib.Data.Finset.Card
import Mathlib.Data.Finset.Image

set_option autoImplicit false

namespace Criteria

theorem StopsShort.eq_of_ne {α : Type} {x : Fault} {a b : Except Fault α}
    (h : StopsShort (· = x) a b) (going : a ≠ .error x) : a = b := by
  cases h with
  | stopped h => exact absurd (h ▸ rfl) going
  | same => rfl

/-- What may stop short of its next value, and stays once all of it stays, stays after as many rounds
as there are places. -/
theorem StopsShort.settles {α β : Type} {x : Fault} {f : Nat → α → Except Fault β} (U : Finset α)
    (short : ∀ d, ∀ a ∈ U, StopsShort (· = x) (f d a) (f (d + 1) a))
    (next : ∀ d, (∀ a ∈ U, f d a = f (d + 1) a) → ∀ a ∈ U, f (d + 1) a = f (d + 2) a)
    (d : Nat) (hd : U.card ≤ d) : ∀ a ∈ U, f d a = f (d + 1) a := by
  classical
  let going (d : Nat) : Finset α := U.filter fun a => f d a ≠ .error x
  have same : ∀ d, ∀ a ∈ going d, f d a = f (d + 1) a := fun d a ha =>
    (short d a (Finset.mem_filter.1 ha).1).eq_of_ne (Finset.mem_filter.1 ha).2
  have sub : ∀ d, going d ⊆ going (d + 1) := fun d a ha =>
    Finset.mem_filter.2 ⟨(Finset.mem_filter.1 ha).1, same d a ha ▸ (Finset.mem_filter.1 ha).2⟩
  -- A place that changes was stopped before and is going on behind, so one more of them is.
  have more : ∀ d, (¬ ∀ a ∈ U, f d a = f (d + 1) a) → (going d).card < (going (d + 1)).card := by
    intro d changed
    obtain ⟨a, changed⟩ := not_forall.1 changed
    obtain ⟨ha, other⟩ := Classical.not_imp.1 changed
    have stopped : f d a = .error x := by
      by_contra h
      exact other (same d a (Finset.mem_filter.2 ⟨ha, h⟩))
    refine Finset.card_lt_card ((Finset.ssubset_iff_of_subset (sub d)).2 ⟨a, ?_, ?_⟩)
    · exact Finset.mem_filter.2 ⟨ha, fun e => other (stopped.trans e.symm)⟩
    · exact fun h => (Finset.mem_filter.1 h).2 stopped
  have grown : ∀ d, (¬ ∀ a ∈ U, f d a = f (d + 1) a) → d < (going (d + 1)).card := by
    intro d changed
    induction d with
    | zero => exact Nat.lt_of_le_of_lt (Nat.zero_le _) (more 0 changed)
    | succ d ih => exact Nat.lt_of_le_of_lt (ih fun h => changed (next d h)) (more _ changed)
  by_contra changed
  have le : (going (d + 1)).card ≤ U.card := Finset.card_filter_le _ _
  exact absurd (grown d changed) (Nat.not_lt.2 (le.trans hd))

/-- The cells and rows that may be met of a region among the first `n` cells, with rows below `m`. -/
def Frame.upTo (n m : Nat) : Finset Frame :=
  ((Finset.range n).image fun i => cell ⟨i⟩) ∪ (Finset.range m).image row

def Frame.left (n m : Nat) (around : List Frame) : Nat :=
  ((upTo n m).filter fun f => f ∉ around).card

namespace Frame

variable {n m : Nat} {a : List Frame} {f : Frame}

theorem left_le (n m : Nat) (a : List Frame) : left n m a ≤ n + m := by
  have cells := Finset.card_image_le (s := Finset.range n) (f := fun i => cell ⟨i⟩)
  have rows := Finset.card_image_le (s := Finset.range m) (f := row)
  rw [Finset.card_range] at cells rows
  calc left n m a ≤ (upTo n m).card := Finset.card_filter_le _ _
    _ ≤ _ := Finset.card_union_le _ _
    _ ≤ n + m := Nat.add_le_add cells rows

theorem left_cons_lt (hf : f ∈ upTo n m) (ha : f ∉ a) : left n m (f :: a) < left n m a := by
  have sub : ((upTo n m).filter fun g => g ∉ f :: a) ⊆ (upTo n m).filter fun g => g ∉ a := by
    intro g hg
    rw [Finset.mem_filter] at hg ⊢
    exact ⟨hg.1, fun h => hg.2 (List.mem_cons_of_mem _ h)⟩
  refine Finset.card_lt_card ((Finset.ssubset_iff_of_subset sub).2 ⟨f, ?_, ?_⟩)
  · exact Finset.mem_filter.2 ⟨hf, ha⟩
  · exact fun h => (Finset.mem_filter.1 h).2 (List.mem_cons_self ..)

theorem cell_mem_upTo {k : Handle} (h : k.index < n) : cell k ∈ upTo n m :=
  Finset.mem_union_left _ (Finset.mem_image.2 ⟨k.index, Finset.mem_range.2 h, rfl⟩)

theorem row_mem_upTo {r : Nat} (h : r < m) : row r ∈ upTo n m :=
  Finset.mem_union_right _ (Finset.mem_image.2 ⟨r, Finset.mem_range.2 h, rfl⟩)

end Frame

namespace Store

/-- The region lies among the first `n` cells, and the marks of its rows are below `m`. -/
structure Bounded (s : Store) (R : Handle → Prop) (n m : Nat) : Prop where
  cells : ∀ k, R k → k.index < n
  rows : ∀ k, R k → ∀ c, s.cell? k = some c → ∀ v ∈ c.held, ∀ r ∈ v.rows, r < m

theorem cellShown_short (s : Store) (d : Nat) (a : List Frame) (k : Handle) :
    StopsShort (· = .endless .showing) (s.cellShown d a k) (s.cellShown (d + 1) a k) := by
  induction d generalizing a k with
  | zero => exact .stopped (E := (· = .endless .showing)) rfl _
  | succ d ih =>
    have l : Look.Within (fun _ => True) (fun _ => True) Eq (· = .endless .showing) (s.cellShown d)
      (s.cellShown (d + 1)) := .of_eq fun a k _ => ih a k
    exact cellShown_succ l rfl ⟨rfl, fun _ _ => rfl⟩
      (fun _ _ _ _ => ⟨fun _ _ => trivial, fun _ _ => trivial⟩) rfl .rfl fun _ => rfl

theorem cellFingerprint_short (s : Store) (d : Nat) (k : Handle) :
    StopsShort (· = .endless .keying) (s.cellFingerprint d k) (s.cellFingerprint (d + 1) k) := by
  induction d generalizing k with
  | zero => exact .stopped (E := (· = .endless .keying)) rfl _
  | succ d ih =>
    exact cellFingerprint_succ (R := fun _ => True) (fun j _ => ih j) rfl
      fun _ _ _ _ _ _ => trivial

namespace Bounded

variable {hs : List Handle} {s : Store} {R : Handle → Prop} {n m : Nat} (b : Bounded s R n m)
  (g : Region hs s R)

include b

theorem finite [DecidablePred R] :
    ∃ U : Finset Handle, (∀ k, k ∈ U ↔ R k) ∧ U.card ≤ n := by
  refine ⟨((Finset.range n).image Handle.mk).filter R, fun k => ?_, ?_⟩
  · rw [Finset.mem_filter, Finset.mem_image, and_iff_right_iff_imp]
    exact fun hk => ⟨k.index, Finset.mem_range.2 (b.cells k hk), rfl⟩
  · calc _ ≤ ((Finset.range n).image Handle.mk).card := Finset.card_filter_le _ _
      _ ≤ (Finset.range n).card := Finset.card_image_le
      _ = n := Finset.card_range n

include g

/-- Each collection that is entered takes at most as many steps as there are cells. -/
theorem cellShown_settled {a : List Frame} {d : Nat} (hd : (Frame.left n m a + 1) * (n + 1) ≤ d) :
    ∀ k, R k → s.cellShown d a k = s.cellShown (d + 1) a k := by
  classical
  induction hl : Frame.left n m a using Nat.strong_induction_on generalizing a d with
  | _ l ih =>
    subst hl
    obtain ⟨U, mem, card⟩ := b.finite
    let base := Frame.left n m a * (n + 1)
    have deeper : ∀ {x : List Frame} (d : Nat), Frame.left n m x < Frame.left n m a → ∀ k, R k →
        s.cellShown (base + d) x k = s.cellShown (base + d + 1) x k := fun {x} d lt =>
      ih _ lt (Nat.le_add_right_of_le (Nat.mul_le_mul_right _ lt)) rfl
    have settled := StopsShort.settles (x := .endless .showing)
      (f := fun d k => s.cellShown (base + d) a k) U
      (fun d k _ => s.cellShown_short (base + d) a k) (fun d same k hk => by
        have l : Look.Within R (· < m)
            (fun x y => x = y ∧ (x = a ∨ Frame.left n m x < Frame.left n m a)) (fun _ => False)
            (s.cellShown (base + d)) (s.cellShown (base + d + 1)) := by
          refine ⟨?_, fun e _ _ => by rw [e.1], ?_⟩
          · rintro x _ ⟨rfl, rfl | lt⟩ j hj
            · exact .of_eq (same j ((mem j).2 hj))
            · exact .of_eq (deeper d lt j hj)
          · rintro x _ ⟨rfl, e⟩ r hr out
            have lt := Frame.left_cons_lt (Frame.row_mem_upTo (n := n) hr) out
            exact ⟨rfl, .inr (e.elim (fun e => e ▸ lt) lt.trans)⟩
        have hk := (mem k).1 hk
        refine (cellShown_succ l rfl ⟨rfl, fun _ _ => rfl⟩ (fun c hc v hv =>
          ⟨g.closed k hk c hc v hv, b.rows k hk c hc v hv⟩) ⟨rfl, .inl rfl⟩ .rfl fun out => ?_).eq
        exact ⟨rfl, .inr (Frame.left_cons_lt (Frame.cell_mem_upTo (b.cells k hk)) out)⟩)
    obtain ⟨e, rfl⟩ := Nat.exists_eq_add_of_le (show base ≤ d by
      rw [Nat.succ_mul] at hd
      exact Nat.le_of_add_right_le hd)
    have he : U.card ≤ e := by
      rw [Nat.succ_mul] at hd
      omega
    exact fun k hk => settled e he k ((mem k).2 hk)

theorem cellShown_eq {a : List Frame} {d e : Nat} (hd : (n + m + 1) * (n + 1) ≤ d) (he : d ≤ e)
    {k : Handle} (hk : R k) : s.cellShown d a k = s.cellShown e a k := by
  induction e, he using Nat.le_induction with
  | base => rfl
  | succ e le ih =>
    have enough : (Frame.left n m a + 1) * (n + 1) ≤ e :=
      (Nat.mul_le_mul_right _ (Nat.succ_le_succ (Frame.left_le n m a))).trans (hd.trans le)
    exact ih.trans (b.cellShown_settled g enough k hk)

theorem cellFingerprint_eq {d e : Nat} (hd : n ≤ d) (he : d ≤ e) {k : Handle} (hk : R k) :
    s.cellFingerprint d k = s.cellFingerprint e k := by
  classical
  obtain ⟨U, mem, card⟩ := b.finite
  induction e, he using Nat.le_induction with
  | base => rfl
  | succ e le ih =>
    have settled := StopsShort.settles (f := fun d k => s.cellFingerprint d k) U
      (fun d k _ => s.cellFingerprint_short d k) (fun d same k hk =>
        (cellFingerprint_succ (fun j hj => .of_eq (same j ((mem j).2 hj))) rfl
          (g.closed k ((mem k).1 hk))).eq) e (card.trans (hd.trans le))
    exact ih.trans (settled k ((mem k).2 hk))

end Bounded

end Store

end Criteria
