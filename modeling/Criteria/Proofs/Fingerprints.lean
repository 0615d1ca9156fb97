import Criteria.Proofs.Reach

/-! What equal values have in common as keys. Values without parts that are equal have one
fingerprint, and so have fields of one path. From the cells on, that fingerprints agree goes over to
tuples and to queries inside one another. Whether there is a fingerprint at all is told by the cells
that are named.
-/

set_option autoImplicit false

namespace Criteria

namespace Fingerprint

mutual

theorem agrees_refl (f : Fingerprint) : f.agrees f = true := by
  cases f with
  | row items => exact rowAgrees_refl items
  | bunch size odd =>
    have within := bunchWithin_of_subset odd odd fun _ => id
    simp only [agrees, beq_self_eq_true, within, Bool.and_self]
  | _ => simp only [agrees, beq_self_eq_true]

theorem rowAgrees_refl (fs : List Fingerprint) : rowAgrees fs fs = true := by
  cases fs with
  | nil => rfl
  | cons f fs => simp only [rowAgrees, agrees_refl f, rowAgrees_refl fs, Bool.and_self]

theorem bunchWithin_of_subset (fs gs : List Fingerprint) (h : ∀ f ∈ fs, f ∈ gs) :
    bunchWithin fs gs = true := by
  cases fs with
  | nil => rfl
  | cons f fs =>
    have found : gs.any (agrees f) = true :=
      List.any_eq_true.2 ⟨f, h f (List.mem_cons_self ..), agrees_refl f⟩
    have rest := bunchWithin_of_subset fs gs fun g hg => h g (List.mem_cons_of_mem _ hg)
    simp only [bunchWithin, found, rest, Bool.and_self]

end

theorem ofRange_eq {a b c d e f : Int} (h : rangeKey a b c = rangeKey d e f) :
    ofRange a b c = ofRange d e f := by
  unfold rangeKey at h
  unfold ofRange
  generalize rangeSize a b c = m at h
  generalize rangeSize d e f = n at h
  match m, n with
  | 0, 0 => rfl
  | 1, 1 => simp_all
  | m + 2, n + 2 =>
    simp only [List.cons.injEq, and_true] at h
    obtain ⟨size, rfl, rfl⟩ := h
    have same : m = n := by omega
    rw [same]
  | 0, 1 | 1, 0 | 0, n + 2 | m + 2, 0 | 1, n + 2 | m + 2, 1 => simp at h

end Fingerprint

namespace Value

theorem fingerprintWith_of_atomEqual {v w : Value} (h : v.atomEqual w = true)
    (look : Handle → Except Fault Fingerprint) :
    w.fingerprintWith look = .ok w.atomFingerprint := by
  have apart (none_eq : w.number? = none) (other : ∀ v : Value, v.number? = none →
      v.atomEqual w = false) : False := by
    cases hv : v.number? with
    | some n => simp [atomEqual, hv, none_eq] at h
    | none => exact Bool.false_ne_true ((other v hv).symm.trans h)
  cases w with
  | tuple m items | point m items | query m t a | shared k =>
    refine (apart rfl fun v hv => ?_).elim
    unfold atomEqual
    rw [hv]
    cases v <;> rfl
  | _ => rfl

theorem atomFingerprint_eq {v w : Value} (h : v.atomEqual w = true) :
    v.atomFingerprint = w.atomFingerprint := by
  unfold atomEqual at h
  unfold atomFingerprint
  cases hv : v.number? with
  | some m =>
    cases hw : w.number? with
    | some n =>
      rw [hv, hw] at h
      rw [eq_of_beq h]
    | none => simp [hv, hw] at h
  | none =>
    cases hw : w.number? with
    | some n => simp [hv, hw] at h
    | none =>
      rw [hv, hw] at h
      cases v with
      | range m a b c =>
        cases w with
        | range n d e f => exact Fingerprint.ofRange_eq (eq_of_beq h)
        | _ => cases h
      | _ => cases w <;> simp_all

end Value

def Cell.unprinted : Cell → Bool
  | list _ | deque _ | set false _ | dict .. | byteArray _ | fieldSet _ => true
  | undefined .signaling _ => true
  | _ => false

namespace Store

/-- What has no fingerprint: what can change, and the tuples and the queries that it is in. -/
inductive Unprinted (s : Store) : Value → Prop where
  | cell {h : Handle} {c : Cell} : s.cell? h = some c → c.unprinted = true → Unprinted s (.shared h)
  | row {v w : Value} {items : List Value} :
      v.row? = some items → w ∈ items → Unprinted s w → Unprinted s v
  | text {m : Mark} {t args : Value} : Unprinted s t → Unprinted s (.query m t args)
  | args {m : Mark} {t args : Value} : Unprinted s args → Unprinted s (.query m t args)

def Pathed (s : Store) (R : Handle → Prop) : Prop :=
  ∀ h, R h → ∀ p, s.cell? h = some (.field p) → ∃ m t, p = some (.text m t)

variable {s : Store} {R : Handle → Prop}

theorem fingerprint_of_unprinted {h : Handle} {c : Cell} (hc : s.cell? h = some c)
    (no : c.unprinted = true) :
    ∃ f, s.fingerprint (.shared h) = .error f ∧ f.kind = .typeMismatch := by
  change ∃ f, s.cellFingerprint (s.size + 1) h = .error f ∧ _
  rw [cellFingerprint]
  simp only [hc]
  cases c with
  | set fixed members =>
    cases fixed with
    | true => cases no
    | false => exact ⟨_, rfl, rfl⟩
  | undefined kind written =>
    cases kind with
    | signaling => exact ⟨_, rfl, rfl⟩
    | _ => cases no
  | list | deque | dict | byteArray | fieldSet => exact ⟨_, rfl, rfl⟩
  | _ => cases no

theorem exists_fingerprint {h : Handle}
    (pathed : ∀ p, s.cell? h = some (.field p) → ∃ m t, p = some (.text m t))
    (printed : ∀ c, s.cell? h = some c → c.unprinted = false) :
    ∃ f, s.fingerprint (.shared h) = .ok f := by
  change ∃ f, s.cellFingerprint (s.size + 1) h = .ok f
  rw [cellFingerprint]
  cases hc : s.cell? h with
  | none => exact ⟨_, rfl⟩
  | some c =>
    have printed := printed c hc
    cases c with
    | field p =>
      obtain ⟨m, t, rfl⟩ := pathed p hc
      exact ⟨_, rfl⟩
    | set fixed members =>
      cases fixed with
      | true => exact ⟨_, rfl⟩
      | false => cases printed
    | undefined kind written =>
      cases kind with
      | signaling => cases printed
      | _ => exact ⟨_, rfl⟩
    | list | deque | dict | byteArray | fieldSet => cases printed
    | _ => exact ⟨_, rfl⟩

end Store

def Tells {α : Type} (no : Prop) (x : Except Fault α) : Prop :=
  (¬ no ∧ ∃ a, x = .ok a) ∨ no ∧ ∃ f, x = .error f ∧ f.kind = .typeMismatch

namespace Tells

variable {α β : Type} {p q : Prop} {x : Except Fault α}

theorem ok (a : α) : Tells False (.ok a) := .inl ⟨id, a, rfl⟩

theorem bind {y : α → Except Fault β} (hx : Tells p x) (hy : ∀ a, Tells q (y a)) :
    Tells (p ∨ q) (x >>= y) := by
  rcases hx with ⟨hp, a, rfl⟩ | ⟨hp, f, rfl, kind⟩
  · rcases hy a with ⟨hq, b, e⟩ | ⟨hq, f, e, kind⟩
    · exact .inl ⟨not_or.2 ⟨hp, hq⟩, b, e⟩
    · exact .inr ⟨.inr hq, f, e, kind⟩
  · exact .inr ⟨.inl hp, f, rfl, kind⟩

theorem congr (h : Tells p x) (e : p ↔ q) : Tells q x := by
  rwa [propext e] at h

theorem refused_iff (h : Tells p x) : (∃ f, x = .error f ∧ f.kind = .typeMismatch) ↔ p := by
  rcases h with ⟨hp, a, rfl⟩ | ⟨hp, refused⟩
  · simp [hp]
  · exact iff_of_true refused hp

theorem ok_iff (h : Tells p x) : (∃ a, x = .ok a) ↔ ¬ p := by
  rcases h with ⟨hp, done⟩ | ⟨hp, f, rfl, -⟩
  · exact iff_of_true done hp
  · simp [hp]

end Tells

namespace Store

open Value

variable {s : Store} {R : Handle → Prop}

theorem unprinted_row_iff {v : Value} {items : List Value} (h : v.row? = some items) :
    s.Unprinted v ↔ ∃ w ∈ items, s.Unprinted w := by
  constructor
  · intro no
    cases no with
    | row e hw no =>
      cases h.symm.trans e
      exact ⟨_, hw, no⟩
    | _ => cases h
  · rintro ⟨w, hw, no⟩
    exact .row h hw no

theorem unprinted_query_iff {m : Mark} {t args : Value} :
    s.Unprinted (.query m t args) ↔ s.Unprinted t ∨ s.Unprinted args := by
  constructor
  · intro no
    cases no with
    | row e => cases e
    | text no => exact .inl no
    | args no => exact .inr no
  · exact (Or.elim · .text .args)

mutual

theorem tells_fingerprint (pathed : s.Pathed R) (v : Value) (hv : v.Within R) :
    Tells (s.Unprinted v) (v.fingerprintWith (s.cellFingerprint (s.size + 1))) := by
  cases v with
  | tuple m items =>
    have parts := tells_fingerprints pathed items (within_of_mem hv)
    refine (parts.bind fun _ => .ok _).congr ?_
    rw [or_false, unprinted_row_iff rfl]
  | point m items =>
    have parts := tells_fingerprints pathed items (within_of_mem hv)
    refine (parts.bind fun _ => .ok _).congr ?_
    rw [or_false, unprinted_row_iff rfl]
  | query m t args =>
    have text := tells_fingerprint pathed t fun k hk => hv k (List.mem_append_left _ hk)
    have rest := tells_fingerprint pathed args fun k hk => hv k (List.mem_append_right _ hk)
    refine (text.bind fun _ => rest.bind fun _ => .ok _).congr ?_
    rw [or_false, unprinted_query_iff]
  | shared h =>
    have pathed := pathed h (hv h (List.mem_singleton.2 rfl))
    by_cases no : ∃ c, s.cell? h = some c ∧ c.unprinted = true
    · obtain ⟨c, hc, no⟩ := no
      exact .inr ⟨.cell hc no, fingerprint_of_unprinted hc no⟩
    · refine .inl ⟨fun yes => ?_, exists_fingerprint pathed fun c hc => ?_⟩
      · cases yes with
        | cell hc yes => exact no ⟨_, hc, yes⟩
        | row e => cases e
      · exact Bool.eq_false_iff.2 fun yes => no ⟨c, hc, yes⟩
  | _ =>
    refine .inl ⟨fun no => ?_, _, rfl⟩
    cases no with
    | row e => cases e

theorem tells_fingerprints (pathed : s.Pathed R) (vs : List Value)
    (hv : ∀ v ∈ vs, v.Within R) :
    Tells (∃ v ∈ vs, s.Unprinted v)
      (fingerprintsWith (s.cellFingerprint (s.size + 1)) vs) := by
  cases vs with
  | nil => exact (Tells.ok []).congr (by simp)
  | cons v vs =>
    have first := tells_fingerprint pathed v (hv v (List.mem_cons_self ..))
    have rest := tells_fingerprints pathed vs fun w hw => hv w (List.mem_cons_of_mem _ hw)
    refine (first.bind fun _ => rest.bind fun _ => .ok _).congr ?_
    simp only [or_false, List.mem_cons, exists_eq_or_imp]

end

/-- Fixed sets of a region that are equal have fingerprints that agree, and its fields have their
paths. -/
structure Lawful (s : Store) (R : Handle → Prop) : Prop where
  pathed : s.Pathed R
  bunches : ∀ h k xs ys, R h → R k → s.cell? h = some (.set true xs) →
    s.cell? k = some (.set true ys) → s.equal (.shared h) (.shared k) = .ok true →
    (Fingerprint.ofBunch (xs.map Member.print)).agrees
      (.ofBunch (ys.map Member.print)) = true

theorem equalPlain_shared (c : Cell) (h : Handle) : c.equalPlain (.shared h) = .ok false := by
  unfold Cell.equalPlain
  split <;> rfl

theorem unprinted_of_equalPlain {c : Cell} {v : Value} (h : c.equalPlain v = .ok true) :
    c.unprinted = true := by
  unfold Cell.equalPlain at h
  split at h
  · rfl
  · rfl
  · cases h

/-- Cells that are equal and apart are of one kind. Those with fingerprints are fields or fixed
sets. -/
theorem agrees_of_cells (lawful : s.Lawful R) {h k : Handle} (hh : R h) (hk : R k)
    (equal : s.equal (.shared h) (.shared k) = .ok true) {f g : Fingerprint}
    (hf : s.fingerprint (.shared h) = .ok f) (hg : s.fingerprint (.shared k) = .ok g) :
    f.agrees g = true := by
  by_cases e : h = k
  · subst e
    cases hf.symm.trans hg
    exact Fingerprint.agrees_refl f
  · have apart : sameHandle (.shared h) (.shared k) = false := by simp [sameHandle, e]
    have met := equal
    change s.meet (2 * s.size + 1) (.shared h) (.shared k) = .ok true at met
    rw [meet] at met
    cases hc : s.cell? h with
    | none =>
      cases hd : s.cell? k with
      | none => simp [cellOf?, hc, hd] at met
      | some d => simp [cellOf?, hc, hd, equalPlain_shared] at met
    | some c =>
      cases hd : s.cell? k with
      | none => simp [cellOf?, hc, hd, equalPlain_shared] at met
      | some d =>
        simp only [cellOf?, hc, hd, apart] at met
        change s.cellFingerprint (s.size + 1) h = .ok f at hf
        change s.cellFingerprint (s.size + 1) k = .ok g at hg
        rw [cellFingerprint] at hf hg
        simp only [hc] at hf
        simp only [hd] at hg
        cases c with
        | set fixed xs =>
          cases d with
          | set fixed' ys =>
            cases fixed with
            | false => cases hf
            | true =>
              cases fixed' with
              | false => cases hg
              | true =>
                cases hf
                cases hg
                exact lawful.bunches h k xs ys hh hk hc hd equal
          | _ => cases met
        | field p =>
          cases d with
          | field q =>
            obtain ⟨m, t, rfl⟩ := lawful.pathed h hh p hc
            obtain ⟨n, u, rfl⟩ := lawful.pathed k hk q hd
            have same : t = u := by
              simpa [Cell.equalWith, Value.equalWith, atomEqual, number?] using met
            subst same
            cases hf
            cases hg
            exact Fingerprint.agrees_refl _
          | _ => cases p <;> cases met
        | list | deque | dict | byteArray | fieldSet => cases hf
        | undefined kind written =>
          cases d with
          | undefined kind' written' =>
            simp only [Cell.equalWith] at met
            split at met <;> cases met
          | _ => cases met
        | _ => cases d <;> cases met

theorem ne_ok_of_unprinted {h : Handle} {c : Cell} (hc : s.cell? h = some c)
    (no : c.unprinted = true) (f : Fingerprint) : s.fingerprint (.shared h) ≠ .ok f := by
  obtain ⟨g, refused, -⟩ := fingerprint_of_unprinted hc no
  simp [refused]

theorem ne_ok_of_meet {h : Handle} {v : Value} (hv : s.cellOf? v = none) {n : Nat}
    (equal : s.meet n (.shared h) v = .ok true ∨ s.meet n v (.shared h) = .ok true)
    (f : Fingerprint) : s.fingerprint (.shared h) ≠ .ok f := by
  cases n with
  | zero => rcases equal with equal | equal <;> cases equal
  | succ n =>
    cases hc : s.cellOf? (.shared h) with
    | none => rcases equal with equal | equal <;> simp only [meet, hc, hv] at equal <;> cases equal
    | some c =>
      have plain : c.equalPlain v = .ok true := by
        rcases equal with equal | equal <;> simpa only [meet, hc, hv] using equal
      exact ne_ok_of_unprinted hc (unprinted_of_equalPlain plain) f

theorem eq_of_sameHandle {v w : Value} (h : sameHandle v w = true) : v = w := by
  unfold sameHandle at h
  split at h
  · rw [eq_of_beq h]
  · cases h

theorem exists_of_row {v : Value} {items : List Value} (h : v.row? = some items) {f : Fingerprint}
    (hf : s.fingerprint v = .ok f) :
    ∃ fs, fingerprintsWith (s.cellFingerprint (s.size + 1)) items = .ok fs ∧ f = .row fs := by
  cases v with
  | tuple m xs | point m xs =>
    cases h
    simp only [fingerprint, fingerprintWith] at hf
    cases e : fingerprintsWith (s.cellFingerprint (s.size + 1)) items with
    | error g =>
      rw [e] at hf
      cases hf
    | ok fs =>
      rw [e] at hf
      cases hf
      exact ⟨fs, rfl, rfl⟩
  | _ => cases h

theorem exists_of_cons {v : Value} {vs : List Value} {gs : List Fingerprint}
    (hg : fingerprintsWith (s.cellFingerprint (s.size + 1)) (v :: vs) = .ok gs) :
    ∃ f fs, s.fingerprint v = .ok f ∧
      fingerprintsWith (s.cellFingerprint (s.size + 1)) vs = .ok fs ∧ gs = f :: fs := by
  rw [fingerprintsWith] at hg
  cases hf : v.fingerprintWith (s.cellFingerprint (s.size + 1)) with
  | error e =>
    rw [hf] at hg
    cases hg
  | ok f =>
    cases hfs : fingerprintsWith (s.cellFingerprint (s.size + 1)) vs with
    | error e =>
      rw [hf, hfs] at hg
      cases hg
    | ok fs =>
      rw [hf, hfs] at hg
      cases hg
      exact ⟨f, fs, hf, rfl, rfl⟩

theorem exists_of_query {m : Mark} {t a : Value} {f : Fingerprint}
    (hf : s.fingerprint (.query m t a) = .ok f) :
    ∃ p q, s.fingerprint t = .ok p ∧ s.fingerprint a = .ok q ∧ f = .row [p, q] := by
  change (do
    let p ← s.fingerprint t
    let q ← s.fingerprint a
    .ok (.row [p, q])) = Except.ok f at hf
  cases ht : s.fingerprint t with
  | error g =>
    rw [ht] at hf
    cases hf
  | ok p =>
    cases ha : s.fingerprint a with
    | error g =>
      rw [ht, ha] at hf
      cases hf
    | ok q =>
      rw [ht, ha] at hf
      cases hf
      exact ⟨p, q, rfl, rfl, rfl⟩

theorem equalPart_query {m n : Mark} {t u a b : Value} :
    s.equal (.query m t a) (.query n u b) = (do
      if ← s.equalPart t u then s.equalPart a b else .ok false) := rfl

theorem agrees_of_part {v w : Value} {f g : Fingerprint} (part : s.equalPart v w = .ok true)
    (hf : s.fingerprint v = .ok f) (hg : s.fingerprint w = .ok g)
    (equal : s.equal v w = .ok true → f.agrees g = true) : f.agrees g = true := by
  unfold equalPart samePart at part
  split at part
  · next same =>
    cases eq_of_sameHandle same
    cases hf.symm.trans hg
    exact Fingerprint.agrees_refl f
  · exact equal part

theorem agrees_of_atom {v w : Value} {f g : Fingerprint} (equal : s.equal v w = .ok true)
    (hf : s.fingerprint v = .ok f) (hg : s.fingerprint w = .ok g) (hw : ∀ k, w ≠ .shared k)
    (hr : v.row? = none) (hq : ∀ m t a, v ≠ .query m t a) (hc : ∀ h, v ≠ .shared h) :
    f.agrees g = true := by
  have atom : s.equal v w = .ok (v.atomEqual w) ∧ s.fingerprint v = .ok v.atomFingerprint := by
    cases v with
    | tuple m xs | point m xs => cases hr
    | query m t a => exact absurd rfl (hq m t a)
    | shared h => exact absurd rfl (hc h)
    | _ =>
      refine ⟨?_, rfl⟩
      cases w with
      | shared k => exact absurd rfl (hw k)
      | _ => rfl
  have same : v.atomEqual w = true := Except.ok.inj (atom.1.symm.trans equal)
  have print : s.fingerprint w = .ok w.atomFingerprint := fingerprintWith_of_atomEqual same _
  cases atom.2.symm.trans hf
  cases print.symm.trans hg
  rw [atomFingerprint_eq same]
  exact Fingerprint.agrees_refl _

theorem equalRows_cons {v w : Value} {vs ws : List Value} :
    equalRows (s.meet (2 * s.size + 1)) (v :: vs) (w :: ws) = (do
      if ← s.equalPart v w then equalRows (s.meet (2 * s.size + 1)) vs ws else .ok false) := rfl

theorem and_of_bind {x y : Except Fault Bool}
    (h : (do if ← x then y else .ok false) = Except.ok true) : x = .ok true ∧ y = .ok true := by
  rcases x with f | b
  · cases h
  · cases b with
    | false => cases h
    | true => exact ⟨rfl, h⟩

mutual

/-- Values of a region that are equal have fingerprints that agree. -/
theorem agrees_of_equal (lawful : s.Lawful R) (v w : Value) (hv : v.Within R) (hw : w.Within R)
    (equal : s.equal v w = .ok true) {f g : Fingerprint} (hf : s.fingerprint v = .ok f)
    (hg : s.fingerprint w = .ok g) : f.agrees g = true := by
  by_cases cell : ∃ k, w = .shared k
  · obtain ⟨k, rfl⟩ := cell
    cases v with
    | shared h =>
      exact agrees_of_cells lawful (hv h (List.mem_singleton.2 rfl))
        (hw k (List.mem_singleton.2 rfl)) equal hf hg
    | _ => exact absurd hg (ne_ok_of_meet rfl (.inr equal) g)
  · have other : ∀ k, w ≠ .shared k := fun k e => cell ⟨k, e⟩
    cases v with
    | shared h =>
      have uncelled : s.cellOf? w = none := by
        cases w with
        | shared k => exact absurd rfl (other k)
        | _ => rfl
      exact absurd hf (ne_ok_of_meet uncelled (.inl equal) f)
    | tuple m xs | point m xs =>
      obtain ⟨fs, hfs, rfl⟩ := exists_of_row rfl hf
      cases w with
      | tuple n ys | point n ys =>
        obtain ⟨gs, hgs, rfl⟩ := exists_of_row rfl hg
        exact rowAgrees_of_equal lawful xs ys (within_of_mem hv) (within_of_mem hw) equal hfs hgs
      | shared k => exact absurd rfl (other k)
      | _ => cases equal
    | query m t a =>
      cases w with
      | query n u b =>
        obtain ⟨texts, rest⟩ := and_of_bind equal
        obtain ⟨p, q, hp, hq, rfl⟩ := exists_of_query hf
        obtain ⟨p', q', hp', hq', rfl⟩ := exists_of_query hg
        have first : p.agrees p' = true := agrees_of_part texts hp hp' fun e =>
          agrees_of_equal lawful t u (fun k hk => hv k (List.mem_append_left _ hk))
            (fun k hk => hw k (List.mem_append_left _ hk)) e hp hp'
        have second : q.agrees q' = true := agrees_of_part rest hq hq' fun e =>
          agrees_of_equal lawful a b (fun k hk => hv k (List.mem_append_right _ hk))
            (fun k hk => hw k (List.mem_append_right _ hk)) e hq hq'
        simp only [Fingerprint.agrees, Fingerprint.rowAgrees, first, second, List.isEmpty_nil,
          Bool.and_self]
      | shared k => exact absurd rfl (other k)
      | _ => cases equal
    | _ => exact agrees_of_atom equal hf hg other rfl (by simp) (by simp)

theorem rowAgrees_of_equal (lawful : s.Lawful R) (vs ws : List Value) (hv : ∀ v ∈ vs, v.Within R)
    (hw : ∀ w ∈ ws, w.Within R) (equal : equalRows (s.meet (2 * s.size + 1)) vs ws = .ok true)
    {fs gs : List Fingerprint} (hf : fingerprintsWith (s.cellFingerprint (s.size + 1)) vs = .ok fs)
    (hg : fingerprintsWith (s.cellFingerprint (s.size + 1)) ws = .ok gs) :
    Fingerprint.rowAgrees fs gs = true := by
  cases vs with
  | nil =>
    cases ws with
    | nil =>
      cases hf
      cases hg
      rfl
    | cons w ws => cases equal
  | cons v vs =>
    cases ws with
    | nil => cases equal
    | cons w ws =>
      obtain ⟨first, rest⟩ := and_of_bind equal
      obtain ⟨f, fs, first_eq, rest_eq, rfl⟩ := exists_of_cons hf
      obtain ⟨g, gs, first_eq', rest_eq', rfl⟩ := exists_of_cons hg
      have heads : f.agrees g = true := agrees_of_part first first_eq first_eq' fun e =>
        agrees_of_equal lawful v w (hv v (List.mem_cons_self ..)) (hw w (List.mem_cons_self ..)) e
          first_eq first_eq'
      have tails := rowAgrees_of_equal lawful vs ws (fun x hx => hv x (List.mem_cons_of_mem _ hx))
        (fun x hx => hw x (List.mem_cons_of_mem _ hx)) rest rest_eq rest_eq'
      simp only [Fingerprint.rowAgrees, heads, tails, Bool.and_self]

end

end Store

end Criteria
