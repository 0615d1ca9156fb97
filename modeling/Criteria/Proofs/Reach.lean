import Criteria.Proofs.Atomicity
import Criteria.Proofs.SameButBuilders
import Mathlib.Data.List.Forall2

/-! What a value leads to. A value names cells, a cell holds values, and nothing that is read of a
value lies beyond that. Stores that differ in some builders alone are therefore one store to every
value that leads to none of them: it is shown in the same way, it is the same key, and a request
that is made of such values is ruled on alike.
-/

set_option autoImplicit false

namespace Criteria

mutual

def Value.handles : Value → List Handle
  | .tuple _ items | .point _ items => Value.handlesOf items
  | .query _ t args => t.handles ++ args.handles
  | .shared h => [h]
  | _ => []

def Value.handlesOf : List Value → List Handle
  | [] => []
  | v :: vs => v.handles ++ Value.handlesOf vs

end

def Cell.held : Cell → List Value
  | list items | deque items | bag items | stream _ items => items
  | set _ members => members.map Member.value
  | dict _ entries => entries.flatMap fun e => [e.key.value, e.value]
  | field path | proxy path => path.toList
  | fieldSet entries => entries.map Prod.snd
  | generic _ unpacked => [unpacked]
  | builder b => b.base :: (b.args ++ b.order.toList ++ b.model.toList ++ b.fields.toList)
  | _ => []

/-- Whether a value names one of the cells, or something that it names holds a value that does. -/
inductive Store.LeadsTo (s : Store) (hs : List Handle) : Value → Prop where
  | here {v : Value} {h : Handle} : h ∈ v.handles → h ∈ hs → LeadsTo s hs v
  | through {v w : Value} {k : Handle} {c : Cell} :
      k ∈ v.handles → s.cell? k = some c → w ∈ c.held → LeadsTo s hs w → LeadsTo s hs v

def Value.Within (R : Handle → Prop) (v : Value) : Prop := ∀ k ∈ v.handles, R k

namespace Value

variable {R : Handle → Prop}

theorem within_of_nil {v : Value} (h : v.handles = []) : v.Within R := by
  intro k hk
  rw [h] at hk
  cases hk

theorem mem_handlesOf {vs : List Value} {k : Handle} :
    k ∈ handlesOf vs ↔ ∃ v ∈ vs, k ∈ v.handles := by
  induction vs with
  | nil => simp [handlesOf]
  | cons v vs ih => simp [handlesOf, ih]

theorem within_of_mem {vs : List Value} (h : ∀ k ∈ handlesOf vs, R k) : ∀ v ∈ vs, v.Within R :=
  fun v hv k hk => h k (mem_handlesOf.2 ⟨v, hv, hk⟩)

end Value

namespace Store

/-- A region of cells that holds none of the cells `hs`, and nothing that leads out of it. -/
structure Region (hs : List Handle) (s : Store) (R : Handle → Prop) : Prop where
  off : ∀ k, R k → k ∉ hs
  closed : ∀ k, R k → ∀ c, s.cell? k = some c → ∀ w ∈ c.held, w.Within R

theorem LeadsTo.of_shared {s : Store} {hs : List Handle} {v : Value} {k : Handle}
    (hk : k ∈ v.handles) (h : s.LeadsTo hs (.shared k)) : s.LeadsTo hs v := by
  cases h with
  | here hj hs =>
    cases List.mem_singleton.1 hj
    exact .here hk hs
  | through hj hc hw h =>
    cases List.mem_singleton.1 hj
    exact .through hk hc hw h

theorem not_leadsTo_of_nil {s : Store} {hs : List Handle} {v : Value} (h : v.handles = []) :
    ¬ s.LeadsTo hs v := by
  rintro (⟨hk, -⟩ | ⟨hk, -, -, -⟩)
  all_goals
    rw [h] at hk
    cases hk

theorem region_of_leadsTo (s : Store) (hs : List Handle) :
    Region hs s fun k => ¬ s.LeadsTo hs (.shared k) := by
  refine ⟨?_, ?_⟩
  · intro k hk hm
    exact hk (.here (List.mem_singleton.2 rfl) hm)
  · intro k hk c hc w hw j hj h
    exact hk (.through (List.mem_singleton.2 rfl) hc hw (h.of_shared hj))

theorem within_of_not_leadsTo {s : Store} {hs : List Handle} {v : Value} (h : ¬ s.LeadsTo hs v) :
    v.Within fun k => ¬ s.LeadsTo hs (.shared k) := fun _ hk hl => h (hl.of_shared hk)

end Store

/-- Stopped with one of the faults, or the same. -/
inductive StopsShort {α : Type} (E : Fault → Prop) : Except Fault α → Except Fault α → Prop where
  | stopped {f : Fault} (h : E f) (y : Except Fault α) : StopsShort E (.error f) y
  | same (x : Except Fault α) : StopsShort E x x

namespace StopsShort

variable {α β : Type} {E : Fault → Prop} {x y : Except Fault α}

theorem of_eq (h : x = y) : StopsShort E x y := h ▸ .same x

theorem eq (h : StopsShort (fun _ => False) x y) : x = y := by
  cases h with
  | stopped h => exact h.elim
  | same => rfl

theorem bind {f g : α → Except Fault β} (h : StopsShort E x y)
    (hf : ∀ a, StopsShort E (f a) (g a)) : StopsShort E (x >>= f) (y >>= g) := by
  cases h with
  | stopped h => exact .stopped h _
  | same =>
    cases x with
    | error e => exact .same _
    | ok a => exact hf a

end StopsShort

mutual

def Value.rows : Value → List Nat
  | .tuple m items => m.toList ++ Value.rowsOf items
  | .point _ items => Value.rowsOf items
  | .query _ t args => t.rows ++ args.rows
  | _ => []

def Value.rowsOf : List Value → List Nat
  | [] => []
  | v :: vs => v.rows ++ Value.rowsOf vs

end

theorem Value.mem_rowsOf {vs : List Value} {m : Nat} : m ∈ rowsOf vs ↔ ∃ v ∈ vs, m ∈ v.rows := by
  induction vs with
  | nil => simp [rowsOf]
  | cons v vs ih => simp [rowsOf, ih]

/-- The first look shows the cells of a region as the second does or stops short, inside collections
that `A` pairs and that hold the same of the rows `P`. -/
structure Look.Within (R : Handle → Prop) (P : Nat → Prop) (A : List Frame → List Frame → Prop)
    (E : Fault → Prop) (look look' : Look) : Prop where
  look : ∀ {a b}, A a b → ∀ k, R k → StopsShort E (look a k) (look' b k)
  row : ∀ {a b}, A a b → ∀ m, P m → (Frame.row m ∈ a ↔ Frame.row m ∈ b)
  enter : ∀ {a b}, A a b → ∀ m, P m → Frame.row m ∉ a → A (.row m :: a) (.row m :: b)

theorem Look.Within.of_eq {R : Handle → Prop} {P : Nat → Prop} {E : Fault → Prop}
    {look look' : Look} (h : ∀ a k, R k → StopsShort E (look a k) (look' a k)) :
    Look.Within R P Eq E look look' :=
  ⟨fun e k hk => e ▸ h _ k hk, fun e _ _ => by rw [e], fun e _ _ _ => by rw [e]⟩

namespace Value

variable {R : Handle → Prop} {P : Nat → Prop} {A : List Frame → List Frame → Prop}
  {E : Fault → Prop} {look look' : Look}

mutual

theorem shownWith_within (l : Look.Within R P A E look look') (v : Value) (hv : v.Within R)
    (hr : ∀ m ∈ v.rows, P m) {a b : List Frame} (h : A a b) :
    StopsShort E (v.shownWith look a) (v.shownWith look' b) := by
  cases v with
  | tuple m items =>
    have rows : ∀ v ∈ items, ∀ m ∈ v.rows, P m := fun v hm n hn =>
      hr n (List.mem_append_right _ (mem_rowsOf.2 ⟨v, hm, hn⟩))
    have shown := fun {x y} (h : A x y) => (shownAll_within l items (within_of_mem hv) rows h).bind
      fun parts => .same (Except.ok (tupleText parts))
    cases m with
    | none => exact shown h
    | some m =>
      have hm : P m := hr m (List.mem_append_left _ (List.mem_singleton.2 rfl))
      have holds_eq : Frame.holdsRow a (some m) = Frame.holdsRow b (some m) := by
        simpa [Frame.holdsRow] using l.row h m hm
      simp only [shownWith, ← holds_eq]
      split
      · exact .same _
      · next inside => exact shown (l.enter h m hm (by simpa [Frame.holdsRow] using inside))
  | point m items =>
    exact (shownAll_within l items (within_of_mem hv) (fun v hm n hn => hr n (mem_rowsOf.2 ⟨v, hm, hn⟩))
      h).bind fun _ => .same _
  | query m t args =>
    have text := shownWith_within l t (fun k hk => hv k (List.mem_append_left _ hk))
      (fun m hm => hr m (List.mem_append_left _ hm)) h
    have args := shownWith_within l args (fun k hk => hv k (List.mem_append_right _ hk))
      (fun m hm => hr m (List.mem_append_right _ hm)) h
    exact text.bind fun _ => args.bind fun _ => .same _
  | shared k => exact l.look h k (hv k (List.mem_singleton.2 rfl))
  | _ => exact .same _

theorem shownAll_within (l : Look.Within R P A E look look') (vs : List Value)
    (hv : ∀ v ∈ vs, v.Within R) (hr : ∀ v ∈ vs, ∀ m ∈ v.rows, P m) {a b : List Frame} (h : A a b) :
    StopsShort E (shownAll look a vs) (shownAll look' b vs) := by
  cases vs with
  | nil => exact .same _
  | cons v vs =>
    have first := shownWith_within l v (hv v (List.mem_cons_self ..)) (hr v (List.mem_cons_self ..)) h
    have rest := shownAll_within l vs (fun x hx => hv x (List.mem_cons_of_mem _ hx))
      (fun x hx => hr x (List.mem_cons_of_mem _ hx)) h
    exact first.bind fun _ => rest.bind fun _ => .same _

end

mutual

theorem fingerprintWith_within {look look' : Handle → Except Fault Fingerprint}
    (hl : ∀ k, R k → StopsShort E (look k) (look' k)) (v : Value) (hv : v.Within R) :
    StopsShort E (v.fingerprintWith look) (v.fingerprintWith look') := by
  cases v with
  | tuple m items | point m items =>
    exact (fingerprintsWith_within hl items (within_of_mem hv)).bind fun _ => .same _
  | query m t args =>
    have text := fingerprintWith_within hl t (fun k hk => hv k (List.mem_append_left _ hk))
    have args := fingerprintWith_within hl args (fun k hk => hv k (List.mem_append_right _ hk))
    exact text.bind fun _ => args.bind fun _ => .same _
  | shared k => exact hl k (hv k (List.mem_singleton.2 rfl))
  | _ => exact .same _

theorem fingerprintsWith_within {look look' : Handle → Except Fault Fingerprint}
    (hl : ∀ k, R k → StopsShort E (look k) (look' k)) (vs : List Value)
    (hv : ∀ v ∈ vs, v.Within R) :
    StopsShort E (fingerprintsWith look vs) (fingerprintsWith look' vs) := by
  cases vs with
  | nil => exact .same _
  | cons v vs =>
    have first := fingerprintWith_within hl v (hv v (List.mem_cons_self ..))
    have rest := fingerprintsWith_within hl vs fun x hx => hv x (List.mem_cons_of_mem _ hx)
    exact first.bind fun _ => rest.bind fun _ => .same _

end

variable {a b : List Frame}

theorem shownEntries_within (l : Look.Within R P A E look look') {join : String → String → String}
    {entries : List Entry} (hv : ∀ v ∈ entries.flatMap fun e => [e.key.value, e.value], v.Within R)
    (hr : ∀ v ∈ entries.flatMap fun e => [e.key.value, e.value], ∀ m ∈ v.rows, P m) (h : A a b) :
    StopsShort E (shownEntries look a join entries) (shownEntries look' b join entries) := by
  induction entries with
  | nil => exact .same _
  | cons e rest ih =>
    simp only [List.flatMap_cons, List.mem_append, List.mem_cons, List.not_mem_nil, or_false] at hv hr
    have key := shownWith_within l e.key.value (hv _ (.inl (.inl rfl))) (hr _ (.inl (.inl rfl))) h
    have value := shownWith_within l e.value (hv _ (.inl (.inr rfl))) (hr _ (.inl (.inr rfl))) h
    have rest := ih (fun v hm => hv v (.inr hm)) fun v hm => hr v (.inr hm)
    exact key.bind fun _ => value.bind fun _ => rest.bind fun _ => .same _

theorem shownNamed_within (l : Look.Within R P A E look look') {entries : List (String × Value)}
    (hv : ∀ v ∈ entries.map Prod.snd, v.Within R)
    (hr : ∀ v ∈ entries.map Prod.snd, ∀ m ∈ v.rows, P m) (h : A a b) :
    StopsShort E (shownNamed look a entries) (shownNamed look' b entries) := by
  induction entries with
  | nil => exact .same _
  | cons e rest ih =>
    obtain ⟨n, v⟩ := e
    have first := shownWith_within l v (hv v (List.mem_cons_self ..)) (hr v (List.mem_cons_self ..)) h
    have rest := ih (fun x hx => hv x (List.mem_cons_of_mem _ hx))
      fun x hx => hr x (List.mem_cons_of_mem _ hx)
    simp only [shownNamed]
    split
    · exact rest
    · exact first.bind fun _ => rest.bind fun _ => .same _

end Value

section Cells

variable {R : Handle → Prop} {P : Nat → Prop} {A : List Frame → List Frame → Prop}
  {E : Fault → Prop} {look look' : Look} {a b : List Frame}

theorem Builder.shownWith_within (l : Look.Within R P A E look look') {c : Builder}
    (hc : ∀ v ∈ (Cell.builder c).held, v.Within R)
    (hr : ∀ v ∈ (Cell.builder c).held, ∀ m ∈ v.rows, P m) {x y : Except Fault String}
    (hx : StopsShort E x y) (h : A a b) :
    StopsShort E (c.shownWith look a x) (c.shownWith look' b y) := by
  have base := Value.shownWith_within l c.base (hc _ (List.mem_cons_self ..))
    (hr _ (List.mem_cons_self ..)) h
  unfold Builder.shownWith
  refine base.bind fun _ => hx.bind fun _ => (StopsShort.same _).bind fun _ => ?_
  cases ho : c.order with
  | none => exact .same _
  | some o =>
    have held : o ∈ (Cell.builder c).held := by simp [Cell.held, ho]
    exact (Value.shownWith_within l o (hc o held) (hr o held) h).bind fun _ => .same _

open Value in
theorem Cell.shownWith_within (l : Look.Within R P A E look look') {c : Cell}
    (hc : ∀ v ∈ c.held, v.Within R) (hr : ∀ v ∈ c.held, ∀ m ∈ v.rows, P m) (h : A a b) :
    StopsShort E (c.shownWith look a) (c.shownWith look' b) := by
  cases c with
  | list items | deque items | bag items =>
    exact (shownAll_within l items hc hr h).bind fun _ => .same _
  | set fixed members =>
    exact (shownAll_within l (members.map Member.value) hc hr h).bind fun _ => .same _
  | dict ordered entries =>
    have parts := fun join => @shownEntries_within _ _ _ _ _ _ _ _ l join entries hc hr h
    cases ordered with
    | false => exact (parts _).bind fun _ => .same _
    | true => exact (parts _).bind fun _ => .same _
  | field path =>
    cases path with
    | none => exact .same _
    | some p =>
      have held : p ∈ (Cell.field (some p)).held := List.mem_singleton.2 rfl
      exact (Value.shownWith_within l p (hc p held) (hr p held) h).bind fun _ => .same _
  | fieldSet entries => exact (shownNamed_within l hc hr h).bind fun _ => .same _
  | builder c =>
    have args := shownAll_within l c.args (fun v hv => hc v (by simp [Cell.held, hv]))
      (fun v hv => hr v (by simp [Cell.held, hv])) h
    exact Builder.shownWith_within l hc hr (args.bind fun _ => .same _) h
  | undefined kind w => cases kind <;> exact .same _
  | _ => exact .same _

end Cells

namespace Store

variable {hs : List Handle} {s t : Store} {R : Handle → Prop}

theorem called_congr {v : Value} (h : s.longName v = t.longName v) : s.called v = t.called v := by
  cases v with
  | classOf c =>
    cases c with
    | builtin b => cases b <;> rfl
    | _ => rfl
  | _ => simp only [called, h]

theorem givenTo?_congr {k : Handle} (cell_eq : s.cell? k = t.cell? k) (extras : s.extras = t.extras)
    (name : String) : s.givenTo? (.shared k) name = t.givenTo? (.shared k) name := by
  simp only [givenTo?, owner?, libraryClass?, givenToClass?, given, cellOf?, cell_eq, extras]

namespace SameButBuilders

variable (w : SameButBuilders hs s t)

include w

theorem givenTo?_eq (v : Value) (name : String) : s.givenTo? v name = t.givenTo? v name := by
  have given_eq : ∀ o, s.given o = t.given o := by
    intro o
    simp only [given, w.extras]
  have class_eq : ∀ c, s.givenToClass? c name = t.givenToClass? c name := by
    intro c
    simp only [givenToClass?, given_eq]
  cases v with
  | shared k =>
    rcases w.cell k with e | ⟨b, c, e, f⟩
    · simp only [givenTo?, owner?, libraryClass?, cellOf?, e, given_eq, class_eq]
    · simp only [givenTo?, owner?, libraryClass?, cellOf?, e, f, given_eq, class_eq]
  | _ => simp only [givenTo?, owner?, libraryClass?, cellOf?, given_eq, class_eq]

end SameButBuilders

theorem shownProduct_called {look look' : Look} (s : Store) (v : Value) (a b : List Frame) :
    (do Cell.shownProduct look a (← s.called v)) =
      (do Cell.shownProduct look' b (← s.called v)) := by
  cases v with
  | classOf c =>
    cases c with
    | builtin b => cases b <;> rfl
    | _ => rfl
  | _ => rfl

/-- What is given to the cell in place of its arguments makes the same in both stores. -/
def CalledAlike (s t : Store) (k : Handle) : Prop :=
  s.givenTo? (.shared k) "args" = t.givenTo? (.shared k) "args" ∧
    ∀ v ∈ s.givenTo? (.shared k) "args", s.called v = t.called v

theorem cellShown_succ {R : Handle → Prop} {P : Nat → Prop} {A : List Frame → List Frame → Prop}
    {E : Fault → Prop} {s t : Store} {d e : Nat} {a b : List Frame} {k : Handle}
    (l : Look.Within R P A E (s.cellShown d) (t.cellShown e)) (cell_eq : s.cell? k = t.cell? k)
    (called : CalledAlike s t k)
    (held : ∀ c, s.cell? k = some c → ∀ v ∈ c.held, v.Within R ∧ ∀ m ∈ v.rows, P m)
    (h : A a b) (inside : Frame.cell k ∈ a ↔ Frame.cell k ∈ b)
    (enter : Frame.cell k ∉ a → A (.cell k :: a) (.cell k :: b)) :
    StopsShort E (s.cellShown (d + 1) a k) (t.cellShown (e + 1) b k) := by
  have contains_eq : a.contains (Frame.cell k) = b.contains (Frame.cell k) := by simpa using inside
  obtain ⟨given_eq, called⟩ := called
  unfold cellShown
  rw [← cell_eq, ← given_eq, ← contains_eq]
  cases hc : s.cell? k with
  | none => exact .same _
  | some c =>
    have shown := fun {a b} (h : A a b) =>
      Cell.shownWith_within l (fun v hv => (held c hc v hv).1) (fun v hv => (held c hc v hv).2) h
    cases hi : c.innerText? with
    | some x =>
      simp only [hi]
      split
      · exact .same _
      · next out => exact shown (enter (by simpa using out))
    | none =>
      cases c with
      | builder c =>
        simp only [hi]
        cases hg : s.givenTo? (.shared k) "args" with
        | none => exact shown h
        | some v =>
          have args_eq := @shownProduct_called (s.cellShown d) (t.cellShown e) s v a b
          refine Builder.shownWith_within l (fun v hv => (held _ hc v hv).1)
            (fun v hv => (held _ hc v hv).2) (.of_eq ?_) h
          simpa only [called v hg] using args_eq
      | _ =>
        simp only [hi]
        exact shown h

theorem cellFingerprint_succ {R : Handle → Prop} {E : Fault → Prop} {s t : Store} {d e : Nat}
    {k : Handle} (h : ∀ j, R j → StopsShort E (s.cellFingerprint d j) (t.cellFingerprint e j))
    (cell_eq : s.cell? k = t.cell? k) (held : ∀ c, s.cell? k = some c → ∀ v ∈ c.held, v.Within R) :
    StopsShort E (s.cellFingerprint (d + 1) k) (t.cellFingerprint (e + 1) k) := by
  unfold cellFingerprint
  rw [← cell_eq]
  cases hc : s.cell? k with
  | none => exact .same _
  | some c =>
    cases c with
    | field path =>
      cases path with
      | none => exact .same _
      | some p => exact Value.fingerprintWith_within h p (held _ hc p (List.mem_singleton.2 rfl))
    | _ => exact .same _

/-- Both stores tell the same of a region: what its cells hold, how they are shown and their
fingerprints. -/
structure ReadAlike (R : Handle → Prop) (s t : Store) : Prop where
  cell : ∀ k, R k → s.cell? k = t.cell? k
  look : ∀ around k, R k → s.look around k = t.look around k
  print : ∀ k, R k → s.cellFingerprint (s.size + 1) k = t.cellFingerprint (t.size + 1) k

namespace Region

variable (g : Region hs s R) (w : SameButBuilders hs s t)

include g w

theorem cellShown_eq (depth : Nat) (around : List Frame) {k : Handle} (hk : R k) :
    s.cellShown depth around k = t.cellShown depth around k := by
  -- A builder may be in the region, and what is shown of it depends on what callers gave to it.
  induction depth generalizing around k with
  | zero => rfl
  | succ depth ih =>
    have l : Look.Within R (fun _ => True) Eq (fun _ => False) (s.cellShown depth)
      (t.cellShown depth) := .of_eq fun a j hj => .of_eq (ih a hj)
    exact (cellShown_succ l (w.same k (g.off k hk))
      ⟨w.givenTo?_eq .., fun v _ => called_congr (w.longName_eq v)⟩
      (fun c hc v hv => ⟨g.closed k hk c hc v hv, fun _ _ => trivial⟩) rfl .rfl fun _ => rfl).eq

theorem look_eq (around : List Frame) (k : Handle) (hk : R k) :
    s.look around k = t.look around k := by
  unfold look showingDepth
  rw [w.size, w.marks]
  exact g.cellShown_eq w _ around hk

theorem cellFingerprint_eq (depth : Nat) {k : Handle} (hk : R k) :
    s.cellFingerprint depth k = t.cellFingerprint depth k := by
  induction depth generalizing k with
  | zero => rfl
  | succ depth ih =>
    exact (cellFingerprint_succ (fun j hj => .of_eq (ih hj)) (w.same k (g.off k hk))
      (g.closed k hk)).eq

theorem readAlike : ReadAlike R s t := by
  refine ⟨fun k hk => w.same k (g.off k hk), g.look_eq w, fun k hk => ?_⟩
  rw [w.size]
  exact g.cellFingerprint_eq w _ hk

end Region

namespace Region

variable (g : Region hs s R)

include g

theorem within_field {v p : Value} (hv : v.Within R) (h : s.field? v = some (some p)) :
    p.Within R := by
  cases v with
  | shared k =>
    have e : s.cell? k = some (.field (some p)) := by
      unfold field? cellOf? at h
      split at h
      · next path hc =>
        rw [Option.some.inj h] at hc
        exact hc
      · cases h
    exact g.closed k (hv k (List.mem_singleton.2 rfl)) _ e p (List.mem_singleton.2 rfl)
  | _ => cases h

theorem within_fieldPath {v p : Value} (hv : v.Within R) (h : s.fieldPath v = .ok p) :
    p.Within R := by
  unfold fieldPath at h
  split at h
  · next hf =>
    cases h
    exact g.within_field hv hf
  · cases h
  · cases h
    exact Value.within_of_nil rfl
  · cases h

theorem within_fieldPaths {vs ps : List Value} (hv : ∀ v ∈ vs, v.Within R)
    (h : Request.fieldPaths s vs = .ok ps) : ∀ p ∈ ps, p.Within R := by
  induction vs generalizing ps with
  | nil =>
    cases h
    exact fun p hp => absurd hp List.not_mem_nil
  | cons v vs ih =>
    rw [Request.fieldPaths] at h
    cases hf : s.fieldPath v with
    | error f => simp [hf, bind, Except.bind] at h
    | ok p =>
      cases hr : Request.fieldPaths s vs with
      | error f => simp [hf, hr, bind, Except.bind] at h
      | ok qs =>
        simp only [hf, hr, bind, Except.bind, Except.ok.injEq] at h
        subst h
        exact List.forall_mem_cons.2 ⟨g.within_fieldPath (hv v (List.mem_cons_self ..)) hf,
          ih (fun x hx => hv x (List.mem_cons_of_mem _ hx)) hr⟩

theorem within_elements? {v : Value} {items : List Value} (hv : v.Within R)
    (h : s.elements? v = some items) : ∀ x ∈ items, x.Within R := by
  cases v with
  | shared k =>
    obtain ⟨c, hc, he⟩ := Option.bind_eq_some_iff.1 h
    have held := g.closed k (hv k (List.mem_singleton.2 rfl)) c hc
    intro x hx
    cases c with
    | dict ordered entries =>
      cases he
      obtain ⟨e, hm, rfl⟩ := List.mem_map.1 hx
      exact held _ (List.mem_flatMap.2 ⟨e, hm, by simp⟩)
    | byteArray data =>
      cases he
      obtain ⟨b, -, rfl⟩ := List.mem_map.1 hx
      exact Value.within_of_nil rfl
    | list | deque | bag | set | stream | generic =>
      cases he
      exact held x hx
    | _ => cases he
  | tuple m items' | point m items' =>
    cases h
    exact Value.within_of_mem hv
  | query m t args =>
    cases h
    intro x hx
    simp only [List.mem_cons, List.not_mem_nil, or_false] at hx
    rcases hx with rfl | rfl
    · exact fun k hk => hv k (List.mem_append_left _ hk)
    · exact fun k hk => hv k (List.mem_append_right _ hk)
  | classOf c =>
    cases c with
    | builtin b =>
      cases b with
      | matchMode =>
        cases h
        intro x hx
        obtain ⟨m, -, rfl⟩ := List.mem_map.1 hx
        exact Value.within_of_nil rfl
      | _ => cases h
    | _ => cases h
  | text | bytes | range =>
    cases h
    intro x hx
    obtain ⟨c, -, rfl⟩ := List.mem_map.1 hx
    exact Value.within_of_nil rfl
  | _ => cases h

theorem within_candidates {v : Value} {items : List Value} (hv : v.Within R)
    (h : s.candidates v = .ok items) : ∀ x ∈ items, x.Within R := by
  cases v with
  | range m first stop step =>
    cases h
    intro x hx
    split at hx
    · cases hx
    · cases List.mem_singleton.1 hx
      exact Value.within_of_nil rfl
  | _ =>
    simp only [candidates, elements] at h
    split at h
    · next he =>
      cases h
      exact g.within_elements? hv he
    · cases h

end Region

end Store

inductive Both {α : Type} (R : α → α → Prop) : Except Fault α → Except Fault α → Prop where
  | error (f : Fault) : Both R (.error f) (.error f)
  | ok {a b : α} (h : R a b) : Both R (.ok a) (.ok b)

namespace Both

variable {α β : Type} {R : α → α → Prop} {S : β → β → Prop} {x y : Except Fault α}

theorem of_eq (refl : ∀ a, R a a) (h : x = y) : Both R x y := by
  subst h
  cases x with
  | error f => exact .error f
  | ok a => exact .ok (refl a)

theorem bind {f g : α → Except Fault β} (h : Both R x y) (hf : ∀ a b, R a b → Both S (f a) (g b)) :
    Both S (x >>= f) (y >>= g) := by
  cases h with
  | error e => exact .error e
  | ok h => exact hf _ _ h

theorem bind_same {f g : α → Except Fault β} (hf : ∀ a, x = .ok a → Both S (f a) (g a)) :
    Both S (x >>= f) (x >>= g) := by
  cases x with
  | error e => exact .error e
  | ok a => exact hf a rfl

theorem eq (h : Both Eq x y) : x = y := by
  cases h with
  | error => rfl
  | ok h => rw [h]

end Both

inductive Binding.Rel (E : Value → Value → Prop) : Binding → Binding → Prop where
  | itself {v w : Value} (h : E v w) : Rel E (.itself v) (.itself w)
  | copy (name : String) (items : List Value) : Rel E (.copy name items) (.copy name items)

inductive Ruling.Rel (E : Value → Value → Prop) : Ruling → Ruling → Prop where
  | add (c : Clause) {xs ys : List Binding} (h : List.Forall₂ (Binding.Rel E) xs ys) :
      Rel E (.add c xs) (.add c ys)
  | same (r : Ruling) : Rel E r r

theorem Binding.rel_eq : Binding.Rel Eq = Eq := by
  funext x y
  refine propext ⟨?_, ?_⟩
  · rintro (h | _)
    · rw [h]
    · rfl
  · rintro rfl
    cases x with
    | itself v => exact .itself rfl
    | copy name items => exact .copy name items

theorem Ruling.rel_eq : Ruling.Rel Eq = Eq := by
  funext x y
  refine propext ⟨?_, ?_⟩
  · rintro (⟨c, h⟩ | _)
    · rw [Binding.rel_eq, List.forall₂_eq_eq_eq] at h
      rw [h]
    · rfl
  · rintro rfl
    exact .same x

namespace Store.ReadAlike

variable {hs : List Handle} {s t : Store} {R : Handle → Prop} (w : ReadAlike R s t)

include w

theorem sameButHeld {v : Value} (hv : v.Within R) : s.SameButHeld t v := by
  cases v with
  | shared k => exact .of_eq (w.cell k (hv k (List.mem_singleton.2 rfl)))
  | _ => exact .none

theorem look_within : Look.Within R (fun _ => True) Eq (fun _ => False) s.look t.look :=
  .of_eq fun a k hk => .of_eq (w.look a k hk)

theorem shown_eq {v : Value} (hv : v.Within R) : s.shown v = t.shown v :=
  (Value.shownWith_within w.look_within v hv (fun _ _ => trivial) rfl).eq

theorem shownList_eq {vs : List Value} (hv : ∀ v ∈ vs, v.Within R) :
    s.shownList vs = t.shownList vs := by
  have all_eq := (Value.shownAll_within w.look_within vs hv (fun _ _ _ _ => trivial)
    (rfl : ([] : List Frame) = [])).eq
  rw [shownList, shownList, all_eq]

theorem fingerprint_eq {v : Value} (hv : v.Within R) : s.fingerprint v = t.fingerprint v :=
  (Value.fingerprintWith_within (fun k hk => .of_eq (w.print k hk)) v hv).eq

theorem ofValue_eq {v : Value} (hv : v.Within R) :
    MatchMode.ofValue s v = MatchMode.ofValue t v := by
  have refused_eq : MatchMode.ofValue.refused s v = MatchMode.ofValue.refused t v := by
    simp only [MatchMode.ofValue.refused, w.shown_eq hv]
  have print_eq := w.fingerprint_eq hv
  cases e : t.fingerprint v with
  | error f =>
    rw [e] at print_eq
    cases v <;> simp only [MatchMode.ofValue, print_eq, e, refused_eq]
  | ok p =>
    rw [e] at print_eq
    cases v <;> simp only [MatchMode.ofValue, print_eq, e, refused_eq]

theorem fieldPaths_eq {vs : List Value} (hv : ∀ v ∈ vs, v.Within R) :
    Request.fieldPaths s vs = Request.fieldPaths t vs := by
  induction vs with
  | nil => rfl
  | cons v vs ih =>
    have first := (w.sameButHeld (hv v (List.mem_cons_self ..))).fieldPath_eq
    simp only [Request.fieldPaths, first, ih fun x hx => hv x (List.mem_cons_of_mem _ hx)]

theorem joinTexts_eq (n : Nat) {vs : List Value} (hv : ∀ v ∈ vs, v.Within R) :
    Request.joinTexts s n vs = Request.joinTexts t n vs := by
  induction vs generalizing n with
  | nil => rfl
  | cons v vs ih =>
    have rest := fun n => ih n fun x hx => hv x (List.mem_cons_of_mem _ hx)
    have name_eq := (w.sameButHeld (hv v (List.mem_cons_self ..))).longName_eq
    cases v with
    | text m x => simp only [Request.joinTexts, rest]
    | _ => simp only [Request.joinTexts, name_eq]

theorem patternOf_both {E : Value → Value → Prop} (refl : ∀ v, E v v)
    (marked : ∀ x, E (.text s.mark.1 x) (.text t.mark.1 x)) (m : MatchMode) {v : Value}
    (hv : v.Within R) : Both E (m.patternOf s v) (m.patternOf t v) := by
  have name_eq := (w.sameButHeld hv).shortName_eq
  cases v with
  | text k x =>
    refine .ok ?_
    split
    · exact refl _
    · exact marked _
  | _ =>
    simp only [MatchMode.patternOf, name_eq]
    exact .error _

variable (g : Region hs s R)

include g

theorem plain_eq {v : Value} (hv : v.Within R) : s.plain v = t.plain v := by
  have shown := w.shown_eq hv
  cases v with
  | shared k =>
    have hk := hv k (List.mem_singleton.2 rfl)
    have longName_eq : ∀ p, s.cell? k = some (.field (some p)) → s.longName p = t.longName p :=
      fun p hc => (w.sameButHeld (g.closed k hk _ hc p (List.mem_singleton.2 rfl))).longName_eq
    unfold plain
    simp only [← w.cell k hk, shown]
    split
    · rfl
    · next p _ hc => rw [longName_eq p hc]
    · rfl
    · rfl
  | text | decimal | date | moment | time | mode => rfl
  | _ => exact shown

theorem pathTexts_eq {vs : List Value} (hv : ∀ v ∈ vs, v.Within R) :
    Request.pathTexts s vs = Request.pathTexts t vs := by
  induction vs with
  | nil => rfl
  | cons v vs ih =>
    have h := w.plain_eq g (hv v (List.mem_cons_self ..))
    simp only [Request.pathTexts, h, ih fun x hx => hv x (List.mem_cons_of_mem _ hx)]

theorem ruleOrderBy_eq {clause : Value} (hc : clause.Within R) :
    Request.ruleOrderBy s clause = Request.ruleOrderBy t clause := by
  have sameButHeld := w.sameButHeld hc
  cases hp : s.fieldPath clause with
  | ok p =>
    have present_eq := (w.sameButHeld (g.within_fieldPath hc hp)).present_eq
    rw [Request.ruleOrderBy_of_ok hp, Request.ruleOrderBy_of_ok (sameButHeld.fieldPath_eq ▸ hp),
      present_eq]
  | error f =>
    have hp' : t.fieldPath clause = .error f := sameButHeld.fieldPath_eq ▸ hp
    simp only [Request.ruleOrderBy, ← sameButHeld.field?_eq]
    cases s.field? clause with
    | some _ =>
      simp only [hp, hp']
      rfl
    | none =>
      cases clause with
      | shared k => simp only [sameButHeld.shortName_eq, bind, Except.bind]
      | _ => rfl

section Rulings

variable {E : Value → Value → Prop} (refl : ∀ v, E v v)
  (marked : ∀ x, E (.text s.mark.1 x) (.text t.mark.1 x))

include refl marked

theorem ruleLikeAny_both {fields value mode : Value} (hf : fields.Within R) (hv : value.Within R)
    (hm : mode.Within R) :
    Both (Ruling.Rel E) (Request.ruleLikeAny s fields value mode)
      (Request.ruleLikeAny t fields value mode) := by
  unfold Request.ruleLikeAny
  rw [← (w.sameButHeld hf).isReference_eq, ← w.shown_eq hf, ← (w.sameButHeld hf).candidates_eq]
  split
  · exact .of_eq .same rfl
  · refine .bind_same fun items hi => ?_
    have items_within := g.within_candidates hf hi
    rw [← w.fieldPaths_eq items_within]
    refine .bind_same fun paths hp => ?_
    have paths_within := g.within_fieldPaths items_within hp
    simp only [← w.ofValue_eq hm, ← (w.sameButHeld hv).present_eq, ← w.pathTexts_eq g paths_within,
      ← w.joinTexts_eq 0 paths_within]
    split
    · exact .error _
    · refine .bind_same fun m _ => .bind_same fun present _ => ?_
      split
      · refine (w.patternOf_both refl marked m hv).bind fun p q h => ?_
        split
        · exact .ok (.same _)
        · next texts _ =>
          refine .ok (.add _ ?_)
          exact List.forall₂_map_left_iff.2 (List.forall₂_map_right_iff.2
            (List.forall₂_same.2 fun _ _ => .itself h))
      · exact .of_eq .same rfl

/-- A request of values from the region is ruled on alike, but for what `E` relates. -/
theorem rule_both {r : Request} (hr : ∀ v ∈ r.operands, v.Within R) :
    Both (Ruling.Rel E) (r.rule s) (r.rule t) := by
  have path_eq : ∀ f, f ∈ r.operands → s.fieldPath f = t.fieldPath f := fun f hf =>
    (w.sameButHeld (hr f hf)).fieldPath_eq
  have plain_eq : ∀ f, f ∈ r.operands → ∀ p, s.fieldPath f = .ok p → s.plain p = t.plain p :=
    fun f hf p hp => w.plain_eq g (g.within_fieldPath (hr f hf) hp)
  have present_eq : ∀ v, v ∈ r.operands → s.present v = t.present v := fun v hv =>
    (w.sameButHeld (hr v hv)).present_eq
  cases r with
  | compare op field value =>
    simp only [Request.rule, Request.ruleCompare, ← path_eq field (by simp [Request.operands])]
    refine .bind_same fun p hp => .of_eq .same ?_
    simp only [present_eq value (by simp [Request.operands]),
      plain_eq field (by simp [Request.operands]) p hp]
  | like field value mode =>
    have hv := hr value (by simp [Request.operands])
    simp only [Request.rule, Request.ruleLike, ← path_eq field (by simp [Request.operands])]
    refine .bind_same fun p hp => ?_
    simp only [← w.ofValue_eq (hr mode (by simp [Request.operands])),
      ← present_eq value (by simp [Request.operands]),
      ← plain_eq field (by simp [Request.operands]) p hp]
    refine .bind_same fun m _ => .bind_same fun present _ => ?_
    split
    · exact (w.patternOf_both refl marked m hv).bind fun p q h => .bind_same fun _ _ =>
        .ok (.add _ (.cons (.itself h) .nil))
    · exact .of_eq .same rfl
  | likeAny fields value mode =>
    exact w.ruleLikeAny_both g refl marked (hr fields (by simp [Request.operands]))
      (hr value (by simp [Request.operands])) (hr mode (by simp [Request.operands]))
  | within field values =>
    have sameButHeld := w.sameButHeld (hr values (by simp [Request.operands]))
    simp only [Request.rule, Request.ruleWithin, ← path_eq field (by simp [Request.operands])]
    refine .bind_same fun p hp => .of_eq .same ?_
    simp only [sameButHeld.present_eq, sameButHeld.listable_eq, sameButHeld.shortName_eq,
      sameButHeld.binding_eq,
      plain_eq field (by simp [Request.operands]) p hp]
  | between field lower upper =>
    simp only [Request.rule, Request.ruleBetween, Request.bounded,
      ← path_eq field (by simp [Request.operands])]
    refine .bind_same fun p hp => .of_eq .same ?_
    simp only [present_eq lower (by simp [Request.operands]),
      present_eq upper (by simp [Request.operands]),
      plain_eq field (by simp [Request.operands]) p hp]
  | orderBy clause =>
    exact .of_eq .same (w.ruleOrderBy_eq g (hr clause (by simp [Request.operands])))

end Rulings

end Store.ReadAlike

theorem Store.Region.rule_eq {hs : List Handle} {s t : Store} {R : Handle → Prop}
    (g : Region hs s R) (w : SameButBuilders hs s t) {r : Request}
    (hr : ∀ v ∈ r.operands, v.Within R) :
    r.rule s = r.rule t := by
  have both := (g.readAlike w).rule_both (E := Eq) g (fun _ => rfl)
    (fun x => by simp only [Store.mark, w.marks]) hr
  rw [Ruling.rel_eq] at both
  exact both.eq

end Criteria
