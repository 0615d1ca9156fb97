import Criteria.Proofs.Atomicity
import Criteria.Proofs.Checking
import Criteria.Proofs.KeepsButPasses
import Mathlib.Data.List.Forall2

set_option autoImplicit false

namespace Criteria

namespace Request

def matched (s : Store) (value mode : Value) : Except Fault (Option Value) := do
  let m ← MatchMode.ofValue s mode
  if ← s.present value then do .ok (some (← m.patternOf s value)) else .ok none

/-- The references have these texts for their paths. -/
def Spelt (s : Store) (items : List Value) (paths : List String) : Prop :=
  List.Forall₂ (fun v t => ∃ m, s.fieldPath v = .ok (.text m t)) items paths

section

variable {s t : Store} {items : List Value} {paths : List String} {value mode : Value}

theorem Spelt.of_allSameButHeld (h : Spelt s items paths) (allSameButHeld : s.AllSameButHeld t) :
    Spelt t items paths :=
  List.Forall₂.imp (fun v _ ⟨m, hm⟩ => ⟨m, (allSameButHeld v).fieldPath_eq ▸ hm⟩) h

theorem spelt_of_forall (h : ∀ v ∈ items, ∃ m t, s.fieldPath v = .ok (.text m t)) :
    ∃ paths, Spelt s items paths := by
  induction items with
  | nil => exact ⟨[], .nil⟩
  | cons v vs ih =>
    obtain ⟨m, t, hv⟩ := h v (List.mem_cons_self ..)
    obtain ⟨ts, hts⟩ := ih fun x hx => h x (List.mem_cons_of_mem _ hx)
    exact ⟨t :: ts, .cons ⟨m, hv⟩ hts⟩

theorem matched_of_allSameButHeld (allSameButHeld : s.AllSameButHeld t) {o : Option Value}
    (h : matched s value mode = .ok o) :
    match o with
    | some p => ∃ k l w, p = .text k w ∧ matched t value mode = .ok (some (.text l w))
    | none => s.present value = .ok false ∧ matched t value mode = .ok none := by
  unfold matched at h
  cases hm : MatchMode.ofValue s mode with
  | error f => simp [hm, bind, Except.bind] at h
  | ok m =>
    have ht := MatchMode.ofValue_of_stoodFor t (MatchMode.stoodFor?_of_ofValue hm)
    have hv := (allSameButHeld value).present_eq
    cases hp : s.present value with
    | error f => simp [hm, hp, bind, Except.bind] at h
    | ok isPresent =>
      rw [hp] at hv
      cases isPresent with
      | false =>
        simp only [hm, hp, bind, Except.bind] at h
        cases h
        simp [matched, ht, ← hv, bind, Except.bind]
      | true =>
        cases value with
        | text k w =>
          simp only [hm, hp, bind, Except.bind, MatchMode.patternOf] at h
          cases h
          by_cases he : m = .exact
          · exact ⟨k, k, w, by simp [he], by
              simp [matched, ht, ← hv, MatchMode.patternOf, he, bind, Except.bind]⟩
          · exact ⟨s.mark.1, t.mark.1, m.pattern w, by simp [he], by
              simp [matched, ht, ← hv, MatchMode.patternOf, he, bind, Except.bind]⟩
        | _ => simp [hm, hp, MatchMode.patternOf, bind, Except.bind] at h

def ruledBy (clause : Clause) (path : String) (value : Value) : Option Value → Ruling
  | some p => .add clause (List.replicate clause.arity (.itself p))
  | none => .skip path "like" value

theorem rule_like (value mode : Value) {f : Value} {m : Mark} {path : String}
    (h : s.fieldPath f = .ok (.text m path)) :
    (like f value mode).rule s = (matched s value mode).map (ruledBy (.like path) path value) := by
  simp only [rule, ruleLike, matched, h, bind, Except.bind]
  cases MatchMode.ofValue s mode with
  | error f => rfl
  | ok k =>
    cases s.present value with
    | error f => rfl
    | ok isPresent =>
      cases isPresent with
      | false => rfl
      | true =>
        simp only [if_true]
        cases k.patternOf s value <;> rfl

theorem Spelt.texts (h : Spelt s items paths) :
    ∃ ps, fieldPaths s items = .ok ps ∧ ps.length = items.length ∧ pathTexts s ps = .ok paths ∧
      ∀ n, joinTexts s n ps = .ok paths := by
  induction h with
  | nil => exact ⟨[], rfl, rfl, rfl, fun _ => rfl⟩
  | @cons v path _ _ hv _ ih =>
    obtain ⟨m, hv⟩ := hv
    obtain ⟨ps, hps, length_eq, written, joined⟩ := ih
    refine ⟨.text m path :: ps, ?_, by simp [length_eq], ?_, fun n => ?_⟩
    · simp only [fieldPaths, hv, hps, bind, Except.bind]
    · simp [pathTexts, written]
    · simp [joinTexts, joined, bind, Except.bind]

theorem rule_likeAny (value mode : Value) {fields : Value} (several : s.isReference fields = false)
    (he : s.elements? fields = some items) (hn : items ≠ []) (h : Spelt s items paths) :
    (likeAny fields value mode).rule s =
      (matched s value mode).map (ruledBy (.likeAny paths) (commaSeparated paths) value) := by
  have pass := fieldPaths_candidates s fields
  rw [he] at pass
  obtain ⟨vs, hc, paths_eq⟩ := pass
  obtain ⟨ps, hps, length_eq, written, joined⟩ := h.texts
  have nonempty : ps.isEmpty = false := by
    cases ps with
    | nil => exact absurd (List.length_eq_zero_iff.1 length_eq.symm) hn
    | cons p ps => rfl
  simp only [rule, ruleLikeAny, matched, several, hc, paths_eq, hps, nonempty, bind, Except.bind,
    Bool.false_eq_true, if_false]
  cases MatchMode.ofValue s mode with
  | error f => rfl
  | ok k =>
    cases s.present value with
    | error f => rfl
    | ok isPresent =>
      cases isPresent with
      | false => simp [joined, ruledBy, Except.map]
      | true =>
        simp only [if_true]
        cases k.patternOf s value with
        | error f => rfl
        | ok p => simp [written, ruledBy, Except.map, Clause.arity, List.map_const']

end

end Request

namespace Builder

open Operation Request

def likes (h : Handle) (items : List Value) (value mode : Value) : Operation Unit :=
  items.forM fun f => request h (.like f value mode)

/-- The fragments of `d` are joined to a single one in `c`, and all else that both got is the same.
-/
structure Joined (b c d : Builder) (count : Nat) : Prop where
  index : c.index = d.index
  args : c.args.map (Value.withMark none) = d.args.map (Value.withMark none)
  conditions : ∃ fragments, fragments.length = count ∧ d.conditions = b.conditions ++ fragments ∧
    c.conditions = b.conditions ++ ["(" ++ Text.orWord.intercalate fragments ++ ")"]

/-- Both ways are refused alike, or both pass and leave the builder `b` as it was or with the same
arguments. -/
def Alike (h : Handle) (b : Builder) (count : Nat) (one many : Except Fault Unit × Session) :
    Prop :=
  one.1 = many.1 ∧ (one.1 = .ok () →
    ∃ c d, one.2.store.builder? h = some c ∧ many.2.store.builder? h = some d ∧
      (c = b ∧ d = b ∨ Joined b c d count))

section

variable {h : Handle} {b d : Builder} {s u : Session} {items : List Value} {paths : List String}
  {value mode : Value}

theorem result_likes_cons (f : Value) (s : Session) :
    (likes h (f :: items) value mode).result s =
      match (request h (.like f value mode)).result s with
      | (.ok _, t) => (likes h items value mode).result t
      | (.error e, t) => (.error e, t) := by
  have step : likes h (f :: items) value mode =
    (do request h (.like f value mode); likes h items value mode) := rfl
  rw [step, result_bind]
  rcases (request h (.like f value mode)).result s with ⟨x, t⟩
  cases x <;> rfl

theorem addRecord_texts (s : Store) (condition : String) (vs : List Value)
    (texts : ∀ v ∈ vs, ∃ k w, v = .text k w) : ∃ w, addRecord s condition vs = .ok w := by
  rw [addRecord_eq_ok]
  suffices shown : ∃ ps, Value.shownAll s.look [] vs = .ok ps by
    obtain ⟨ps, hps⟩ := shown
    exact ⟨listText ps, by simp [Store.shownList, hps, bind, Except.bind]⟩
  induction vs with
  | nil => exact ⟨[], rfl⟩
  | cons v vs ih =>
    obtain ⟨k, w, rfl⟩ := texts v (List.mem_cons_self ..)
    obtain ⟨ps, hps⟩ := ih fun x hx => texts x (List.mem_cons_of_mem _ hx)
    exact ⟨_, by simp only [Value.shownAll, Value.shownWith, hps, bind, Except.bind]; rfl⟩

theorem result_bindValues_itself (vs : List Value) (s : Session) :
    (bindValues (vs.map .itself)).result s = (.ok vs, s) := by
  induction vs with
  | nil => rfl
  | cons v vs ih =>
    simp only [List.map_cons, bindValues, bindValue, result_bind, result_pure, ih]

section

variable {r : Request} {clause : Clause} {path : String}

theorem result_of_pattern {k : Mark} {w : String} (hd : u.store.builder? h = some d)
    (rule_eq : r.rule u.store = .ok (ruledBy clause path value (some (.text k w))))
    (hn : d.index + clause.arity ≤ Whole.bound) :
    ∃ v, (request h r).result u = (.ok (), v) ∧
      v.store = (r.passed u.store).put h
        (.builder (d.add clause (List.replicate clause.arity (.text k w)))) := by
  rw [result_request_of_ok hd rule_eq, ruledBy, Ruling.startingAt_add_of_le _ hn,
    ← List.map_replicate]
  simp only [carryOut, result_bind, result_bindValues_itself, result_put]
  refine ⟨_, Prod.ext ((fst_noted _ _).trans ?_) rfl, result_noted _ _⟩
  obtain ⟨t, ht⟩ := addRecord_texts ((r.passed u.store).put h (.builder (d.add clause
    (List.replicate clause.arity (.text k w))))) (clause.render d.index)
    (List.replicate clause.arity (.text k w)) (by simp)
  simp only [ht]
  rfl

theorem fst_of_pattern {p : Value} (hd : u.store.builder? h = some d)
    (rule_eq : r.rule u.store = .ok (ruledBy clause path value (some p)))
    (pos : 0 < clause.arity) (hn : Whole.bound < d.index + clause.arity) :
    ((request h r).result u).1 = .error (.tooManyDigits none) := by
  rw [result_request_of_ok hd rule_eq, ruledBy, Ruling.startingAt_add_of_lt _ pos hn]
  simp [carryOut, result_bind]

theorem result_of_absent (hd : u.store.builder? h = some d)
    (rule_eq : r.rule u.store = .ok (ruledBy clause path value none))
    (absent : u.store.present value = .ok false) :
    ∃ v, (request h r).result u = ((u.store.shown value).map fun _ => (), v) ∧
      v.store = r.passed u.store := by
  have keepsButPasses := Store.KeepsButPasses.request_passed u.store r
  rw [result_request_of_ok hd rule_eq]
  refine ⟨_, Prod.ext ((fst_noted _ _).trans ?_) rfl, result_noted _ _⟩
  simp only [skipRecord, keepsButPasses.shown_absent absent]
  cases u.store.shown value <;> rfl

end

theorem allSameButHeld_of_put {s t : Store} {c : Builder} (hd : s.builder? h = some d)
    (left : t = s.mark.2.put h (.builder c)) : s.AllSameButHeld t ∧ t.builder? h = some c := by
  have marked : s.mark.2.builder? h = some d := hd
  subst left
  exact ⟨Store.AllSameButHeld.put_builder (s := s.mark.2) c marked,
    builder?_eq_some.2 (Store.cell?_put_self _ _ _ _ (builder?_eq_some.1 marked))⟩

theorem result_likes_step {f : Value} {m k : Mark} {path w : String}
    (hd : u.store.builder? h = some d) (hf : u.store.fieldPath f = .ok (.text m path))
    (hm : matched u.store value mode = .ok (some (.text k w))) (hl : d.index + 1 ≤ Whole.bound) :
    ∃ v l, (likes h (f :: items) value mode).result u = (likes h items value mode).result v ∧
      u.store.AllSameButHeld v.store ∧ v.store.builder? h = some (d.add (.like path) [.text k w]) ∧
      matched v.store value mode = .ok (some (.text l w)) := by
  have rule_eq := rule_like value mode hf
  rw [hm] at rule_eq
  obtain ⟨v, result_eq, left⟩ := result_of_pattern hd rule_eq hl
  obtain ⟨allSameButHeld, hv⟩ := allSameButHeld_of_put hd left
  obtain ⟨_, l, w', same, hm'⟩ := matched_of_allSameButHeld allSameButHeld hm
  cases same
  exact ⟨v, l, by rw [result_likes_cons, result_eq], allSameButHeld, hv, hm'⟩

theorem result_likes_of_pattern {k : Mark} {w : String} (hd : u.store.builder? h = some d)
    (spelt : Spelt u.store items paths) (hm : matched u.store value mode = .ok (some (.text k w)))
    (hn : d.index + paths.length ≤ Whole.bound) :
    ∃ v e, (likes h items value mode).result u = (.ok (), v) ∧ v.store.builder? h = some e ∧
      e.index = d.index + paths.length ∧
      e.conditions = d.conditions ++ Clause.likes d.index paths ∧
      e.args.map (Value.withMark none) =
        d.args.map (Value.withMark none) ++ List.replicate paths.length (.text none w) := by
  induction items generalizing paths u d k with
  | nil =>
    cases spelt
    exact ⟨u, d, rfl, hd, rfl, by simp [Clause.likes], by simp⟩
  | cons f items ih =>
    cases spelt with
    | @cons _ path _ paths hf rest =>
      obtain ⟨m, hf⟩ := hf
      simp only [List.length_cons] at hn
      obtain ⟨v, l, step, allSameButHeld, hv, hm'⟩ := result_likes_step hd hf hm (by omega)
      obtain ⟨v', e, result_rest, he, index_eq, conditions_eq, args_eq⟩ :=
        ih hv (Spelt.of_allSameButHeld rest allSameButHeld) hm' (by simp [Clause.arity]; omega)
      refine ⟨v', e, step.trans result_rest, he, ?_, ?_, ?_⟩
      · rw [index_eq]
        simp only [index_add, Clause.arity, List.length_cons]
        omega
      · rw [conditions_eq]
        simp [Clause.likes, Clause.render, Clause.arity]
      · rw [args_eq]
        simp [Value.withMark, List.replicate_succ]

/-- They stop at the first number that cannot be written. -/
theorem result_likes_of_lt {k : Mark} {w : String} (hd : u.store.builder? h = some d)
    (spelt : Spelt u.store items paths) (some_path : paths ≠ [])
    (hm : matched u.store value mode = .ok (some (.text k w)))
    (hn : Whole.bound < d.index + paths.length) :
    ((likes h items value mode).result u).1 = .error (.tooManyDigits none) := by
  induction items generalizing paths u d k with
  | nil =>
    cases spelt
    exact absurd rfl some_path
  | cons f items ih =>
    cases spelt with
    | @cons _ path _ paths hf rest =>
      obtain ⟨m, hf⟩ := hf
      simp only [List.length_cons] at hn
      by_cases hl : d.index + 1 ≤ Whole.bound
      · obtain ⟨v, l, step, allSameButHeld, hv, hm'⟩ := result_likes_step hd hf hm hl
        rw [step]
        refine ih hv (Spelt.of_allSameButHeld rest allSameButHeld) ?_ hm' ?_
        · rintro rfl
          simp at hn
          omega
        · simp only [index_add, Clause.arity]
          omega
      · have rule_eq := rule_like value mode hf
        rw [hm] at rule_eq
        have refused := fst_of_pattern hd rule_eq Nat.one_pos (Nat.lt_of_not_le hl)
        rw [result_likes_cons]
        rcases e : (request h (.like f value mode)).result u with ⟨x, v⟩
        rw [e] at refused
        cases refused
        rfl

theorem result_likes_of_absent (hd : u.store.builder? h = some d)
    (spelt : Spelt u.store items paths) (some_path : paths ≠ [])
    (absent : u.store.present value = .ok false) (hm : matched u.store value mode = .ok none) :
    ∃ v, (likes h items value mode).result u = ((u.store.shown value).map fun _ => (), v) ∧
      v.store.builder? h = some d := by
  induction items generalizing paths u with
  | nil =>
    cases spelt
    exact absurd rfl some_path
  | cons f items ih =>
    cases spelt with
    | @cons _ path _ paths hf rest =>
      obtain ⟨m, hf⟩ := hf
      have rule_eq := rule_like value mode hf
      rw [hm] at rule_eq
      obtain ⟨v, result_eq, left⟩ := result_of_absent hd rule_eq absent
      have left : v.store = u.store.mark.2 := left
      have allSameButHeld : u.store.AllSameButHeld v.store := by
        rw [left]
        exact fun w => .of_eq rfl
      have keepsButPasses : u.store.KeepsButPasses v.store := by
        rw [left]
        exact .of_cells rfl
      have hv : v.store.builder? h = some d := by
        rw [left]
        exact hd
      rw [result_likes_cons, result_eq]
      cases shown : u.store.shown value with
      | error e => exact ⟨v, rfl, hv⟩
      | ok w =>
        cases paths with
        | nil =>
          cases rest
          exact ⟨v, rfl, hv⟩
        | cons p ps =>
          have again := ih hv (Spelt.of_allSameButHeld rest allSameButHeld) (by simp)
            ((allSameButHeld value).present_eq ▸ absent)
            (matched_of_allSameButHeld allSameButHeld hm).2
          rw [keepsButPasses.shown_absent absent, shown] at again
          exact again

/-- One request for several fields and one for each of them come to the same. -/
theorem likeAny_alike {fields : Value} (hb : s.store.builder? h = some b)
    (several : s.store.isReference fields = false) (he : s.store.elements? fields = some items)
    (nonempty : items ≠ []) (texts : ∀ v ∈ items, ∃ m t, s.store.fieldPath v = .ok (.text m t)) :
    Alike h b items.length ((request h (.likeAny fields value mode)).result s)
      ((likes h items value mode).result s) := by
  obtain ⟨paths, spelt⟩ := spelt_of_forall texts
  have length_eq := List.Forall₂.length_eq spelt
  have some_path : paths ≠ [] := by
    rintro rfl
    exact nonempty (List.length_eq_zero_iff.1 length_eq)
  have rule_eq := rule_likeAny value mode several he nonempty spelt
  unfold Alike
  cases hm : matched s.store value mode with
  | error f =>
    rw [hm] at rule_eq
    cases spelt with
    | nil => exact absurd rfl nonempty
    | @cons v _ _ _ hv rest =>
      obtain ⟨m, hv⟩ := hv
      have first := rule_like value mode hv
      rw [hm] at first
      simp [result_likes_cons, result_request_of_error hb rule_eq, result_request_of_error hb first]
  | ok o =>
    rw [hm] at rule_eq
    cases o with
    | none =>
      have absent := (matched_of_allSameButHeld (.refl _) hm).1
      obtain ⟨u, one_eq, left⟩ := result_of_absent hb rule_eq absent
      obtain ⟨v, many_eq, hv⟩ := result_likes_of_absent hb spelt some_path absent hm
      have hu : u.store.builder? h = some b := by
        rw [left, builder?_eq_some]
        exact cell?_request_passed _ _ _ _ (builder?_eq_some.1 hb)
      rw [one_eq, many_eq]
      exact ⟨rfl, fun _ => ⟨b, b, hu, hv, .inl ⟨rfl, rfl⟩⟩⟩
    | some p =>
      obtain ⟨k, -, w, rfl, -⟩ := matched_of_allSameButHeld (.refl _) hm
      by_cases hn : b.index + paths.length ≤ Whole.bound
      · obtain ⟨u, one_eq, left⟩ := result_of_pattern hb rule_eq hn
        obtain ⟨v, d, many_eq, hd, index_eq, conditions_eq, args_eq⟩ :=
          result_likes_of_pattern hb spelt hm hn
        have hu : u.store.builder? h =
            some (b.add (.likeAny paths) (List.replicate paths.length (.text k w))) := by
          rw [left, builder?_eq_some]
          exact Store.cell?_put_self _ _ _ _
            (cell?_request_passed _ _ _ _ (builder?_eq_some.1 hb))
        rw [one_eq, many_eq]
        refine ⟨rfl, fun _ => ⟨_, d, hu, hd, .inr ⟨index_eq.symm, ?_, _, ?_, conditions_eq, rfl⟩⟩⟩
        · rw [args_eq]
          simp [Value.withMark]
        · rw [Clause.likes_length, length_eq]
      · have pos : 0 < (Clause.likeAny paths).arity := List.length_pos_iff.2 some_path
        have one_eq := fst_of_pattern hb rule_eq pos (Nat.lt_of_not_le hn)
        have many_eq := result_likes_of_lt hb spelt some_path hm (Nat.lt_of_not_le hn)
        simp [one_eq, many_eq]

end

theorem alike_of_two :
    ∃ t b, (do
        let _ ← (Plan.of (.text none "from Foo") (.int none 1) [] .null (.text none "")).make
        share (.list [.text none "a", .text none "b"])).result {} = (.ok (.shared ⟨2⟩), t) ∧
      t.store.builder? ⟨1⟩ = some b ∧
      ((request ⟨1⟩ (.likeAny (.shared ⟨2⟩) (.text none "x") (.mode .anywhere))).result t).1 =
        .ok () ∧
      Alike ⟨1⟩ b 2
        ((request ⟨1⟩ (.likeAny (.shared ⟨2⟩) (.text none "x") (.mode .anywhere))).result t)
        ((likes ⟨1⟩ [.text none "a", .text none "b"] (.text none "x") (.mode .anywhere)).result
          t) := by
  refine ⟨_, _, rfl, rfl, rfl, likeAny_alike rfl rfl rfl (by simp) ?_⟩
  simp only [List.forall_mem_cons]
  exact ⟨⟨_, _, rfl⟩, ⟨_, _, rfl⟩, by simp⟩

/-- The path of a field that is no text is not joined with others, though it is told alone. -/
theorem exists_not_alike :
    ∃ t b, (do
        let _ ← (Plan.of (.text none "from Foo") (.int none 1) [] .null (.text none "")).make
        let f ← Field.make (.text none "o.x")
        Attribute.erase f "_path"
        Attribute.assign f "_path" (.int none 5)
        share (.list [f])).result {} = (.ok (.shared ⟨3⟩), t) ∧
      t.store.builder? ⟨1⟩ = some b ∧ t.store.isReference (.shared ⟨2⟩) = true ∧
      ¬ Alike ⟨1⟩ b 1
        ((request ⟨1⟩ (.likeAny (.shared ⟨3⟩) .null (.mode .anywhere))).result t)
        ((likes ⟨1⟩ [.shared ⟨2⟩] .null (.mode .anywhere)).result t) := by
  refine ⟨_, _, rfl, rfl, rfl, ?_⟩
  intro h
  cases h.1

end Builder

end Criteria
