import Criteria.Proofs.Condition
import Criteria.Proofs.Outcome
import Mathlib.Data.List.Defs

/-! What the condition part of a query means. Each clause stands for one condition wherever `and`
joins it to others, so the condition part is what the first condition makes of those behind it. It is
the conjunction of them all unless the first condition offers an alternative outside its brackets,
since only the last of its alternatives is joined.
-/

set_option autoImplicit false

namespace Criteria

/-- A dotted name that joins nothing, or anything else that is one word of a comparison. -/
structure Text.IsName (w : String) : Prop where
  nonempty : w ≠ ""
  plain : ∀ c ∈ w.toList, Lexeme.Plain c
  joins : means "or" w = false ∧ means "and" w = false ∧ means "between" w = false

instance (w : String) : Decidable (Text.IsName w) :=
  decidable_of_iff (w ≠ "" ∧ w.toList.all (fun c => decide (Lexeme.Plain c)) ∧
    Text.means "or" w = false ∧ Text.means "and" w = false ∧ Text.means "between" w = false)
    ⟨fun h => ⟨h.1, Lexeme.plain_of_all h.2.1, h.2.2⟩,
      fun h => ⟨h.nonempty, by simpa using h.plain, h.joins⟩⟩

namespace Reading

theorem after?_cons (r : Reading) (t : Tree) (ts : List Tree) :
    r.after? (t :: ts) = (r.step t t.inner?).bind fun r => r.after? ts := rfl

theorem step_name (r : Reading) {w : String} (h : Text.IsName w) :
    r.step (.word w) (Tree.word w).inner? = some (r.push (.word w) none r.ranged) := by
  obtain ⟨ho, ha, hb⟩ := h.joins
  simp [step, ho, ha, hb]

theorem ranged_of_conjunct {r : Reading} {f : Formula} (h : r.conjunct? = some f) :
    r.ranged = false := by
  cases hr : r.ranged with
  | false => rfl
  | true => simp [conjunct?, item?, hr] at h

theorem step_and {r : Reading} {f : Formula} (h : r.conjunct? = some f) :
    r.step (.word "and") (Tree.word "and").inner? = some { ors := r.ors, ands := some f } := by
  have ho : Text.means "or" "and" = false := by decide
  have ha : Text.means "and" "and" = true := by decide
  simp [step, ho, ha, ranged_of_conjunct h, h]

theorem step_or {r : Reading} {f : Formula} (h : r.formula? = some f) :
    r.step (.word "or") (Tree.word "or").inner? = some { ors := some f } := by
  have ho : Text.means "or" "or" = true := by decide
  simp [step, ho, h]

/-- Trees that stand for one condition between two words that join. -/
def Stand (ts : List Tree) (f : Formula) : Prop :=
  ∀ ors ands, ∃ r, ({ ors, ands } : Reading).after? ts = some r ∧ r.ors = ors ∧ r.ands = ands ∧
    r.item? = some f

theorem Stand.comparison {p o n : String} (hp : Text.IsName p) (ho : Text.IsName o)
    (hn : Text.IsName n) :
    Stand [.word p, .word o, .word n] (.atom [.word p, .word o, .word n]) := by
  intro ors ands
  refine ⟨{ ors, ands, item := [.word p, .word o, .word n] }, ?_, rfl, rfl, rfl⟩
  simp only [after?_cons, step_name _ hp, step_name _ ho, step_name _ hn, Option.bind_some]
  rfl

theorem Stand.range {p n k : String} (hp : Text.IsName p) (hn : Text.IsName n)
    (hk : Text.IsName k) :
    Stand [.word p, .word "between", .word n, .word "and", .word k]
      (.atom [.word p, .word "between", .word n, .word "and", .word k]) := by
  intro ors ands
  have hb : ∀ r : Reading, r.step (.word "between") (Tree.word "between").inner? =
      some (r.push (.word "between") none true) := by
    intro r
    have ho : Text.means "or" "between" = false := by decide
    have ha : Text.means "and" "between" = false := by decide
    have hw : Text.means "between" "between" = true := by decide
    simp [step, ho, ha, hw]
  have ha : ∀ r : Reading, (r.push (.word n) none true).step (.word "and")
      (Tree.word "and").inner? = some ((r.push (.word n) none true).push (.word "and") none false) := by
    intro r
    have ho : Text.means "or" "and" = false := by decide
    have ha : Text.means "and" "and" = true := by decide
    have hw : Text.means "between" "and" = false := by decide
    simp [step, ho, ha, hw, push]
  refine ⟨{ ors, ands, item := [.word p, .word "between", .word n, .word "and", .word k] }, ?_,
    rfl, rfl, rfl⟩
  have ranged_eq : ∀ (r : Reading) (t : Tree) (i : Option Formula) (b : Bool),
      (r.push t i b).ranged = b := fun _ _ _ _ => rfl
  simp only [after?_cons, step_name _ hp, Option.bind_some, hb, step_name _ hn, ranged_eq, ha,
    step_name _ hk]
  rfl

theorem Stand.group {ts : List Tree} {f : Formula} (h : Formula.ofTrees? {} ts = some f) :
    Stand [.group ts] (.group f) := by
  intro ors ands
  refine ⟨_, rfl, rfl, rfl, ?_⟩
  simp [item?, push, Tree.inner?, h]

theorem ofTrees?_ors {r : Reading} {f : Formula} {ts : List (List Tree)} {fs : List Formula}
    (h : List.Forall₂ Stand ts fs) (hr : r.formula? = some f) :
    Formula.ofTrees? r (ts.flatMap fun us => .word "or" :: us) = some (fs.foldl .or f) := by
  induction h generalizing r f with
  | nil => exact hr
  | @cons us g ts fs hug _ ih =>
    obtain ⟨r', hr', ors_eq, ands_eq, item_eq⟩ := hug (some f) none
    have hf : r'.formula? = some (.or f g) := by
      simp [formula?, conjunct?, ors_eq, ands_eq, item_eq, joined]
    have rest := ih hf
    rw [ofTrees?_eq] at rest ⊢
    rw [List.flatMap_cons, List.cons_append, after?_cons, step_or hr, Option.bind_some,
      after?_append, hr']
    exact rest

theorem ofTrees?_alternatives {us : List Tree} {f : Formula} {ts : List (List Tree)}
    {fs : List Formula} (hu : Stand us f) (h : List.Forall₂ Stand ts fs) :
    Formula.ofTrees? {} (us ++ ts.flatMap fun us => .word "or" :: us) = some (fs.foldl .or f) := by
  obtain ⟨r, hr, ors_eq, ands_eq, item_eq⟩ := hu none none
  have hf : r.formula? = some f := by
    simp [formula?, conjunct?, ors_eq, ands_eq, item_eq, joined]
  have rest := ofTrees?_ors h hf
  rw [ofTrees?_eq] at rest ⊢
  rw [after?_append, hr]
  exact rest

theorem after?_ands {r : Reading} {f : Formula} {ts : List (List Tree)} {fs : List Formula}
    (h : List.Forall₂ Stand ts fs) (hr : r.conjunct? = some f) :
    ∃ r', r.after? (ts.flatMap fun us => .word "and" :: us) = some r' ∧ r'.ors = r.ors ∧
      r'.conjunct? = some (fs.foldl .and f) := by
  induction h generalizing r f with
  | nil => exact ⟨r, rfl, rfl, hr⟩
  | @cons us g ts fs hug _ ih =>
    obtain ⟨r', hr', ors_eq, ands_eq, item_eq⟩ := hug r.ors (some f)
    have hf : r'.conjunct? = some (.and f g) := by
      simp [conjunct?, ands_eq, item_eq, joined]
    obtain ⟨q, hq, q_ors, q_conjunct⟩ := ih hf
    refine ⟨q, ?_, q_ors.trans ors_eq, q_conjunct⟩
    rw [List.flatMap_cons, List.cons_append, after?_cons, step_and hr, Option.bind_some,
      after?_append, hr']
    exact hq

end Reading

namespace Text

theorem trees_linked {k w : String} (hw : w = " " ++ (k ++ " ")) (hk : trees k = some [.word k])
    {t u : String} {ts us : List Tree} (ht : trees t = some ts) (hu : trees u = some us) :
    trees (t ++ (w ++ u)) = some (ts ++ .word k :: us) := by
  have h := trees_spaced ht (trees_spaced hk hu)
  subst hw
  simpa [String.append_assoc] using h

theorem trees_intercalate {k w : String} (hw : w = " " ++ (k ++ " "))
    (hk : trees k = some [.word k]) {t : String} {ts : List String} {us : List Tree}
    {uss : List (List Tree)} (ht : trees t = some us)
    (hts : List.Forall₂ (fun t us => trees t = some us) ts uss) :
    trees (w.intercalate (t :: ts)) = some (us ++ uss.flatMap fun us => .word k :: us) := by
  induction hts generalizing t us with
  | nil => simpa using ht
  | cons hx _ ih =>
    rw [String.intercalate_cons_cons, String.append_assoc, trees_linked hw hk ht (ih hx)]
    rfl

theorem IsName.trees {w : String} (h : IsName w) : trees w = some [.word w] :=
  trees_word h.nonempty h.plain

theorem plain_of_isDigit {c : Char} (h : c.isDigit = true) : Lexeme.Plain c := by
  have hr : 48 ≤ c.toNat ∧ c.toNat ≤ 57 := by
    simpa [Char.isDigit, UInt32.le_iff_toNat_le] using h
  have hb : blankChar c = false := by
    simp [blankChar, inRanges, blankRanges]
    omega
  refine ⟨?_, ?_⟩
  · rintro rfl
    cases h
  · have ho : c ≠ '(' := by
      rintro rfl
      cases h
    have hc : c ≠ ')' := by
      rintro rfl
      cases h
    simp [Lexeme.ending?, hb, ho, hc]

theorem isName_placeholder (n : Nat) : IsName (placeholder n) := by
  have hl := toList_placeholder n
  refine ⟨?_, ?_, ?_⟩
  · intro h
    rw [h] at hl
    cases hl
  · intro c hc
    rw [hl, List.mem_cons] at hc
    rcases hc with rfl | hc
    · decide
    · exact plain_of_isDigit (isDigit_of_mem_digits c hc)
  · simp [means, hl]

end Text

theorem Text.trees_and : trees "and" = some [.word "and"] :=
  trees_word (by decide) (Lexeme.plain_of_all (by decide))

theorem Text.trees_or : trees "or" = some [.word "or"] :=
  trees_word (by decide) (Lexeme.plain_of_all (by decide))

theorem Text.isName_like : IsName "like" := by decide

theorem Comparison.isName_symbol (op : Comparison) : Text.IsName op.symbol := by
  cases op <;> decide

namespace Clause

open Text

def likeTrees : Nat → List String → List (List Tree)
  | _, [] => []
  | n, p :: ps => [.word p, .word "like", .word (placeholder n)] :: likeTrees (n + 1) ps

def comparisons (n : Nat) : Clause → List (List Tree)
  | compare p op => [[.word p, .word op.symbol, .word (placeholder n)]]
  | like p => [[.word p, .word "like", .word (placeholder n)]]
  | likeAny ps => likeTrees n ps
  | within p => [[.word p, .word "in", .word (placeholder n)]]
  | between p =>
    [[.word p, .word "between", .word (placeholder n), .word "and", .word (placeholder (n + 1))]]

def holds (v : List Tree → Bool) (n : Nat) (c : Clause) : Bool := (c.comparisons n).any v

theorem trees_comparison {p o w : String} (hw : w = " " ++ (o ++ " ")) (hp : IsName p)
    (ho : IsName o) (n : Nat) :
    trees (p ++ (w ++ placeholder n)) = some [.word p, .word o, .word (placeholder n)] :=
  trees_linked hw ho.trees hp.trees (isName_placeholder n).trees

theorem trees_likes {n : Nat} {ps : List String} (h : ∀ p ∈ ps, IsName p) :
    List.Forall₂ (fun t us => trees t = some us) (likes n ps) (likeTrees n ps) := by
  induction ps generalizing n with
  | nil => exact .nil
  | cons p ps ih =>
    have hp := trees_comparison (w := " like ") (o := "like") rfl (h p (List.mem_cons_self ..))
      isName_like n
    rw [likes, likeTrees, String.append_assoc]
    exact .cons hp (ih fun q hq => h q (List.mem_cons_of_mem _ hq))

theorem stand_likes {n : Nat} {ps : List String} (h : ∀ p ∈ ps, IsName p) :
    List.Forall₂ Reading.Stand (likeTrees n ps) ((likeTrees n ps).map .atom) := by
  induction ps generalizing n with
  | nil => exact .nil
  | cons p ps ih =>
    exact .cons (.comparison (h p (List.mem_cons_self ..)) isName_like (isName_placeholder n))
      (ih fun q hq => h q (List.mem_cons_of_mem _ hq))

/-- The text of a clause stands for one condition, which holds when the clause does. -/
theorem stand_render {c : Clause} (n : Nat) (h : ∀ p ∈ c.paths, IsName p) (hn : 0 < c.arity) :
    ∃ ts f, trees (c.render n) = some ts ∧ Reading.Stand ts f ∧
      ∀ v, f.holds v = c.holds v n := by
  have single : ∀ (p o w : String), w = " " ++ (o ++ " ") → IsName p → IsName o →
      c.render n = p ++ (w ++ placeholder n) →
      c.comparisons n = [[.word p, .word o, .word (placeholder n)]] →
      ∃ ts f, trees (c.render n) = some ts ∧ Reading.Stand ts f ∧ ∀ v, f.holds v = c.holds v n := by
    intro p o w hw hp ho hr hc
    refine ⟨_, _, hr ▸ trees_comparison hw hp ho n,
      .comparison hp ho (isName_placeholder n), ?_⟩
    intro v
    simp [Formula.holds, holds, hc]
  cases c with
  | compare p op =>
    exact single p op.symbol _ rfl (h p (List.mem_singleton.2 rfl)) op.isName_symbol
      (by simp [render, String.append_assoc]) rfl
  | like p =>
    exact single p "like" " like " rfl (h p (List.mem_singleton.2 rfl)) isName_like
      (by rw [render, String.append_assoc]) rfl
  | within p =>
    exact single p "in" " in " rfl (h p (List.mem_singleton.2 rfl)) (by decide)
      (by rw [render, String.append_assoc]) rfl
  | between p =>
    have hp := h p (List.mem_singleton.2 rfl)
    have hk := isName_placeholder n
    have hm := isName_placeholder (n + 1)
    have hb : trees "between" = some [.word "between"] :=
      trees_word (by decide) (Lexeme.plain_of_all (by decide))
    have range := trees_linked (w := " and ") rfl trees_and hk.trees hm.trees
    have whole := trees_linked (w := " between ") rfl hb hp.trees range
    refine ⟨_, _, ?_, .range hp hk hm, ?_⟩
    · rw [render]
      simpa [String.append_assoc] using whole
    · intro v
      simp [Formula.holds, holds, comparisons]
  | likeAny ps =>
    cases ps with
    | nil => exact absurd hn (by decide)
    | cons p ps =>
      have hts := @trees_likes n (p :: ps) h
      have hss := @stand_likes n (p :: ps) h
      simp only [likes, likeTrees, List.map_cons, List.forall₂_cons] at hts hss
      have joined := trees_intercalate (w := orWord) rfl trees_or hts.1 hts.2
      have grouped := Reading.ofTrees?_alternatives hss.1 hss.2
      refine ⟨_, _, trees_enclosed joined, .group grouped, ?_⟩
      intro v
      simp [Formula.holds, Formula.holds_foldl_or, holds, comparisons, likeTrees, List.any_map,
        Function.comp_def]

end Clause

namespace Emission

open Text

def holds (v : List Tree → Bool) (e : Emission) : Bool := e.clause.holds v e.first

theorem stand_fragments {es : List Emission}
    (h : ∀ e ∈ es, 0 < e.clause.arity ∧ ∀ p ∈ e.clause.paths, IsName p) :
    ∃ uss fs, List.Forall₂ (fun t us => trees t = some us) (es.map fragment) uss ∧
      List.Forall₂ Reading.Stand uss fs ∧ ∀ v, fs.all (Formula.holds v) = es.all (holds v) := by
  induction es with
  | nil => exact ⟨[], [], .nil, .nil, fun _ => rfl⟩
  | cons e es ih =>
    obtain ⟨hn, hp⟩ := h e (List.mem_cons_self ..)
    obtain ⟨us, f, hus, hf, holds_eq⟩ := Clause.stand_render e.first hp hn
    obtain ⟨uss, fs, huss, hfs, all_eq⟩ := ih fun x hx => h x (List.mem_cons_of_mem _ hx)
    refine ⟨us :: uss, f :: fs, .cons hus huss, .cons hf hfs, ?_⟩
    intro v
    simp only [List.all_cons, holds_eq, all_eq]
    rfl

theorem read?_joined {w : String} {ts : List Tree} {r : Reading} {g : Formula}
    {es : List Emission} (hw : trees w = some ts) (hr : ({} : Reading).after? ts = some r)
    (hg : r.conjunct? = some g)
    (h : ∀ e ∈ es, 0 < e.clause.arity ∧ ∀ p ∈ e.clause.paths, IsName p) :
    ∃ f, Formula.read? (andWord.intercalate (w :: es.map fragment)) =
        some (Reading.joined .or r.ors f) ∧
      ∀ v, f.holds v = (g.holds v && es.all (holds v)) := by
  obtain ⟨uss, fs, huss, hfs, all_eq⟩ := stand_fragments h
  have whole := trees_intercalate (w := andWord) rfl trees_and hw huss
  obtain ⟨r', hr', ors_eq, conjunct_eq⟩ := Reading.after?_ands hfs hg
  refine ⟨fs.foldl .and g, ?_, ?_⟩
  · rw [Formula.read?, whole, Option.bind_some, Reading.ofTrees?_eq, Reading.after?_append, hr,
      Option.bind_some, hr', Option.bind_some, Reading.formula?, conjunct_eq, ors_eq]
    rfl
  · intro v
    rw [Formula.holds_foldl_and, all_eq]

end Emission

namespace Reading

theorem ne_or_of_conjunct {r : Reading} {g : Formula} (h : r.conjunct? = some g)
    (l k : Formula) : g ≠ .or l k := by
  rintro rfl
  obtain ⟨i, hi, he⟩ := Option.map_eq_some_iff.1 h
  cases ha : r.ands with
  | some f =>
    rw [ha] at he
    cases he
  | none =>
    rw [ha] at he
    simp only [joined] at he
    subst he
    unfold item? at hi
    split at hi
    · cases hi
    · split at hi
      · cases hi
      · simp at hi
      · cases hi

end Reading

theorem Formula.of_read? {w : String} {f : Formula} (h : read? w = some f) :
    ∃ ts r g, Text.trees w = some ts ∧ ({} : Reading).after? ts = some r ∧
      r.conjunct? = some g ∧ f = Reading.joined .or r.ors g := by
  obtain ⟨ts, hts, h⟩ := Option.bind_eq_some_iff.1 h
  rw [Reading.ofTrees?_eq] at h
  obtain ⟨r, hr, h⟩ := Option.bind_eq_some_iff.1 h
  obtain ⟨g, hg, rfl⟩ := Option.map_eq_some_iff.1 h
  exact ⟨ts, r, g, hts, hr, hg, rfl⟩

namespace Emission

open Text

/-- Clauses behind a condition hold together with its last alternative alone. -/
theorem read?_behind {w : String} {f : Formula} {es : List Emission} (hw : Formula.read? w = some f)
    (h : ∀ e ∈ es, 0 < e.clause.arity ∧ ∀ p ∈ e.clause.paths, IsName p) :
    ∃ g, Formula.read? (andWord.intercalate (w :: es.map fragment)) = some g ∧
      ∀ v, (g.holds v = (f.holds v && es.all (holds v)) ↔
        ∀ l k, .or l k = f → l.holds v → es.all (holds v)) := by
  obtain ⟨ts, r, k, hts, hr, hk, rfl⟩ := Formula.of_read? hw
  obtain ⟨g, hg, holds_eq⟩ := read?_joined hts hr hk h
  refine ⟨_, hg, ?_⟩
  intro v
  cases ho : r.ors with
  | none =>
    have no_or : ∀ l m, ¬ Formula.or l m = k := fun l m e => Reading.ne_or_of_conjunct hk l m e.symm
    simp [Reading.joined, holds_eq, no_or]
  | some o =>
    simp only [Reading.joined, Formula.holds, holds_eq, Formula.or.injEq]
    constructor
    · rintro e l m ⟨rfl, -⟩ hl
      simpa [hl] using e
    · intro e
      have ho := e o k ⟨rfl, rfl⟩
      cases ha : o.holds v with
      | false => simp
      | true => simp [ho ha]

theorem read?_alone {e : Emission} {es : List Emission}
    (h : ∀ x ∈ e :: es, 0 < x.clause.arity ∧ ∀ p ∈ x.clause.paths, IsName p) :
    ∃ g, Formula.read? (andWord.intercalate ((e :: es).map fragment)) = some g ∧
      ∀ v, g.holds v = (e :: es).all (holds v) := by
  obtain ⟨hn, hp⟩ := h e (List.mem_cons_self ..)
  obtain ⟨ts, f, hts, stand, f_eq⟩ := Clause.stand_render e.first hp hn
  obtain ⟨r, hr, ors_eq, ands_eq, item_eq⟩ := stand none none
  have hf : r.conjunct? = some f := by simp [Reading.conjunct?, ands_eq, item_eq, Reading.joined]
  obtain ⟨g, hg, holds_eq⟩ :=
    read?_joined hts hr hf fun x hx => h x (List.mem_cons_of_mem _ hx)
  rw [ors_eq] at hg
  refine ⟨g, hg, ?_⟩
  intro v
  rw [holds_eq, f_eq]
  rfl

end Emission

namespace Plan

def given (p : Plan) : List Formula := p.conditions.filterMap Formula.read?

theorem conditions_cases (p : Plan) : p.conditions = [] ∨ ∃ c, p.conditions = [c] := by
  unfold conditions
  split
  · next m c _ =>
    cases Text.blank c with
    | true => exact .inl rfl
    | false => exact .inr ⟨c, rfl⟩
  · exact .inl rfl

end Plan

open Text in
/-- The condition part is the conjunction of the first condition and of the clauses that entered just
when no clause is missed by an alternative of the first condition. -/
theorem holds_wherePart_iff {p : Plan} {s t u : Session} {h : Handle} {b : Builder} {m : Mark}
    {base : String} {ts : List RequestAt} (hm : p.make.result s = (.ok (.shared h), t))
    (hb : t.store.builder? h = some b) (hp : p.base = .text m base)
    (hr : ∀ c ∈ p.conditions, (Formula.read? c).isSome) (hx : ∀ x ∈ ts, x.PathsAre IsName)
    (hw : ∀ x ∈ ts, x.Worded fun _ => True) (hc : Course h t ts u) :
    ∃ c text args index size, u.store.builder? h = some c ∧ Seen c u text args index size ∧
      (0 < size → ∃ w f, text = base ++ (whereWord ++ w) ++ orderPart (RequestAt.lastOrder ts) ∧
        Formula.read? w = some f ∧ ∀ v,
          (f.holds v = (p.given.all (Formula.holds v) &&
              (RequestAt.emissions b.index ts).all (Emission.holds v)) ↔
            ∀ l k, .or l k ∈ p.given → l.holds v →
              (RequestAt.emissions b.index ts).all (Emission.holds v))) := by
  obtain ⟨c, hb', seen⟩ := hc.seen hm hb hp hw
  refine ⟨c, _, _, _, _, hb', seen, ?_⟩
  intro hn
  have told : ∀ e ∈ RequestAt.emissions b.index ts,
      0 < e.clause.arity ∧ ∀ p ∈ e.clause.paths, IsName p := by
    intro e he
    obtain ⟨t, ht, k, hk⟩ := RequestAt.mem_emissions he
    obtain ⟨-, bs, hd, -⟩ := RequestAt.emission?_eq_some hk
    exact ⟨RequestAt.arity_pos hd, (hx t ht).of_emission hk⟩
  have where_eq : ∀ ws : List String, ws ≠ [] → assembled base ws (RequestAt.lastOrder ts) =
      base ++ (whereWord ++ andWord.intercalate ws) ++ orderPart (RequestAt.lastOrder ts) := by
    intro ws hws
    simp [assembled, wherePart, hws]
  rcases p.conditions_cases with none_given | ⟨c, one_given⟩
  · rw [Plan.given, none_given]
    rw [none_given] at hn
    cases es : RequestAt.emissions b.index ts with
    | nil => simp [es] at hn
    | cons e rest =>
      obtain ⟨f, hf, holds_eq⟩ := Emission.read?_alone (es ▸ told)
      refine ⟨_, f, where_eq _ (by simp), hf, ?_⟩
      intro v
      simp [holds_eq]
  · obtain ⟨g, hg⟩ := Option.isSome_iff_exists.1 (hr c (by simp [one_given]))
    obtain ⟨f, hf, holds_iff⟩ := Emission.read?_behind hg told
    rw [Plan.given, one_given]
    refine ⟨_, f, where_eq _ (by simp), hf, ?_⟩
    intro v
    simpa [hg] using holds_iff v

theorem holds_wherePart_grouped :
    ∃ t u c args index size f g,
      (Plan.withCondition (.text none "from Foo") (.text none "(a = 1 or b = 2)") (.int none 1) []
        .null (.text none "")).make.result {} = (.ok (.shared ⟨1⟩), t) ∧
      Course ⟨1⟩ t [⟨t.store, .compare .equal (.text none "c") (.int none 3)⟩] u ∧
      u.store.builder? ⟨1⟩ = some c ∧
      Seen c u "from Foo where (a = 1 or b = 2) and c = ?1" args index size ∧
      Formula.read? "(a = 1 or b = 2) and c = ?1" = some f ∧
      Formula.read? "(a = 1 or b = 2)" = some g ∧
      ∀ v, f.holds v = (g.holds v && v [.word "c", .word "=", .word "?1"]) := by
  let p : Plan := .withCondition (.text none "from Foo") (.text none "(a = 1 or b = 2)")
    (.int none 1) [] .null (.text none "")
  let t : Session := (p.make.result {}).2
  let x : RequestAt := ⟨t.store, .compare .equal (.text none "c") (.int none 3)⟩
  have hm : p.make.result {} = (.ok (.shared ⟨1⟩), t) := rfl
  have hc : Course ⟨1⟩ t [x] _ := .request (.done _)
  have hx : x.PathsAre Text.IsName := by
    intro d hd
    cases hd
    decide
  have hw : x.Worded fun _ => True := .of_form (d := .compare "c" .equal) rfl fun _ _ => trivial
  have hr : ∀ c ∈ p.conditions, (Formula.read? c).isSome := by decide +kernel
  obtain ⟨g, hg⟩ := Option.isSome_iff_exists.1 (hr "(a = 1 or b = 2)" (List.mem_singleton.2 rfl))
  obtain ⟨c, text, args, index, size, hb, seen, ha⟩ := holds_wherePart_iff hm rfl rfl hr
    (List.forall_mem_singleton.2 hx) (List.forall_mem_singleton.2 hw) hc
  have size_eq : size = 2 := by
    cases hb
    exact seen.size.symm
  have text_eq : text = "from Foo where (a = 1 or b = 2) and c = ?1" := by
    cases hb
    exact (seen.text_eq rfl rfl).trans (by decide)
  obtain ⟨w, f, parts_eq, hf, holds_iff⟩ := ha (by omega)
  have order_eq : RequestAt.lastOrder [x] = none := rfl
  have w_eq : w = "(a = 1 or b = 2) and c = ?1" := by
    rw [text_eq, order_eq, Text.orderPart, String.append_empty, ← String.append_assoc] at parts_eq
    have split_eq : "from Foo where (a = 1 or b = 2) and c = ?1" =
        "from Foo" ++ Text.whereWord ++ "(a = 1 or b = 2) and c = ?1" := by decide
    rw [split_eq] at parts_eq
    exact (String.append_right_inj _).1 parts_eq.symm
  have given_eq : p.given = [g] := by
    have conditions_eq : p.conditions = ["(a = 1 or b = 2)"] := rfl
    simp [Plan.given, conditions_eq, hg]
  have no_or : ∀ l k, g ≠ .or l k := by
    have h : (Formula.read? "(a = 1 or b = 2)").map Formula.offers = some false := by
      decide +kernel
    rintro l k rfl
    simp [hg, Formula.offers] at h
  have hd : x.demand? = some (.compare "c" .equal, [.itself (.int none 3)]) := rfl
  have he := (@RequestAt.emission?_of_le x _ _ 1 hd (by decide +kernel)).1
  have number_eq : placeholder 1 = "?1" := by decide
  subst text_eq w_eq
  refine ⟨t, _, c, args, index, size, f, g, hm, hc, hb, seen, hf, hg, ?_⟩
  intro v
  rw [(holds_iff v).2 fun l k h => absurd (List.mem_singleton.1 (given_eq ▸ h)).symm (no_or l k)]
  change (_ && (RequestAt.emissions 1 [x]).all _) = _
  simp [RequestAt.emissions, he, given_eq, Emission.holds, Clause.holds, Clause.comparisons,
    number_eq,
    Comparison.symbol]

/-- Of two alternatives without brackets only the second is joined. -/
theorem exists_not_holds_wherePart :
    ∃ t u c args index size f g v,
      (Plan.withCondition (.text none "from Foo") (.text none "a = 1 or b = 2") (.int none 1) []
        .null (.text none "")).make.result {} = (.ok (.shared ⟨1⟩), t) ∧
      Course ⟨1⟩ t [⟨t.store, .compare .equal (.text none "c") (.int none 3)⟩] u ∧
      u.store.builder? ⟨1⟩ = some c ∧
      Seen c u "from Foo where a = 1 or b = 2 and c = ?1" args index size ∧
      Formula.read? "a = 1 or b = 2 and c = ?1" = some f ∧
      Formula.read? "a = 1 or b = 2" = some g ∧
      f.holds v ≠ (g.holds v && v [.word "c", .word "=", .word "?1"]) := by
  let p : Plan := .withCondition (.text none "from Foo") (.text none "a = 1 or b = 2")
    (.int none 1) [] .null (.text none "")
  let t : Session := (p.make.result {}).2
  let x : RequestAt := ⟨t.store, .compare .equal (.text none "c") (.int none 3)⟩
  let v : List Tree → Bool := fun ts => ts.any (Tree.reads "a")
  have hm : p.make.result {} = (.ok (.shared ⟨1⟩), t) := rfl
  have hc : Course ⟨1⟩ t [x] _ := .request (.done _)
  have hw : x.Worded fun _ => True := .of_form (d := .compare "c" .equal) rfl fun _ _ => trivial
  obtain ⟨c, hb, seen⟩ := hc.seen hm rfl rfl (List.forall_mem_singleton.2 hw)
  have shown : ∃ text args index size, Seen c _ text args index size := ⟨_, _, _, _, seen⟩
  obtain ⟨text, args, index, size, seen⟩ := shown
  have text_eq : text = "from Foo where a = 1 or b = 2 and c = ?1" := by
    cases hb
    exact (seen.text_eq rfl rfl).trans (by decide)
  have whole : (Formula.read? "a = 1 or b = 2 and c = ?1").map (Formula.holds v) = some true := by
    decide +kernel
  have given : (Formula.read? "a = 1 or b = 2").isSome := by decide +kernel
  obtain ⟨f, hf, holds_eq⟩ := Option.map_eq_some_iff.1 whole
  obtain ⟨g, hg⟩ := Option.isSome_iff_exists.1 given
  subst text_eq
  refine ⟨t, _, c, args, index, size, f, g, v, hm, hc, hb, seen, hf, hg, ?_⟩
  simp [holds_eq, v, Tree.reads]

end Criteria
