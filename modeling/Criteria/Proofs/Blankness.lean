import Criteria.Number.Written
import Criteria.Proofs.Admission
import Criteria.Proofs.Listing
import Criteria.Proofs.Pattern
import Criteria.Proofs.Walks
import Mathlib.Data.List.DropRight

set_option autoImplicit false

namespace Criteria

namespace Text

def spaces : List Nat :=
  [0x09, 0x0A, 0x0B, 0x0C, 0x0D, 0x1C, 0x1D, 0x1E, 0x1F, 0x20, 0x85, 0xA0, 0x1680,
   0x2000, 0x2001, 0x2002, 0x2003, 0x2004, 0x2005, 0x2006, 0x2007, 0x2008, 0x2009, 0x200A,
   0x2028, 0x2029, 0x202F, 0x205F, 0x3000]

def Worded (x : String) : Prop := ∃ c ∈ x.toList, c.toNat ∉ spaces

theorem blankChar_iff (c : Char) : blankChar c = true ↔ c.toNat ∈ spaces := by
  have spelled : spaces = blankRanges.flatMap fun r => List.range' r.1 (r.2 + 1 - r.1) := by
    decide
  rw [spelled, blankChar, inRanges, List.any_eq_true, List.mem_flatMap]
  simp only [Bool.and_eq_true, decide_eq_true_eq, List.mem_range'_1]
  exact exists_congr fun r => and_congr_right fun _ => by omega

theorem blank_eq_false_iff {x : String} : blank x = false ↔ Worded x := by
  rw [← Bool.not_eq_true, blank_iff]
  simp only [blankChar_iff, Worded, not_forall, exists_prop]

instance (x : String) : Decidable (Worded x) := decidable_of_iff _ blank_eq_false_iff

theorem blank_eq (x : String) : blank x = !decide (Worded x) := by
  cases h : blank x with
  | false => simp [blank_eq_false_iff.1 h]
  | true => simp [← blank_eq_false_iff, h]

theorem worded_append (x y : String) : Worded (x ++ y) ↔ Worded x ∨ Worded y := by
  simp only [← blank_eq_false_iff, blank_append, Bool.and_eq_false_iff]

theorem trimmed_eq_nil_iff (x : String) : Number.trimmed x.toList = [] ↔ ¬ Worded x := by
  have parts : x.toList = x.toList.takeWhile blankChar ++ x.toList.dropWhile blankChar :=
    List.takeWhile_append_dropWhile.symm
  have leading : ∀ c ∈ x.toList.takeWhile blankChar, blankChar c = true := fun c mem =>
    List.mem_takeWhile_imp mem
  change List.rdropWhile blankChar (x.toList.dropWhile blankChar) = [] ↔ _
  rw [List.rdropWhile_eq_nil_iff, ← blank_eq_false_iff, Bool.not_eq_false, blank_iff]
  conv_rhs => rw [parts, List.forall_mem_append]
  exact (and_iff_right leading).symm

theorem assembled_order_inj (base : String) (conditions : List String) {o w : Option String} :
    assembled base conditions o = assembled base conditions w ↔ o = w :=
  ⟨fun e => Emission.orderPart_inj ((String.append_right_inj _).1 e), congrArg _⟩

end Text

namespace Request

variable {s : Store} {field mode : Value} {path : String}

def ruledByText (clause : Clause) (path operation : String) (m : Mark) (x : String) (v : Value) :
    Ruling :=
  if Text.blank x then .skip path operation (.text m x) else .add clause [.itself v]

theorem rule_compare_text (hp : s.path? field = some path) (op : Comparison) (m : Mark)
    (x : String) : (compare op field (.text m x)).rule s =
      .ok (ruledByText (.compare path op) path op.symbol m x (.text m x)) := by
  obtain ⟨p, read, written⟩ := Store.exists_of_path? hp
  simp only [rule, ruleCompare, read, Store.present_text, written, bind, Except.bind, ruledByText]
  cases Text.blank x <;> rfl

theorem rule_like_text {md : MatchMode} (hp : s.path? field = some path)
    (hm : MatchMode.ofValue s mode = .ok md) (m : Mark) (x : String) :
    ∃ l, (like field (.text m x) mode).rule s =
      .ok (ruledByText (.like path) path "like" m x (.text l (md.pattern x))) := by
  obtain ⟨p, read, written⟩ := Store.exists_of_path? hp
  obtain ⟨l, pattern⟩ := md.patternOf_text s m x
  refine ⟨l, ?_⟩
  simp only [rule, ruleLike, read, hm, Store.present_text, pattern, written, bind, Except.bind,
    ruledByText]
  cases Text.blank x <;> rfl

theorem rule_orderBy_text (s : Store) (m : Mark) (x : String) :
    (orderBy (.text m x)).rule s =
      .ok (.order (if Text.blank x then none else some (.text m x))) := by
  have read : s.fieldPath (.text m x) = .ok (.text m x) := rfl
  rw [rule, ruleOrderBy_of_ok read, Store.present_text]
  cases Text.blank x <;> rfl

end Request

namespace Builder

open Operation

/-- The request passes, and its clause enters the builder with one argument if and only if the text
is worded. -/
def EntersWorded (h : Handle) (b : Builder) (s : Session) (r : Request) (clause : Clause)
    (v : Value) (x : String) : Prop :=
  ∃ t c, (request h r).result s = (.ok (), t) ∧ t.store.builder? h = some c ∧
    (c = b.add clause [v] ↔ Text.Worded x) ∧ (c = b ↔ ¬ Text.Worded x)

section

variable {h : Handle} {b : Builder} {s : Session} {r : Request} {clause : Clause} {k m : Mark}
  {path operation w x : String}

theorem entersWorded_of_rule (hb : s.store.builder? h = some b)
    (ruled : r.rule s.store =
      .ok (Request.ruledByText clause path operation m x (.text k w)))
    (one : clause.arity = 1) (hn : b.index < Whole.bound) :
    EntersWorded h b s r clause (.text k w) x := by
  have after_eq := builder?_request h b r s hb
  rw [ruled] at after_eq
  cases blank : Text.blank x with
  | true =>
    have unworded : ¬ Text.Worded x := by simp [← Text.blank_eq_false_iff, blank]
    have result_eq := result_request_of_ok hb ruled
    simp only [Request.ruledByText, blank, if_true] at after_eq result_eq
    refine ⟨_, b, Prod.ext ?_ rfl, after_eq, ?_, iff_of_true rfl unworded⟩
    · rw [result_eq]
      exact fst_noted _ _
    · exact iff_of_false (add_ne b clause _).symm unworded
  | false =>
    have worded := Text.blank_eq_false_iff.1 blank
    have le : b.index + clause.arity ≤ Whole.bound := by omega
    have bound : r.rule s.store = .ok (Request.ruledBy clause "" .null (some (.text k w))) := by
      simp [ruled, Request.ruledByText, blank, Request.ruledBy, one]
    obtain ⟨t, result_eq, -⟩ := result_of_pattern hb bound le
    simp only [Request.ruledByText, blank, Bool.false_eq_true, if_false, Except.map, result_eq,
      Ruling.startingAt_add_of_le _ le] at after_eq
    refine ⟨t, b.add clause [.text k w], result_eq, after_eq, iff_of_true rfl worded, ?_⟩
    exact iff_of_false (add_ne b clause _) (not_not_intro worded)

theorem refused_of_rule (hb : s.store.builder? h = some b)
    (ruled : r.rule s.store =
      .ok (Request.ruledByText clause path operation m x (.text k w)))
    (one : clause.arity = 1) (worded : Text.Worded x) (hn : Whole.bound ≤ b.index) :
    ∃ t, (request h r).result s = (.error (.tooManyDigits none), t) ∧
      t.store.builder? h = some b := by
  have blank := Text.blank_eq_false_iff.2 worded
  have torn : (Request.ruledByText clause path operation m x (.text k w)).startingAt b.index =
      .tear 0 (.tooManyDigits none) := by
    simp only [Request.ruledByText, blank, Bool.false_eq_true, if_false]
    rw [Ruling.startingAt_add_of_lt _ (by omega) (by omega), Nat.sub_eq_zero_of_le hn]
  have after_eq := builder?_request h b r s hb
  have result_eq := result_request_of_ok hb ruled
  rw [ruled, Except.map, torn] at after_eq
  rw [torn] at result_eq
  exact ⟨_, Prod.ext (by rw [result_eq]; rfl) rfl, after_eq⟩

theorem exists_ordered {base : String} (hb : s.store.builder? h = some b)
    (base_eq : b.base = .text k base) (m : Mark) (x : String) :
    ∃ t c l text u, (request h (.orderBy (.text m x))).result s = (.ok (), t) ∧
      t.store.builder? h = some c ∧ c.buildNoted.result t = (.ok (.text l text), u) ∧
      (text = Text.assembled base b.conditions (some x) ↔ Text.Worded x) ∧
      (text = Text.assembled base b.conditions none ↔ ¬ Text.Worded x) := by
  have ruled := Request.rule_orderBy_text s.store m x
  have after_eq := builder?_request h b (.orderBy (.text m x)) s hb
  have result_eq := result_request_of_ok hb ruled
  rw [ruled] at after_eq
  have passes : ((request h (.orderBy (.text m x))).result s).1 = .ok () := by
    rw [result_eq]
    cases Text.blank x <;> exact fst_carryOut_order _ _ _ _
  let o : Option String := if Text.blank x then none else some x
  have spelled : spelled? (if Text.blank x then none else some (.text m x)) = some o := by
    cases blank : Text.blank x <;> simp [spelled?, o, blank]
  obtain ⟨l, u, built⟩ := result_buildNoted
    (b := b.orderBy (if Text.blank x then none else some (.text m x)))
    ((request h (.orderBy (.text m x))).result s).2 base_eq spelled
  have told (w : Option String) :
      Text.assembled base b.conditions o = Text.assembled base b.conditions w ↔ o = w :=
    Text.assembled_order_inj base b.conditions
  refine ⟨_, _, l, _, u, Prod.ext passes rfl, after_eq, built, (told _).trans ?_,
    (told _).trans ?_⟩
  · simp [o, ← Text.blank_eq_false_iff]
  · simp [o, ← Text.blank_eq_false_iff]

end

end Builder

namespace Plan

open Operation

variable {p : Plan} {m : Mark} {x : String}

theorem conditions_of_text (text : p.condition = .text m x) :
    (p.conditions = [x] ↔ Text.Worded x) ∧ (p.conditions = [] ↔ ¬ Text.Worded x) := by
  rw [← Text.blank_eq_false_iff]
  unfold conditions
  rw [text]
  cases blank : Text.blank x <;> simp [blank]

theorem exists_withCondition {k l : Mark} {n : Nat} (base : String) (m : Mark) (x : String)
    (hn : n < Whole.bound) (reserved : List Value) (s : Session) :
    ∃ h t b, (withCondition (.text k base) (.text m x) (.int l n) reserved .null
        (.text none "")).make.result s = (.ok (.shared h), t) ∧ t.store.builder? h = some b := by
  let p := withCondition (.text k base) (.text m x) (.int l n) reserved .null (.text none "")
  obtain ⟨v, u, found⟩ := offeredFields_of_null (p := p) rfl rfl (by decide) s
  obtain ⟨h, t, b, made, hb, -⟩ := completed_of_gives (p := p) (s := u) rfl hn v
    (.inr ⟨.tuple none reserved, rfl⟩)
  refine ⟨h, t, b, ?_, hb⟩
  have numbered : p.Numbered n := ⟨l, rfl⟩
  rw [result_make (p := p) (numbered.startIndex_eq s.store), found]
  exact made

end Plan

namespace Text

open Builder Operation

/-- Whatever asks whether there is something in the text `x` goes by whether it is worded. -/
structure Decided (h : Handle) (b : Builder) (s : Session) (m : Mark) (x : String) : Prop where
  present : s.store.present (.text m x) = .ok (decide (Worded x))
  trimmed : Number.trimmed x.toList ≠ [] ↔ Worded x
  field : (∃ v t, (Field.make (.text m x)).result s = (.ok v, t)) ↔ Worded x
  order : ∀ k base, b.base = .text k base → ∃ t c l text u,
    (request h (.orderBy (.text m x))).result s = (.ok (), t) ∧ t.store.builder? h = some c ∧
    c.buildNoted.result t = (.ok (.text l text), u) ∧
    (text = assembled base b.conditions (some x) ↔ Worded x) ∧
    (text = assembled base b.conditions none ↔ ¬ Worded x)
  condition : ∀ (p : Plan) j t c, p.condition = .text m x →
    p.make.result s = (.ok (.shared j), t) → t.store.builder? j = some c →
    (c.conditions = [x] ↔ Worded x) ∧ (c.conditions = [] ↔ ¬ Worded x)
  made : ∀ k l base n reserved, n < Whole.bound → ∃ j t c,
    (Plan.withCondition (.text k base) (.text m x) (.int l (.ofNat n)) reserved .null
      (.text none "")).make.result s = (.ok (.shared j), t) ∧ t.store.builder? j = some c
  compare : ∀ op field path, s.store.path? field = some path → b.index < Whole.bound →
    EntersWorded h b s (.compare op field (.text m x)) (.compare path op) (.text m x) x
  like : ∀ field path mode md, s.store.path? field = some path →
    MatchMode.ofValue s.store mode = .ok md → b.index < Whole.bound →
    ∃ l, EntersWorded h b s (.like field (.text m x) mode) (.like path) (.text l (md.pattern x)) x

/-- What is made from something worded is worded. -/
structure Lasting (s : Session) : Prop where
  append : ∀ k l m x y, s.store.present (.text k (x ++ y)) = .ok true ↔
    s.store.present (.text l x) = .ok true ∨ s.store.present (.text m y) = .ok true
  walks : ∀ v p steps w t, s.store.pathOf? v = some p → Worded p →
    (∀ step ∈ steps, step.Untaken s.store) → (Step.walk v steps).result s = (.ok w, t) →
    ∃ q, t.store.pathOf? w = some q ∧ Worded q
  patterns : ∀ (md : MatchMode) value p, s.store.present value = .ok true →
    md.patternOf s.store value = .ok p → s.store.present p = .ok true

theorem present_iff (s : Store) (m : Mark) (x : String) :
    s.present (.text m x) = .ok true ↔ Worded x := by
  simp [← blank_eq_false_iff]

theorem exists_field_iff (m : Mark) (x : String) (s : Session) :
    (∃ v t, (Field.make (.text m x)).result s = (.ok v, t)) ↔ Worded x := by
  rw [← blank_eq_false_iff]
  constructor
  · rintro ⟨v, t, made⟩
    exact (Field.of_make made).1
  · intro worded
    obtain ⟨records, made⟩ := FieldSet.result_make (m := m) worded s
    exact ⟨_, _, made⟩

theorem lasting (s : Session) : Lasting s where
  append k l m x y := by simp only [present_iff, worded_append]
  walks v p steps w t path worded untaken went := by
    obtain ⟨-, -, reached⟩ := Step.of_walk path (blank_eq_false_iff.2 worded) untaken went
    exact ⟨_, reached, (worded_append _ _).2 (.inl worded)⟩
  patterns md value p present made := by
    cases value with
    | text k x =>
      obtain ⟨l, pattern⟩ := md.patternOf_text s.store k x
      cases pattern.symm.trans made
      rw [present_iff, ← blank_eq_false_iff] at present ⊢
      exact md.blank_pattern present
    | _ => cases made

section

variable {h : Handle} {b : Builder} {s : Session}

theorem decided_of_builder (hb : s.store.builder? h = some b) (m : Mark) (x : String) :
    Decided h b s m x where
  present := by rw [Store.present_text, blank_eq, Bool.not_not]
  trimmed := (not_congr (trimmed_eq_nil_iff x)).trans not_not
  field := exists_field_iff m x s
  order _ _ base_eq := exists_ordered hb base_eq m x
  condition p _ _ _ text made hc := by
    rw [(Plan.Fresh.of_make made hc).conditions]
    exact Plan.conditions_of_text text
  made _ _ base _ reserved hn := Plan.exists_withCondition base m x hn reserved s
  compare op _ _ hp hn := entersWorded_of_rule hb (Request.rule_compare_text hp op m x) rfl hn
  like _ _ _ _ hp hm hn := by
    obtain ⟨l, ruled⟩ := Request.rule_like_text hp hm m x
    exact ⟨l, entersWorded_of_rule hb ruled rfl hn⟩

/-- Every text is taken alike wherever it goes, and what is made from it needs no new decision. -/
theorem decided (hb : s.store.builder? h = some b) (m : Mark) (x : String) :
    Decided h b s m x ∧ Lasting s :=
  ⟨decided_of_builder hb m x, lasting s⟩

end

theorem decided_spaces :
    ∃ t b, (do
        let _ ← (Plan.of (.text none "from Foo") (.int none 1) [] .null (.text none "")).make
        request ⟨1⟩ (.orderBy (.text none "a"))).result {} = (.ok (), t) ∧
      t.store.builder? ⟨1⟩ = some b ∧ b.order = some (.text none "a") ∧
      t.store.present (.text none "\u3000\u0085") = .ok false ∧
      (¬ ∃ v u, (Field.make (.text none "\u3000\u0085")).result t = (.ok v, u)) ∧
      (∃ u c l v, (request ⟨1⟩ (.orderBy (.text none "\u3000\u0085"))).result t = (.ok (), u) ∧
        u.store.builder? ⟨1⟩ = some c ∧ c.buildNoted.result u = (.ok (.text l "from Foo"), v)) ∧
      ∃ u, (request ⟨1⟩ (.compare .equal (.text none "b") (.text none "\u200b"))).result t =
          (.ok (), u) ∧
        u.store.builder? ⟨1⟩ = some (b.add (.compare "b" .equal) [.text none "\u200b"]) := by
  let t : Session := ((do
    let _ ← (Plan.of (.text none "from Foo") (.int none 1) [] .null (.text none "")).make
    request ⟨1⟩ (.orderBy (.text none "a")) : Operation Unit).result {}).2
  have hb : t.store.builder? ⟨1⟩ = some _ := rfl
  have hn : 1 < Whole.bound := Whole.two_le_bound
  obtain ⟨wide, -⟩ := decided hb none "\u3000\u0085"
  obtain ⟨narrow, -⟩ := decided hb none "\u200b"
  have unworded : ¬ Worded "\u3000\u0085" := by decide
  refine ⟨t, _, rfl, hb, rfl, ?_, mt wide.field.1 unworded, ?_, ?_⟩
  · rw [wide.present, decide_eq_false unworded]
  · obtain ⟨u, c, l, text, v, passed, hc, built, -, taken⟩ := wide.order none "from Foo" rfl
    rw [taken.2 unworded] at built
    exact ⟨u, c, l, v, passed, hc, built⟩
  · obtain ⟨u, c, passed, hc, entered, -⟩ := narrow.compare .equal (.text none "b") "b" rfl hn
    rw [entered.2 (by decide)] at hc
    exact ⟨u, passed, hc⟩

/-- Of two conditions with the same text, the one enters that has a number which can be written. -/
theorem exists_not_decided :
    ∃ t h u b v,
      (Plan.make { base := .text none "from Foo",
                   start := .int none ↑(Whole.bound - 1) }).result {} = (.ok (.shared h), t) ∧
      (request h (.compare .equal (.text none "a") (.text none "x"))).result t = (.ok (), u) ∧
      u.store.builder? h = some b ∧ u.store.present (.text none "x") = .ok true ∧
      (request h (.compare .equal (.text none "b") (.text none "x"))).result u =
        (.error (.tooManyDigits none), v) ∧
      v.store.builder? h = some b := by
  have hl := Whole.two_le_bound
  have worded : Worded "x" := by decide
  obtain ⟨t, h, b, made, hb, hi, -⟩ :=
    Plan.exists_make (n := Whole.bound - 1) (by omega) "from Foo" {}
  have first : t.store.path? (.text none "a") = some "a" := rfl
  obtain ⟨u, c, passed, hc, entered, -⟩ := entersWorded_of_rule hb
    (Request.rule_compare_text first .equal none "x") rfl (by omega)
  have index_eq : c.index = Whole.bound := by
    rw [entered.2 worded, index_add, Clause.arity, hi]
    omega
  have second : u.store.path? (.text none "b") = some "b" := rfl
  obtain ⟨v, refused, stays⟩ := refused_of_rule hc
    (Request.rule_compare_text second .equal none "x") rfl worded index_eq.ge
  exact ⟨t, h, u, c, v, made, passed, hc, (present_iff _ _ _).2 worded, refused, stays⟩

end Text

end Criteria
