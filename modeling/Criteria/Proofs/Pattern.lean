import Criteria.Proofs.Alternatives
import Criteria.Proofs.Fitness
import Mathlib.Data.List.Infix

/-! What the pattern of a match mode stands for. A pattern is read without an escape character, so
the wildcards of a value stand for other texts too. A pattern stands for a text that has, where the
mode says, a part for which the value stands (`like_pattern_iff`), and this part is the value itself
when the value has no wildcard.
-/

set_option autoImplicit false

namespace Criteria

namespace Text

/-- The texts that a pattern stands for. -/
inductive Like : List Char → List Char → Prop where
  | done : Like [] []
  | many {p t : List Char} (passed : List Char) : Like p t → Like ('%' :: p) (passed ++ t)
  | one {p t : List Char} (c : Char) : Like p t → Like ('_' :: p) (c :: t)
  | itself {p t : List Char} {c : Char} : c ≠ '%' → c ≠ '_' → Like p t → Like (c :: p) (c :: t)

def Unmarked (v : String) : Prop := '%' ∉ v.toList ∧ '_' ∉ v.toList

instance (v : String) : Decidable (Unmarked v) :=
  inferInstanceAs (Decidable ('%' ∉ v.toList ∧ '_' ∉ v.toList))

def like : List Char → List Char → Bool
  | [], t => t.isEmpty
  | c :: p, t =>
    if c = '%' then t.tails.any (like p)
    else match t with
      | [] => false
      | d :: t => (decide (c = '_') || decide (c = d)) && like p t

namespace Like

variable {p q t u v : List Char}

theorem nil_iff : Like [] t ↔ t = [] := by
  constructor
  · intro h
    cases h
    rfl
  · rintro rfl
    exact .done

theorem many_iff : Like ('%' :: p) t ↔ ∃ u v, t = u ++ v ∧ Like p v := by
  constructor
  · intro h
    cases h with
    | many passed rest => exact ⟨passed, _, rfl, rest⟩
    | itself other => exact absurd rfl other
  · rintro ⟨u, v, rfl, rest⟩
    exact .many u rest

theorem one_iff : Like ('_' :: p) t ↔ ∃ c v, t = c :: v ∧ Like p v := by
  constructor
  · intro h
    cases h with
    | one c rest => exact ⟨c, _, rfl, rest⟩
    | itself _ other => exact absurd rfl other
  · rintro ⟨c, v, rfl, rest⟩
    exact .one c rest

theorem itself_iff {c : Char} (hm : c ≠ '%') (ho : c ≠ '_') :
    Like (c :: p) t ↔ ∃ v, t = c :: v ∧ Like p v := by
  constructor
  · intro h
    cases h with
    | many => exact absurd rfl hm
    | one => exact absurd rfl ho
    | itself _ _ rest => exact ⟨_, rfl, rest⟩
  · rintro ⟨v, rfl, rest⟩
    exact .itself hm ho rest

theorem append (h : Like p u) (g : Like q v) : Like (p ++ q) (u ++ v) := by
  induction h with
  | done => exact g
  | many passed _ ih =>
    rw [List.append_assoc]
    exact .many passed ih
  | one c _ ih => exact .one c ih
  | itself hm ho _ ih => exact .itself hm ho ih

theorem append_iff : Like (p ++ q) t ↔ ∃ u v, t = u ++ v ∧ Like p u ∧ Like q v := by
  constructor
  · intro h
    induction p generalizing t with
    | nil => exact ⟨[], t, rfl, .done, h⟩
    | cons c p ih =>
      rw [List.cons_append] at h
      by_cases hm : c = '%'
      · subst hm
        obtain ⟨w, rest, rfl, hr⟩ := many_iff.1 h
        obtain ⟨u, v, rfl, hu, hv⟩ := ih hr
        exact ⟨w ++ u, v, by simp, .many w hu, hv⟩
      · by_cases ho : c = '_'
        · subst ho
          obtain ⟨d, rest, rfl, hr⟩ := one_iff.1 h
          obtain ⟨u, v, rfl, hu, hv⟩ := ih hr
          exact ⟨d :: u, v, rfl, .one d hu, hv⟩
        · obtain ⟨rest, rfl, hr⟩ := (itself_iff hm ho).1 h
          obtain ⟨u, v, rfl, hu, hv⟩ := ih hr
          exact ⟨c :: u, v, rfl, .itself hm ho hu, hv⟩
  · rintro ⟨u, v, rfl, hu, hv⟩
    exact hu.append hv

theorem wildcard (t : List Char) : Like ['%'] t := by
  simpa using Like.many t .done

theorem refl (p : List Char) : Like p p := by
  induction p with
  | nil => exact .done
  | cons c p ih =>
    by_cases hm : c = '%'
    · subst hm
      exact .many ['%'] ih
    · by_cases ho : c = '_'
      · subst ho
        exact .one '_' ih
      · exact .itself hm ho ih

theorem iff_eq (hm : '%' ∉ p) (ho : '_' ∉ p) : Like p t ↔ t = p := by
  constructor
  · intro h
    induction p generalizing t with
    | nil => exact nil_iff.1 h
    | cons c p ih =>
      simp only [List.mem_cons, not_or] at hm ho
      obtain ⟨v, rfl, rest⟩ := (itself_iff (Ne.symm hm.1) (Ne.symm ho.1)).1 h
      rw [ih hm.2 ho.2 rest]
  · rintro rfl
    exact refl t

end Like

theorem like_iff (p t : List Char) : like p t = true ↔ Like p t := by
  induction p generalizing t with
  | nil => simp [like, Like.nil_iff]
  | cons c p ih =>
    by_cases hm : c = '%'
    · subst hm
      simp only [like, if_true, List.any_eq_true, List.mem_tails, Like.many_iff, ih]
      constructor
      · rintro ⟨v, ⟨u, rfl⟩, rest⟩
        exact ⟨u, v, rfl, rest⟩
      · rintro ⟨u, v, rfl, rest⟩
        exact ⟨v, ⟨u, rfl⟩, rest⟩
    · by_cases ho : c = '_'
      · subst ho
        cases t with
        | nil => simp [like, Like.one_iff]
        | cons d t => simp [like, Like.one_iff, ih]
      · cases t with
        | nil => simp [like, hm, Like.itself_iff hm ho]
        | cons d t =>
          simp only [like, hm, ho, if_false, decide_false, Bool.false_or, Bool.and_eq_true,
            decide_eq_true_eq, ih, Like.itself_iff hm ho]
          constructor
          · rintro ⟨rfl, rest⟩
            exact ⟨t, rfl, rest⟩
          · rintro ⟨v, e, rest⟩
            cases e
            exact ⟨rfl, rest⟩

instance (p t : List Char) : Decidable (Like p t) := decidable_of_iff _ (like_iff p t)

end Text

namespace MatchMode

open Text (Like Unmarked)

def Places (m : MatchMode) (part t : List Char) : Prop :=
  match m with
  | exact => t = part
  | starting => part <+: t
  | ending => part <:+ t
  | anywhere => part <:+: t

def Selects (m : MatchMode) (v t : String) : Prop := m.Places v.toList t.toList

/-- A pattern stands for what the mode selects, and for nothing else when the value has no wildcard.
-/
structure Means (m : MatchMode) (v pattern : String) : Prop where
  complete : ∀ t, m.Selects v t → Like pattern.toList t.toList
  sound : Unmarked v → ∀ t, Like pattern.toList t.toList → m.Selects v t

theorem like_pattern_iff (m : MatchMode) (v : String) (t : List Char) :
    Like (m.pattern v).toList t ↔ ∃ part, m.Places part t ∧ Like v.toList part := by
  have mark : wildcard.toList = ['%'] := rfl
  cases m with
  | exact => simp [pattern, Places]
  | starting =>
    simp only [pattern, String.toList_append, mark, Like.append_iff, Places]
    constructor
    · rintro ⟨u, w, rfl, hu, -⟩
      exact ⟨u, ⟨w, rfl⟩, hu⟩
    · rintro ⟨u, ⟨w, rfl⟩, hu⟩
      exact ⟨u, w, rfl, hu, .wildcard w⟩
  | ending =>
    simp only [pattern, String.toList_append, mark, Like.append_iff, Places]
    constructor
    · rintro ⟨w, u, rfl, -, hu⟩
      exact ⟨u, ⟨w, rfl⟩, hu⟩
    · rintro ⟨u, ⟨w, rfl⟩, hu⟩
      exact ⟨w, u, rfl, .wildcard w, hu⟩
  | anywhere =>
    simp only [pattern, String.toList_append, mark, Like.append_iff, Places]
    constructor
    · rintro ⟨_, x, rfl, ⟨w, u, rfl, -, hu⟩, -⟩
      exact ⟨u, ⟨w, x, rfl⟩, hu⟩
    · rintro ⟨u, ⟨w, x, rfl⟩, hu⟩
      exact ⟨w ++ u, x, rfl, ⟨w, u, rfl, .wildcard w, hu⟩, .wildcard x⟩

theorem Places.mono {m n : MatchMode} {part t : List Char}
    (wider : m = .exact ∨ m = n ∨ n = .anywhere) (h : m.Places part t) : n.Places part t := by
  rcases wider with rfl | rfl | rfl
  · cases h
    cases n with
    | exact => rfl
    | starting => exact List.prefix_refl _
    | ending => exact List.suffix_refl _
    | anywhere => exact List.infix_refl _
  · exact h
  · cases m with
    | exact =>
      cases h
      exact List.infix_refl _
    | starting => exact List.IsPrefix.isInfix h
    | ending => exact List.IsSuffix.isInfix h
    | anywhere => exact h

theorem means_pattern (m : MatchMode) (v : String) : m.Means v (m.pattern v) where
  complete t selected := (m.like_pattern_iff v _).2 ⟨v.toList, selected, .refl _⟩
  sound unmarked t matched := by
    obtain ⟨part, placed, stands⟩ := (m.like_pattern_iff v _).1 matched
    cases (Like.iff_eq unmarked.1 unmarked.2).1 stands
    exact placed

example : Like (exact.pattern "a%c").toList "abbc".toList := by decide

theorem like_pattern_mono {m n : MatchMode} (wider : m = .exact ∨ m = n ∨ n = .anywhere)
    (v : String) {t : List Char} (h : Like (m.pattern v).toList t) :
    Like (n.pattern v).toList t := by
  obtain ⟨part, placed, stands⟩ := (m.like_pattern_iff v t).1 h
  exact (n.like_pattern_iff v t).2 ⟨part, placed.mono wider, stands⟩

theorem patternOf_text (m : MatchMode) (s : Store) (k : Mark) (v : String) :
    ∃ l, m.patternOf s (.text k v) = .ok (.text l (m.pattern v)) := by
  by_cases he : m = .exact
  · exact ⟨k, by simp [patternOf, he, pattern]⟩
  · exact ⟨s.mark.1, by simp [patternOf, he]⟩

theorem result_matched (m : MatchMode) (k : Mark) (v : String) (s : Session) :
    ∃ l, ((m.matched (.text k v)).result s).1 = .ok (.text l (m.pattern v)) := by
  obtain ⟨l, hl⟩ := m.patternOf_text s.store k v
  refine ⟨l, ?_⟩
  simp only [matched, Operation.result_bind, Operation.result_asking, hl]
  rfl

end MatchMode

namespace Request

def likened? : Request → Option (Value × Value)
  | like _ value mode | likeAny _ value mode => some (value, mode)
  | _ => none

variable {r : Request} {s : Store} {k : Mark} {v : String} {mode : Value} {m : MatchMode}

theorem demand?_likened (hr : r.likened? = some (.text k v, mode))
    (hm : MatchMode.ofValue s mode = .ok m) :
    ∃ l, r.demand? s =
      if Text.blank v then none
      else (r.form? s).map fun c =>
        (c, List.replicate c.arity (.itself (.text l (m.pattern v)))) := by
  obtain ⟨l, hl⟩ := m.patternOf_text s k v
  have counts : s.counts (.text k v) = !Text.blank v := Store.counts_of_ok (by simp)
  have pattern : s.pattern? mode (.text k v) = some (.text l (m.pattern v)) := by
    simp [Store.pattern?, hm, hl, Except.toOption]
  refine ⟨l, ?_⟩
  cases r with
  | like field value mode =>
    cases hr
    cases hb : Text.blank v <;> cases hp : s.path? field <;>
      simp [demand?, form?, bindings?, counts, pattern, hb, hp, Clause.arity]
  | likeAny fields value mode =>
    cases hr
    cases hb : Text.blank v <;> cases hp : s.paths? fields <;>
      simp [demand?, form?, bindings?, counts, pattern, hb, hp]
  | _ => cases hr

end Request

namespace Builder

open Operation Request

section

variable {h : Handle} {s : Session} {b : Builder} {r : Request} {k : Mark} {v : String}
  {mode : Value} {m : MatchMode}

/-- Every argument that a text is bound to is a pattern with the meaning of the mode. -/
theorem bound_likened (hb : s.store.builder? h = some b)
    (hr : r.likened? = some (.text k v, mode)) (hm : MatchMode.ofValue s.store mode = .ok m) :
    ∃ c patterns, ((request h r).result s).2.store.builder? h = some c ∧
      c.bound = b.bound ++ patterns ∧
      ∀ p ∈ patterns, ∃ l w, p = .text l w ∧ m.Means v w := by
  let t : RequestAt := ⟨s.store, r⟩
  refine ⟨b.afterRequest t, _, builder?_request h b r s hb, bound_afterRequest b t, ?_⟩
  intro p hp
  obtain ⟨e, he, hv⟩ := List.mem_flatMap.1 hp
  obtain ⟨-, bs, hd, values_eq⟩ := RequestAt.emission?_eq_some (Option.mem_toList.1 he)
  obtain ⟨l, hl⟩ := Request.demand?_likened hr hm
  have hd : r.demand? s.store = some (e.clause, bs) := hd
  rw [hl] at hd
  split at hd
  · cases hd
  · obtain ⟨c, -, same⟩ := Option.map_eq_some_iff.1 hd
    cases same
    rw [values_eq, ← List.map_replicate, boundFrom_itself] at hv
    rw [List.eq_of_mem_replicate hv]
    exact ⟨l, _, rfl, m.means_pattern v⟩

theorem request_likened {clause : Clause} (hb : s.store.builder? h = some b)
    (hr : r.likened? = some (.text k v, mode)) (hm : MatchMode.ofValue s.store mode = .ok m)
    (written : Text.blank v = false) (hf : r.form? s.store = some clause)
    (hn : b.index + clause.arity ≤ Whole.bound) :
    ((request h r).result s).1 = .ok () ∧
      ∃ l, ((request h r).result s).2.store.builder? h =
        some (b.add clause (List.replicate clause.arity (.text l (m.pattern v)))) := by
  obtain ⟨l, hl⟩ := Request.demand?_likened hr hm
  have rule_eq := Request.demand?_eq_rule s.store r
  rw [hl, hf] at rule_eq
  simp only [written, Bool.false_eq_true, if_false, Option.map_some] at rule_eq
  split at rule_eq
  · next c bs he =>
    cases rule_eq
    have ruled : r.rule s.store =
        .ok (ruledBy clause "" .null (some (.text l (m.pattern v)))) := he
    obtain ⟨u, result_eq, left⟩ := result_of_pattern hb ruled hn
    refine ⟨by rw [result_eq], l, ?_⟩
    rw [result_eq, left, builder?_eq_some]
    exact Store.cell?_put_self _ _ _ _
      (cell?_request_passed _ _ _ _ (builder?_eq_some.1 hb))
  · cases rule_eq

end

/-- A mode gives a text the pattern that stands for what it selects, a wider mode gives one that
stands for more, and these are the patterns that builders bind. -/
theorem pattern_meant :
    (∀ (m : MatchMode) (k : Mark) (v : String) (s : Session),
      ∃ l, ((m.matched (.text k v)).result s).1 = .ok (.text l (m.pattern v))) ∧
    (∀ (m : MatchMode) (v : String), m.Means v (m.pattern v)) ∧
    (∀ (m n : MatchMode) (v t : String), m = .exact ∨ m = n ∨ n = .anywhere →
      Text.Like (m.pattern v).toList t.toList → Text.Like (n.pattern v).toList t.toList) ∧
    ∀ (h : Handle) (s : Session) (b : Builder) (r : Request) (k : Mark) (v : String) (mode : Value)
      (m : MatchMode), s.store.builder? h = some b → r.likened? = some (.text k v, mode) →
      MatchMode.ofValue s.store mode = .ok m →
      (∃ c patterns, ((request h r).result s).2.store.builder? h = some c ∧
        c.bound = b.bound ++ patterns ∧
        ∀ p ∈ patterns, ∃ l w, p = .text l w ∧ m.Means v w) ∧
      ∀ clause, Text.blank v = false → r.form? s.store = some clause →
        b.index + clause.arity ≤ Whole.bound →
        ((request h r).result s).1 = .ok () ∧
          ∃ l, ((request h r).result s).2.store.builder? h =
            some (b.add clause (List.replicate clause.arity (.text l (m.pattern v)))) :=
  ⟨fun m => m.result_matched, fun m => m.means_pattern,
    fun _ _ v _ wider => MatchMode.like_pattern_mono wider v,
    fun _ _ _ _ _ _ _ _ hb hr hm =>
      ⟨bound_likened hb hr hm, fun _ => request_likened hb hr hm⟩⟩

theorem pattern_meant_prefix :
    ∃ t b, (do
        let _ ← (Plan.of (.text none "from Foo") (.int none 0) [] .null (.text none "")).make
        share (.list [.text none "a", .text none "b"])).result {} = (.ok (.shared ⟨2⟩), t) ∧
      t.store.builder? ⟨1⟩ = some b ∧
      Text.Like (MatchMode.starting.pattern "x_z").toList "xyzw".toList ∧
      (∀ u, MatchMode.starting.Selects "x_z" u →
        Text.Like (MatchMode.anywhere.pattern "x_z").toList u.toList) ∧
      ∃ l, ((request ⟨1⟩ (.likeAny (.shared ⟨2⟩) (.text none "x_z") (.text none "prefix"))).result
          t).2.store.builder? ⟨1⟩ =
        some (b.add (.likeAny ["a", "b"]) [.text l "x_z%", .text l "x_z%"]) := by
  refine ⟨_, _, rfl, rfl, by decide, fun u selected => ?_, ?_⟩
  · exact pattern_meant.2.2.1 .starting .anywhere "x_z" u (.inr (.inr rfl))
      ((pattern_meant.2.1 .starting "x_z").complete u selected)
  · exact ((pattern_meant.2.2.2 ⟨1⟩ _ _ _ none "x_z" _ .starting rfl rfl rfl).2
      (.likeAny ["a", "b"]) (by decide) rfl
      (Nat.le_trans (by decide) Whole.two_le_bound)).2

end Builder

end Criteria
