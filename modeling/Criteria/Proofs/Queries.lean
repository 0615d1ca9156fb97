import Criteria.Proofs.Fingerprints
import Criteria.Proofs.Immutability
import Criteria.Proofs.Listing
import Criteria.Proofs.Memo
import Criteria.Proofs.Resumption
import Criteria.Proofs.KeepsButPasses
import Criteria.Proofs.Telling
import Criteria.Proofs.Wording
import Mathlib.Data.List.Forall2

set_option autoImplicit false

namespace Criteria

namespace Store

open Value

/-- Comparisons between the values are answered, and each value is equal to itself. -/
structure Compares (s : Store) (vs ws : List Value) : Prop where
  answered : ∀ v ∈ vs, ∀ w ∈ ws, ∃ e, s.equal v w = .ok e
  self : ∀ v ∈ vs, s.equal v v = .ok true

variable {s : Store} {vs ws : List Value}

theorem equalPart_eq {v w : Value} (self : s.equal v v = .ok true) :
    s.equalPart v w = s.equal v w := by
  unfold equalPart samePart
  split
  · next same =>
    cases eq_of_sameHandle same
    exact self.symm
  · rfl

theorem equalRows_eq (compares : s.Compares vs ws) :
    ∃ e, equalRows (s.meet (2 * s.size + 1)) vs ws = .ok e ∧
      (e = true ↔ List.Forall₂ (fun v w => s.equal v w = .ok true) vs ws) := by
  induction vs generalizing ws with
  | nil =>
    cases ws with
    | nil => exact ⟨true, rfl, by simp⟩
    | cons w ws => exact ⟨false, rfl, by simp⟩
  | cons v vs ih =>
    cases ws with
    | nil => exact ⟨false, rfl, by simp⟩
    | cons w ws =>
      obtain ⟨e, first⟩ := compares.answered v (List.mem_cons_self ..) w (List.mem_cons_self ..)
      obtain ⟨e', rest, parts⟩ := @ih ws
        ⟨fun x hx y hy =>
            compares.answered x (List.mem_cons_of_mem _ hx) y (List.mem_cons_of_mem _ hy),
          fun x hx => compares.self x (List.mem_cons_of_mem _ hx)⟩
      rw [equalRows_cons, equalPart_eq (compares.self v (List.mem_cons_self ..)), first]
      cases e with
      | false => exact ⟨false, rfl, by simp [first]⟩
      | true => exact ⟨e', rest, by simp [first, parts]⟩

/-- Cells stay, but for what builders hold and for what is left of single passes. -/
def KeepsButBuildersAndPasses (s t : Store) : Prop :=
  ∀ k c, s.cell? k = some c → (∀ b, c ≠ .builder b) →
    (∀ generated rest, c ≠ .stream generated rest) → t.cell? k = some c

namespace KeepsButBuildersAndPasses

variable {s t u : Store}

theorem refl (s : Store) : KeepsButBuildersAndPasses s s := fun _ _ hc _ _ => hc

theorem of_keepsButPasses (h : KeepsButPasses s t) :
    KeepsButBuildersAndPasses s t := fun k c hc _ hs => h k c hc hs

theorem trans (h : KeepsButBuildersAndPasses s t) (g : KeepsButBuildersAndPasses t u) :
    KeepsButBuildersAndPasses s u :=
  fun k c hc hb hs => g k c (h k c hc hb hs) hb hs

theorem put {h : Handle} {b c : Builder} (hb : s.builder? h = some b) :
    KeepsButBuildersAndPasses s (s.put h (.builder c)) := by
  intro k d hd other _
  rw [cell?_put_of_ne, hd]
  rintro rfl
  exact other b (Option.some.inj (hd.symm.trans (Builder.builder?_eq_some.1 hb)))

end KeepsButBuildersAndPasses

end Store

structure Builder.Continues (b c : Builder) : Prop where
  base : c.base = b.base
  args : b.args <+: c.args

theorem Builder.Continues.refl (b : Builder) : b.Continues b := ⟨rfl, List.prefix_refl _⟩

theorem Builder.Continues.trans {b c d : Builder} (h : b.Continues c) (g : c.Continues d) :
    b.Continues d :=
  ⟨g.base.trans h.base, h.args.trans g.args⟩

/-- From a session to a later one, by calls of the builder in the cell `h` and by whatever leaves it
and what callers handed over. -/
inductive Later (h : Handle) (s : Session) : Session → Prop where
  | now : Later h s s
  | ask {t : Session} {a : BuilderCall} : Later h s t → a.Known →
      Later h s ((a.perform h).result t).2
  | meanwhile {t u : Session} : Later h s t → t.store.KeepsButBuildersAndPasses u.store →
      u.store.builder? h = t.store.builder? h → Later h s u

/-- A query that a builder with a text built, where callers gave nothing in place of what builds
it. -/
structure Built (h : Handle) (b : Builder) (s : Session) (q : Value) (t : Session) : Prop where
  builder : s.store.builder? h = some b
  base : ∃ m w, b.base = .text m w
  own : ∀ name ∈ ["build", "args"], s.store.givenTo? (.shared h) name = none
  built : ∃ g, ((BuilderCall.call "build_query" g).perform h).result s = (.ok q, t)

namespace Builder

open Operation

variable {h : Handle} {b : Builder} {s t : Session} {q : Value}

theorem continues_afterRequest (b : Builder) (t : RequestAt) : b.Continues (b.afterRequest t) := by
  refine ⟨base_afterRequest b t, ?_⟩
  rw [args, args, reserved_afterRequest, bound_afterRequest, ← List.append_assoc]
  exact List.prefix_append _ _

theorem keepsButBuildersAndPasses_call {a : BuilderCall} {m : Mark} {w : String}
    (hb : s.store.builder? h = some b) (base : b.base = .text m w) (known : a.Known) :
    s.store.KeepsButBuildersAndPasses ((a.perform h).result s).2.store ∧
      ∃ c, ((a.perform h).result s).2.store.builder? h = some c ∧ b.Continues c := by
  have put_eq {u : Store} (c : Builder) (hu : u.builder? h = some b) :
      (u.put h (.builder c)).builder? h = some c :=
    builder?_eq_some.2 (Store.cell?_put_self _ _ _ _ (builder?_eq_some.1 hu))
  have keepsButPasses {u : Store} (hu : s.store.KeepsButPasses u) : u.builder? h = some b :=
    builder?_eq_some.2 (hu h _ (builder?_eq_some.1 hb) fun _ _ => Cell.noConfusion)
  cases a with
  | index =>
    obtain ⟨v, marks, met, e⟩ := CallMade.result_index hb
    rw [e]
    have same : s.store.KeepsButPasses { s.store with marks } := .of_cells rfl
    exact ⟨(Store.KeepsButBuildersAndPasses.of_keepsButPasses same).trans
      (.put (keepsButPasses same)), { b with met },
      put_eq _ (keepsButPasses same), rfl, List.prefix_refl _⟩
  | call name g =>
    cases hq : requesting? name with
    | some op =>
      obtain ⟨sig, mk⟩ := op
      have result_eq := Call.result_onBuilder (g := g) hb hq
      simp only [BuilderCall.perform]
      rw [result_eq]
      cases sig.take g with
      | error f => exact ⟨.refl _, b, hb, .refl b⟩
      | ok taken =>
        have passed := (Store.KeepsButPasses.request_passed s.store (mk taken)).trans
          (.copying _ ((⟨s.store, mk taken⟩ : RequestAt).bindings b.index))
        simp only [store_request hb]
        exact ⟨(Store.KeepsButBuildersAndPasses.of_keepsButPasses passed).trans
          (.put (keepsButPasses passed)), _,
          put_eq _ (keepsButPasses passed), continues_afterRequest _ _⟩
    | none =>
      have told := (CallMade.requesting?_or_telling name known).resolve_left (by simp [hq])
      obtain ⟨tell, ht⟩ : ∃ tell, telling? h b name = some tell := by
        simp only [CallMade.outputs, List.mem_cons, List.not_mem_nil, or_false] at told
        rcases told with rfl | rfl | rfl | rfl | rfl | rfl <;> exact ⟨_, rfl⟩
      rw [BuilderCall.perform, Call.result_onBuilder_telling hb hq ht]
      split
      · exact ⟨.refl _, b, hb, .refl b⟩
      · have kept := (Operation.KeepsButPasses.telling base ht).store s
        exact ⟨.of_keepsButPasses kept, b, keepsButPasses kept, .refl b⟩

end Builder

namespace Later

variable {h : Handle} {b : Builder} {s t : Session}

theorem continues {m : Mark} {w : String} (hb : s.store.builder? h = some b)
    (base : b.base = .text m w) (later : Later h s t) :
    s.store.KeepsButBuildersAndPasses t.store ∧ ∃ c, t.store.builder? h = some c ∧
      b.Continues c := by
  induction later with
  | now => exact ⟨.refl _, b, hb, .refl b⟩
  | ask _ known ih =>
    obtain ⟨keepsBut, c, hc, continues⟩ := ih
    obtain ⟨keepsBut', d, hd, continues'⟩ :=
      Builder.keepsButBuildersAndPasses_call hc (continues.base.trans base) known
    exact ⟨keepsBut.trans keepsBut', d, hd, continues.trans continues'⟩
  | meanwhile _ keepsBut' same ih =>
    obtain ⟨keepsBut, c, hc, continues⟩ := ih
    exact ⟨keepsBut.trans keepsBut', c, same.trans hc, continues⟩

end Later

namespace Request

def Gathers (s : Store) (v : Value) : Prop :=
  listed s v = true ∨ ∃ items, s.cellOf? v = some (.list items)

theorem bindings_within {s : Store} {field values : Value} {c : Clause} {bs : List Binding}
    (h : (within field values).rule s = .ok (.add c bs)) : bs = [binding s values] := by
  simp only [rule, ruleWithin, bind, Except.bind] at h
  split at h
  · cases h
  · split at h
    · cases h
    · split at h
      · split at h
        · split at h
          · cases h
          · cases h
            rfl
        · cases h
      · split at h <;> cases h

end Request

theorem RequestAt.bindings_within {s : Store} {field values : Value} {n : Nat}
    (entered : ((⟨s, .within field values⟩ : RequestAt).emission? n).isSome) :
    (⟨s, .within field values⟩ : RequestAt).bindings n = [Request.binding s values] := by
  obtain ⟨c, bs, ruled⟩ :
      ∃ c bs, (⟨s, .within field values⟩ : RequestAt).ruling n = .ok (.add c bs) := by
    unfold emission? at entered
    split at entered
    · next c bs ruled => exact ⟨c, bs, ruled⟩
    · cases entered
  simp only [bindings, ruled]
  simp only [ruling] at ruled
  cases rule_eq : (Request.within field values).rule s with
  | error f => simp [rule_eq, Except.map] at ruled
  | ok ruling =>
    rw [rule_eq] at ruled
    cases ruling with
    | add d ds =>
      simp only [Except.map, Ruling.startingAt] at ruled
      split at ruled
      · cases ruled
      · cases ruled
        exact Request.bindings_within rule_eq
    | tear spent f =>
      simp only [Except.map, Ruling.startingAt] at ruled
      split at ruled <;> cases ruled
    | skip | order => cases ruled

namespace Builder

variable {h : Handle} {b : Builder} {s t : Session} {q : Value}

theorem store_within {a : BuilderCall} {field values : Value} (hb : s.store.builder? h = some b)
    (asked : a.request? = some (.within field values))
    (entered : ((⟨s.store, .within field values⟩ : RequestAt).emission? b.index).isSome) :
    ((a.perform h).result s).2.store =
      (s.store.copying [Request.binding s.store values]).put h
        (.builder (b.afterRequest ⟨s.store, .within field values⟩)) := by
  rw [BuilderCall.result_of_request asked hb, store_request hb, RequestAt.bindings_within entered]
  rfl

theorem exists_list_of_within {a : BuilderCall} {field values : Value}
    (hb : s.store.builder? h = some b)
    (asked : a.request? = some (.within field values)) (gathers : Request.Gathers s.store values)
    (entered : ((⟨s.store, .within field values⟩ : RequestAt).emission? b.index).isSome) :
    ∃ k items c, ((a.perform h).result s).2.store.cell? k = some (.list items) ∧
      ((a.perform h).result s).2.store.builder? h = some c ∧ b.Continues c ∧
      .shared k ∈ c.args := by
  let request : RequestAt := ⟨s.store, .within field values⟩
  have store_eq := store_within hb asked entered
  have keepsButPasses := Store.KeepsButPasses.copying s.store [Request.binding s.store values] h _
    (builder?_eq_some.1 hb) fun _ _ => Cell.noConfusion
  have taken : boundFrom s.store.size [Request.binding s.store values] ⊆
      (b.afterRequest request).args := by
    intro v hv
    rw [args, bound_afterRequest, RequestAt.values_emission?, RequestAt.bindings_within entered]
    exact List.mem_append_right _ (List.mem_append_right _ hv)
  obtain ⟨k, items, held, mem⟩ : ∃ k items,
      (s.store.copying [Request.binding s.store values]).cell? k = some (.list items) ∧
      .shared k ∈ boundFrom s.store.size [Request.binding s.store values] := by
    unfold Request.binding
    cases copied : s.store.copied? values with
    | some items =>
      exact ⟨⟨s.store.size⟩, items, Store.cell?_alloc .., List.mem_singleton.2 rfl⟩
    | none =>
      rcases gathers with listed | ⟨items, held⟩
      · rw [Request.listed_eq_copied?, copied] at listed
        cases listed
      · cases values with
        | shared k => exact ⟨k, items, held, List.mem_singleton.2 rfl⟩
        | _ => cases held
  refine ⟨k, items, b.afterRequest request, ?_, ?_, continues_afterRequest _ _, taken mem⟩
  · rw [store_eq, Store.cell?_put_of_ne, held]
    rintro rfl
    rw [keepsButPasses] at held
    cases held
  · rw [store_eq]
    exact builder?_eq_some.2 (Store.cell?_put_self _ _ _ _ keepsButPasses)

end Builder

def Value.Holds (q : Value) (w : String) (args : List Value) : Prop :=
  ∃ m k n, q = .query m (.text k w) (.tuple n args)

def Builder.Writes (b : Builder) (s : Session) (w : String) : Prop :=
  ∃ k, (b.buildNoted.result s).1 = .ok (.text k w)

namespace Built

open Builder

variable {h : Handle} {b : Builder} {s t : Session} {q : Value}

theorem exists_holds (hq : Built h b s q t) :
    (∃ w, b.Writes s w ∧ q.Holds w b.args) ∧
      t.store.builder? h = some b ∧ s.store.KeepsButBuildersAndPasses t.store := by
  obtain ⟨m, base, hm⟩ := hq.base
  obtain ⟨g, built⟩ := hq.built
  have known : (BuilderCall.call "build_query" g).Known := by
    change "build_query" ∈ Operations.ofBuilder
    decide
  have keepsBut := (keepsButBuildersAndPasses_call hq.builder hm known).1
  rw [built] at keepsBut
  rw [BuilderCall.perform, Call.result_onBuilder_telling hq.builder rfl rfl] at built
  split at built
  · cases built
  · rcases result_buildQuery hq.builder hq.own with
      ⟨f, u, -, refused⟩ | ⟨v, u, m', k, t', text, result_eq, -, hb⟩
    · cases built.symm.trans refused
    · cases built.symm.trans result_eq
      refine ⟨?_, hb, keepsBut⟩
      cases order : spelled? b.order with
      | some o =>
        obtain ⟨l, u', text'⟩ := result_buildNoted s hm order
        cases text.symm.trans text'
        exact ⟨_, ⟨_, congrArg Prod.fst text⟩, _, _, _, rfl⟩
      | none =>
        obtain ⟨o, ho, hn⟩ : ∃ o, b.order = some o ∧ ∀ k w, o ≠ .text k w := by
          unfold spelled? at order
          split at order
          · cases order
          · cases order
          · next o hn ho => exact ⟨o, ho, hn⟩
        have refused := Resumes.result_build_of_order s hm ho hn
        rw [buildNoted, Operation.result_bind, refused] at text
        cases text

end Built

namespace Value.Holds

variable {q r : Value} {w x : String} {vs ws : List Value}

theorem handles_eq (h : q.Holds w vs) : q.handles = Value.handlesOf vs := by
  obtain ⟨m, k, n, rfl⟩ := h
  rfl

theorem within (h : q.Holds w vs) {us : List Value} (sub : vs ⊆ us) :
    q.Within (· ∈ Value.handlesOf us) := by
  intro k hk
  rw [h.handles_eq, Value.mem_handlesOf] at hk
  obtain ⟨v, hv, hk⟩ := hk
  exact Value.mem_handlesOf.2 ⟨v, sub hv, hk⟩

theorem equal_eq (s : Store) (hq : q.Holds w vs) (hr : r.Holds x ws) :
    s.equal q r = if w = x then equalRows (s.meet (2 * s.size + 1)) vs ws else .ok false := by
  obtain ⟨m, k, n, rfl⟩ := hq
  obtain ⟨m', k', n', rfl⟩ := hr
  rw [Store.equalPart_query, FieldSet.equalPart_text]
  by_cases e : w = x
  · simp only [e, beq_self_eq_true, if_true]
    rfl
  · simp only [beq_eq_false_iff_ne.2 e, e, if_false]
    rfl

theorem unprinted_iff {s : Store} (h : q.Holds w vs) :
    s.Unprinted q ↔ ∃ v ∈ vs, s.Unprinted v := by
  obtain ⟨m, k, n, rfl⟩ := h
  rw [Store.unprinted_query_iff, Store.unprinted_row_iff (v := .tuple n vs) rfl]
  refine or_iff_right fun no => ?_
  cases no with
  | row e => cases e

theorem tells {s : Store} (h : q.Holds w vs) (pathed : s.Pathed (· ∈ Value.handlesOf vs)) :
    Tells (∃ v ∈ vs, s.Unprinted v) (s.fingerprint q) :=
  (Store.tells_fingerprint pathed q (h.within fun _ => id)).congr h.unprinted_iff

end Value.Holds

/-- What two queries are as values. The builder `b` in the cell `h` builds the first one from the
session `s` on, up to `t`, and `c` builds the second one from `s'` on. -/
structure Queries (h : Handle) (b c : Builder) (s t s' : Session) (q r : Value) : Prop where
  /-- They are equal when their texts are one and their arguments are equal one by one. -/
  equal : ∃ w x, b.Writes s w ∧ c.Writes s' x ∧ ∀ u : Store, u.Compares b.args c.args →
    ∃ e, u.equal q r = .ok e ∧
      (e = true ↔ w = x ∧ List.Forall₂ (fun v y => u.equal v y = .ok true) b.args c.args)
  /-- Whether there is a fingerprint is told by the arguments. -/
  refused_iff : ∀ u : Store, u.Pathed (· ∈ Value.handlesOf b.args) →
    ((∃ f, u.fingerprint q = .error f ∧ f.kind = .typeMismatch) ↔ ∃ v ∈ b.args, u.Unprinted v)
  printed_iff : ∀ u : Store, u.Pathed (· ∈ Value.handlesOf b.args) →
    ((∃ f, u.fingerprint q = .ok f) ↔ ∀ v ∈ b.args, ¬ u.Unprinted v)
  /-- A query has none as soon as an `in` condition has bound a list. -/
  gathered : ∀ (v : Session) (d : Builder) (a : BuilderCall) (field values : Value),
    v.store.builder? h = some d → (∃ m w, d.base = .text m w) →
    a.request? = some (.within field values) → Request.Gathers v.store values →
    ((⟨v.store, .within field values⟩ : RequestAt).emission? d.index).isSome →
    Later h ((a.perform h).result v).2 s → ∀ u : Store, t.store.KeepsButBuildersAndPasses u →
    u.Pathed (· ∈ Value.handlesOf b.args) →
    ∃ f, u.fingerprint q = .error f ∧ f.kind = .typeMismatch
  /-- Equal queries are found by one fingerprint. -/
  agrees : ∀ u : Store, u.Lawful (· ∈ Value.handlesOf (b.args ++ c.args)) →
    u.equal q r = .ok true → ∀ f g, u.fingerprint q = .ok f → u.fingerprint r = .ok g →
    f.agrees g = true
  fields : ∀ (u : Store) (i j : Handle) (m n : Mark) (p o : String),
    u.cell? i = some (.field (some (.text m p))) → u.cell? j = some (.field (some (.text n o))) →
    u.equal (.shared i) (.shared j) = .ok (p == o) ∧ u.fingerprint (.shared i) = .ok (.ofText p)
  kept : ∀ u : Session, Later h t u → t.store.KeepsButBuildersAndPasses u.store ∧
    ∃ d, u.store.builder? h = some d ∧ b.args <+: d.args

namespace Built

variable {h k : Handle} {b c : Builder} {s t s' t' : Session} {q r : Value}

theorem exists_built {m : Mark} {w : String} {o : Option String} (hb : s.store.builder? h = some b)
    (base : b.base = .text m w) (order : Builder.spelled? b.order = some o)
    (own : ∀ name ∈ ["build", "args"], s.store.givenTo? (.shared h) name = none) :
    ∃ q t, Built h b s q t := by
  have called : (Call.onBuilder h "build_query" { places := [] }).result s =
      (b.buildQuery h).result s := Call.result_onBuilder_telling hb rfl rfl
  obtain ⟨k, u, text⟩ := Builder.result_buildNoted s base order
  rcases Builder.result_buildQuery hb own with ⟨f, u', refused, -⟩ | ⟨v, u', m', n, t, -, built, -⟩
  · cases text.symm.trans refused
  · exact ⟨_, t, hb, ⟨m, w, base⟩, own, { places := [] }, called.trans built⟩

theorem gathered (hq : Built h b s q t) {v : Session} {d : Builder} {a : BuilderCall}
    {field values : Value} (hd : v.store.builder? h = some d) (base : ∃ m w, d.base = .text m w)
    (asked : a.request? = some (.within field values)) (gathers : Request.Gathers v.store values)
    (entered : ((⟨v.store, .within field values⟩ : RequestAt).emission? d.index).isSome)
    (later : Later h ((a.perform h).result v).2 s) {u : Store}
    (keepsBut : t.store.KeepsButBuildersAndPasses u) :
    ∃ x ∈ b.args, u.Unprinted x := by
  obtain ⟨m, w, base⟩ := base
  obtain ⟨i, items, e, held, he, continues, mem⟩ :=
    Builder.exists_list_of_within hd asked gathers entered
  obtain ⟨keepsBut', f, hf, continues'⟩ := later.continues he (continues.base.trans base)
  cases hf.symm.trans hq.builder
  have list : u.cell? i = some (.list items) :=
    (keepsBut'.trans (hq.exists_holds.2.2.trans keepsBut)) i _ held (by simp) (by simp)
  exact ⟨.shared i, continues'.args.subset mem, .cell list rfl⟩

/-- Queries that are built are equal and are keys as their parts are, and they stay. -/
theorem queries (hq : Built h b s q t) (hr : Built k c s' r t') : Queries h b c s t s' q r := by
  obtain ⟨⟨w, writes, holds⟩, hb, -⟩ := hq.exists_holds
  obtain ⟨⟨x, writes', holds'⟩, -, -⟩ := hr.exists_holds
  obtain ⟨m, base, base_eq⟩ := hq.base
  refine ⟨⟨w, x, writes, writes', fun u compares => ?_⟩,
    fun u pathed => (holds.tells pathed).refused_iff, fun u pathed => ?_, ?_, ?_, ?_, ?_⟩
  · obtain ⟨e, rows, parts⟩ := Store.equalRows_eq compares
    rw [Value.Holds.equal_eq u holds holds', rows]
    by_cases same : w = x
    · exact ⟨e, by simp [same], by simp [same, parts]⟩
    · exact ⟨false, by simp [same], by simp [same]⟩
  · rw [(holds.tells pathed).ok_iff]
    simp
  · intro v d a field values hd base asked gathers entered later u keepsBut' pathed
    exact (holds.tells pathed).refused_iff.2
      (hq.gathered hd base asked gathers entered later keepsBut')
  · intro u lawful equal f g hf hg
    exact Store.agrees_of_equal lawful q r (holds.within (List.subset_append_left _ _))
      (holds'.within (List.subset_append_right _ _)) equal hf hg
  · exact fun u i j m n p o hi hj => ⟨Field.equal_eq hi hj, Field.fingerprint_of_path hi⟩
  · intro u later
    obtain ⟨keepsBut', d, hd, continues⟩ := later.continues hb base_eq
    exact ⟨keepsBut', d, hd, continues.args⟩

def paired : Session where
  store :=
    { cells := [.field (some (.text none "o.x")), .field (some (.text none "o.x")),
        .builder { base := .text none "from Foo", index := 1, model := none, fields := none
                   reserved := [.shared ⟨0⟩] },
        .builder { base := .text none "from Foo", index := 1, model := none, fields := none
                   reserved := [.shared ⟨1⟩] }] }

def gathering : BuilderCall := .call "in_" { places := [.text none "a", .tuple none [.int none 1]] }

theorem queries_paired :
    ∃ b c q r t u, Built ⟨2⟩ b paired q t ∧ Built ⟨3⟩ c paired r u ∧
      paired.store.equal q r = .ok true ∧
      (∃ f g, paired.store.fingerprint q = .ok f ∧ paired.store.fingerprint r = .ok g ∧
        f.agrees g = true) ∧
      (∃ d, ((gathering.perform ⟨2⟩).result t).2.store.builder? ⟨2⟩ = some d ∧ b.args <+: d.args) ∧
      ∃ d q' v, Built ⟨2⟩ d ((gathering.perform ⟨2⟩).result paired).2 q' v ∧
        ∃ f, v.store.fingerprint q' = .error f ∧ f.kind = .typeMismatch := by
  obtain ⟨q, t, hq⟩ := exists_built (h := ⟨2⟩) (s := paired) rfl rfl rfl (by decide)
  obtain ⟨r, u, hr⟩ := exists_built (h := ⟨3⟩) (s := paired) rfl rfl rfl (by decide)
  have entered : ((⟨paired.store, .within (.text none "a") (.tuple none [.int none 1])⟩ :
      RequestAt).emission? 1).isSome := by decide +kernel
  have asked : gathering.request? =
      some (.within (.text none "a") (.tuple none [.int none 1])) := rfl
  have store_eq := Builder.store_within (h := ⟨2⟩) (s := paired) rfl asked entered
  obtain ⟨q', v, hq'⟩ := exists_built (h := ⟨2⟩) (s := ((gathering.perform ⟨2⟩).result paired).2)
    (by rw [store_eq]; exact Builder.builder?_eq_some.2 rfl) (Builder.base_afterRequest _ _)
    (o := none) (by rw [Builder.order_afterRequest]; rfl) (by rw [store_eq]; decide)
  have first := queries hq hr
  have second := queries hq' hr
  have held : ∀ i ∈ Value.handlesOf [.shared ⟨0⟩, .shared ⟨1⟩],
      paired.store.cell? i = some (.field (some (.text none "o.x"))) := by
    simp only [Value.handlesOf, Value.handles, List.append_nil, List.cons_append, List.nil_append,
      List.forall_mem_cons]
    exact ⟨rfl, rfl, List.forall_mem_nil _⟩
  have lawful : paired.store.Lawful (· ∈ Value.handlesOf [.shared ⟨0⟩, .shared ⟨1⟩]) := by
    refine ⟨fun i hi p hp => ?_, fun i j xs ys hi hj hx => ?_⟩
    · cases (held i hi).symm.trans hp
      exact ⟨_, _, rfl⟩
    · cases (held i hi).symm.trans hx
  have printed : ∀ i ∈ Value.handlesOf [.shared ⟨0⟩, .shared ⟨1⟩],
      ¬ paired.store.Unprinted (.shared i) := by
    intro i hi no
    cases no with
    | cell hc no =>
      cases (held i hi).symm.trans hc
      cases no
    | row e => cases e
  have compares : paired.store.Compares [.shared ⟨0⟩] [.shared ⟨1⟩] :=
    ⟨by simp only [List.forall_mem_singleton]; exact ⟨_, rfl⟩, List.forall_mem_singleton.2 rfl⟩
  have equal : paired.store.equal q r = .ok true := by
    obtain ⟨w, x, ⟨_, writes⟩, ⟨_, writes'⟩, answer⟩ := first.equal
    obtain ⟨e, equal, parts⟩ := answer paired.store compares
    cases writes
    cases writes'
    rw [equal, parts.2 ⟨rfl, .cons rfl .nil⟩]
  refine ⟨_, _, q, r, t, u, hq, hr, equal, ?_, ?_, _, q', v, hq', ?_⟩
  · obtain ⟨f, hf⟩ := (first.printed_iff paired.store fun i hi =>
      lawful.pathed i (List.mem_append_left _ hi)).2
        (List.forall_mem_singleton.2 (printed _ (List.mem_cons_self ..)))
    obtain ⟨g, hg⟩ := ((queries hr hq).printed_iff paired.store fun i hi =>
      lawful.pathed i (List.mem_cons_of_mem _ hi)).2
        (List.forall_mem_singleton.2 (printed _ (List.mem_cons_of_mem _ (List.mem_cons_self ..))))
    exact ⟨f, g, hf, hg, first.agrees paired.store lawful equal f g hf hg⟩
  · exact (first.kept _ (.ask .now (by change "in_" ∈ Operations.ofBuilder; decide))).2
  · refine second.gathered paired _ gathering _ _ rfl ⟨_, _, rfl⟩ asked (.inl rfl) entered .now
      v.store (.refl _) fun i hi p hp => ?_
    have kept := hq'.exists_holds.2.2
    rw [store_eq] at kept
    rw [Builder.args, Builder.reserved_afterRequest, Builder.bound_afterRequest,
      RequestAt.values_emission?,
      RequestAt.bindings_within entered] at hi
    change i ∈ [⟨0⟩, ⟨4⟩] at hi
    simp only [List.mem_cons, List.not_mem_nil, or_false] at hi
    rcases hi with rfl | rfl
    · cases (kept ⟨0⟩ (.field (some (.text none "o.x"))) rfl (by simp) (by simp)).symm.trans hp
      exact ⟨_, _, rfl⟩
    · cases (kept ⟨4⟩ (.list [.int none 1]) rfl (by simp) (by simp)).symm.trans hp

end Built

end Criteria
