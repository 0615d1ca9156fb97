import Criteria.Proofs.Exposure
import Mathlib.Data.List.Nodup

/-! Hints of a class that cannot be resolved. When words that mean nothing take the place of some
hints of a class, its own hints serve as they are written. Its fields are then what they were only
where nothing else is lost: the classes behind it tell no field that it does not tell itself, and
none of its class-wide hints is a text.
-/

set_option autoImplicit false

namespace Criteria

theorem nodup_eraseDups (ns : List String) : ns.eraseDups.Nodup := by
  induction ns using List.reverseRecOn with
  | nil => exact List.nodup_nil
  | append_singleton ns n ih =>
    rw [eraseDups_concat]
    split
    · exact ih
    · next other =>
      refine ih.append (List.nodup_singleton n) fun m hm he => other ?_
      rw [List.mem_singleton.1 he] at hm
      exact List.mem_eraseDups.1 hm

theorem eraseDups_append_iff (ms ns : List String) :
    (ms ++ ns).eraseDups = ns.eraseDups ↔ ms.eraseDups <+: ns.eraseDups := by
  have rest : (ns.removeAll ms).eraseDups = ns.eraseDups.filter fun n => !ms.elem n := by
    rw [filter_eraseDups]
    rfl
  rw [List.eraseDups_append, rest]
  constructor
  · intro h
    exact ⟨_, h⟩
  · rintro ⟨more, h⟩
    have apart := List.disjoint_of_nodup_append (h ▸ nodup_eraseDups ns)
    have lead : ms.eraseDups.filter (fun n => !ms.elem n) = [] := by
      simp [List.mem_eraseDups]
    have new : more.filter (fun n => !ms.elem n) = more := by
      refine List.filter_eq_self.2 fun n hn => ?_
      have other : n ∉ ms := fun hm => apart (List.mem_eraseDups.2 hm) hn
      simpa using other
    rw [← h, List.filter_append, lead, new, List.nil_append]

namespace Model

/-- The model with words in the place of the hints of some attributes. -/
def wording (words : String → Option String) (m : Model) : Model :=
  { m with hints := m.hints.map fun h => (h.1, ((words h.1).map Hint.deferred).getD h.2) }

theorem tableAlong_congr {s t : Session} {own? : Option Value}
    (given : given? t tableName = given? s tableName) (line : List ClassRef) :
    tableAlong own? t line = tableAlong own? s line := by
  fun_induction tableAlong own? s line with
  | case1 | case2 => rfl
  | case3 c rest hc v hv =>
    rw [tableAlong, given, hv]
    exact hc
  | case4 c rest hc hv ih =>
    rw [tableAlong, given, hv]
    · exact ih
    · exact hc

end Model

namespace Session

def wording (s : Session) (index : Nat) (words : String → Option String) : Session :=
  { s with models := s.models.modify index (Model.wording words) }

section Wording

variable (s : Session) (index : Nat) (words : String → Option String)

theorem bind_modelOf?_wording {β : Type} {f : Model → Option β}
    (same : ∀ m, f (Model.wording words m) = f m) (c : ClassRef) :
    ((s.wording index words).modelOf? c).bind f = (s.modelOf? c).bind f := by
  cases c with
  | declared i n tabled =>
    simp only [modelOf?, model?, wording, List.getElem?_modify]
    cases s.models[i]? with
    | none => rfl
    | some m => by_cases h : index = i <;> simp [h, same]
  | _ => rfl

theorem line_wording (c : ClassRef) : (s.wording index words).line c = s.line c := by
  cases c with
  | declared i n tabled =>
    have same := s.bind_modelOf?_wording index words (f := some ∘ Model.line) (fun _ => rfl)
      (.declared i n tabled)
    simp only [← Option.map_eq_bind] at same
    exact congrArg (·.getD []) same
  | _ => rfl

theorem given?_wording (name : String) :
    Model.given? (s.wording index words) name = Model.given? s name := by
  funext c
  cases c with
  | builtin b => rfl
  | named n => rfl
  | declared i n tabled =>
    exact s.bind_modelOf?_wording index words (f := fun m => m.attributes.lookup name)
      (fun _ => rfl) _

theorem declaration_wording (c : ClassRef) :
    ((s.wording index words).declaration c).keys = (s.declaration c).keys ∧
      ((s.wording index words).declaration c).unhinted = (s.declaration c).unhinted := by
  have own := s.bind_modelOf?_wording index words (f := Model.table?) (fun _ => rfl) c
  have table := @Model.tableAlong_congr s _ ((s.modelOf? c).bind Model.table?)
    (s.given?_wording index words Model.tableName) (s.line c)
  simp only [declaration, line_wording, own, table, given?_wording]
  refine ⟨rfl, ?_⟩
  cases (s.line c).findSome? (Model.given? s Model.unhintedName) with
  | none => rfl
  | some v => simp only [FieldSet.unhinted, Operation.result_asking]; rfl

end Wording

end Session

namespace Hints

theorem Settle.all {around : Surroundings} {s t : Session} {hints : Hints}
    {settled : List (String × Hint)} (settle : hints.Settle around s settled t) :
    List.Forall₂ (fun h g => h.1.text? = some g.1 ∧
      ∃ u v, (h.2.evaluated around).result u = (.ok g.2, v)) hints settled := by
  induction settle with
  | done => exact .nil
  | next first _ ih => exact .cons ⟨rfl, _, _, first⟩ ih

end Hints

namespace Model

theorem Annotate.of_cons {s t : Session} {c : ClassRef} {line : List ClassRef}
    {told : List (String × Hint)} (annotate : Annotate s t (c :: line) told) :
    ∃ hints scope own u rest, hintsOf s c = .ok (hints, scope) ∧
      hints.Settle (.within scope) t own u ∧ Annotate s u line rest ∧ told = own ++ rest := by
  cases annotate with
  | next found first behind => exact ⟨_, _, _, _, _, found, first, behind, rfl⟩

theorem Annotate.last {s t : Session} {c : ClassRef} {line : List ClassRef}
    {behind own : List (String × Hint)} (before : Annotate s t line behind)
    (all : Annotate s t (line ++ [c]) (behind ++ own)) :
    ∃ hints scope u v, hintsOf s c = .ok (hints, scope) ∧ hints.Settle (.within scope) u own v := by
  induction before with
  | done t =>
    obtain ⟨hints, scope, own', u, rest, found, settle, done, e⟩ := all.of_cons
    cases done
    obtain rfl : own = own' := by simpa using e
    exact ⟨hints, scope, t, u, found, settle⟩
  | next found first _ ih =>
    obtain ⟨hints, scope, own', u, rest, found', first', all, e⟩ := all.of_cons
    cases found.symm.trans found'
    obtain ⟨rfl, rfl⟩ := first.unique first'
    rw [List.append_assoc] at e
    exact ih (List.append_cancel_left e ▸ all)

end Model

theorem lookup_of_mem {α : Type} {es : List (String × α)} {n : String} {a : α}
    (nodup : (es.map Prod.fst).Nodup) (mem : (n, a) ∈ es) : es.lookup n = some a := by
  induction es with
  | nil => cases mem
  | cons e es ih =>
    rw [List.map_cons, List.nodup_cons] at nodup
    rcases List.mem_cons.1 mem with rfl | mem
    · simp
    · have apart : n ≠ e.1 := by
        rintro rfl
        exact nodup.1 (List.mem_map.2 ⟨_, mem, rfl⟩)
      have other : (n == e.1) = false := by simpa using apart
      rw [List.lookup_cons, other]
      exact ih nodup.2 mem

def instanceNames (told : List (String × Hint)) (names : List String) : List String :=
  publicNames (names.filter fun n => told.reverse.lookup n != some .classWide)

theorem mem_instanceNames {told : List (String × Hint)} {n : String} {names : List String} :
    n ∈ instanceNames told names ↔
      n ∈ names ∧ hiddenName n = false ∧ told.reverse.lookup n ≠ some .classWide := by
  simp [instanceNames, mem_publicNames]
  tauto

theorem instanceNames_append_iff (told : List (String × Hint)) (ms ns : List String) :
    instanceNames told (ms ++ ns) = instanceNames told ns ↔
      instanceNames told ms <+: instanceNames told ns := by
  simp only [instanceNames, publicNames, List.filter_append]
  exact eraseDups_append_iff _ _

theorem mapM_asWritten (hints : List (String × Hint)) :
    (Hints.ofInstances (Hints.asWritten (hints.map fun h => (.text none h.1, h.2)))).mapM
      Value.text? = some ((hints.filter fun h => !h.2.asWritten).map Prod.fst) := by
  induction hints with
  | nil => rfl
  | cons h hints ih =>
    simp only [Hints.ofInstances, Hints.asWritten, List.map_cons, List.filter_cons] at ih ⊢
    cases h.2.asWritten with
    | true => simpa using ih
    | false =>
      simp only [Bool.not_false, if_true, List.map_cons, List.mapM_cons, ih]
      rfl

/-- The names of the hints that serve when words have taken the place of some. -/
def fallbackNames (words : String → Option String) (m : Model) : List String :=
  (m.hints.filter fun h => (words h.1).isSome || !h.2.asWritten).map Prod.fst

/-- The hints of a class and of the classes behind it come to something, until words that mean nothing
take the place of some of its own. None of those is class-wide. -/
structure Session.Foiled (s : Session) (index : Nat) (c : ClassRef) (m : Model)
    (bases : List ClassRef) (words : String → Option String) (behind own : List (String × Hint)) :
    Prop where
  declared : ∃ n tabled, c = .declared index n tabled
  model : s.model? index = some m
  line : m.line = c :: bases
  written : m.attributes.lookup Model.hintsName = none
  nodup : (m.hints.map Prod.fst).Nodup
  untabled : (s.declaration c).keys = none
  unmarked : (s.declaration c).unhinted = .ok false
  resolved : s.Resolved c
  before : Model.Annotate s s bases.reverse behind
  all : Model.Annotate s s (c :: bases).reverse (behind ++ own)
  instances : ∀ h ∈ m.hints, (words h.1).isSome = true →
    (behind ++ own).reverse.lookup h.1 ≠ some .classWide
  missing : ∃ f, ((s.wording index words).declaration c).hints = .error f ∧ f.kind = .naming

namespace Session.Foiled

open FieldSet

variable {s : Session} {index : Nat} {c : ClassRef} {m : Model} {bases : List ClassRef}
  {words : String → Option String} {behind own : List (String × Hint)}

theorem settled (foiled : s.Foiled index c m bases words behind own) :
    List.Forall₂ (fun h g => h.1 = g.1 ∧ (h.2 = .classWide → g.2 = .classWide)) m.hints own := by
  obtain ⟨n, tabled, rfl⟩ := foiled.declared
  have model : s.modelOf? (.declared index n tabled) = some m := foiled.model
  have told : Model.hintsOf s (.declared index n tabled) =
      .ok (m.hints.map fun h => (.text none h.1, h.2), m.attributes) := by
    simp only [Model.hintsOf, model, Model.toldHints, foiled.written]
    rfl
  have all := foiled.all
  rw [List.reverse_cons] at all
  obtain ⟨hints, scope, u, v, found, settle⟩ := foiled.before.last all
  cases told.symm.trans found
  refine (List.forall₂_map_left_iff.1 settle.all).imp ?_
  rintro h g ⟨name, t, w, evaluated⟩
  refine ⟨Option.some.inj name, fun wide => ?_⟩
  rw [wide] at evaluated
  exact (Except.ok.inj (congrArg Prod.fst evaluated)).symm

theorem mem_of_forall₂ {hints own : List (String × Hint)}
    (all : List.Forall₂ (fun h g => h.1 = g.1 ∧ (h.2 = .classWide → g.2 = .classWide)) hints own)
    {n : String} (mem : (n, Hint.classWide) ∈ hints) : (n, Hint.classWide) ∈ own := by
  induction all with
  | nil => cases mem
  | @cons h g _ _ first _ ih =>
    rcases List.mem_cons.1 mem with rfl | mem
    · exact List.mem_cons.2 (.inl (Prod.ext first.1 (first.2 rfl).symm))
    · exact List.mem_cons_of_mem _ (ih mem)

theorem names_eq (foiled : s.Foiled index c m bases words behind own) :
    own.map Prod.fst = m.hints.map Prod.fst := by
  have same : List.Forall₂ (· = ·) (m.hints.map Prod.fst) (own.map Prod.fst) := by
    rw [List.forall₂_map_left_iff, List.forall₂_map_right_iff]
    exact foiled.settled.imp fun _ _ told => told.1
  rw [List.forall₂_eq_eq_eq] at same
  exact same.symm

theorem lookup_of_classWide (foiled : s.Foiled index c m bases words behind own)
    {n : String} (mem : (n, Hint.classWide) ∈ m.hints) :
    (behind ++ own).reverse.lookup n = some .classWide := by
  have there := mem_of_forall₂ foiled.settled mem
  have nodup : (own.reverse.map Prod.fst).Nodup := by
    rw [List.map_reverse, List.nodup_reverse, foiled.names_eq]
    exact foiled.nodup
  rw [List.reverse_append, List.lookup_append, lookup_of_mem nodup (List.mem_reverse.2 there)]
  rfl

theorem exists_names (foiled : s.Foiled index c m bases words behind own) :
    ∃ vs names, (s.declaration c).names = .ok vs ∧ vs.mapM Value.text? = some names ∧
      publicNames names = instanceNames (behind ++ own) ((behind ++ own).map Prod.fst) := by
  obtain ⟨vs, names, told, texts, exposes⟩ := exists_exposes foiled.resolved
  have line : s.line c = c :: bases := by
    obtain ⟨n, tabled, rfl⟩ := foiled.declared
    simp only [Session.line, foiled.model, Option.map_some, Option.getD_some, foiled.line]
  have all := line ▸ foiled.all
  exact ⟨vs, names, told, texts, exposes.unique (.hints foiled.untabled foiled.unmarked all)⟩

theorem exists_fallback (foiled : s.Foiled index c m bases words behind own) :
    ∃ vs, ((s.wording index words).declaration c).names = .ok vs ∧
      vs.mapM Value.text? = some (fallbackNames words m) := by
  obtain ⟨f, refused, naming⟩ := foiled.missing
  obtain ⟨keys, unhinted⟩ := s.declaration_wording index words c
  have model : (s.wording index words).modelOf? c = some (m.wording words) := by
    obtain ⟨n, tabled, rfl⟩ := foiled.declared
    have hm : s.models[index]? = some m := foiled.model
    simp [Session.modelOf?, Session.model?, Session.wording, hm]
  have told : ((s.wording index words).declaration c).own =
      .ok ((m.wording words).hints.map fun h => (.text none h.1, h.2)) := by
    obtain ⟨n, tabled, rfl⟩ := foiled.declared
    have written : (m.wording words).attributes.lookup Model.hintsName = none := foiled.written
    simp only [Session.declaration, Model.hintsOf, model, Model.toldHints, written]
    rfl
  have passed : passedOver f = true := by simp [passedOver, naming]
  refine ⟨_, ?_, (mapM_asWritten (m.wording words).hints).trans ?_⟩
  · simp only [Declaration.names, keys, unhinted, foiled.untabled, foiled.unmarked, refused, passed,
      told, bind, Except.bind, Except.map, if_true, Bool.false_eq_true, if_false]
  · have kept (h : String × Hint) :
        (!(((words h.1).map Hint.deferred).getD h.2).asWritten) =
          ((words h.1).isSome || !h.2.asWritten) := by
      cases words h.1 <;> rfl
    simp only [Model.wording, fallbackNames, List.filter_map, List.map_map, Function.comp_def, kept]

theorem publicNames_fallback (foiled : s.Foiled index c m bases words behind own)
    (objects : ∀ h ∈ m.hints, hiddenName h.1 = false → words h.1 = none →
      (behind ++ own).reverse.lookup h.1 = some .classWide → h.2 = .classWide) :
    publicNames (fallbackNames words m) = instanceNames (behind ++ own) (own.map Prod.fst) := by
  rw [foiled.names_eq]
  simp only [publicNames, instanceNames, fallbackNames, List.filter_map, List.filter_filter]
  refine congrArg (List.eraseDups ∘ List.map Prod.fst) (List.filter_congr fun h mem => ?_)
  cases hidden : hiddenName h.1 with
  | true => simp [hidden]
  | false =>
    rw [Bool.eq_iff_iff]
    simp only [Function.comp, hidden, Bool.not_false, Bool.true_and, bne_iff_ne]
    constructor
    · intro served wide
      cases hw : words h.1 with
      | some e => exact foiled.instances h mem (by simp [hw]) wide
      | none => simp [hw, objects h mem hidden hw wide, Hint.asWritten] at served
    · intro other
      cases hw : words h.1 with
      | some e => rfl
      | none =>
        have written : h.2 ≠ .classWide := by
          intro wide
          have mem : (h.1, Hint.classWide) ∈ m.hints := wide ▸ mem
          exact other (foiled.lookup_of_classWide mem)
        cases hh : h.2 <;> simp_all [Hint.asWritten]

/-- The names that serve are the exposed ones if and only if none of them is that of a class-wide
attribute, and the classes behind tell none that does not lead those of the class itself. -/
theorem publicNames_fallback_iff (foiled : s.Foiled index c m bases words behind own) :
    publicNames (fallbackNames words m) =
        instanceNames (behind ++ own) ((behind ++ own).map Prod.fst) ↔
      (∀ h ∈ m.hints, hiddenName h.1 = false → words h.1 = none →
        (behind ++ own).reverse.lookup h.1 = some .classWide → h.2 = .classWide) ∧
      instanceNames (behind ++ own) (behind.map Prod.fst) <+:
        instanceNames (behind ++ own) (own.map Prod.fst) := by
  rw [List.map_append, ← instanceNames_append_iff]
  constructor
  · intro same
    have objects : ∀ h ∈ m.hints, hiddenName h.1 = false → words h.1 = none →
        (behind ++ own).reverse.lookup h.1 = some .classWide → h.2 = .classWide := by
      intro h mem shown none wide
      by_contra other
      have served : h.1 ∈ publicNames (fallbackNames words m) := by
        refine mem_publicNames.2 ⟨List.mem_map.2 ⟨h, List.mem_filter.2 ⟨mem, ?_⟩, rfl⟩, shown⟩
        cases hh : h.2 <;> simp_all [Hint.asWritten]
      rw [same] at served
      exact (mem_instanceNames.1 served).2.2 wide
    exact ⟨objects, same.symm.trans (foiled.publicNames_fallback objects)⟩
  · rintro ⟨objects, lead⟩
    exact (foiled.publicNames_fallback objects).trans lead.symm

end Session.Foiled

namespace FieldSet

theorem seen_of_names {s : Session} {c : ClassRef} {k : Mark} {a : String} {vs : List Value}
    {names : List String} (faithful : s.Faithful s.declaration) (short : a.length ≤ lengthLimit)
    (declared : (s.declaration c).names = .ok vs) (texts : vs.mapM Value.text? = some names) :
    Inquiry.seen ((forClass (.classOf c) (.text k a)).result s) =
      if a = "" ∧ ∃ n ∈ publicNames names, Text.blank n = true then .error .blankPath
      else .ok (some ((publicNames names).map fun n => (n, some (pathUnder a n)))) := by
  rcases went : (forClass (.classOf c) (.text k a)).result s with ⟨x, t⟩
  have given := faithful.forClass rfl went
  rw [offered?_eq short declared texts] at given
  by_cases blank : a = "" ∧ ∃ n ∈ publicNames names, Text.blank n = true
  · rw [if_pos blank] at given ⊢
    obtain ⟨⟨f, rfl, refused⟩, -⟩ := given
    rcases built : (build (.ofClass c) (.text k a)).result s with ⟨r, u⟩
    rw [built] at refused
    cases refused
    rw [blankPath_of_build short declared (mapM_text?.1 ⟨_, texts⟩) built]
    rfl
  · rw [if_neg blank] at given ⊢
    obtain ⟨made, -, -, rfl, held, -⟩ := given
    simp only [Inquiry.seen, Except.map, Store.namespaceOf?, held]
    simp [entriesBy]

theorem seen_eq_error {r : Except Fault Value × Session} {f : Fault} :
    Inquiry.seen r = .error f ↔ r.1 = .error f := by
  unfold Inquiry.seen
  cases r.1 <;> simp [Except.map]

/-- A class of which some hints cannot be resolved has the fields that it had before if and only if
none of its class-wide hints is a text, and the classes behind it tell no field but such as lead
those of its own; or if it has no fields at all, for want of a path. -/
theorem seen_wording_iff {s : Session} {index : Nat} {c : ClassRef} {m : Model}
    {bases : List ClassRef} {words : String → Option String} {behind own : List (String × Hint)}
    {k : Mark} {a : String} (foiled : s.Foiled index c m bases words behind own)
    (faithful : s.Faithful s.declaration)
    (still : (s.wording index words).Faithful (s.wording index words).declaration)
    (short : a.length ≤ lengthLimit) :
    Inquiry.seen ((forClass (.classOf c) (.text k a)).result (s.wording index words)) =
        Inquiry.seen ((forClass (.classOf c) (.text k a)).result s) ↔
      ((∀ h ∈ m.hints, hiddenName h.1 = false → words h.1 = none →
          (behind ++ own).reverse.lookup h.1 = some .classWide → h.2 = .classWide) ∧
        instanceNames (behind ++ own) (behind.map Prod.fst) <+:
          instanceNames (behind ++ own) (own.map Prod.fst)) ∨
      ((forClass (.classOf c) (.text k a)).result s).1 = .error .blankPath ∧
        ((forClass (.classOf c) (.text k a)).result (s.wording index words)).1 =
          .error .blankPath := by
  obtain ⟨vs, names, declared, texts, exposed⟩ := foiled.exists_names
  obtain ⟨ws, worded, fallback⟩ := foiled.exists_fallback
  rw [← foiled.publicNames_fallback_iff, ← seen_eq_error, ← seen_eq_error,
    seen_of_names faithful short declared texts, seen_of_names still short worded fallback,
      exposed]
  generalize publicNames (fallbackNames words m) = ms
  generalize instanceNames (behind ++ own) ((behind ++ own).map Prod.fst) = ns
  have injective (h : (ms.map fun n => (n, some (pathUnder a n))) =
      ns.map fun n => (n, some (pathUnder a n))) : ms = ns := by
    simpa [Function.comp_def] using congrArg (List.map Prod.fst) h
  by_cases hm : a = "" ∧ ∃ n ∈ ms, Text.blank n = true <;>
    by_cases hn : a = "" ∧ ∃ n ∈ ns, Text.blank n = true
  · simp [hm, hn]
  · rw [if_pos hm, if_neg hn]
    refine iff_of_false (by simp) ?_
    rintro (rfl | ⟨h, -⟩)
    · exact hn hm
    · cases h
  · rw [if_neg hm, if_pos hn]
    refine iff_of_false (by simp) ?_
    rintro (rfl | ⟨-, h⟩)
    · exact hm hn
    · cases h
  · rw [if_neg hm, if_neg hn]
    constructor
    · intro h
      exact .inl (injective (Option.some.inj (Except.ok.inj h)))
    · rintro (rfl | ⟨h, -⟩)
      · rfl
      · cases h

private def baseClass : ClassRef := .declared 0 "Base" false

private def orderClass : ClassRef := .declared 1 "Order" false

private def twoClasses (behind own : List (String × Hint)) : Session :=
  { models := [
    { name := "Base", attributes := [], line := [baseClass, .builtin .object], hints := behind },
    { name := "Order", attributes := [], line := [orderClass, baseClass, .builtin .object]
      hints := own }] }

private def lostName (n : String) : Option String := if n = "ref" then some "Missing" else none

private theorem settle_of_evaluated (hints : List (String × Hint)) (s : Session)
    (evaluated : ∀ h ∈ hints, h.2.evaluated (.within []) = pure h.2) :
    Hints.Settle (.within []) s (hints.map fun h => (.text none h.1, h.2)) hints s := by
  induction hints with
  | nil => exact .done s
  | cons h hints ih =>
    have first := evaluated h (List.mem_cons_self ..)
    exact .next (by rw [first]; rfl) (ih fun h hh => evaluated h (List.mem_cons_of_mem _ hh))

private theorem exists_naming {α : Type} {r : Except Fault α}
    (told : (match r with | .error f => f.kind == .naming | .ok _ => false) = true) :
    ∃ f, r = .error f ∧ f.kind = .naming := by
  cases r with
  | error f => exact ⟨f, rfl, eq_of_beq told⟩
  | ok a => cases told

theorem seen_of_redeclared : ∃ (s : Session) (c : ClassRef),
    (∃ f, ((s.wording 1 lostName).declaration c).hints = .error f ∧ f.kind = .naming) ∧
      Inquiry.seen ((forClass (.classOf c) (.text none "o")).result (s.wording 1 lostName)) =
        Inquiry.seen ((forClass (.classOf c) (.text none "o")).result s) := by
  let behind : List (String × Hint) := [("id", .ordinary)]
  let own : List (String × Hint) := [("id", .ordinary), ("kind", .classWide), ("ref", .ordinary)]
  let s := twoClasses behind own
  have refused : ∃ f, ((s.wording 1 lostName).declaration orderClass).hints = .error f ∧
      f.kind = .naming := exists_naming (by decide +kernel)
  have told : Model.Annotate s s [.builtin .object, baseClass, orderClass]
      ([] ++ (behind ++ (own ++ []))) :=
    .next rfl (.done _) (.next rfl (settle_of_evaluated _ _ (by simp [behind, Hint.evaluated]))
      (.next rfl (settle_of_evaluated _ _ (by simp [own, Hint.evaluated])) (.done _)))
  have before : Model.Annotate s s [.builtin .object, baseClass] ([] ++ (behind ++ [])) :=
    .next rfl (.done _) (.next rfl (settle_of_evaluated _ _ (by simp [behind, Hint.evaluated]))
      (.done _))
  have resolved : s.Resolved orderClass := by
    have untabled : (s.declaration orderClass).keys = none := rfl
    have unmarked : (s.declaration orderClass).unhinted = .ok false := rfl
    have told : (s.declaration orderClass).hints.toBool = true := by decide +kernel
    have line : s.line orderClass = [orderClass, baseClass, .builtin .object] := rfl
    have named : Model.Named s (s.line orderClass) := by
      rw [line]
      simp only [Model.Named, List.forall_mem_cons]
      refine ⟨?_, ?_, ?_, by simp⟩ <;> rintro _ _ ⟨⟩ <;> decide
    simpa only [Session.Resolved, untabled, unmarked] using ⟨told, named⟩
  have foiled : s.Foiled 1 orderClass _ [baseClass, .builtin .object] lostName behind own :=
    { declared := ⟨_, _, rfl⟩, model := rfl, line := rfl, written := rfl, nodup := by decide
      untabled := rfl, unmarked := rfl, resolved, before, all := told
      instances := by decide, missing := refused }
  refine ⟨s, orderClass, refused, (seen_wording_iff foiled (.of_nil rfl) (.of_nil rfl)
    (by decide)).2 (.inl ⟨by decide, by decide⟩)⟩

/-- The attribute of a base is lost, and a class-wide one whose hint is a text is taken for one of
instances. -/
theorem exists_not_seen :
    (∃ (s : Session) (c : ClassRef), (s.declaration c).keys = none ∧
      (s.declaration c).hints.toBool = true ∧
      (∃ f, ((s.wording 1 lostName).declaration c).hints = .error f ∧ f.kind = .naming) ∧
      (Inquiry.seen ((forClass (.classOf c) (.text none "o")).result s)).toOption =
        some (some [("id", some "o.id"), ("ref", some "o.ref")]) ∧
      (Inquiry.seen ((forClass (.classOf c) (.text none "o")).result
        (s.wording 1 lostName))).toOption = some (some [("ref", some "o.ref")])) ∧
    ∃ (s : Session) (c : ClassRef), (s.declaration c).keys = none ∧
      (s.declaration c).hints.toBool = true ∧
      (∃ f, ((s.wording 1 lostName).declaration c).hints = .error f ∧ f.kind = .naming) ∧
      (Inquiry.seen ((forClass (.classOf c) (.text none "o")).result s)).toOption =
        some (some [("ref", some "o.ref")]) ∧
      (Inquiry.seen ((forClass (.classOf c) (.text none "o")).result
        (s.wording 1 lostName))).toOption =
        some (some [("kind", some "o.kind"), ("ref", some "o.ref")]) := by
  refine ⟨⟨twoClasses [("id", .ordinary)] [("ref", .ordinary)], orderClass, rfl, by decide +kernel,
    exists_naming (by decide +kernel), by decide +kernel, by decide +kernel⟩,
    twoClasses [] [("kind", .deferred "ClassVar[int]"), ("ref", .ordinary)], orderClass, rfl,
    by decide +kernel, exists_naming (by decide +kernel), by decide +kernel, by decide +kernel⟩

end FieldSet

end Criteria
