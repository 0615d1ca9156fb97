import Criteria.Proofs.Inheritance
import Criteria.Proofs.Memo

set_option autoImplicit false

namespace Criteria

def entriesBy {α : Type} (f : String → α) (ns : List String) : List (String × α) :=
  ns.map fun n => (n, f n)

theorem putNamed_entriesBy {α : Type} (f : String → α) (n : String) (ns : List String) :
    putNamed n (f n) (entriesBy f ns) = entriesBy f (if n ∈ ns then ns else ns ++ [n]) := by
  unfold entriesBy
  induction ns with
  | nil => rfl
  | cons m ns ih =>
    by_cases h : m = n
    · simp [putNamed, h]
    · by_cases hn : n ∈ ns <;> simp [putNamed, h, Ne.symm h, hn, ih]

theorem putAllNamed_entriesBy {α : Type} (f : String → α) (ns new : List String) :
    putAllNamed (entriesBy f ns) (entriesBy f new) =
      entriesBy f (ns ++ (new.removeAll ns).eraseDups) := by
  induction new generalizing ns with
  | nil => simp [putAllNamed, entriesBy, List.removeAll]
  | cons n new ih =>
    have step : putAllNamed (entriesBy f ns) (entriesBy f (n :: new)) =
        putAllNamed (putNamed n (f n) (entriesBy f ns)) (entriesBy f new) := rfl
    rw [step, putNamed_entriesBy, ih]
    by_cases h : n ∈ ns
    · simp [List.removeAll, h]
    · have rest : new.removeAll (ns ++ [n]) = (new.removeAll ns).filter fun m => !m == n := by
        simp [List.removeAll, List.filter_filter, Bool.and_comm, beq_eq_decide]
      rw [if_neg h, rest, List.cons_removeAll, if_pos (by simpa using h), List.eraseDups_cons,
        List.append_assoc, List.singleton_append]

def publicNames (names : List String) : List String :=
  (names.filter fun n => !hiddenName n).eraseDups

theorem mem_publicNames {n : String} {names : List String} :
    n ∈ publicNames names ↔ n ∈ names ∧ hiddenName n = false := by
  simp [publicNames, List.mem_eraseDups]

theorem publicNames_filter_eraseDups (p : String → Bool) (names : List String) :
    publicNames (names.eraseDups.filter p) = publicNames (names.filter p) := by
  simp only [publicNames, filter_eraseDups, eraseDups_eraseDups]

namespace FieldSet

theorem pathsOf?_of_blank {lead n : String} {names : List String} (mem : n ∈ names)
    (shown : hiddenName n = false) (blank : Text.blank (lead ++ n) = true) :
    pathsOf? lead names = none := by
  induction names with
  | nil => cases mem
  | cons m names ih =>
    rcases List.mem_cons.1 mem with rfl | mem
    · simp [pathsOf?, shown, blank]
    · rw [pathsOf?, ih mem]
      split <;> simp

theorem pathsOf?_of_ready {lead : String} {names : List String}
    (ready : ∀ n ∈ names, hiddenName n = false → Text.blank (lead ++ n) = false) :
    pathsOf? lead names = some (entriesBy (lead ++ ·) (publicNames names)) := by
  induction names with
  | nil => rfl
  | cons n names ih =>
    rw [pathsOf?, ih fun m hm => ready m (List.mem_cons_of_mem _ hm)]
    unfold publicNames
    cases hn : hiddenName n with
    | true => simp [hn]
    | false =>
      have first : [(n, lead ++ n)] = entriesBy (lead ++ ·) [n] := rfl
      have rest (l : List String) :
          (l.eraseDups.removeAll [n]).eraseDups = (l.filter fun m => !m == n).eraseDups := by
        have all : l.eraseDups.removeAll [n] = l.eraseDups.filter fun m => !m == n := by
          simp [List.removeAll, beq_eq_decide]
        rw [all, filter_eraseDups, eraseDups_eraseDups]
      have hb := ready n (List.mem_cons_self ..) hn
      simp only [hb, Bool.false_eq_true, if_false, Option.map_some, first, putAllNamed_entriesBy,
        rest]
      simp [hn, List.eraseDups_cons]

end FieldSet

namespace FieldSet

open Operation

theorem blankPath_of_entries {lead : String} {vs : List Value} {f : Fault} {s t : Session}
    (texts : ∀ v ∈ vs, v.text?.isSome) (refused : (entries lead vs).result s = (.error f, t)) :
    f = .blankPath := by
  induction vs generalizing s with
  | nil => cases refused
  | cons v vs ih =>
    have behind : ∀ v ∈ vs, v.text?.isSome := fun v hv => texts v (List.mem_cons_of_mem _ hv)
    obtain ⟨k, n, rfl⟩ := Value.eq_text (texts v (List.mem_cons_self ..))
    have told : (nameText (.text k n)).result s = (.ok n, s) := rfl
    rw [entries, result_bind, told] at refused
    simp only at refused
    split at refused
    · exact ih behind refused
    · obtain ⟨l, marks, composed_eq⟩ := result_composed_eq (lead ++ n) s
      rw [result_bind, composed_eq] at refused
      simp only at refused
      rw [result_bind] at refused
      cases hb : Text.blank (lead ++ n) with
      | true =>
        simp only [Field.make, hb, if_true, result_refuse] at refused
        cases refused
        rfl
      | false =>
        obtain ⟨r, made⟩ := result_make (m := l) hb
          { s with store := { s.store with marks } }
        rw [made] at refused
        simp only at refused
        rw [result_bind] at refused
        split at refused
        · cases refused
        · next later =>
          cases refused
          exact ih behind later

end FieldSet

def pathUnder (a n : String) : String := if a = "" then n else a ++ "." ++ n

theorem blank_pathUnder (a n : String) :
    Text.blank (pathUnder a n) = (decide (a = "") && Text.blank n) := by
  have dot : Text.blank "." = false := by decide
  unfold pathUnder
  by_cases ha : a = "" <;> simp [ha, Text.blank_append, dot]

namespace FieldSet

theorem leadOf?_eq {a : String} (short : a.length ≤ lengthLimit) :
    ∃ lead, leadOf? a = some lead ∧ ∀ n, lead ++ n = pathUnder a n := by
  unfold leadOf? countedLength pathUnder
  by_cases ha : a = ""
  · exact ⟨"", by simp [ha, Except.toOption], by simp [ha]⟩
  · exact ⟨a ++ ".", by simp [short, ha, Except.toOption], by simp [ha]⟩

theorem equalPart_of_plain (s : Store) (v : Value) {w : Value}
    (plain : (∃ c, w = .classOf c) ∨ ∃ k a, w = .text k a) :
    s.equalPart v w = .ok (v.atomEqual w) := by
  have apart : sameHandle v w = false := by
    obtain ⟨c, rfl⟩ | ⟨k, a, rfl⟩ := plain <;> cases v <;> rfl
  have cell (d : Cell) : d.equalPlain w = .ok false := by
    unfold Cell.equalPlain
    obtain ⟨c, rfl⟩ | ⟨k, a, rfl⟩ := plain <;> split <;> simp [Value.number?]
  have met (h : Handle) : s.equal (.shared h) w = .ok false := by
    have uncelled : s.cellOf? w = none := by
      obtain ⟨c, rfl⟩ | ⟨k, a, rfl⟩ := plain <;> rfl
    simp only [Store.equal, Value.equalWith, Store.meet, uncelled]
    cases s.cellOf? (.shared h) with
    | none => rfl
    | some d => exact cell d
  unfold Store.equalPart Value.samePart
  rw [apart]
  simp only [Bool.false_eq_true, if_false]
  cases v with
  | shared h =>
    rw [met]
    obtain ⟨c, rfl⟩ | ⟨k, a, rfl⟩ := plain <;> rfl
  | _ =>
    obtain ⟨c, rfl⟩ | ⟨k, a, rfl⟩ := plain <;>
      simp [Store.equal, Value.equalWith, Value.row?, Value.atomEqual, Value.number?]

def MadeFor (m : Made) (c : ClassRef) (a : String) : Prop :=
  m.owner.value = .classOf c ∧ ∃ k, m.qualifier.value = .text k a

theorem number?_of_atomEqual {v w : Value} (plain : w.number? = none) (h : v.atomEqual w = true) :
    v.number? = none := by
  unfold Value.atomEqual at h
  rw [plain] at h
  split at h <;> simp_all

theorem madeFor_of_atomEqual {m : Made} {c : ClassRef} {k : Mark} {a : String}
    (owner : m.owner.value.atomEqual (.classOf c) = true)
    (qualifier : m.qualifier.value.atomEqual (.text k a) = true) : MadeFor m c a := by
  have class_ : (Value.classOf c).number? = none := rfl
  have text : (Value.text k a).number? = none := rfl
  simp only [Value.atomEqual, number?_of_atomEqual class_ owner, class_] at owner
  simp only [Value.atomEqual, number?_of_atomEqual text qualifier, text] at qualifier
  constructor
  · cases h : m.owner.value <;> simp_all
  · cases h : m.qualifier.value <;> simp_all

theorem find?_madeFor (s : Store) (c : ClassRef) (k : Mark) (a : String) (made : List Made) :
    (∃ m ∈ made, MadeFor m c a ∧
      find? s ⟨.classOf c, .ofClass c⟩ ⟨.text k a, .ofText a⟩ made = .ok (some m.fields)) ∨
    find? s ⟨.classOf c, .ofClass c⟩ ⟨.text k a, .ofText a⟩ made = .ok none := by
  induction made with
  | nil => exact .inr rfl
  | cons m rest ih =>
    have owner := equalPart_of_plain s m.owner.value (.inl ⟨c, rfl⟩)
    have qualifier := equalPart_of_plain s m.qualifier.value (.inr ⟨k, a, rfl⟩)
    have later : _ ∨ _ := ih.imp_left (Exists.imp fun n hn => hn.imp_left (List.mem_cons_of_mem m))
    simp only [find?, owner, qualifier, bind, Except.bind]
    split
    · cases ho : m.owner.value.atomEqual (.classOf c) with
      | false => simpa using later
      | true =>
        cases hq : m.qualifier.value.atomEqual (.text k a) with
        | false => simpa using later
        | true => exact .inl ⟨m, List.mem_cons_self .., madeFor_of_atomEqual ho hq, rfl⟩
    · exact later

end FieldSet

namespace Session

def Current (s : Session) (c : ClassRef) (a : String) : Prop :=
  ∀ m ∈ s.made, FieldSet.MadeFor m c a → ∃ es, (s.declaration c).offered? a = some es ∧
    s.store.namespace? m.fields = some (es.map (Prod.map id some))

/-- A run in which classes declare the same and field sets stay as they were given keeps them so. -/
theorem Faithful.current {s : Session} (faithful : s.Faithful s.declaration) (c : ClassRef)
    (a : String) : s.Current c a := by
  intro m hm madeFor
  obtain ⟨d, b, es, ⟨owner, l, qualifier⟩, offered, held⟩ := faithful.holds m hm
  obtain ⟨hc, k, ha⟩ := madeFor
  rw [owner] at hc
  rw [qualifier] at ha
  cases hc
  cases ha
  exact ⟨es, offered, held⟩

def Resolved (s : Session) (c : ClassRef) : Prop :=
  match (s.declaration c).keys, (s.declaration c).unhinted with
  | some keys, _ => ∀ v ∈ keys, v.text?.isSome
  | none, .ok true => True
  | none, .ok false => (s.declaration c).hints.toBool ∧ Model.Named s (s.line c)
  | none, .error _ => False

/-- The names that a class exposes: the public keys of its table, or the public names of the hints
along its line, the most basic class first, whose last hint is not class-wide. Each name stands at
its first place. A class that says that its hints are not looked at exposes none. -/
inductive Exposes (s : Session) (c : ClassRef) : List String → Prop
  | table {keys : List Value} {names : List String} (kept : (s.declaration c).keys = some keys)
      (texts : keys.mapM Value.text? = some names) :
      Exposes s c (publicNames names)
  | unhinted (untabled : (s.declaration c).keys = none)
      (marked : (s.declaration c).unhinted = .ok true) : Exposes s c []
  | hints {told : List (String × Hint)} (untabled : (s.declaration c).keys = none)
      (unmarked : (s.declaration c).unhinted = .ok false)
      (annotate : Model.Annotate s s (s.line c).reverse told) :
      Exposes s c (publicNames ((told.map Prod.fst).filter fun n =>
        told.reverse.lookup n != some .classWide))

theorem Exposes.unique {s : Session} {c : ClassRef} {ms ns : List String} (hm : s.Exposes c ms)
    (hn : s.Exposes c ns) : ms = ns := by
  cases hm with
  | table kept texts =>
    cases hn with
    | table kept' texts' =>
      cases kept.symm.trans kept'
      cases texts.symm.trans texts'
      rfl
    | unhinted untabled | hints untabled => cases kept.symm.trans untabled
  | unhinted untabled marked =>
    cases hn with
    | table kept => cases kept.symm.trans untabled
    | unhinted => rfl
    | hints _ unmarked => cases marked.symm.trans unmarked
  | hints untabled unmarked annotate =>
    cases hn with
    | table kept => cases kept.symm.trans untabled
    | unhinted _ marked => cases marked.symm.trans unmarked
    | hints _ _ annotate' => rw [annotate.unique annotate']

end Session

namespace FieldSet

open Operation

/-- A call gives a field for each of these names, and has no other public name. When the path of one
would be blank, the call is refused. -/
def Shows (a : String) (ns : List String) (r : Except Fault Value × Session) : Prop :=
  if a = "" ∧ ∃ n ∈ ns, Text.blank n = true then r.1 = .error .blankPath
  else ∃ h, r.1 = .ok (.shared h) ∧
    r.2.store.namespace? h = some (ns.map fun n => (n, some (pathUnder a n))) ∧
    ∀ n, hiddenName n = false → n ∉ ns → (Attribute.read (.shared h) n).result r.2 =
      (.error (.noAttribute "types.SimpleNamespace" n), r.2)

theorem exists_exposes {s : Session} {c : ClassRef} (resolved : s.Resolved c) :
    ∃ vs names, (s.declaration c).names = .ok vs ∧ vs.mapM Value.text? = some names ∧
      s.Exposes c (publicNames names) := by
  unfold Session.Resolved at resolved
  cases hk : (s.declaration c).keys with
  | some keys =>
    simp only [hk] at resolved
    obtain ⟨names, texts⟩ := mapM_text?.2 resolved
    exact ⟨keys, names, by simp [Declaration.names, hk], texts, .table hk texts⟩
  | none =>
    simp only [hk] at resolved
    cases hu : (s.declaration c).unhinted with
    | error f => simp [hu] at resolved
    | ok marked =>
      cases marked with
      | true =>
        refine ⟨[], [], ?_, rfl, .unhinted hk hu⟩
        simp [Declaration.names, hk, hu, bind, Except.bind]
      | false =>
        simp only [hu] at resolved
        obtain ⟨told, named⟩ := resolved
        cases hh : (s.declaration c).hints with
        | error f => simp [hh, Except.toBool] at told
        | ok hints =>
          obtain ⟨told, annotate, texts⟩ := Model.annotate_of_hints named hh
          refine ⟨_, _, ?_, texts, ?_⟩
          · simp [Declaration.names, hk, hu, hh, bind, Except.bind]
          · rw [publicNames_filter_eraseDups]
            exact .hints hk hu annotate

theorem offered?_eq {d : Declaration} {a : String} {vs : List Value} {names : List String}
    (short : a.length ≤ lengthLimit) (declared : d.names = .ok vs)
    (texts : vs.mapM Value.text? = some names) :
    d.offered? a = if a = "" ∧ ∃ n ∈ publicNames names, Text.blank n = true then none
      else some (entriesBy (pathUnder a) (publicNames names)) := by
  obtain ⟨lead, lead_eq, path⟩ := leadOf?_eq short
  have blank_eq (n : String) : Text.blank (lead ++ n) = (decide (a = "") && Text.blank n) := by
    rw [path, blank_pathUnder]
  simp only [Declaration.offered?, declared, Except.toOption, Option.bind_some, lead_eq, texts]
  split
  · next blank =>
    obtain ⟨ha, n, hn, blank⟩ := blank
    obtain ⟨mem, shown⟩ := mem_publicNames.1 hn
    exact pathsOf?_of_blank mem shown (by simp [blank_eq, ha, blank])
  · next ready =>
    rw [pathsOf?_of_ready fun n mem shown => ?_]
    · simp only [path]
    · rw [blank_eq]
      by_contra blank
      simp only [Bool.not_eq_false, Bool.and_eq_true, decide_eq_true_eq] at blank
      exact ready ⟨blank.1, n, mem_publicNames.2 ⟨mem, shown⟩, blank.2⟩

theorem read_other {s : Session} {h : Handle} {es : List (String × Option String)} {n : String}
    (held : s.store.namespace? h = some es) (shown : hiddenName n = false)
    (other : n ∉ es.map Prod.fst) : (Attribute.read (.shared h) n).result s =
      (.error (.noAttribute "types.SimpleNamespace" n), s) := by
  unfold Store.namespace? at held
  split at held
  · next fs hc =>
    cases held
    have class_ : n ≠ "__class__" := by
      rintro rfl
      exact absurd shown (by decide)
    have plain : Attribute.ofFieldSet? n = none := by
      refine if_neg ?_
      rintro rfl
      exact absurd shown (by decide)
    have absent : fs.lookup n = none := by
      rw [List.lookup_eq_none_iff]
      intro f hf
      have apart : n ≠ f.1 := by
        rintro rfl
        exact other (by simpa using ⟨f.2, hf⟩)
      simpa using apart
    unfold Attribute.read
    rw [result_bind, result_theStore]
    simp only [class_, if_false, Store.cellOf?, hc, absent, plain]
    simp [Attribute.missing, result_bind, Store.longName, hc, Cell.longName]
  · cases held

theorem shows_of_held {a : String} {ns : List String} {h : Handle} {t : Session}
    (ready : ¬ (a = "" ∧ ∃ n ∈ ns, Text.blank n = true))
    (held : t.store.namespace? h = some ((entriesBy (pathUnder a) ns).map (Prod.map id some))) :
    Shows a ns (.ok (.shared h), t) := by
  have entries_eq : (entriesBy (pathUnder a) ns).map (Prod.map id some) =
      ns.map fun n => (n, some (pathUnder a n)) := by
    simp [entriesBy]
  rw [entries_eq] at held
  refine (if_neg ready).mpr ⟨h, rfl, held, fun n shown other => ?_⟩
  exact read_other held shown (by simpa using other)

theorem blankPath_of_build {s t : Session} {c : ClassRef} {k : Mark} {a : String} {f : Fault}
    {vs : List Value} (short : a.length ≤ lengthLimit) (declared : (s.declaration c).names = .ok vs)
    (texts : ∀ v ∈ vs, v.text?.isSome)
    (refused : (build (.ofClass c) (.text k a)).result s = (.error f, t)) : f = .blankPath := by
  have names_eq := fst_namesOfClass c s
  unfold build at refused
  rw [result_bind, declaredNames] at refused
  rcases named : (namesOfClass c).result s with ⟨r, u⟩
  rw [named, declared] at names_eq
  cases names_eq
  obtain ⟨lead, lead_eq, -⟩ := leadOf?_eq short
  have lead_told := result_qualifierLead k a u
  rw [lead_eq] at lead_told
  simp only [named] at refused
  rw [result_bind, lead_told] at refused
  simp only at refused
  rw [result_bind] at refused
  split at refused
  · cases refused
  · next went =>
    cases refused
    exact blankPath_of_entries texts went

/-- The fields of a class are those of the names that it exposes. -/
theorem exposed {s : Session} {c : ClassRef} {k : Mark} {a : String} (resolved : s.Resolved c)
    (current : s.Current c a) (short : a.length ≤ lengthLimit) :
    ∃ ns, (∀ ms, s.Exposes c ms ↔ ms = ns) ∧
      Shows a ns ((forClass (.classOf c) (.text k a)).result s) := by
  obtain ⟨vs, names, declared, texts, exposes⟩ := exists_exposes resolved
  have offered := offered?_eq short declared texts
  refine ⟨publicNames names, fun ms => ⟨fun h => h.unique exposes, fun h => h ▸ exposes⟩, ?_⟩
  -- Fields that were made before hold what the class offers, so none of their paths is blank.
  rcases find?_madeFor s.store c k a s.made with ⟨m, hm, madeFor, found⟩ | found
  · obtain ⟨es, kept, held⟩ := current m hm madeFor
    obtain ⟨r, given⟩ := result_forClass_of_some found
    rw [given]
    split at offered
    · cases kept.symm.trans offered
    · next ready =>
      cases kept.symm.trans offered
      exact shows_of_held ready held
  · obtain ⟨r, given⟩ := result_forClass_of_none found
    have same : Session.declaration { s with records := s.records ++ [r] } c = s.declaration c :=
      s.declaration_aside s.made _ c
    have built := result_build c k a { s with records := s.records ++ [r] }
    rw [same, offered] at built
    by_cases blank : a = "" ∧ ∃ n ∈ publicNames names, Text.blank n = true
    · rw [if_pos blank] at built
      obtain ⟨f, t, refused⟩ := built
      obtain rfl := blankPath_of_build short (same ▸ declared) (mapM_text?.1 ⟨_, texts⟩) refused
      have whole := given _ _ refused
      rw [whole]
      exact (if_pos blank).mpr rfl
    · rw [if_neg blank] at built
      obtain ⟨h, t, went, -, held⟩ := built
      obtain ⟨r', whole⟩ := given _ _ went
      rw [whole]
      exact shows_of_held blank held

theorem exposed_redeclared : ∃ (s : Session) (c : ClassRef), s.Resolved c ∧ s.Current c "o" ∧
    (∀ ms, s.Exposes c ms ↔ ms = ["kind", "total"]) ∧
    Shows "o" ["kind", "total"] ((forClass (.classOf c) (.text none "o")).result s) := by
  let base : ClassRef := .declared 0 "Base" false
  let c : ClassRef := .declared 1 "Order" false
  let s : Session := { models := [
    { name := "Base", attributes := [], line := [base, .builtin .object]
      hints := [("id", .ordinary), ("kind", .classWide), ("_note", .ordinary)] },
    { name := "Order", attributes := [], line := [c, base, .builtin .object]
      hints := [("total", .ordinary), ("id", .classWide), ("kind", .ordinary)] }] }
  have resolved : s.Resolved c := by
    have untabled : (s.declaration c).keys = none := rfl
    have unmarked : (s.declaration c).unhinted = .ok false := rfl
    have told : (s.declaration c).hints.toBool = true := by decide +kernel
    have line : s.line c = [c, base, .builtin .object] := rfl
    have named : Model.Named s (s.line c) := by
      rw [line]
      simp only [Model.Named, List.forall_mem_cons]
      refine ⟨?_, ?_, ?_, by simp⟩ <;> rintro _ _ ⟨⟩ <;> decide
    simpa only [Session.Resolved, untabled, unmarked] using ⟨told, named⟩
  have current : s.Current c "o" := by simp [Session.Current, s]
  obtain ⟨ns, exposes, shows⟩ := exposed (k := none) resolved current (by decide)
  have held : ((forClass (.classOf c) (.text none "o")).result s).1.toOption.bind
      ((forClass (.classOf c) (.text none "o")).result s).2.store.namespaceOf? =
        some [("kind", some "o.kind"), ("total", some "o.total")] := by
    decide +kernel
  obtain ⟨h, given, all, -⟩ := (if_neg (by simp)).mp shows
  rw [given] at held
  obtain rfl : ns = ["kind", "total"] := by
    have same := congrArg (Option.map (List.map Prod.fst)) (all.symm.trans held)
    simpa [Function.comp_def] using same
  exact ⟨s, c, resolved, current, exposes, shows⟩

private def row : ClassRef := .declared 0 "Row" false

private def alone (n : String) (attributes : List (String × Value)) : Session :=
  { models := [{ name := "Row", hints := [(n, .ordinary)], attributes,
                 line := [row, .builtin .object] }] }

private theorem annotate_alone {n : String} {attributes : List (String × Value)}
    (declared : attributes.lookup Model.hintsName = none) :
    Model.Annotate (alone n attributes) (alone n attributes) ((alone n attributes).line row).reverse
      [(n, .ordinary)] := by
  have own : Model.hintsOf (alone n attributes) row =
      .ok ([(.text none n, .ordinary)], attributes) := by
    change (do .ok (← Model.toldHints _ _, attributes)) = _
    simp only [Model.toldHints, declared]
    rfl
  change Model.Annotate _ _ [.builtin .object, row]
    ([] ++ ([(n, .ordinary)] ++ []))
  exact .next rfl (.done _) (.next own (.next rfl (.done _)) (.done _))

private theorem exposes_alone (n : String) : (alone n []).Resolved row ∧
    (alone n []).Exposes row (publicNames [n]) := by
  have untabled : ((alone n []).declaration row).keys = none := rfl
  have unmarked : ((alone n []).declaration row).unhinted = .ok false := rfl
  have told : ((alone n []).declaration row).hints.toBool = true := rfl
  have line : (alone n []).line row = [row, .builtin .object] := rfl
  refine ⟨?_, by simpa using Session.Exposes.hints untabled unmarked (annotate_alone rfl)⟩
  simp only [Session.Resolved, untabled, unmarked]
  refine ⟨told, ?_⟩
  rw [line]
  simp only [Model.Named, List.forall_mem_cons]
  refine ⟨?_, ?_, by simp⟩ <;> rintro _ _ ⟨⟩ <;> simp [Hints.ofNames, Value.text?]

/-- A class whose one name is blank has no fields without a qualifier. One that says that its hints
are not looked at has none. What a caller adds to fields is among them afterwards. -/
theorem exists_not_exposed :
    (∃ (s : Session) (c : ClassRef), s.Resolved c ∧ s.Exposes c [""] ∧
      ((forClass (.classOf c) (.text none "")).result s).1 = .error .blankPath) ∧
    (∃ (s : Session) (c : ClassRef), (s.declaration c).keys = none ∧
      (s.declaration c).hints.toBool = true ∧
      Model.Annotate s s (s.line c).reverse [("id", .ordinary)] ∧
      (Inquiry.seen ((forClass (.classOf c) (.text none "")).result s)).toOption = some (some [])) ∧
    ∃ (s : Session) (c : ClassRef), s.Resolved c ∧ s.Exposes c ["id"] ∧
      (Inquiry.seen ((do
        Attribute.assign (← forClass (.classOf c) (.text none "")) "x" (.int none 1)
        forClass (.classOf c) (.text none "")).result s)).toOption =
          some (some [("id", some "id"), ("x", none)]) := by
  refine ⟨⟨alone "" [], _, (exposes_alone "").1, (exposes_alone "").2, rfl⟩, ?_,
    alone "id" [], _, (exposes_alone "id").1, (exposes_alone "id").2, by decide +kernel⟩
  exact ⟨alone "id" [(Model.unhintedName, .truth true)], _, rfl, rfl,
    annotate_alone rfl, by decide +kernel⟩

end FieldSet

end Criteria
