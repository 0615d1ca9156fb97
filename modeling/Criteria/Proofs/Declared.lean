import Criteria.Proofs.Offering
import Criteria.Proofs.KeepsButPasses

set_option autoImplicit false

namespace Criteria

namespace FieldSet

open Operation

theorem fst_namesResolved {m : Mark} {n : String} {x : Operation (List (Value × Bool))}
    {own : Except Fault Hints} (s : Session) :
    ((namesResolved (.text m n) x own).result s).1 =
      match (x.result s).1 with
      | .ok hints => .ok (Hints.ofInstances hints)
      | .error f =>
        if passedOver f then own.map fun hints => Hints.ofInstances hints.asWritten
        else .error f := by
  unfold namesResolved
  rw [result_bind, Aside.result_tryCatch, result_bind]
  rcases x.result s with ⟨r, t⟩
  cases r with
  | ok hints => rfl
  | error f =>
    by_cases hp : passedOver f = true
    · simp only [hp, if_true]
      rw [result_bind]
      simp only [plain, result_asking, Store.plain_text]
      rw [result_bind, result_note]
      simp only
      rw [result_bind, result_asking]
      cases own <;> rfl
    · simp only [hp]
      rfl

end FieldSet

/-- What a class says of its attributes: the names of a table, or whether its hints are looked at,
what they come to, and those that are its own. -/
structure Declaration where
  keys : Option (List Value)
  unhinted : Except Fault Bool
  hints : Except Fault (List (Value × Bool))
  own : Except Fault Hints

def Session.declaration (s : Session) (c : ClassRef) : Declaration :=
  let line := s.line c
  { keys := FieldSet.tableKeys? s.store
      (Model.tableAlong ((s.modelOf? c).bind Model.table?) s line)
    unhinted :=
      ((FieldSet.unhinted (line.findSome? (Model.given? s Model.unhintedName))).result s).1
    hints := ((Model.resolveHints line).result s).1
    own := (Model.hintsOf s c).map (·.1) }

namespace Declaration

open FieldSet

/-- The names that are declared. Hints that want a name or a type are taken as they are written. -/
def names (d : Declaration) : Except Fault (List Value) :=
  match d.keys with
  | some keys => .ok keys
  | none => do
    if ← d.unhinted then .ok []
    else
      match d.hints with
      | .ok hints => .ok (Hints.ofInstances hints)
      | .error f =>
        if passedOver f then d.own.map fun hints => Hints.ofInstances hints.asWritten
        else .error f

end Declaration

namespace FieldSet

open Operation

theorem result_unhinted (v? : Option Value) (s : Session) :
    (unhinted v?).result s = (((unhinted v?).result s).1, s) := by
  cases v? with
  | none => rfl
  | some v => simp only [unhinted, result_asking]

theorem fst_namesOfClass (c : ClassRef) (s : Session) :
    ((namesOfClass c).result s).1 = (s.declaration c).names := by
  unfold namesOfClass Session.declaration Declaration.names
  simp only [result_bind, result_get]
  cases tableKeys? s.store
    (Model.tableAlong ((s.modelOf? c).bind Model.table?) s (s.line c)) with
  | some keys => rfl
  | none =>
    simp only [result_bind]
    rw [result_unhinted]
    cases ((unhinted (List.findSome? (Model.given? s Model.unhintedName) (s.line c))).result s).1 with
    | error f => rfl
    | ok b =>
      cases b with
      | true => rfl
      | false => exact fst_namesResolved s

end FieldSet

theorem Session.declaration_aside (s : Session) (made : List Made) (records : List Record)
    (c : ClassRef) : Session.declaration { s with made, records } c = s.declaration c := by
  unfold declaration
  have given : Model.given? { s with made, records } Model.unhintedName =
      Model.given? s Model.unhintedName := rfl
  have line : Session.line { s with made, records } c = s.line c := rfl
  have model : Session.modelOf? { s with made, records } c = s.modelOf? c := rfl
  simp only [Model.tableAlong_aside, given, line, model,
    (Operation.Aside.unhinted _).fst_eq, (Operation.Aside.resolveHints _).fst_eq]
  rfl

def Value.text? : Value → Option String
  | .text _ t => some t
  | _ => none

namespace Store

def pathOf? (s : Store) (v : Value) : Option String := (s.field? v).join.bind Value.text?

def namespace? (s : Store) (h : Handle) : Option (List (String × Option String)) :=
  match s.cell? h with
  | some (.fieldSet es) => some (es.map (Prod.map id s.pathOf?))
  | _ => none

theorem KeepsButPasses.pathOf? {s t : Store} (h : s.KeepsButPasses t) {v : Value} {p : String}
    (hp : s.pathOf? v = some p) : t.pathOf? v = some p := by
  cases v with
  | shared k =>
    cases hc : s.cell? k with
    | none => simp [Store.pathOf?, field?, cellOf?, hc] at hp
    | some c =>
      cases c with
      | field path =>
        have hd := h k _ hc fun _ _ => Cell.noConfusion
        simpa [Store.pathOf?, field?, cellOf?, hc, hd] using hp
      | _ => simp [Store.pathOf?, field?, cellOf?, hc] at hp
  | _ => cases hp

theorem KeepsButPasses.map_pathOf? {s t : Store} (h : s.KeepsButPasses t)
    {fs : List (String × Value)} {es : List (String × String)}
    (hs : fs.map (Prod.map id s.pathOf?) = es.map (Prod.map id some)) :
    fs.map (Prod.map id t.pathOf?) = es.map (Prod.map id some) := by
  induction fs generalizing es with
  | nil => exact hs
  | cons f fs ih =>
    cases es with
    | nil => cases hs
    | cons e es =>
      simp only [List.map_cons, List.cons.injEq, Prod.ext_iff, Prod.map_fst, Prod.map_snd] at hs ⊢
      exact ⟨⟨hs.1.1, h.pathOf? hs.1.2⟩, ih hs.2⟩

theorem KeepsButPasses.namespace? {s t : Store} (h : s.KeepsButPasses t) {k : Handle}
    {es : List (String × String)} (hs : s.namespace? k = some (es.map (Prod.map id some))) :
    t.namespace? k = some (es.map (Prod.map id some)) := by
  unfold Store.namespace? at hs ⊢
  split at hs
  · next fs hc =>
    rw [h k _ hc fun _ _ => Cell.noConfusion]
    exact congrArg some (h.map_pathOf? (Option.some.inj hs))
  · cases hs

end Store

namespace FieldSet

def leadOf? (a : String) : Option String :=
  (countedLength a.length).toOption.map fun n => if n = 0 then "" else a ++ "."

/-- The fields of the public names in order, each with its path. A blank path makes no field. -/
def pathsOf? (lead : String) : List String → Option (List (String × String))
  | [] => some []
  | n :: ns =>
    if hiddenName n then pathsOf? lead ns
    else if Text.blank (lead ++ n) then none
    else (pathsOf? lead ns).map (putAllNamed [(n, lead ++ n)])

end FieldSet

def Declaration.offered? (d : Declaration) (a : String) : Option (List (String × String)) :=
  d.names.toOption.bind fun vs => (FieldSet.leadOf? a).bind fun lead =>
    (vs.mapM Value.text?).bind (FieldSet.pathsOf? lead)

theorem map_putNamed {α β : Type} (f : α → β) (n : String) (x : α) (es : List (String × α)) :
    (putNamed n x es).map (Prod.map id f) = putNamed n (f x) (es.map (Prod.map id f)) := by
  induction es with
  | nil => rfl
  | cons e es ih =>
    obtain ⟨m, y⟩ := e
    by_cases h : m = n
    · simp [putNamed, h]
    · simp [putNamed, h, ih]

theorem map_putAllNamed {α β : Type} (f : α → β) (es new : List (String × α)) :
    (putAllNamed es new).map (Prod.map id f) =
      putAllNamed (es.map (Prod.map id f)) (new.map (Prod.map id f)) := by
  unfold putAllNamed
  induction new generalizing es with
  | nil => rfl
  | cons e new ih =>
    rw [List.foldl_cons, ih, map_putNamed]
    rfl

namespace FieldSet

open Operation

theorem result_qualifierLead (k : Mark) (a : String) (s : Session) :
    match leadOf? a with
    | none => ∃ f, (qualifierLead (.text k a)).result s = (.error f, s)
    | some lead => (qualifierLead (.text k a)).result s = (.ok lead, s) := by
  have length : s.store.length (.text k a) = countedLength a.length := rfl
  have holds : s.store.holds (.text k a) = (countedLength a.length).map (· != 0) := by
    unfold countedLength at length ⊢
    by_cases hl : a.length ≤ lengthLimit <;>
      simp [Store.holds, Value.number?, length, hl, Except.map]
  unfold qualifierLead leadOf?
  rw [result_bind, result_asking, holds]
  cases countedLength a.length with
  | error f => exact ⟨f, rfl⟩
  | ok n =>
    cases n <;> rfl

theorem result_nameText {v : Value} (hv : v.text? = none) (s : Session) :
    ∃ f t, (nameText v).result s = (.error f, t) := by
  have called : ∀ v : Value, ∃ f t, (do
      let start ← Attribute.read v "startswith"
      (refuse (.notCallable ((← theStore).longName start)) : Operation String)).result s =
        (.error f, t) := by
    intro v
    rw [result_bind]
    rcases (Attribute.read v "startswith").result s with ⟨r, t⟩
    cases r <;> exact ⟨_, _, rfl⟩
  unfold nameText
  split
  · cases hv
  · exact ⟨_, _, rfl⟩
  · exact ⟨_, _, rfl⟩
  · exact called _

theorem result_make {m : Mark} {p : String} (hp : Text.blank p = false) (s : Session) :
    ∃ r, (Field.make (.text m p)).result s = (.ok (.shared ⟨s.store.size⟩), { s with
      store := (s.store.alloc (.field (some (.text m p)))).2
      records := s.records ++ [r] }) := by
  unfold Field.make
  simp only [hp]
  exact ⟨_, rfl⟩

theorem result_entries (lead : String) (vs : List Value) (s : Session) :
    match (vs.mapM Value.text?).bind (pathsOf? lead) with
    | none => ∃ f t, (entries lead vs).result s = (.error f, t)
    | some es => ∃ fs t, (entries lead vs).result s = (.ok fs, t) ∧ s.store.KeepsButPasses t.store ∧
        fs.map (Prod.map id t.store.pathOf?) = es.map (Prod.map id some) := by
  induction vs generalizing s with
  | nil => exact ⟨[], s, rfl, .refl _, rfl⟩
  | cons v vs ih =>
    cases hv : v.text? with
    | none =>
      obtain ⟨f, t, refused⟩ := result_nameText hv s
      simp only [List.mapM_cons, hv]
      exact ⟨f, t, by rw [entries, result_bind, refused]⟩
    | some n =>
      obtain ⟨m, rfl⟩ : ∃ m, v = .text m n := by
        cases v <;> cases hv
        exact ⟨_, rfl⟩
      have told : (nameText (.text m n)).result s = (.ok n, s) := rfl
      have names : ∀ x : Option (List String),
          (x.bind fun ns => some (n :: ns)).bind (pathsOf? lead) =
            if hiddenName n then x.bind (pathsOf? lead)
            else if Text.blank (lead ++ n) then none
            else (x.bind (pathsOf? lead)).map (putAllNamed [(n, lead ++ n)]) := by
        intro x
        cases x with
        | none => by_cases hn : hiddenName n = true <;> simp [hn]
        | some ns => rfl
      rw [entries, result_bind, told]
      simp only [List.mapM_cons, hv, Option.pure_def, Option.bind_eq_bind, Option.bind_some, names]
      by_cases hn : hiddenName n = true
      · simp only [hn, if_true]
        exact ih s
      · obtain ⟨k, marks, composed_eq⟩ := result_composed_eq (lead ++ n) s
        by_cases hb : Text.blank (lead ++ n) = true
        · have refused : ∀ u, (Field.make (.text k (lead ++ n))).result u =
              (.error .blankPath, u) := by
            intro u
            simp only [Field.make, hb, if_true, result_refuse]
          simp only [hn, hb, if_true, Bool.false_eq_true, if_false, result_bind, composed_eq, refused]
          exact ⟨_, _, rfl⟩
        · simp only [hn, hb, Bool.false_eq_true, if_false]
          obtain ⟨r, made⟩ := result_make (m := k) (Bool.eq_false_iff.2 hb)
            { s with store := { s.store with marks } }
          have rest := ih { s with
            store := (({ s.store with marks } : Store).alloc (.field (some (.text k (lead ++ n))))).2
            records := s.records ++ [r] }
          simp only [result_bind, composed_eq, made]
          cases hx : (vs.mapM Value.text?).bind (pathsOf? lead) with
          | none =>
            obtain ⟨f, t, refused⟩ := hx ▸ rest
            exact ⟨f, t, by rw [refused]⟩
          | some es =>
            rw [hx] at rest
            obtain ⟨fs, t, went, keepsButPasses, same⟩ := rest
            have before : s.store.KeepsButPasses { s.store with marks } := .of_cells rfl
            have path : t.store.pathOf? (.shared ⟨({ s.store with marks } : Store).size⟩) =
                some (lead ++ n) := by
              refine keepsButPasses.pathOf? ?_
              simp [Store.pathOf?, Store.field?, Store.cellOf?, Store.alloc, Store.cell?, Store.size,
                Value.text?]
            refine ⟨_, t, by rw [went]; rfl, (before.trans (.alloc _ _)).trans keepsButPasses, ?_⟩
            rw [map_putAllNamed, same, List.map_singleton, Prod.map_apply, path]
            exact (map_putAllNamed some [(n, lead ++ n)] es).symm

theorem result_build (c : ClassRef) (k : Mark) (a : String) (s : Session) :
    match (s.declaration c).offered? a with
    | none => ∃ f t, (build (.ofClass c) (.text k a)).result s = (.error f, t)
    | some es => ∃ h t, (build (.ofClass c) (.text k a)).result s = (.ok h, t) ∧
        s.store.size ≤ h.index ∧ t.store.namespace? h = some (es.map (Prod.map id some)) := by
  have names_eq := fst_namesOfClass c s
  have grown := (Aside.namesOfClass c).size_le s
  rcases named : (namesOfClass c).result s with ⟨r, u⟩
  rw [named] at names_eq grown
  unfold build Declaration.offered?
  rw [← names_eq, result_bind, declaredNames, named]
  cases r with
  | error f => exact ⟨f, u, rfl⟩
  | ok vs =>
    have lead_eq := result_qualifierLead k a u
    simp only [Except.toOption, Option.bind_some]
    rw [result_bind]
    cases hl : leadOf? a with
    | none =>
      rw [hl] at lead_eq
      obtain ⟨f, refused⟩ := lead_eq
      exact ⟨f, u, by rw [refused]⟩
    | some lead =>
      rw [hl] at lead_eq
      have entries_eq := result_entries lead vs u
      simp only [lead_eq, Option.bind_some]
      rw [result_bind]
      cases ho : (vs.mapM Value.text?).bind (pathsOf? lead) with
      | none =>
        rw [ho] at entries_eq
        obtain ⟨f, t, refused⟩ := entries_eq
        exact ⟨f, t, by rw [refused]⟩
      | some es =>
        rw [ho] at entries_eq
        obtain ⟨fs, t, went, -, same⟩ := entries_eq
        have longer := (Aside.entries lead vs).size_le u
        rw [went] at longer
        rw [went]
        refine ⟨_, _, result_alloc .., Nat.le_trans grown longer, ?_⟩
        rw [Store.namespace?, Store.cell?_alloc]
        exact congrArg some ((Store.KeepsButPasses.alloc t.store _).map_pathOf? same)

end FieldSet

end Criteria
