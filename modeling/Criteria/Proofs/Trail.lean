import Criteria.Proofs.Offering
import Criteria.Proofs.Telling

/-! Runs of calls of a builder, from its construction on, and what can be read off their records. A
run keeps the builder and its records in step: what one call does to both is told by
`CallMade.Told`, and a construction begins with one record for each condition that stands first.
-/

set_option autoImplicit false

namespace Criteria

/-- Calls of a builder, from a session to a later one. Whatever leaves the builder as it is may be
done in between. -/
inductive Trail (h : Handle) : Session → List CallMade → Session → Prop where
  | done (s : Session) : Trail h s [] s
  | meanwhile {s u t : Session} {ds : List CallMade} :
      u.store.builder? h = s.store.builder? h → Trail h u ds t → Trail h s ds t
  | call {s t : Session} {a : BuilderCall} {ds : List CallMade} :
      a.Known → (CallMade.of h a s).Shows h → (CallMade.of h a s).Own h →
      Trail h (CallMade.of h a s).after ds t → Trail h s (CallMade.of h a s :: ds) t

namespace Trail

/-- The records of a run tell which clauses entered in it, in order, and with which arguments. -/
theorem reports {h : Handle} {s t : Session} {ds : List CallMade} {b : Builder}
    (run : Trail h s ds t) (hb : s.store.builder? h = some b) :
    ∃ c, t.store.builder? h = some c ∧
      (∀ d ∈ ds, ∃ b c new, d.before.store.builder? h = some b ∧ d.Settles h b c new) ∧
      ∃ rs : List Report,
        (ds.flatMap CallMade.records).filter (Record.hasWords addedWords) = rs.map Report.record ∧
        c.conditions = b.conditions ++ rs.map Report.condition ∧
        c.bound = b.bound ++ rs.flatMap Report.values ∧
        ∀ r ∈ rs, (∃ d ∈ ds, r.store = d.after.store) ∧
          r.store.shownList r.values = .ok r.shown := by
  induction run generalizing b with
  | done s => exact ⟨b, hb, by simp, [], by simp⟩
  | meanwhile hu _ ih => exact ih (hu.trans hb)
  | @call s t a ds known shows own _ ih =>
    obtain ⟨c, new, settles⟩ := CallMade.settles_of_known hb known shows own
    obtain ⟨c', hc', told, rs, records_eq, conditions_eq, bound_eq, shown⟩ := ih settles.builder?
    obtain ⟨rs', records_eq', conditions_eq', bound_eq', shown'⟩ := settles.told.reports
    refine ⟨c', hc', List.forall_mem_cons.2 ⟨⟨b, c, new, hb, settles⟩, told⟩, rs' ++ rs, ?_, ?_, ?_,
      List.forall_mem_append.2 ⟨?_, ?_⟩⟩
    · rw [List.flatMap_cons, List.filter_append, records_eq, CallMade.records_of_settles settles,
        records_eq', List.map_append]
    · rw [conditions_eq, conditions_eq', List.map_append, List.append_assoc]
    · rw [bound_eq, bound_eq', List.flatMap_append, List.append_assoc]
    · intro r hr
      obtain ⟨e, hw⟩ := shown' r hr
      exact ⟨⟨_, List.mem_cons_self .., e⟩, hw⟩
    · intro r hr
      obtain ⟨⟨d, hd, e⟩, hw⟩ := shown r hr
      exact ⟨⟨d, List.mem_cons_of_mem _ hd, e⟩, hw⟩

end Trail

namespace Plan

open Operation

theorem result_noteConditions (cs : List String) (s : Session) :
    (cs.forM noteCondition).result s =
      (.ok (), { s with records := s.records ++ cs.map .ofStatic }) := by
  induction cs generalizing s with
  | nil => simp
  | cons c cs ih =>
    have noted : (noteCondition c).result s =
        (.ok (), { s with records := s.records ++ [.ofStatic c] }) := rfl
    have step : (c :: cs).forM noteCondition = (do noteCondition c; cs.forM noteCondition) := rfl
    rw [step, result_bind, noted]
    simp only [ih]
    simp

theorem records_drain (v : Value) (s : Session) : ((drain v).result s).2.records = s.records := by
  have freshly : ∀ (vs : List Value) (s : Session),
      ((vs.mapM fresh).result s).2.records = s.records := by
    intro vs
    induction vs with
    | nil => exact fun _ => rfl
    | cons w vs ih =>
      intro s
      obtain ⟨m, marks, e⟩ := result_fresh_eq w s
      have kept := ih { s with store := { s.store with marks } }
      rw [List.mapM_cons, result_bind, e]
      simp only [result_bind]
      rcases hr : (vs.mapM fresh).result { s with store := { s.store with marks } } with ⟨r, t⟩
      rw [hr] at kept
      cases r <;> exact kept
  unfold drain
  simp only [result_bind, result_asking]
  cases s.store.elements v with
  | error f => rfl
  | ok items =>
    simp only [result_modify]
    split <;> first | exact freshly _ _ | rfl

theorem records_reservedArgs (p : Plan) (s : Session) :
    (p.reservedArgs.result s).2.records = s.records := by
  unfold reservedArgs
  split
  · rfl
  · rw [result_bind]
    simp only [result_theStore]
    split
    · exact records_drain _ _
    · rfl

theorem length_conditions (p : Plan) : p.conditions.length ≤ 1 := by
  unfold conditions
  split
  · split <;> simp
  · simp

def madeWords : String := "Initializing ConditionBuilder for '"

theorem records_make {p : Plan} {s t : Session} {v : Value} (h : p.make.result s = (.ok v, t)) :
    ∃ (found : List Record) (more : String), (∀ r ∈ found, r.channel = .fields) ∧
      t.records = s.records ++
        (found ++ p.conditions.map .ofStatic ++ [⟨.info, .builder, madeWords ++ more⟩]) := by
  unfold make at h
  obtain ⟨n, s₁, hn, h₁⟩ := of_bind h
  obtain ⟨fields, s₂, hf, h₂⟩ := of_bind h₁
  obtain ⟨_, s₃, hc, h₃⟩ := of_bind h₂
  obtain ⟨reserved, s₄, hr, h₄⟩ := of_bind h₃
  obtain ⟨base, s₅, hb, h₅⟩ := of_bind h₄
  obtain ⟨start, s₆, hs, h₆⟩ := of_bind h₅
  obtain ⟨_, s₇, hi, h₇⟩ := of_bind h₆
  obtain rfl := (of_asking hn).2
  obtain rfl := (of_asking hb).2
  obtain rfl := (of_asking hs).2
  obtain ⟨found, found_eq, channel⟩ := p.noting_offeredFields s
  rw [hf] at found_eq
  rw [result_noteConditions] at hc
  have reserved_eq := p.records_reservedArgs s₃
  rw [hr] at reserved_eq
  let more := "' " ++ s!"(start_index={start}, reserved_args={reserved.length})"
  have message : s!"Initializing ConditionBuilder for '{base}' " ++
      s!"(start_index={start}, reserved_args={reserved.length})" = madeWords ++ (base ++ more) := by
    simp only [more, madeWords, toString, String.append_assoc]
  refine ⟨found, base ++ more, channel, ?_⟩
  cases hc
  cases hi
  cases h₇
  simp only at found_eq reserved_eq ⊢
  rw [message, reserved_eq, found_eq]
  simp only [List.append_assoc]

end Plan

theorem Record.filter_static {found : List Record} {more : String} (cs : List String)
    (h : ∀ r ∈ found, r.channel = .fields) :
    (found ++ cs.map Record.ofStatic ++
      [(⟨.info, .builder, Plan.madeWords ++ more⟩ : Record)]).filter (hasWords staticWords) =
        cs.map .ofStatic := by
  have found_eq : found.filter (hasWords staticWords) = [] :=
    List.filter_eq_nil_iff.2 fun r hr => by simp [hasWords_of_channel, h r hr]
  have made : hasWords staticWords ⟨.info, .builder, Plan.madeWords ++ more⟩ = false :=
    hasWords_of_head rfl rfl (by decide)
  have static : ∀ r ∈ cs.map Record.ofStatic, hasWords staticWords r = true := by
    intro r hr
    obtain ⟨c, -, rfl⟩ := List.mem_map.1 hr
    simp only [ofStatic, String.append_assoc]
    exact hasWords_of_append _ _ _
  simp [List.filter_append, found_eq, made, List.filter_eq_self.2 static]

/-- The records of a builder tell what it holds. A construction records the condition that stands
first, and each call leaves the records that `CallMade.Told` gives for what came of it. So the
conditions are those that the records tell, in order, and the arguments those that they show. -/
theorem Trail.audited {p : Plan} {h : Handle} {s t u : Session} {ds : List CallMade}
    (made : p.make.result s = (.ok (.shared h), t)) (run : Trail h t ds u) :
    ∃ (new : List Record) (statics : List String) (reports : List Report) (c : Builder),
      t.records = s.records ++ new ∧ u.store.builder? h = some c ∧
      new.filter (Record.hasWords staticWords) = statics.map .ofStatic ∧ statics.length ≤ 1 ∧
      (ds.flatMap CallMade.records).filter (Record.hasWords addedWords) =
      reports.map Report.record ∧
      c.conditions = statics ++ reports.map Report.condition ∧
      c.bound = reports.flatMap Report.values ∧
      (∀ r ∈ reports, (∃ d ∈ ds, r.store = d.after.store) ∧
        r.store.shownList r.values = .ok r.shown) ∧
      ∀ d ∈ ds, ∃ b c, d.before.store.builder? h = some b ∧ d.after.store.builder? h = some c ∧
        d.after.records = d.before.records ++ d.records ∧ d.Told b c d.records := by
  obtain ⟨k, b, e, hb, fresh⟩ := Plan.exists_fresh made
  cases e
  obtain ⟨found, more, channel, records_eq⟩ := Plan.records_make made
  obtain ⟨c, hc, settled, reports, added, conditions_eq, bound_eq, shown⟩ := run.reports hb
  refine ⟨_, p.conditions, reports, c, records_eq, hc, Record.filter_static _ channel,
    p.length_conditions, added, by rw [conditions_eq, fresh.conditions],
    by rw [bound_eq, fresh.bound, List.nil_append], shown, fun d hd => ?_⟩
  obtain ⟨b, c, new, hb, settles⟩ := settled d hd
  rw [CallMade.records_of_settles settles]
  exact ⟨b, c, hb, settles.builder?, settles.records, settles.told⟩

theorem CallMade.shows_of {h : Handle} {d : CallMade}
    (hd : ((d.before.store.builder? h).any fun b => (d.after.store.builder? h).any fun c =>
      (d.after.store.shownList (c.bound.drop b.bound.length)).toBool) = true) : d.Shows h := by
  intro b c hb hc
  rw [hb, hc] at hd
  cases hw : d.after.store.shownList (c.bound.drop b.bound.length) with
  | ok w => exact ⟨w, rfl⟩
  | error f => simp [hw, Except.toBool] at hd

theorem CallMade.own_of_extras {h : Handle} {d : CallMade} (he : d.before.store.extras.isEmpty) :
    d.Own h := by
  rw [List.isEmpty_iff] at he
  intro name _
  simp only [Store.givenTo?, Store.given, he, Store.givenToClass?, List.lookup_nil]
  cases d.before.store.owner? (.shared h) <;> cases d.before.store.libraryClass? (.shared h) <;>
    rfl

theorem Trail.audited_within :
    ∃ (t u : Session) (ds : List CallMade) (reports : List Report) (c : Builder),
      (Plan.withCondition (.text none "from Foo") (.text none "a is null") (.int none 1) [] .null
        (.text none "")).make.result {} = (.ok (.shared ⟨1⟩), t) ∧
      Trail ⟨1⟩ t ds u ∧ u.store.builder? ⟨1⟩ = some c ∧
      (ds.flatMap CallMade.records).filter (Record.hasWords addedWords) =
      reports.map Report.record ∧
      c.conditions = "a is null" :: reports.map Report.condition ∧
      (ds.flatMap CallMade.records).map Record.message =
        ["Skipping 'a =' condition, value is absent: None", "Converted tuple to list for 'in'",
         "Added condition 'b in ?1' with args [[1, 2]]",
         "Built query: 'from Foo where a is null and b in ?1'"] := by
  let p := Plan.withCondition (.text none "from Foo") (.text none "a is null") (.int none 1) [] .null
    (.text none "")
  let t : Session := (p.make.result {}).2
  have made : p.make.result {} = (.ok (.shared ⟨1⟩), t) := rfl
  let x : BuilderCall := .call "equal" { places := [.text none "a", .null] }
  let y : BuilderCall :=
    .call "in_" { places := [.text none "b", .tuple none [.int none 1, .int none 2]] }
  let z : BuilderCall := .call "build" { places := [] }
  let t₁ := (CallMade.of ⟨1⟩ x t).after
  let t₂ := (CallMade.of ⟨1⟩ y t₁).after
  let t₃ := (CallMade.of ⟨1⟩ z t₂).after
  have known : ∀ name, name ∈ Operations.ofBuilder → ∀ {g}, (BuilderCall.call name g).Known :=
    fun _ hn _ => hn
  have run : Trail ⟨1⟩ t [.of ⟨1⟩ x t, .of ⟨1⟩ y t₁, .of ⟨1⟩ z t₂] t₃ :=
    .call (known _ (by decide)) (CallMade.shows_of (by decide +kernel))
      (CallMade.own_of_extras (by decide +kernel))
      (.call (known _ (by decide)) (CallMade.shows_of (by decide +kernel))
      (CallMade.own_of_extras (by decide +kernel))
        (.call (known _ (by decide)) (CallMade.shows_of (by decide +kernel))
      (CallMade.own_of_extras (by decide +kernel)) (.done _)))
  obtain ⟨new, statics, reports, c, new_eq, hc, statics_eq, -, added, conditions_eq, -⟩ :=
    Trail.audited made run
  have said : ([CallMade.of ⟨1⟩ x t, .of ⟨1⟩ y t₁, .of ⟨1⟩ z t₂].flatMap CallMade.records).map
      Record.message =
        ["Skipping 'a =' condition, value is absent: None", "Converted tuple to list for 'in'",
         "Added condition 'b in ?1' with args [[1, 2]]",
         "Built query: 'from Foo where a is null and b in ?1'"] := by
    decide +kernel
  have one : statics.length = 1 := by
    rw [← List.length_map (f := Record.ofStatic), ← statics_eq,
      show new = t.records from new_eq.symm]
    decide +kernel
  obtain ⟨condition, rfl⟩ := List.length_eq_one_iff.1 one
  have entered : (t₃.store.builder? ⟨1⟩).map Builder.conditions =
      some ["a is null", "b in ?1"] := by
    decide +kernel
  have first : condition = "a is null" := by
    rw [hc, Option.map_some, conditions_eq] at entered
    exact (List.cons.inj (Option.some.inj entered)).1
  exact ⟨t, t₃, _, reports, c, made, run, hc, added, by rw [← first]; exact conditions_eq, said⟩

end Criteria
