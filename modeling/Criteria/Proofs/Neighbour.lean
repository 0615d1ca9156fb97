import Criteria.Proofs.Sharing
import Mathlib.Data.List.Forall2

/-! A builder with neighbours that have its field set. What it gives under a name is what was put
there last, by whichever builder. Its own query, arguments and numbers are what they are without the
neighbours, as long as they did not change what it used. A later builder of the same class and
qualifier gets the field set as it was left.
-/

set_option autoImplicit false

namespace Criteria

namespace Operation

variable {α β : Type}

def Unmade (x : Operation α) : Prop := ∀ s, (x.result s).2.made = s.made

theorem Unmade.bind {x : Operation α} {f : α → Operation β} (hx : Unmade x)
    (hf : ∀ a, Unmade (f a)) : Unmade (x >>= f) := by
  intro s
  have h := hx s
  rw [result_bind]
  rcases e : x.result s with ⟨r, t⟩
  rw [e] at h
  cases r with
  | error f => exact h
  | ok a => exact (hf a t).trans h

end Operation

namespace Builder

open Operation

theorem unmade_carryOut (h : Handle) (b : Builder) (r : Ruling) : Unmade (carryOut h b r) := by
  have noted : ∀ message : Store → Except Fault String, Unmade (noted message) := fun message =>
    ((KeepsButPasses.asking message).bind fun _ => .note _ _ _).made
  have put : ∀ b : Builder, Unmade (Operation.put h (.builder b)) := fun _ _ => rfl
  have bound : ∀ bs, Unmade (bindValues bs) := by
    intro bs
    induction bs with
    | nil => exact fun _ => rfl
    | cons x xs ih =>
      have value : Unmade (bindValue x) := by cases x <;> exact fun _ => rfl
      exact value.bind fun _ => ih.bind fun _ _ => rfl
  cases r with
  | skip path operation value => exact noted _
  | add clause bs => exact (bound bs).bind fun values => (put _).bind fun _ => noted _
  | tear spent fault => exact (put _).bind fun _ _ => rfl
  | order clause => exact (put _).bind fun _ => noted _

theorem unmade_request (h : Handle) (r : Request) : Unmade (request h r) := by
  have builder : Unmade (theBuilder h r.method) := by
    intro s
    simp only [theBuilder, result_bind, result_theStore]
    cases s.store.builder? h <;> rfl
  refine builder.bind fun b s => ?_
  simp only [perform, result_bind, result_theStore, result_modify]
  cases r.rule s.store with
  | error f => rfl
  | ok ruling => exact unmade_carryOut h b _ _

end Builder

theorem ActBy.Undisturbed.of_leaves {h : Handle} {xs : List ActBy} {f : String → Option Value}
    (kept : ∀ names request, ⟨h, .use names request⟩ ∈ xs → ∀ name ∈ names, ∀ x ∈ xs,
      x.builder ≠ h → ∀ v, x.act.leaves name v = v) : Undisturbed h xs f f := by
  rintro before after names request rfl name hn
  have leaves : ∀ x ∈ before, x.builder ≠ h → ∀ v, x.act.leaves name v = v :=
    fun x hx => kept names request (by simp) name hn x (List.mem_append_left _ hx)
  clear kept
  generalize f name = v
  induction before generalizing v with
  | nil => rfl
  | cons x before ih =>
    have rest := ih fun y hy => leaves y (List.mem_cons_of_mem _ hy)
    obtain ⟨k, a⟩ := x
    by_cases e : k = h
    · subst e
      rw [own_cons_self]
      exact rest _
    · rw [own_cons_of_ne e, leave, leaves _ (List.mem_cons_self ..) e]
      exact rest v

namespace Sharing

open Operation FieldSet

variable {n h : Handle} {hs : List Handle} {es : List (String × Value)} {s : Session}

theorem made_after (w : Sharing n hs es s.store) {xs : List ActBy} (hx : ∀ x ∈ xs, x.builder ∈ hs) :
    (ActBy.after xs s).made = s.made := by
  induction xs generalizing es s with
  | nil => rfl
  | cons x xs ih =>
    have hb := hx x (List.mem_cons_self ..)
    obtain ⟨⟨fs, shared, -⟩, -⟩ := w.perform hb x.act
    have rest := ih shared fun y hy => hx y (List.mem_cons_of_mem _ hy)
    refine rest.trans ?_
    rcases w.perform_cases hb x.act with ⟨e, -⟩ | ⟨fs, e, -⟩ | ⟨r, e, -⟩
    · rw [e]
    · rw [e]
    · rw [e]
      exact Builder.unmade_request _ _ s

end Sharing

structure Session.Serves (s : Session) (c : ClassRef) (a : String) (n : Handle) : Prop where
  keyed : ∀ m ∈ s.made, ∃ d b, FieldSet.Keyed m d b
  there : ∃ m ∈ s.made, FieldSet.Keyed m c a
  only : ∀ m ∈ s.made, FieldSet.Keyed m c a → m.fields = n

theorem Session.Serves.of_made {s t : Session} {c : ClassRef} {a : String} {n : Handle}
    (h : s.Serves c a n) (made : t.made = s.made) : t.Serves c a n :=
  ⟨made ▸ h.keyed, made ▸ h.there, made ▸ h.only⟩

theorem Session.Faithful.serves {d : ClassRef → Declaration} {s t : Session} {c : ClassRef}
    {k : Mark} {a : String} {v : Value} (h : s.Faithful d) (declared : s.declaration c = d c)
    (e : (FieldSet.forClass (.classOf c) (.text k a)).result s = (.ok v, t)) :
    ∃ n os, v = .shared n ∧ t.Serves c a n ∧ (d c).offered? a = some os ∧
      t.store.namespace? n = some (os.map (Prod.map id some)) := by
  have keyed : ∀ m ∈ s.made, ∃ d b, FieldSet.Keyed m d b := fun m hm =>
    let ⟨d, b, _, keyed, _⟩ := h.holds m hm
    ⟨d, b, keyed⟩
  have given := h.forClass declared e
  cases ho : (d c).offered? a with
  | none =>
    rw [ho] at given
    obtain ⟨⟨f, refused, -⟩, -⟩ := given
    cases refused
  | some os =>
    rw [ho] at given
    obtain ⟨m, hm, km, e, held, grown⟩ := given
    cases e
    refine ⟨m.fields, os, rfl, ⟨fun x hx => ?_, ⟨m, hm, km⟩, fun x hx kx => ?_⟩, rfl, held⟩
    · rcases grown with grown | ⟨grown, -⟩ <;> rw [grown] at hx
      · exact keyed x hx
      · rcases List.mem_append.1 hx with hx | hx
        · exact keyed x hx
        · cases List.mem_singleton.1 hx
          exact ⟨c, a, km⟩
    · rcases grown with grown | ⟨grown, -, others⟩ <;> rw [grown] at hx
      · exact (Inquiries.fields_eq_iff h hx (grown ▸ hm) kx km).2 ⟨rfl, rfl⟩
      · rcases List.mem_append.1 hx with hx | hx
        · exact absurd kx (others x hx)
        · rw [List.mem_singleton.1 hx]

def Plan.For (p : Plan) (c : ClassRef) (a : String) : Prop :=
  p.model = .classOf c ∧ ∃ k, p.qualifier = .text k a

theorem Plan.For.of_make {p : Plan} {c : ClassRef} {a : String} (hp : p.For c a) {s t : Session}
    {v : Value} (made : p.make.result s = (.ok v, t)) :
    ∃ k u fields j b, (FieldSet.forClass (.classOf c) (.text k a)).result s = (.ok fields, u) ∧
      v = .shared j ∧ t.store.builder? j = some b ∧ b.fields = some fields ∧
      u.store.KeepsButPasses t.store ∧ t.made = u.made := by
  obtain ⟨model, k, qualifier⟩ := hp
  rw [make_eq] at made
  obtain ⟨i, s₁, hi, made⟩ := Operation.of_bind made
  obtain ⟨-, rfl⟩ := Operation.of_asking hi
  obtain ⟨fields, u, offered, made⟩ := Operation.of_bind made
  have keepsButPasses := Operation.KeepsButPasses.completed p i fields
  have store := keepsButPasses.store u
  have same := keepsButPasses.made u
  rw [made] at store same
  unfold offeredFields at offered
  rw [model, qualifier] at offered
  obtain ⟨j, b, hv, hb, -, -, -, fields, -⟩ := exists_completed made
  exact ⟨k, u, _, j, b, offered, hv, hb, fields, store, same⟩

/-- What callers see of a builder is the same in both sessions, but for the identity of what is bound
after these arguments. -/
def SeenAlike (h : Handle) (first : List Value) (t u : Session) : Prop :=
  ∃ b c text args args' index size, t.store.builder? h = some b ∧ u.store.builder? h = some c ∧
    Seen b t text (first ++ RequestAt.boundBy args) index size ∧
    Seen c u text (first ++ RequestAt.boundBy args') index size ∧
    List.Forall₂ (fun x y => List.Forall₂ Binding.Alike x.2 y.2) args args'

/-- A builder after the acts of many, next to what it is after its own acts alone. The fields were
`es` before. -/
structure Compared (h : Handle) (b : Builder) (es : List (String × Value)) (s : Session)
    (xs : List ActBy) : Prop where
  given : ∀ name, ((Builder.fieldOf h name).result (ActBy.after xs s)).1 =
    FieldSet.told name (ActBy.leave name xs (es.lookup name))
  given_iff : ∀ name, ((Builder.fieldOf h name).result (ActBy.after xs s)).1 =
      ((Builder.fieldOf h name).result (ActBy.after (ActBy.own h xs) s)).1 ↔
    name = "__class__" ∨ (ActBy.leave name xs (es.lookup name)).or (Attribute.ofFieldSet? name) =
      (ActBy.leave name (ActBy.own h xs) (es.lookup name)).or (Attribute.ofFieldSet? name)
  seen : ∀ m base, b.base = .text m base →
    ActBy.Undisturbed h xs (fun name => es.lookup name) (fun name => es.lookup name) →
    (∀ k, k ≠ h → ∀ x ∈ ActBy.requests k xs s, x.Lasting) →
    (∀ x ∈ ActBy.requests h (ActBy.own h xs) s, x.Rooted s.store.size ∧ x.Spelled fun _ => True) →
    SeenAlike h b.args (ActBy.after (ActBy.own h xs) s) (ActBy.after xs s)

/-- What a new builder gives after the acts, next to what the builder `h` gave before them. The
fields were `es` then. -/
structure Inherited (h j : Handle) (es : List (String × Value)) (s t : Session) (xs : List ActBy) :
    Prop where
  given : ∀ name, ((Builder.fieldOf j name).result t).1 =
    FieldSet.told name (ActBy.leave name xs (es.lookup name))
  given_iff : ∀ name, ((Builder.fieldOf j name).result t).1 = ((Builder.fieldOf h name).result s).1 ↔
    name = "__class__" ∨ (ActBy.leave name xs (es.lookup name)).or (Attribute.ofFieldSet? name) =
      (es.lookup name).or (Attribute.ofFieldSet? name)

namespace Sharing

open Operation FieldSet

variable {n h : Handle} {hs : List Handle} {es : List (String × Value)} {s t : Session}
  {c : ClassRef} {a : String} {p : Plan} {v : Value}

theorem of_make {d : ClassRef → Declaration} (faithful : s.Faithful d)
    (declared : s.declaration c = d c) (hp : p.For c a) (made : p.make.result s = (.ok v, t)) :
    ∃ j n es os, v = .shared j ∧ Sharing n [j] es t.store ∧ t.Serves c a n ∧
      (d c).offered? a = some os ∧ t.store.namespace? n = some (os.map (Prod.map id some)) := by
  obtain ⟨k, u, fields, j, b, asked, rfl, hb, hf, keepsButPasses, same⟩ := hp.of_make made
  obtain ⟨n, os, rfl, serves, offered, held⟩ := faithful.serves declared asked
  have held := keepsButPasses.namespace? held
  obtain ⟨es, he⟩ : ∃ es, t.store.cell? n = some (.fieldSet es) := by
    unfold Store.namespace? at held
    split at held
    · exact ⟨_, ‹_›⟩
    · cases held
  exact ⟨j, n, es, os, rfl, ⟨he, by simpa using ⟨b, hb, hf⟩⟩, serves.of_made same, offered, held⟩

theorem later (w : Sharing n hs es s.store) (serves : s.Serves c a n) (hp : p.For c a)
    (made : p.make.result s = (.ok v, t)) :
    ∃ j, v = .shared j ∧ Sharing n (j :: hs) es t.store ∧ t.Serves c a n ∧
      s.store.KeepsButPasses t.store := by
  obtain ⟨k, u, fields, j, b, asked, rfl, hb, hf, keepsButPasses, same⟩ := hp.of_make made
  obtain ⟨m, hm, keyed, found⟩ | ⟨none, -⟩ := find?_cases s.store c k a serves.keyed
  · rw [serves.only m hm keyed] at found
    obtain ⟨r, given⟩ := result_forClass_of_some found
    cases asked.symm.trans given
    refine ⟨j, rfl, ⟨keepsButPasses n _ w.fields fun _ _ => Cell.noConfusion, ?_⟩,
      serves.of_made same, keepsButPasses⟩
    refine List.forall_mem_cons.2 ⟨⟨b, hb, hf⟩, fun h hh => ?_⟩
    obtain ⟨b, hb, hf⟩ := w.builder h hh
    exact ⟨b, Builder.builder?_eq_some.2
      (keepsButPasses h _ (Builder.builder?_eq_some.1 hb) fun _ _ => Cell.noConfusion), hf⟩
  · obtain ⟨m, hm, keyed⟩ := serves.there
    exact absurd keyed (none m hm)

/-- What callers see of a builder is the same with the acts of others and without them. -/
theorem seen_alone (w : Sharing n hs es s.store) (hh : h ∈ hs) {xs : List ActBy}
    (hx : ∀ x ∈ xs, x.builder ∈ hs) {b : Builder} {m : Mark} {base : String} {o : Option String}
    (hb : s.store.builder? h = some b) (base_eq : b.base = .text m base)
    (order_eq : Builder.spelled? b.order = some o)
    (same : ActBy.Undisturbed h xs (fun name => es.lookup name) fun name => es.lookup name)
    (lasting : ∀ k, k ≠ h → ∀ x ∈ ActBy.requests k xs s, x.Lasting)
    (rooted : ∀ x ∈ ActBy.requests h (ActBy.own h xs) s,
      x.Rooted s.store.size ∧ x.Spelled fun _ => True) :
    SeenAlike h b.args (ActBy.after (ActBy.own h xs) s) (ActBy.after xs s) := by
  have own : ∀ x ∈ ActBy.own h xs, x.builder ∈ hs := fun x hm => hx x (List.mem_filter.1 hm).1
  have matched := w.matched w (.refl (Nat.le_refl _)) hh hx lasting rooted same
  have paired := matched.imp fun _ _ h => h.paired
  have worded := RequestAt.Matched.worded_all matched
  obtain ⟨c, hc, seen⟩ := (w.course hh hx).seen_of_builder hb base_eq order_eq worded.2
  obtain ⟨d, hd, seen'⟩ := (w.course hh own).seen_of_builder hb base_eq order_eq worded.1
  obtain ⟨fragments, clauses⟩ := RequestAt.emissions_paired paired b.index
  have lengths := congrArg List.length clauses
  rw [List.length_map, List.length_map] at lengths
  rw [Emission.taken, fragments, clauses, lengths, RequestAt.allLost_paired paired,
    RequestAt.orders_paired paired, ← RequestAt.boundBy_shares, ← Emission.taken] at seen'
  rw [← RequestAt.boundBy_shares] at seen
  exact ⟨d, c, _, _, _, _, _, hd, hc, seen', seen, RequestAt.Matched.shares matched _⟩

theorem compared (w : Sharing n hs es s.store) (hh : h ∈ hs) {xs : List ActBy}
    (hx : ∀ x ∈ xs, x.builder ∈ hs) {b : Builder} (hb : s.store.builder? h = some b)
    (unordered : b.order = none) : Compared h b es s xs := by
  have own : ∀ x ∈ ActBy.own h xs, x.builder ∈ hs := fun x hm => hx x (List.mem_filter.1 hm).1
  obtain ⟨fs, shared, left⟩ := w.after hx
  obtain ⟨gs, alone, left'⟩ := w.after own
  refine ⟨fun name => ?_, fun name => ?_, fun m base base_eq same lasting rooted => ?_⟩
  · rw [shared.result_fieldOf hh, left]
  · rw [shared.result_fieldOf hh, alone.result_fieldOf hh, left, left']
    exact told_eq_iff
  · have order_eq : Builder.spelled? b.order = some none := by
      rw [unordered]
      rfl
    exact w.seen_alone hh hx hb base_eq order_eq same lasting rooted

theorem later_after (w : Sharing n hs es s.store) (hh : h ∈ hs) (serves : s.Serves c a n)
    {xs : List ActBy} (hx : ∀ x ∈ xs, x.builder ∈ hs) (hp : p.For c a)
    (made : p.make.result (ActBy.after xs s) = (.ok v, t)) :
    ∃ j, v = .shared j ∧ Inherited h j es s t xs := by
  obtain ⟨fs, shared, left⟩ := w.after hx
  obtain ⟨j, rfl, more, -⟩ := shared.later (serves.of_made (w.made_after hx)) hp made
  have told_eq : ∀ name, ((Builder.fieldOf j name).result t).1 =
      told name (ActBy.leave name xs (es.lookup name)) := by
    intro name
    rw [more.result_fieldOf (List.mem_cons_self ..), left]
  refine ⟨j, rfl, told_eq, fun name => ?_⟩
  rw [told_eq, w.result_fieldOf hh]
  exact told_eq_iff

/-- Two builders of one class and one qualifier start with the fields that the class declares. From
then on each gives under a name what was put there last, by whichever of them: the same as without
the other just when its own acts alone would have left the same there. Its query, its arguments and
its numbers are the same as without the other when that held whenever it asked. A later builder
gives what the two give: the same as they gave at the start just where all is left as it was. -/
theorem apart_iff {d : ClassRef → Declaration} {q : Plan} {s₀ s₁ : Session} {k : Handle}
    {xs : List ActBy} (faithful : s₀.Faithful d) (declared : s₀.declaration c = d c)
    (hp : p.For c a) (hq : q.For c a) (first : p.make.result s₀ = (.ok (.shared h), s₁))
    (second : q.make.result s₁ = (.ok (.shared k), s)) (hx : ∀ x ∈ xs, x.builder ∈ [k, h]) :
    ∃ n es os, Sharing n [k, h] es s.store ∧ (d c).offered? a = some os ∧
      s.store.namespace? n = some (os.map (Prod.map id some)) ∧
      (∀ g ∈ [k, h], ∃ b, s.store.builder? g = some b ∧ Compared g b es s xs) ∧
      ∀ (r : Plan) v t, r.For c a → r.make.result (ActBy.after xs s) = (.ok v, t) →
        ∃ j, v = .shared j ∧ Inherited h j es s t xs := by
  obtain ⟨_, n, es, os, e, alone, serves, offered, held⟩ := of_make faithful declared hp first
  cases e
  obtain ⟨_, e, shared, serves, keepsButPasses⟩ := alone.later serves hq second
  cases e
  obtain ⟨_, b, e, hb, one⟩ := Plan.exists_fresh first
  cases e
  obtain ⟨_, c, e, hc, other⟩ := Plan.exists_fresh second
  cases e
  have hb := Builder.builder?_eq_some.2
    (keepsButPasses h _ (Builder.builder?_eq_some.1 hb) fun _ _ => Cell.noConfusion)
  refine ⟨n, es, os, shared, offered, keepsButPasses.namespace? held, ?_, fun r v t hr made => ?_⟩
  · intro g hg
    rcases List.mem_cons.1 hg with rfl | hm
    · exact ⟨c, hc, shared.compared hg hx hc other.order⟩
    · cases List.mem_singleton.1 hm
      exact ⟨b, hb, shared.compared hg hx hb one.order⟩
  · exact shared.later_after (by simp) serves hx hr made

private def item : ClassRef := .declared 0 "Item" false

private def plan : Plan :=
  { base := .text none "from Item i", model := .classOf item, qualifier := .text none "i" }

private def atFirst : Session :=
  { models := [{ name := "Item", hints := [("price", .ordinary)], attributes := []
                 line := [item, .builtin .object] }] }

private def withOne : Session := (plan.make.result atFirst).2

private def withTwo : Session := (plan.make.result withOne).2

private theorem result_eq {x : Except Fault Value × Session} {h : Handle}
    (e : (match x.1 with | .ok (.shared k) => k == h | _ => false) = true) :
    x = (.ok (.shared h), x.2) := by
  obtain ⟨r, t⟩ := x
  split at e
  · next hk =>
    cases hk
    cases beq_iff_eq.1 e
    rfl
  · cases e

private theorem text_eq {o : Option Value} {t : String}
    (e : (match o with | some (.text _ w) => w == t | _ => false) = true) :
    ∃ m, o = some (.text m t) := by
  split at e
  · next m w => exact ⟨m, by rw [beq_iff_eq.1 e]⟩
  · cases e

private theorem ok_of_toOption {x : Except Fault Value} {v : Value} (h : x.toOption = some v) :
    x = .ok v := by
  cases x with
  | error f => cases h
  | ok w => exact congrArg Except.ok (Option.some.inj h)

theorem apart_iff_assigned : ∃ (h k : Handle) (b : Builder) (s : Session) (v : Value) (m : Mark),
    let xs : List ActBy := [⟨k, .assign "stock" (.text none "other")⟩,
      ⟨h, .use ["price"] fun vs => .compare .equal (vs.headD .null) (.int none 1)⟩]
    h ≠ k ∧ s.store.builder? h = some b ∧ (Builder.fieldOf h "price").result s = (.ok v, s) ∧
      s.store.fieldPath v = .ok (.text m "i.price") ∧
      ((Builder.fieldOf h "price").result (ActBy.after xs s)).1 = .ok v ∧
      SeenAlike h b.args (ActBy.after (ActBy.own h xs) s) (ActBy.after xs s) := by
  have first : plan.make.result atFirst = (.ok (.shared ⟨2⟩), withOne) := result_eq (by decide +kernel)
  have second : plan.make.result withOne = (.ok (.shared ⟨3⟩), withTwo) := result_eq (by decide +kernel)
  let xs : List ActBy := [⟨⟨3⟩, .assign "stock" (.text none "other")⟩,
    ⟨⟨2⟩, .use ["price"] fun vs => .compare .equal (vs.headD .null) (.int none 1)⟩]
  have here : ∀ x ∈ xs, x.builder ∈ [⟨3⟩, ⟨2⟩] := by simp [xs]
  obtain ⟨n, es, -, shared, -, -, both, -⟩ := apart_iff (d := atFirst.declaration) (c := item)
    (a := "i") (.of_nil rfl) rfl ⟨rfl, none, rfl⟩ ⟨rfl, none, rfl⟩ first second here
  obtain ⟨b, hb, compared⟩ := both ⟨2⟩ (by simp)
  have told_eq := shared.result_fieldOf (h := ⟨2⟩) (by simp) "price"
  have price : (Builder.fieldOf ⟨2⟩ "price").result withTwo = (.ok (.shared ⟨0⟩), withTwo) := by
    have kept := congrArg Prod.snd told_eq
    exact (result_eq (by decide +kernel)).trans (Prod.ext rfl kept)
  obtain ⟨m, path⟩ := text_eq (o := (withTwo.store.fieldPath (.shared ⟨0⟩)).toOption) (t := "i.price")
    (by decide +kernel)
  have path := ok_of_toOption path
  obtain ⟨k, base_eq⟩ := text_eq (o := (withTwo.store.builder? ⟨2⟩).map Builder.base)
    (t := "from Item i") (by decide +kernel)
  have base_eq : b.base = .text k "from Item i" := by simpa [hb] using base_eq
  refine ⟨⟨2⟩, ⟨3⟩, b, withTwo, .shared ⟨0⟩, m, by decide, hb, price, path, ?_, ?_⟩
  · refine (compared.given "price").trans ?_
    exact (congrArg Prod.fst told_eq).symm.trans (congrArg Prod.fst price)
  · refine compared.seen k _ base_eq (.of_leaves ?_) ?_ ?_
    · simp [xs, FieldsAct.leaves]
    · intro k hk x hx
      simp only [xs, ActBy.requests, FieldsAct.request?, hk.symm, if_false] at hx
      split at hx <;> cases hx
    · have requests_eq : ActBy.requests ⟨2⟩ (ActBy.own ⟨2⟩ xs) withTwo =
          [⟨withTwo.store, .compare .equal (.shared ⟨0⟩) (.int none 1)⟩] := by
        have used : (["price"].mapM (Builder.fieldOf ⟨2⟩)).result withTwo =
            (.ok [.shared ⟨0⟩], withTwo) := by
          simp only [List.mapM_cons, List.mapM_nil, result_bind, price, result_pure]
        rw [show ActBy.own ⟨2⟩ xs = [⟨⟨2⟩, .use ["price"] fun vs =>
          .compare .equal (vs.headD .null) (.int none 1)⟩] from rfl]
        simp only [ActBy.requests, FieldsAct.request?, used]
        rfl
      rw [requests_eq]
      refine List.forall_mem_singleton.2 ⟨⟨?_, ?_⟩, ?_⟩
      · simp [Request.operands, Value.Old]
        decide +kernel
      · simp [Request.references, Value.Old]
        decide +kernel
      · simp [RequestAt.Spelled, Request.references, path]

/-- What one builder puts among the fields, the other uses, and a later builder gets. -/
theorem exists_not_apart : ∃ (c : ClassRef) (p : Plan) (s₀ s₁ s t : Session) (h k j : Handle)
    (v : Value) (b d : Builder) (m l : Mark), s₀.made = [] ∧ p.For c "i" ∧
    p.make.result s₀ = (.ok (.shared h), s₁) ∧ p.make.result s₁ = (.ok (.shared k), s) ∧
    let xs : List ActBy := [⟨h, .assign "price" (.text none "evil")⟩,
      ⟨k, .use ["price"] fun vs => .compare .equal (vs.headD .null) (.int none 1)⟩]
    ((Builder.fieldOf k "price").result (ActBy.after xs s)).1 = .ok (.text m "evil") ∧
      ((Builder.fieldOf k "price").result (ActBy.after (ActBy.own k xs) s)).1 = .ok v ∧
      s.store.pathOf? v = some "i.price" ∧
      (ActBy.after xs s).store.builder? k = some b ∧
      (ActBy.after (ActBy.own k xs) s).store.builder? k = some d ∧
      b.conditions = ["evil = ?1"] ∧ d.conditions = ["i.price = ?1"] ∧
      p.make.result (ActBy.after xs s) = (.ok (.shared j), t) ∧
      ((Builder.fieldOf j "price").result t).1 = .ok (.text l "evil") := by
  let xs : List ActBy := [⟨⟨2⟩, .assign "price" (.text none "evil")⟩,
    ⟨⟨3⟩, .use ["price"] fun vs => .compare .equal (vs.headD .null) (.int none 1)⟩]
  have there : ∀ (t : Session) (l : List String),
      (t.store.builder? ⟨3⟩).any (·.conditions == l) = true →
        ∃ b, t.store.builder? ⟨3⟩ = some b ∧ b.conditions = l := by
    intro t l h
    obtain ⟨b, hb, hl⟩ := (Option.any_eq_true _ _).1 h
    exact ⟨b, hb, beq_iff_eq.1 hl⟩
  obtain ⟨b, hb, disturbed⟩ := there (ActBy.after xs withTwo) ["evil = ?1"] (by decide +kernel)
  obtain ⟨d, hd, alone⟩ := there (ActBy.after (ActBy.own ⟨3⟩ xs) withTwo) ["i.price = ?1"]
    (by decide +kernel)
  obtain ⟨m, used⟩ := text_eq (t := "evil")
    (o := ((Builder.fieldOf ⟨3⟩ "price").result (ActBy.after xs withTwo)).1.toOption)
      (by decide +kernel)
  obtain ⟨l, inherited⟩ := text_eq (t := "evil") (o := ((Builder.fieldOf ⟨4⟩ "price").result
    (plan.make.result (ActBy.after xs withTwo)).2).1.toOption) (by decide +kernel)
  exact ⟨item, plan, atFirst, withOne, withTwo, _, ⟨2⟩, ⟨3⟩, ⟨4⟩, .shared ⟨0⟩, b, d, m, l, rfl,
    ⟨rfl, none, rfl⟩, result_eq (by decide +kernel), result_eq (by decide +kernel),
    ok_of_toOption used, congrArg Prod.fst (result_eq (h := ⟨0⟩) (by decide +kernel)),
    by decide +kernel, hb, hd, disturbed, alone, result_eq (by decide +kernel),
    ok_of_toOption inherited⟩

end Sharing

end Criteria
