import Criteria.Proofs.Outcome
import Criteria.Proofs.KeepsButPasses

set_option autoImplicit false

namespace Criteria

abbrev Demanded := Clause × List Value

namespace RequestAt

def demanded (ts : List RequestAt) : List Demanded :=
  ts.filterMap fun t => t.demand?.map fun d => (d.1, Builder.boundFrom t.store.size d.2)

end RequestAt

namespace Demanded

def numbers (ds : List Demanded) : Nat := Clause.total (ds.map Prod.fst)

/-- Each clause, beginning with the number behind those of the clauses before it. -/
def rendered (n : Nat) (ds : List Demanded) : List String :=
  ds.mapIdx fun i d => d.1.render (n + numbers (ds.take i))

def emitted (n : Nat) : List Demanded → List Emission
  | [] => []
  | d :: ds => ⟨n, d.1, d.2⟩ :: emitted (n + d.1.arity) ds

theorem numbers_cons (d : Demanded) (ds : List Demanded) :
    numbers (d :: ds) = d.1.arity + numbers ds := rfl

theorem rendered_cons (n : Nat) (d : Demanded) (ds : List Demanded) :
    rendered n (d :: ds) = d.1.render n :: rendered (n + d.1.arity) ds := by
  simp [rendered, List.mapIdx_cons, numbers, Clause.total, Nat.add_assoc]

theorem fragments_emitted (n : Nat) (ds : List Demanded) :
    (emitted n ds).map Emission.fragment = rendered n ds := by
  induction ds generalizing n with
  | nil => rfl
  | cons d ds ih =>
    rw [emitted, List.map_cons, ih, rendered_cons, Emission.fragment]

theorem values_emitted (n : Nat) (ds : List Demanded) :
    (emitted n ds).flatMap Emission.values = ds.flatMap Prod.snd := by
  induction ds generalizing n with
  | nil => rfl
  | cons d ds ih => rw [emitted, List.flatMap_cons, List.flatMap_cons, ih]

theorem clauses_emitted (n : Nat) (ds : List Demanded) :
    (emitted n ds).map Emission.clause = ds.map Prod.fst := by
  induction ds generalizing n with
  | nil => rfl
  | cons d ds ih => rw [emitted, List.map_cons, List.map_cons, ih]

end Demanded

namespace RequestAt

open Demanded

theorem demanded_cons (t : RequestAt) (ts : List RequestAt) :
    demanded (t :: ts) =
      (t.demand?.map fun d => (d.1, Builder.boundFrom t.store.size d.2)).toList ++ demanded ts := by
  rw [demanded, List.filterMap_cons]
  cases t.demand? <;> rfl

theorem written_cons {n : Nat} {t : RequestAt} {ts : List RequestAt} (hl : allLost n (t :: ts) = 0)
    (hn : n + numbers (demanded (t :: ts)) ≤ Whole.bound) :
    allLost (t.next n) ts = 0 ∧ t.next n + numbers (demanded ts) ≤ Whole.bound ∧
      (t.demand? = none → t.next n = n) ∧
      ∀ c bs, t.demand? = some (c, bs) → n + c.arity ≤ Whole.bound ∧ t.next n = n + c.arity := by
  have hlost : t.lost n = 0 := by rw [allLost] at hl; omega
  have hrest : allLost (t.next n) ts = 0 := by rw [allLost] at hl; omega
  rw [demanded_cons] at hn
  cases hd : t.demand? with
  | none =>
    have he := (emission?_of_none hd n).1
    have hx : t.next n = n := by rw [next_of_none he, hlost, Nat.add_zero]
    rw [hd] at hn
    exact ⟨hrest, hx.symm ▸ hn, fun _ => hx, by simp⟩
  | some d =>
    obtain ⟨c, bs⟩ := d
    rw [hd] at hn
    simp only [Option.map_some, Option.toList_some, List.singleton_append, numbers_cons] at hn
    have hle : n + c.arity ≤ Whole.bound := by omega
    have hx : t.next n = n + c.arity := next_of_some (emission?_of_le hd hle).1
    refine ⟨hrest, by omega, by simp, fun c' bs' e => ?_⟩
    cases e
    exact ⟨hle, hx⟩

theorem emissions_eq {n : Nat} {ts : List RequestAt} (hl : allLost n ts = 0)
    (hn : n + numbers (demanded ts) ≤ Whole.bound) :
    emissions n ts = emitted n (demanded ts) := by
  induction ts generalizing n with
  | nil => rfl
  | cons t ts ih =>
    obtain ⟨hrest, hle, stays, enters⟩ := written_cons hl hn
    rw [demanded_cons, emissions, ih hrest hle]
    cases hd : t.demand? with
    | none =>
      rw [(emission?_of_none hd n).1, stays hd]
      rfl
    | some d =>
      obtain ⟨c, bs⟩ := d
      obtain ⟨written, hx⟩ := enters c bs hd
      rw [(emission?_of_le hd written).1, hx]
      rfl

theorem clauses_sublist (n : Nat) (ts : List RequestAt) :
    ((emissions n ts).map Emission.clause).Sublist ((demanded ts).map Prod.fst) := by
  induction ts generalizing n with
  | nil => exact .slnil
  | cons t ts ih =>
    rw [emissions, demanded_cons, List.map_append, List.map_append]
    refine List.Sublist.append ?_ (ih _)
    cases he : t.emission? n with
    | none => exact List.nil_sublist _
    | some e =>
      obtain ⟨-, bs, hd, -⟩ := emission?_eq_some he
      rw [hd]
      exact List.Sublist.refl _

theorem allNext_le {n : Nat} (ts : List RequestAt) (h : n ≤ Whole.bound) :
    n + Emission.taken (emissions n ts) + allLost n ts ≤ Whole.bound := by
  induction ts generalizing n with
  | nil => simpa [emissions, allLost] using h
  | cons t ts ih =>
    have hn := ih (next_le t h)
    simp only [emissions, allLost, next, Emission.taken_append] at hn ⊢
    omega

end RequestAt

/-- Behind each request, the arguments of what is asked for are there: the values, or new lists of
their elements. -/
def RequestAt.AllBound (h : Handle) (ts : List RequestAt) : Prop :=
  ∀ x ∈ ts, ∀ c bs, x.demand? = some (c, bs) → ∀ v : Session, v.store = x.store →
    List.Forall₂ (((Builder.request h x.request).result v).2.store.Bound x.store.size) bs
      (Builder.boundFrom x.store.size bs)

open Demanded in
theorem Course.allBound {h : Handle} {s t : Session} {ts : List RequestAt} {b : Builder}
    (run : Course h s ts t) (hb : s.store.builder? h = some b)
    (hl : RequestAt.allLost b.index ts = 0)
    (hn : b.index + numbers (RequestAt.demanded ts) ≤ Whole.bound) : RequestAt.AllBound h ts := by
  induction run generalizing b with
  | done => exact fun x hx => absurd hx List.not_mem_nil
  | meanwhile same _ ih => exact ih (same.trans hb) hl hn
  | @request s t r ts _ ih =>
    obtain ⟨hrest, hle, -, enters⟩ := RequestAt.written_cons hl hn
    have after := Builder.builder?_request h b r s hb
    have index_eq := Builder.index_afterRequest b ⟨s.store, r⟩
    rw [← index_eq] at hrest hle
    refine List.forall_mem_cons.2 ⟨fun c bs hd v hv => ?_, ih after hrest hle⟩
    obtain ⟨written, -⟩ := enters c bs hd
    have ruling_eq := RequestAt.ruling_of_demand hd b.index
    rw [Ruling.startingAt_add_of_le bs written] at ruling_eq
    have bound := Builder.bound_request r (hv ▸ hb : v.store.builder? h = some b)
    rw [hv] at bound
    simpa only [RequestAt.bindings, ruling_eq] using bound

/-- The query, the arguments, the next number and the length as they follow from what is asked
for. -/
structure ClosedForm (h : Handle) (base : String) (conditions : List String) (reserved : List Value)
    (n : Nat) (ts : List RequestAt) (text : String) (args : List Value) (index size : Nat) :
    Prop where
  text : text = Text.assembled base (conditions ++ Demanded.rendered n (RequestAt.demanded ts))
    (RequestAt.lastOrder ts)
  args : args = reserved ++ (RequestAt.demanded ts).flatMap Prod.snd
  bound : RequestAt.AllBound h ts
  index : index = n + Demanded.numbers (RequestAt.demanded ts)
  size : size = conditions.length + (RequestAt.demanded ts).length

open Demanded in
/-- A course agrees with what is asked for just when no number is lost and all can be written. -/
theorem closedForm_iff {p : Plan} {s t u : Session} {h : Handle} {b : Builder} {m : Mark}
    {base : String} {ts : List RequestAt} (hm : p.make.result s = (.ok (.shared h), t))
    (hb : t.store.builder? h = some b) (hp : p.base = .text m base)
    (hw : ∀ x ∈ ts, x.Worded fun _ => True) (hc : Course h t ts u) :
    ∃ c text args index size, u.store.builder? h = some c ∧ Seen c u text args index size ∧
      (ClosedForm h base p.conditions b.reserved b.index ts text args index size ↔
        RequestAt.allLost b.index ts = 0 ∧
          b.index + numbers (RequestAt.demanded ts) ≤ Whole.bound) := by
  have fresh := Plan.Fresh.of_make hm hb
  obtain ⟨c, hb', seen⟩ := hc.seen hm hb hp hw
  refine ⟨c, _, _, _, _, hb', seen, ?_⟩
  constructor
  -- What enters is among what is asked for, so it is all of it when it is as much.
  · intro hf
    have sub := RequestAt.clauses_sublist b.index ts
    have length_eq : (RequestAt.emissions b.index ts).length = (RequestAt.demanded ts).length :=
      Nat.add_left_cancel hf.size
    have clauses_eq := sub.eq_of_length (by rw [List.length_map, List.length_map, length_eq])
    have taken_eq : Emission.taken (RequestAt.emissions b.index ts) =
        numbers (RequestAt.demanded ts) := by
      rw [Emission.taken, clauses_eq, numbers]
    have index_eq := hf.index
    have le := RequestAt.allNext_le ts (Nat.le_of_lt fresh.writable)
    constructor <;> omega
  · rintro ⟨hl, hn⟩
    have es := RequestAt.emissions_eq hl hn
    rw [es]
    refine ⟨?_, ?_, hc.allBound hb hl hn, ?_, ?_⟩
    · rw [fragments_emitted]
    · rw [values_emitted]
    · rw [hl, Emission.taken, clauses_emitted, ← numbers, Nat.add_zero]
    · rw [← List.length_map (f := Emission.clause), clauses_emitted, List.length_map]

theorem closedForm_compare :
    ∃ t u w c text args index size,
      (Plan.withCondition (.text none "from Foo") (.text none "b = 2") (.int none 1) [] .null
        (.text none "")).make.result {} = (.ok (.shared ⟨1⟩), t) ∧
      Course ⟨1⟩ t [⟨t.store, .compare .equal (.text none "a") (.int none 3)⟩,
        ⟨w, .orderBy (.text none "c")⟩] u ∧
      u.store.builder? ⟨1⟩ = some c ∧ Seen c u text args index size ∧
      text = "from Foo where b = 2 and a = ?1 order by c" ∧ args = [.int none 3] ∧ index = 2 ∧
      size = 2 := by
  have hm : (Plan.withCondition (.text none "from Foo") (.text none "b = 2") (.int none 1) [] .null
      (.text none "")).make.result {} = (.ok (.shared ⟨1⟩), _) := rfl
  have hc := fun t => Course.request (h := ⟨1⟩) (s := t)
    (r := .compare .equal (.text none "a") (.int none 3))
      (Course.request (r := .orderBy (.text none "c")) (Course.done _))
  have hw : ∀ s w, ∀ x ∈ [⟨s, .compare .equal (.text none "a") (.int none 3)⟩,
      (⟨w, .orderBy (.text none "c")⟩ : RequestAt)], x.Worded fun _ => True := by
    intro s w x hx
    simp only [List.mem_cons, List.not_mem_nil, or_false] at hx
    rcases hx with rfl | rfl
    · exact .of_form (d := .compare "a" .equal) rfl fun _ _ => trivial
    · exact .of_order rfl trivial
  obtain ⟨c, text, args, index, size, hb, seen, ha⟩ :=
    closedForm_iff hm rfl rfl (hw _ _) (hc _)
  obtain ⟨ht, ha, -, hi, hs⟩ := ha.2 ⟨rfl, by decide +kernel⟩
  exact ⟨_, _, _, c, text, args, index, size, hm, hc _, hb, seen, ht.trans (by decide), ha, hi, hs⟩

/-- Of two clauses from the last number on that can be written, the second does not enter. -/
theorem exists_not_closedForm :
    ∃ t w u h b c text args index size,
      (Plan.make { base := .text none "from Foo",
                   start := .int none ↑(Whole.bound - 1) }).result {} = (.ok (.shared h), t) ∧
      t.store.builder? h = some b ∧
      Course h t [⟨t.store, .compare .equal (.text none "a") (.int none 1)⟩,
        ⟨w, .compare .equal (.text none "b") (.int none 2)⟩] u ∧
      u.store.builder? h = some c ∧ Seen c u text args index size ∧
      ¬ ClosedForm h "from Foo" [] b.reserved b.index
        [⟨t.store, .compare .equal (.text none "a") (.int none 1)⟩,
          ⟨w, .compare .equal (.text none "b") (.int none 2)⟩] text args index size := by
  have hl := Whole.two_le_bound
  obtain ⟨t, h, b, hm, hb, hi, -⟩ :=
    Plan.exists_make (n := Whole.bound - 1) (by omega) "from Foo" {}
  let x : RequestAt := ⟨t.store, .compare .equal (.text none "a") (.int none 1)⟩
  let y : RequestAt := ⟨((Builder.request h x.request).result t).2.store,
    .compare .equal (.text none "b") (.int none 2)⟩
  have hx : x.demand? = some (.compare "a" .equal, [.itself (.int none 1)]) := rfl
  have hy : y.demand? = some (.compare "b" .equal, [.itself (.int none 2)]) := rfl
  have hw : ∀ z ∈ [x, y], z.Worded fun _ => True := by
    intro z hz
    simp only [List.mem_cons, List.not_mem_nil, or_false] at hz
    rcases hz with rfl | rfl
    · exact .of_form (d := .compare "a" .equal) rfl fun _ _ => trivial
    · exact .of_form (d := .compare "b" .equal) rfl fun _ _ => trivial
  have hc : Course h t [x, y] _ := Course.request (Course.request (Course.done _))
  have hle : b.index + (Clause.compare "a" .equal).arity ≤ Whole.bound := by
    rw [hi, Clause.arity]
    omega
  have hex := (RequestAt.emission?_of_le hx hle).1
  have hlt : Whole.bound < x.next b.index + (Clause.compare "b" .equal).arity := by
    rw [RequestAt.next_of_some hex, hi, Clause.arity, Clause.arity]
    omega
  have hey := (RequestAt.emission?_of_lt hy hlt).1
  obtain ⟨c, hb', seen⟩ := hc.seen hm hb rfl hw
  refine ⟨t, _, _, h, b, c, _, _, _, _, hm, hb, hc, hb', seen, ?_⟩
  intro hf
  have hs := hf.size
  have hd : RequestAt.demanded [x, y] = [(.compare "a" .equal, [.int none 1]),
      (.compare "b" .equal, [.int none 2])] := rfl
  have he : (RequestAt.emissions b.index [x, y]).length = 1 := by
    simp [RequestAt.emissions, hex, hey]
  rw [hd, he] at hs
  cases hs

end Criteria
