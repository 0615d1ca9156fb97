import Criteria.Proofs.Declared
import Mathlib.Data.List.Forall2
import Mathlib.Data.List.Induction

set_option autoImplicit false

namespace Criteria

theorem eraseDups_concat (ns : List String) (n : String) :
    (ns ++ [n]).eraseDups = if n ∈ ns then ns.eraseDups else ns.eraseDups ++ [n] := by
  rw [List.eraseDups_append]
  by_cases h : n ∈ ns
  · simp [List.removeAll, h]
  · simp [List.removeAll, h, List.eraseDups_cons]

theorem filter_eraseDups (p : String → Bool) (ns : List String) :
    ns.eraseDups.filter p = (ns.filter p).eraseDups := by
  induction ns using List.reverseRecOn with
  | nil => rfl
  | append_singleton ns n ih =>
    rw [eraseDups_concat, List.filter_append]
    by_cases hp : p n = true <;> by_cases hn : n ∈ ns <;> simp [hp, hn, ih, eraseDups_concat]

@[simp] theorem eraseDups_eraseDups (ns : List String) :
    ns.eraseDups.eraseDups = ns.eraseDups := by
  induction ns using List.reverseRecOn with
  | nil => rfl
  | append_singleton ns n ih => by_cases hn : n ∈ ns <;> simp [eraseDups_concat, hn, ih]

theorem Value.eq_text {v : Value} (h : v.text?.isSome) : ∃ k n, v = .text k n := by
  cases v <;> first | exact ⟨_, _, rfl⟩ | cases h

theorem mapM_text? {vs : List Value} :
    (∃ names, vs.mapM Value.text? = some names) ↔ ∀ v ∈ vs, v.text?.isSome := by
  induction vs with
  | nil => simp
  | cons v vs ih =>
    rw [List.forall_mem_cons, ← ih, List.mapM_cons]
    cases v.text? <;> cases vs.mapM Value.text? <;> simp

namespace Hints

/-- Hints come to these in order, each among the attributes of the class that tells it. -/
inductive Settle (around : Surroundings) :
    Session → Hints → List (String × Hint) → Session → Prop
  | done (s : Session) : Settle around s [] [] s
  | next {s t u : Session} {k : Mark} {n : String} {h g : Hint} {hints : Hints}
      {settled : List (String × Hint)} (first : (h.evaluated around).result s = (.ok g, t))
      (rest : Settle around t hints settled u) :
      Settle around s ((.text k n, h) :: hints) ((n, g) :: settled) u

def Means (e : Value × Bool) (h : String × Hint) : Prop :=
  e.1.text? = some h.1 ∧ e.2 = h.2.asWritten

end Hints

namespace Model

/-- The hints of the classes of a line come to these, one class after another. -/
inductive Annotate (s : Session) : Session → List ClassRef → List (String × Hint) → Prop
  | done (t : Session) : Annotate s t [] []
  | next {t u : Session} {c : ClassRef} {line : List ClassRef} {hints : Hints}
      {scope : List (String × Value)} {own rest : List (String × Hint)}
      (told : hintsOf s c = .ok (hints, scope)) (first : hints.Settle (.within scope) t own u)
      (behind : Annotate s u line rest) : Annotate s t (c :: line) (own ++ rest)

def Named (s : Session) (line : List ClassRef) : Prop :=
  ∀ c ∈ line, ∀ hints scope, hintsOf s c = .ok (hints, scope) → ∀ h ∈ hints, h.1.text?.isSome

end Model

namespace Hints

open Operation

theorem Settle.unique {around : Surroundings} {s t u : Session} {hints : Hints}
    {xs ys : List (String × Hint)} (hx : hints.Settle around s xs t)
    (hy : hints.Settle around s ys u) : xs = ys ∧ t = u := by
  induction hx generalizing ys with
  | done => cases hy; exact ⟨rfl, rfl⟩
  | next first _ ih =>
    cases hy with
    | next first' rest' =>
      cases first.symm.trans first'
      obtain ⟨rfl, rfl⟩ := ih rest'
      exact ⟨rfl, rfl⟩

theorem resolve_cons (around : Surroundings) (v : Value) (h : Hint) (hints : Hints) :
    resolve around ((v, h) :: hints) = do
      let g ← h.evaluated around
      let es ← resolve around hints
      return (v, g.asWritten) :: es := by
  simp only [resolve, List.mapM_cons, Hint.resolve, bind_assoc, pure_bind]

theorem exists_settle {around : Surroundings} {hints : Hints} {s t : Session}
    {es : List (Value × Bool)} (named : ∀ h ∈ hints, h.1.text?.isSome)
    (resolved : (hints.resolve around).result s = (.ok es, t)) :
    ∃ settled, hints.Settle around s settled t ∧ List.Forall₂ Means es settled := by
  induction hints generalizing s es with
  | nil =>
    cases resolved
    exact ⟨[], .done _, .nil⟩
  | cons h hints ih =>
    obtain ⟨v, h⟩ := h
    obtain ⟨k, n, rfl⟩ := Value.eq_text (named _ (List.mem_cons_self ..))
    rw [resolve_cons, result_bind] at resolved
    split at resolved
    · next g u first =>
      rw [result_bind] at resolved
      split at resolved
      · next ds v rest =>
        cases resolved
        obtain ⟨settled, settle, meant⟩ := ih (fun h hh => named h (List.mem_cons_of_mem _ hh)) rest
        exact ⟨(n, g) :: settled, .next first settle, .cons ⟨rfl, rfl⟩ meant⟩
      · cases resolved
    · cases resolved

end Hints

namespace Model

open Operation

theorem Annotate.unique {s t : Session} {line : List ClassRef} {xs ys : List (String × Hint)}
    (hx : Annotate s t line xs) (hy : Annotate s t line ys) : xs = ys := by
  induction hx generalizing ys with
  | done => cases hy; rfl
  | next told first _ ih =>
    cases hy with
    | next told' first' behind' =>
      cases told.symm.trans told'
      obtain ⟨rfl, rfl⟩ := first.unique first'
      rw [ih behind']

def resolveOne (s : Session) (c : ClassRef) : Operation (List (Value × Bool)) := do
  let (hints, scope) ← asking fun _ => hintsOf s c
  if let some v := scope.lookup Surroundings.placeName then
    let _ ← asking fun s => s.fingerprint v
  hints.resolve (.within scope)

theorem resolveHints_eq (line : List ClassRef) :
    resolveHints line = do
      let tables ← line.reverse.mapM (resolveOne (← get))
      return tables.flatten.foldl Hints.merged [] := rfl

theorem resolve_of_resolveOne {s t u : Session} {c : ClassRef} {es : List (Value × Bool)}
    (resolved : (resolveOne s c).result t = (.ok es, u)) :
    ∃ hints scope, hintsOf s c = .ok (hints, scope) ∧
      (hints.resolve (.within scope)).result t = (.ok es, u) := by
  unfold resolveOne at resolved
  rw [result_bind, result_asking] at resolved
  cases told : hintsOf s c with
  | error f =>
    rw [told] at resolved
    cases resolved
  | ok found =>
    obtain ⟨hints, scope⟩ := found
    refine ⟨hints, scope, rfl, ?_⟩
    rw [told] at resolved
    simp only at resolved
    split at resolved
    · rw [result_bind, result_asking] at resolved
      split at resolved
      · next placed =>
        obtain rfl := congrArg Prod.snd placed
        exact resolved
      · cases resolved
    · exact resolved

theorem exists_annotate {s t u : Session} {line : List ClassRef}
    {tables : List (List (Value × Bool))} (named : Named s line)
    (resolved : (line.mapM (resolveOne s)).result t = (.ok tables, u)) :
    ∃ told, Annotate s t line told ∧ List.Forall₂ Hints.Means tables.flatten told := by
  induction line generalizing t tables with
  | nil =>
    cases resolved
    exact ⟨[], .done _, .nil⟩
  | cons c line ih =>
    rw [List.mapM_cons, result_bind] at resolved
    split at resolved
    · next es v first =>
      rw [result_bind] at resolved
      split at resolved
      · next rest w behind =>
        cases resolved
        obtain ⟨hints, scope, found, one⟩ := resolve_of_resolveOne first
        obtain ⟨own, settle, meant⟩ :=
          Hints.exists_settle (named c (List.mem_cons_self ..) hints scope found) one
        obtain ⟨told, annotate, all⟩ := ih (fun d hd => named d (List.mem_cons_of_mem _ hd)) behind
        refine ⟨own ++ told, .next found settle annotate, ?_⟩
        rw [List.flatten_cons]
        exact List.rel_append meant all
      · cases resolved
    · cases resolved

end Model

namespace Hints

def Last (told : List (String × Hint)) (e : Value × Bool) (n : String) : Prop :=
  ∃ h, told.reverse.lookup n = some h ∧ Means e (n, h)

/-- Each name stands where it is told first, with what is told of it last. -/
def Merges (told : List (String × Hint)) (es : List (Value × Bool)) : Prop :=
  List.Forall₂ (Last told) es (told.map Prod.fst).eraseDups

theorem lookup_snoc (told : List (String × Hint)) (n m : String) (h : Hint) :
    (told ++ [(n, h)]).reverse.lookup m = if m = n then some h else told.reverse.lookup m := by
  by_cases hm : m = n <;> simp [List.lookup_cons, hm, beq_eq_decide]

theorem sameName_eq {v w : Value} {m n : String} (hv : v.text? = some m) (hw : w.text? = some n) :
    sameName v w = decide (m = n) := by
  cases v <;> cases hv
  cases w <;> cases hw
  rfl

section Step

variable {told : List (String × Hint)} {es : List (Value × Bool)} {ns : List String}
  {e : Value × Bool} {n : String} {h : Hint}

theorem any_sameName (all : List.Forall₂ (Last told) es ns) (means : Means e (n, h)) :
    (es.any fun d => sameName d.1 e.1) = decide (n ∈ ns) := by
  induction all with
  | nil => rfl
  | @cons d m _ _ first _ ih =>
    obtain ⟨_, -, text, -⟩ := first
    rw [List.any_cons, ih, sameName_eq text means.1]
    simp [eq_comm]

theorem Last.snoc {d : Value × Bool} {m : String} (last : Last told d m) (means : Means e (n, h)) :
    Last (told ++ [(n, h)]) (if sameName d.1 e.1 then e else d) m := by
  obtain ⟨g, found, text, wide⟩ := last
  unfold Last
  rw [lookup_snoc, sameName_eq text means.1]
  by_cases hm : m = n
  · subst hm
    exact ⟨h, by simp, by simpa using means⟩
  · exact ⟨g, by simpa [hm] using found, by simpa [hm] using ⟨text, wide⟩⟩

theorem Merges.snoc (merges : Merges told es) (means : Means e (n, h)) :
    Merges (told ++ [(n, h)]) (merged es e) := by
  have found : (es.any fun d => sameName d.1 e.1) = decide (n ∈ told.map Prod.fst) := by
    rw [any_sameName merges means]
    simp [List.mem_eraseDups]
  have replaced : List.Forall₂ (Last (told ++ [(n, h)]))
      (es.map fun d => if sameName d.1 e.1 then e else d) (told.map Prod.fst).eraseDups :=
    List.forall₂_map_left_iff.2 (merges.imp fun _ _ last => last.snoc means)
  -- A name that was told already keeps its place, and any other one comes last.
  unfold Merges merged
  rw [found, List.map_append, List.map_singleton, eraseDups_concat]
  by_cases hn : n ∈ told.map Prod.fst
  · simpa only [hn, decide_true, if_true] using replaced
  · have kept : es.map (fun d => if sameName d.1 e.1 then e else d) = es := by
      have other : ∀ d ∈ es, sameName d.1 e.1 = false := by simpa [hn] using found
      exact (List.map_congr_left fun d hd => by simp [other d hd]).trans (List.map_id es)
    rw [kept] at replaced
    simp only [hn, decide_false, if_false, Bool.false_eq_true]
    exact List.rel_append replaced (.cons ⟨h, by simp, means⟩ .nil)

end Step

theorem Merges.foldl {before told : List (String × Hint)} {ds es : List (Value × Bool)}
    (merges : Merges before ds) (means : List.Forall₂ Means es told) :
    Merges (before ++ told) (es.foldl merged ds) := by
  induction means generalizing before ds with
  | nil => simpa using merges
  | cons first _ ih => simpa using ih (merges.snoc first)

theorem mapM_ofInstances {told : List (String × Hint)} {es : List (Value × Bool)}
    {ns : List String} (all : List.Forall₂ (Last told) es ns) :
    (ofInstances es).mapM Value.text? =
      some (ns.filter fun n => told.reverse.lookup n != some .classWide) := by
  induction all with
  | nil => rfl
  | @cons e n es ns first _ ih =>
    obtain ⟨h, found, text, wide⟩ := first
    have shown : (told.reverse.lookup n != some .classWide) = !e.2 := by
      rw [found, wide]
      cases h <;> rfl
    unfold ofInstances at ih ⊢
    rw [List.filter_cons, List.filter_cons, shown]
    cases e.2 with
    | true => simpa using ih
    | false => simp [text, ih]

end Hints

/-- Hints along a line that are resolved come to something, and their names are those of instances.
-/
theorem Model.annotate_of_hints {s : Session} {c : ClassRef} {hints : List (Value × Bool)}
    (named : Named s (s.line c)) (resolved : (s.declaration c).hints = .ok hints) :
    ∃ told, Annotate s s (s.line c).reverse told ∧ (Hints.ofInstances hints).mapM Value.text? =
      some ((told.map Prod.fst).eraseDups.filter fun n =>
        told.reverse.lookup n != some .classWide) := by
  change ((resolveHints (s.line c)).result s).1 = .ok hints at resolved
  rw [resolveHints_eq, Operation.result_bind, Operation.result_get] at resolved
  simp only at resolved
  rw [Operation.result_bind] at resolved
  split at resolved
  · next tables t went =>
    cases resolved
    obtain ⟨told, annotate, means⟩ :=
      exists_annotate (fun d hd => named d (List.mem_reverse.1 hd)) went
    have none : Hints.Merges [] [] := .nil
    exact ⟨told, annotate, Hints.mapM_ofInstances (none.foldl means)⟩
  · cases resolved

end Criteria
