import Criteria.Builder.Output
import Criteria.Request

/-! What a builder does with a request. The ruling comes first. A clause then enters the builder
whole, and the record of it is made last, so a value that cannot be shown is refused only after its
clause has entered. The main statement, `builder?_request`, says what a builder holds after a
request in terms of the ruling alone.
-/

set_option autoImplicit false

namespace Criteria

namespace Builder

open Operation

def skipRecord (s : Store) (path operation : String) (value : Value) : Except Fault String := do
  let v ← s.shown value
  .ok ("Skipping '" ++ path ++ " " ++ operation ++ "' condition, value is absent: " ++ v)

def addRecord (s : Store) (condition : String) (values : List Value) : Except Fault String := do
  let vs ← s.shownList values
  .ok ("Added condition '" ++ condition ++ "' with args " ++ vs)

def orderRecord (s : Store) (clause : Option Value) : Except Fault String := do
  let c ← match clause with
    | none => .ok "None"
    | some c => s.shown c
  .ok ("Order by set to: " ++ c)

def noted (message : Store → Except Fault String) : Operation Unit := do
  note .debug .builder (← asking message)

def copyRecord (className : String) : String :=
  "Converted " ++ className ++ " to list for 'in'"

def bindValue : Binding → Operation Value
  | .itself v => return v
  | .copy className items => do
    note .debug .values (copyRecord className)
    share (.list items)

def bindValues : List Binding → Operation (List Value)
  | [] => return []
  | x :: xs => do
    let v ← bindValue x
    let vs ← bindValues xs
    return v :: vs

def carryOut (h : Handle) (b : Builder) : Ruling → Operation Unit
  | .skip path operation value => noted fun s => skipRecord s path operation value
  | .add clause bindings => do
    let values ← bindValues bindings
    put h (.builder (b.add clause values))
    noted fun s => addRecord s (clause.render b.index) values
  | .tear spent fault => do
    put h (.builder (b.spend spent))
    refuse fault
  | .order clause => do
    put h (.builder (b.orderBy clause))
    noted fun s => orderRecord s clause

def theBuilder (h : Handle) (operation : String) : Operation Builder := do
  let s ← theStore
  match s.builder? h with
  | some b => return b
  | none => refuse (.noAttribute (s.longName (.shared h)) operation)

def perform (h : Handle) (b : Builder) (r : Request) : Operation Unit := do
  let s ← theStore
  modify fun t => { t with store := r.passed t.store }
  match r.rule s with
  | .error f => refuse f
  | .ok ruling => carryOut h b (ruling.startingAt b.index)

def request (h : Handle) (r : Request) : Operation Unit := do
  perform h (← theBuilder h r.method) r

def requests (h : Handle) : List Request → Session → Session
  | [], s => s
  | r :: rs, s => requests h rs ((request h r).result s).2

def boundFrom (next : Nat) : List Binding → List Value
  | [] => []
  | .itself v :: xs => v :: boundFrom next xs
  | .copy _ _ :: xs => .shared ⟨next⟩ :: boundFrom (next + 1) xs

/-- What a builder holds after a ruling, when the next cell is number `next`. -/
def after (b : Builder) (next : Nat) : Except Fault Ruling → Builder
  | .ok (.add clause bindings) => b.add clause (boundFrom next bindings)
  | .ok (.order clause) => b.orderBy clause
  | .ok (.tear spent _) => b.spend spent
  | .ok (.skip ..) | .error _ => b

theorem result_noted (message : Store → Except Fault String) (s : Session) :
    ((noted message).result s).2.store = s.store := by
  simp only [noted, result_bind, result_asking]
  cases message s.store <;> simp

theorem result_bindValues (xs : List Binding) (s : Session) :
    ((bindValues xs).result s).1 = .ok (boundFrom s.store.size xs) := by
  induction xs generalizing s with
  | nil => rfl
  | cons x xs ih =>
    cases x with
    | itself v =>
      have hx := ih s
      simp only [bindValues, bindValue, result_bind, result_pure, boundFrom]
      rcases h : (bindValues xs).result s with ⟨r, t⟩
      rw [h] at hx
      subst hx
      rfl
    | copy name items =>
      let u : Session := { s with
        records := s.records ++ [⟨.debug, .values, copyRecord name⟩]
        store := (s.store.alloc (.list items)).2 }
      have hu : u.store.size = s.store.size + 1 := by simp [u, Store.alloc, Store.size]
      have hx := ih u
      simp only [bindValues, bindValue, result_bind, result_note, result_share, boundFrom]
      rcases h : (bindValues xs).result u with ⟨r, t⟩
      rw [h] at hx
      subst hx
      simp only [hu]
      rfl

theorem cell?_bindValues (xs : List Binding) (s : Session) (h : Handle) (c : Cell)
    (hc : s.store.cell? h = some c) : ((bindValues xs).result s).2.store.cell? h = some c := by
  induction xs generalizing s with
  | nil => exact hc
  | cons x xs ih =>
    cases x with
    | itself v =>
      have hx := ih s hc
      simp only [bindValues, bindValue, result_bind, result_pure]
      rcases e : (bindValues xs).result s with ⟨r, t⟩
      rw [e] at hx
      cases r <;> exact hx
    | copy name items =>
      let u : Session := { s with
        records := s.records ++ [⟨.debug, .values, copyRecord name⟩]
        store := (s.store.alloc (.list items)).2 }
      have hx := ih u (Store.cell?_alloc_of_some s.store (.list items) c h hc)
      simp only [bindValues, bindValue, result_bind, result_note, result_share]
      rcases e : (bindValues xs).result u with ⟨r, t⟩
      rw [e] at hx
      cases r <;> exact hx

theorem builder?_eq_some {s : Store} {h : Handle} {b : Builder} :
    s.builder? h = some b ↔ s.cell? h = some (.builder b) := by
  unfold Store.builder?
  constructor
  · intro e
    split at e
    · next b' hb => rw [hb, Option.some.inj e]
    · cases e
  · intro e
    rw [e]

theorem cell?_passed (s : Store) (v : Value) (n : Nat) (h : Handle) (b : Builder)
    (hb : s.cell? h = some (.builder b)) : (s.passed v n).cell? h = some (.builder b) := by
  unfold Store.passed
  split
  · next k =>
    split
    · next hk =>
      by_cases e : k = h
      · subst e
        rw [hb] at hk
        cases hk
      · rw [Store.cell?_put_of_ne _ _ _ _ e, hb]
    · exact hb
  · exact hb

theorem size_passed (s : Store) (v : Value) (n : Nat) : (s.passed v n).size = s.size := by
  unfold Store.passed
  split
  · split <;> simp [Store.put, Store.size]
  · rfl

theorem cell?_request_passed (s : Store) (r : Request) (h : Handle) (b : Builder)
    (hb : s.cell? h = some (.builder b)) : (r.passed s).cell? h = some (.builder b) := by
  cases r with
  | likeAny fields value mode =>
    simp only [Request.passed]
    split
    · exact hb
    · split
      · exact cell?_passed _ _ _ _ _ hb
      · exact hb
  | _ => exact hb

theorem size_request_passed (s : Store) (r : Request) : (r.passed s).size = s.size := by
  cases r with
  | likeAny fields value mode =>
    simp only [Request.passed]
    split
    · rfl
    · split
      · exact size_passed _ _ _
      · rfl
  | _ => rfl

theorem builder?_carryOut (h : Handle) (b : Builder) (ruling : Ruling) (s : Session)
    (hb : s.store.cell? h = some (.builder b)) :
    ((carryOut h b ruling).result s).2.store.builder? h =
      some (b.after s.store.size (.ok ruling)) := by
  cases ruling with
  | skip path operation value =>
    rw [builder?_eq_some]
    simp only [carryOut, result_noted, after]
    exact hb
  | add clause bindings =>
    have hv := result_bindValues bindings s
    have hc := cell?_bindValues bindings s h _ hb
    rw [builder?_eq_some]
    simp only [carryOut, result_bind]
    rcases e : (bindValues bindings).result s with ⟨r, t⟩
    rw [e] at hv hc
    subst hv
    simp only [result_put, result_noted, after]
    exact Store.cell?_put_self _ _ _ _ hc
  | tear spent fault =>
    rw [builder?_eq_some]
    simp only [carryOut, result_bind, result_put, result_refuse, after]
    exact Store.cell?_put_self _ _ _ _ hb
  | order clause =>
    rw [builder?_eq_some]
    simp only [carryOut, result_bind, result_put, result_noted, after]
    exact Store.cell?_put_self _ _ _ _ hb

theorem builder?_request (h : Handle) (b : Builder) (r : Request) (s : Session)
    (hb : s.store.builder? h = some b) :
    ((request h r).result s).2.store.builder? h =
      some (b.after s.store.size ((r.rule s.store).map (Ruling.startingAt b.index))) := by
  have hc := builder?_eq_some.1 hb
  have hp := cell?_request_passed s.store r h b hc
  simp only [request, theBuilder, perform, result_bind, result_theStore, hb, result_pure,
    result_modify]
  cases e : r.rule s.store with
  | error f =>
    rw [builder?_eq_some]
    exact hp
  | ok ruling =>
    have hk :=
      builder?_carryOut h b (ruling.startingAt b.index) { s with store := r.passed s.store } hp
    rw [size_request_passed] at hk
    exact hk

end Builder

end Criteria
