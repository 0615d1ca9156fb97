import Criteria.Fault
import Criteria.Model.Declaration
import Criteria.Value.Elements
import Criteria.Value.Fingerprint
import Criteria.Value.Shown

/-! A session: the cells, the declared models, the field sets that were made, and the records of
what was done. An operation may be refused, and what it did before stays.
-/

set_option autoImplicit false

namespace Criteria

inductive Level where
  | debug
  | info
  | warning
  deriving DecidableEq, Repr

def Level.name : Level → String
  | debug => "DEBUG"
  | info => "INFO"
  | warning => "WARNING"

inductive Channel where
  | builder
  | fields
  | values
  deriving DecidableEq, Repr

def Channel.name : Channel → String
  | builder => "jpql_builder.base.builder"
  | fields => "jpql_builder.base.fields"
  | values => "jpql_builder.base.utils"

structure Record where
  level : Level
  channel : Channel
  message : String
  deriving DecidableEq, Repr

structure Made where
  owner : Member
  qualifier : Member
  fields : Handle

structure Session where
  store : Store := {}
  models : List Model := []
  made : List Made := []
  records : List Record := []

abbrev Operation := ExceptT Fault (StateM Session)

namespace Session

def model? (s : Session) (index : Nat) : Option Model := s.models[index]?

def line (s : Session) : ClassRef → List ClassRef
  | .builtin c => c.line.map .builtin
  | .declared index _ _ => ((s.model? index).map Model.line).getD []
  | .named n => [.named n, .builtin .object]

def modelOf? (s : Session) : ClassRef → Option Model
  | .declared index _ _ => s.model? index
  | _ => none

def nameOf (s : Session) (c : ClassRef) : String := ((s.modelOf? c).map Model.name).getD c.name

def lineage (s : Session) (c : ClassRef) : List Model := (s.line c).filterMap s.modelOf?

def putModel (s : Session) (index : Nat) (m : Model) : Session :=
  { s with models := s.models.set index m }

end Session

namespace Operation

def result {α : Type} (a : Operation α) (s : Session) : Except Fault α × Session :=
  (ExceptT.run a).run s

def refuse {α : Type} (f : Fault) : Operation α := throw f

def theStore : Operation Store := do return (← get).store

def asking {α : Type} (question : Store → Except Fault α) : Operation α := do
  match question (← theStore) with
  | .ok a => return a
  | .error f => refuse f

def alloc (c : Cell) : Operation Handle := modifyGet fun s =>
  let (h, store) := s.store.alloc c
  (h, { s with store := store })

def share (c : Cell) : Operation Value := do return .shared (← alloc c)

def mark : Operation Mark := modifyGet fun s =>
  let (m, store) := s.store.mark
  (m, { s with store := store })

/-- Tells a value that was made now apart from equal ones. -/
def fresh (v : Value) : Operation Value := do
  if v.isSingle then return v.withMark none else return v.withMark (← mark)

/-- A text that is put together is never one that was there. -/
def composed (t : String) : Operation Value := do
  if t.isEmpty then return .text none t else return .text (← mark) t

def settled (v : Value) : Operation Value := if v.mark.isSome then return v else fresh v

def put (h : Handle) (c : Cell) : Operation Unit :=
  modify fun s => { s with store := s.store.put h c }

def give (o : Owner) (attributes : List (String × Value)) : Operation Unit :=
  modify fun s => { s with store := s.store.give o attributes }

def note (level : Level) (channel : Channel) (message : String) : Operation Unit :=
  modify fun s => { s with records := s.records ++ [⟨level, channel, message⟩] }

def shown (v : Value) : Operation String := asking fun s => s.shown v

def plain (v : Value) : Operation String := asking fun s => s.plain v

def call (v : Value) : Operation Value := do
  match ← asking fun s => s.called v with
  | .value w => return w
  | .cell c => share c

/-- The text that a value gives when it is asked for one. A text gives itself, and a field its path.
-/
def told (v : Value) : Operation Value := do
  let t ← plain v
  match v, (← theStore).cellOf? v with
  | .text .., _ => return v
  | .truth _, _ => return .text none t
  | _, some (.field (some path)) => return path
  | _, _ => composed t

/-- All elements of a value, which a single pass gives only once. What a value does not hold is made
for each pass. -/
def drain (v : Value) : Operation (List Value) := do
  let items ← asking fun s => s.elements v
  modify fun s => { s with store := s.store.passed v items.length }
  match v with
  | .text .. | .bytes .. | .range .. => items.mapM fresh
  | _ => return items

section Results

variable {α β : Type} (s : Session)

@[simp] theorem result_pure (a : α) : (pure a : Operation α).result s = (.ok a, s) := rfl

theorem result_bind (x : Operation α) (f : α → Operation β) :
    (x >>= f).result s = match x.result s with
      | (.ok a, t) => (f a).result t
      | (.error e, t) => (.error e, t) := by
  simp only [result, ExceptT.run_bind, StateT.run_bind]
  rcases StateT.run (ExceptT.run x) s with ⟨r, t⟩
  cases r <;> rfl

@[simp] theorem result_refuse (f : Fault) : (refuse f : Operation α).result s = (.error f, s) := rfl

@[simp] theorem result_get : (get : Operation Session).result s = (.ok s, s) := rfl

@[simp] theorem result_modify (f : Session → Session) :
    (modify f : Operation Unit).result s = (.ok (), f s) := rfl

@[simp] theorem result_theStore : theStore.result s = (.ok s.store, s) := rfl

@[simp] theorem result_asking (q : Store → Except Fault α) :
    (asking q).result s = (q s.store, s) := by
  simp only [asking, result_bind, result_theStore]
  cases q s.store <;> rfl

@[simp] theorem result_alloc (c : Cell) :
    (alloc c).result s =
      (.ok (s.store.alloc c).1, { s with store := (s.store.alloc c).2 }) := rfl

@[simp] theorem result_share (c : Cell) :
    (share c).result s =
      (.ok (.shared (s.store.alloc c).1), { s with store := (s.store.alloc c).2 }) := rfl

@[simp] theorem result_mark :
    mark.result s = (.ok s.store.mark.1, { s with store := s.store.mark.2 }) := rfl

theorem result_settled (v : Value) :
    ∃ w t, (settled v).result s = (.ok w, { s with store := t }) ∧ t.cells = s.store.cells := by
  unfold settled
  split
  · exact ⟨v, s.store, rfl, rfl⟩
  · unfold fresh
    split
    · exact ⟨_, s.store, rfl, rfl⟩
    · exact ⟨_, s.store.mark.2, rfl, rfl⟩

@[simp] theorem result_put (h : Handle) (c : Cell) :
    (put h c).result s = (.ok (), { s with store := s.store.put h c }) := rfl

@[simp] theorem result_note (l : Level) (c : Channel) (m : String) :
    (note l c m).result s = (.ok (), { s with records := s.records ++ [⟨l, c, m⟩] }) := rfl

end Results

end Operation

end Criteria
