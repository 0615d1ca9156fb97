import Criteria.Builder.Create
import Criteria.Builder.Perform
import Criteria.Collection
import Criteria.Signature

set_option autoImplicit false

namespace Criteria

namespace Builder

def calleeClass : String := BuiltinClass.builder.name

def signature (name : String) (required : List String) (optional : List (String × Value)) :
    Signature :=
  { callee := calleeClass ++ "." ++ name, required, optional }

def modeByDefault : List (String × Value) := [("mode", .mode .anywhere)]

def comparisons : List (String × Comparison) :=
  [("equal", .equal), ("not_equal", .notEqual), ("gte", .atLeast), ("gt", .greater),
   ("lte", .atMost), ("lt", .less)]

def requesting? (name : String) : Option (Signature × (Taken → Request)) :=
  match comparisons.lookup name, name with
  | some op, _ =>
    some (signature name ["field", "value"] [],
      fun t => .compare op (t.value "field") (t.value "value"))
  | none, "like" =>
    some (signature name ["field", "value"] modeByDefault,
      fun t => .like (t.value "field") (t.value "value") (t.value "mode"))
  | none, "like_any" =>
    some (signature name ["fields", "value"] modeByDefault,
      fun t => .likeAny (t.value "fields") (t.value "value") (t.value "mode"))
  | none, "in_" =>
    some (signature name ["field", "values"] [],
      fun t => .within (t.value "field") (t.value "values"))
  | none, "between" =>
    some (signature name ["field", "from_", "to"] [],
      fun t => .between (t.value "field") (t.value "from_") (t.value "to"))
  | none, "order_by" =>
    some (signature name ["clause"] [], fun t => .orderBy (t.value "clause"))
  | none, _ => none

def telling? (h : Handle) (b : Builder) : String → Option (Operation Value)
  | "build" => some b.buildNoted
  | "args" => some b.argsList
  | "build_query" => some (b.buildQuery h)
  | "__repr__" => some do Operation.composed (← Operation.shown (.shared h))
  | "__len__" => some (Operation.fresh (.int none b.size))
  | "__bool__" => some (pure (.truth b.holds))
  | _ => none

def queryOf (g : Given) : Operation Value := do
  let sig : Signature :=
    { callee := "BuiltQuery.__init__", required := ["text"],
      optional := [("args", .tuple none [])] }
  let t ← Operation.asking fun _ => sig.take g
  return .query (← Operation.mark) (t.value "text") (t.value "args")

end Builder

namespace Plan

open Operation

def byName : List (String × Value) := [("model_cls", .null), ("alias", .text none "")]

inductive Way where
  | ofParts
  | ofText
  | ofCondition
  deriving DecidableEq, Repr

namespace Way

def ofName? : String → Option Way
  | "init" => some ofParts
  | "of" => some ofText
  | "with_condition" => some ofCondition
  | _ => none

def signature : Way → Signature
  | ofParts =>
    Builder.signature "__init__" ["base_text"]
      ([("static_condition", .null), ("start_index", .int none 1), ("reserved_args", .null)] ++
        byName)
  | ofText =>
    { Builder.signature "of" ["base_text"] [("start_index", .int none 1)] with
      receiver := "cls", takesMore := true, byName }
  | ofCondition =>
    { Builder.signature "with_condition" ["base_text", "static_condition"]
        [("start_index", .int none 1)] with
      receiver := "cls", takesMore := true, byName }

/-- The plan that the arguments make. Places that are taken beyond the named ones are arguments of
the query. -/
def plan (way : Way) (t : Taken) : Plan :=
  let base := t.value "base_text"
  let condition := t.value "static_condition"
  let start := t.value "start_index"
  let model := t.value "model_cls"
  let qualifier := t.value "alias"
  match way with
  | ofParts => { base, condition, start, reserved := t.value "reserved_args", model, qualifier }
  | ofText => .of base start t.rest model qualifier
  | ofCondition => .withCondition base condition start t.rest model qualifier

def make (way : Way) (g : Given) : Operation Value := do
  let t ← asking fun _ => way.signature.take g
  (way.plan t).make

end Way

end Plan

namespace Call

open Operation

def fromOne (c : BuiltinClass) (v : Value) : Operation Value := do
  let s ← theStore
  match c, v with
  | .text, v => told v
  | .integer, .int .. => return v
  | .integer, .truth b => return .int none (if b then 1 else 0)
  | .integer, .text _ t => fresh (.int none (← asking fun _ => Whole.ofWritten t))
  | .integer, v => refuse (.notWhole (s.longName v))
  | .dictionary, v =>
    match s.cellOf? v with
    | some (.dict _ entries) => share (.dict false entries)
    | _ => refuse (.notIterable (s.longName v))
  | c, _ => refuse (.argumentsUnknown c.name)

def onClass (c : ClassRef) (g : Given) : Operation Value := do
  let taking := fun (sig : Signature) => asking fun _ => sig.take g
  match c, g.places, g.names with
  | .builtin .field, _, _ => do
    let t ← taking { callee := "Field.__init__", required := ["path"] }
    Field.make (t.value "path")
  | .builtin .fieldsProxy, _, _ => do
    let t ← taking
      { callee := "GenericFieldsProxy.__init__", optional := [("alias", .text none "")] }
    FieldsProxy.make (t.value "alias")
  | .builtin .builtQuery, _, _ => Builder.queryOf g
  | .builtin .builder, _, _ => Plan.Way.ofParts.make g
  | .builtin .matchMode, _, _ => do
    let t ← taking { callee := "EnumType.__call__", receiver := "cls", required := ["value"] }
    return .mode (← asking fun s => MatchMode.ofValue s (t.value "value"))
  | c, [], [] => call (.classOf c)
  | .builtin b, [v], [] => fromOne b v
  | c, _, _ => refuse (.argumentsUnknown c.name)

/-- What a name stands for on a value, found before arguments are looked at. -/
inductive Target where
  | ofBuilder (h : Handle) (name : String)
  | change (v : Value) (c : Change)
  /-- Something that can be called only when it is a class. -/
  | other (v : Value)

def isOperation (name : String) : Bool :=
  Operations.ofBuilder.contains name || Operations.makingBuilders.contains name

def target (v : Value) (name : String) : Operation Target := do
  let s ← theStore
  match v, s.cellOf? v with
  | .shared h, some (.builder _) =>
    if isOperation name && (s.givenTo? v name).isNone then return .ofBuilder h name
    else return .other (← Attribute.read v name)
  | v, some c =>
    match (Change.ofName? name).filter fun change => change.applies c with
    | some change => return .change v change
    | none => return .other (← Attribute.read v name)
  | v, none => return .other (← Attribute.read v name)

def onBuilder (h : Handle) (name : String) (g : Given) : Operation Value := do
  let b ← Builder.theBuilder h name
  match Builder.requesting? name, Builder.telling? h b name, Plan.Way.ofName? name with
  | some (sig, request), _, _ => do
    let t ← asking fun _ => sig.take g
    Builder.request h (request t)
    return .shared h
  | none, some tell, _ => do
    let _ ← asking fun _ => (Builder.signature name [] []).take g
    tell
  | none, none, some way => way.make g
  | none, none, none => Attribute.missing (.shared h) name

def onCollection (v : Value) (c : Change) (g : Given) : Operation Value := do
  Collection.apply v c g.places
  return .null

def run (t : Target) (g : Given) : Operation Value := do
  match t with
  | .ofBuilder h name => onBuilder h name g
  | .change v c => onCollection v c g
  | .other (.classOf c) => onClass c g
  | .other w => refuse (.notCallable ((← theStore).longName w))

end Call

end Criteria
