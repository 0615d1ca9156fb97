import Criteria.Field
import Criteria.Model.Slot
import Criteria.Value.Part

set_option autoImplicit false

namespace Criteria

namespace Store

def partsOf (s : Store) (v : Value) : List (String × List (String × Value)) :=
  match s.cellOf? v with
  | some c => c.parts v
  | none => v.parts

def part? (s : Store) (v : Value) (name : String) : Option (String × Value) :=
  (s.partsOf v).findSome? fun group => (group.2.lookup name).map fun w => (group.1, w)

def thing? (s : Store) (v : Value) (name : String) : Option String :=
  match s.cellOf? v with
  | some c => c.things.lookup name
  | none => v.commonThings.lookup name

end Store

namespace Attribute

open Operation

def missing {α : Type} (v : Value) (name : String) : Operation α := do
  refuse (.noAttribute ((← theStore).longName v) name)

def thing (kind : String) : Operation Value := share (.thing kind)

def instanceOf (className : String) : Operation Value := do
  if className.contains '\x00' then refuse .nullInName else thing className

def ofBuiltin (table? : Option Value) (c : BuiltinClass) (name : String) :
    Operation (Option Value) := do
  match c, MatchMode.ofName? name with
  | .matchMode, some m => return some (.mode m)
  | c, _ =>
    if let some v := (← theStore).givenToClass? c name then return some v
    else if c = .builtQuery && name = "args" then return some (.tuple none [])
    else if c = .tabled && name = Model.tableName then return table?
    else match Operations.kindInClass c name with
      | some kind => return some (← thing kind)
      | none => return none

def along (table? : Option Value) (name : String) : List ClassRef → Operation (Option Value)
  | [] => return none
  | .builtin c :: rest => do
    match ← ofBuiltin table? c name with
    | some v => return some v
    | none => along table? name rest
  | c :: rest => do
    match ((← get).modelOf? c).bind fun m => m.attributes.lookup name with
    | some v => return some v
    | none => along table? name rest

def classLacks (s : Session) (c : ClassRef) (name : String) : Fault :=
  if c = .builtin .matchMode || c.isTabled then .emptySlot name
  else .classLacksAttribute (s.nameOf c) name

def slotOf (c : ClassRef) (name : String) : Operation (Option Value) := do
  match c, (← get).modelOf? c, Model.Slot.ofName? name with
  | .declared index _ _, some m, some slot => slot.read? index m
  | c, _, _ =>
    return if name = "__name__" || name = "__qualname__" then some (.text none c.name) else none

def ofClass (c : ClassRef) (name : String) : Operation Value := do
  match ← slotOf c name with
  | some v => return v
  | none =>
    let s ← get
    match ← along ((s.modelOf? c).bind Model.table?) name (s.line c) with
    | some v => return v
    | none => refuse (classLacks s c name)

/-- What a builder holds, under the names that are kept from callers who follow the custom. Its
lists are not told. -/
def held (b : Builder) (name : String) : Operation (Option Value) := do
  match name with
  | "_base_text" => return some b.base
  | "_index" => return some (.int none b.index)
  | "_order_by" => return some (b.order.getD .null)
  | "_logger" => return some (← thing "Logger")
  | _ => return none

def holding? (b : Builder) (name : String) (value : Value) : Option Builder :=
  match name, value with
  | "_base_text", v => some { b with base := v }
  | "_index", .int _ (.ofNat n) => some { b with index := n }
  | "_order_by", .null => some (b.orderBy none)
  | "_order_by", v => some (b.orderBy (some v))
  | _, _ => none

/-- The number that a clause begins with next. It is one number until a clause enters. -/
def indexOf (h : Handle) (b : Builder) : Operation Value := do
  match b.met.filter fun m => m.1 = b.index with
  | some (n, m) => return .int m n
  | none => do
    let v ← fresh (.int none b.index)
    put h (.builder { b with met := some (b.index, v.mark) })
    return v

def slot? (b : Builder) (name : String) : Option Value :=
  if name = "fields" then b.fields else if name = "model_cls" then b.model else none

def ofBuilderClass (h : Handle) (name : String) : Operation Value := do
  match (← theStore).givenToClass? .builder name with
  | some w => return w
  | none =>
    if Operations.ofBuilder.contains name || Operations.makingBuilders.contains name then
      thing Operations.kindOfMethod
    else missing (.shared h) name

/-- What a builder has of its own comes before what its class has. -/
def ofBuilder (h : Handle) (b : Builder) (name : String) : Operation Value := do
  if name = "index" then indexOf h b
  else match (slot? b name).or (((← theStore).given (.cell h)).lookup name) with
    | some w => return w
    | none =>
      match ← held b name with
      | some w => return w
      | none => ofBuilderClass h name

def ofMode (m : MatchMode) (name : String) : Operation Value := do
  if name = "name" then return .text none m.name
  else if name = "value" then return .text none m.label
  else match (← theStore).givenTo? (.mode m) name, MatchMode.ofName? name with
    | some w, _ => return w
    | none, some n => return .mode n
    | none, none =>
      if name = "to_match_string" then thing Operations.kindOfMethod
      else missing (.mode m) name

def ofOther (v : Value) (name : String) : Operation Value := do
  let s ← theStore
  match s.part? v name, s.givenTo? v name, v.commonParts.lookup name, s.thing? v name with
  | some (_, w), _, _, _ => settled w
  | none, some w, _, _ | none, none, some w, _ => return w
  | none, none, none, some kind => thing kind
  | none, none, none, none =>
    if Operations.has (s.shortName v) name then thing Operations.kindOfOwn else missing v name

def classOf (s : Store) (v : Value) : ClassRef :=
  let name := s.shortName v
  match BuiltinClass.ofName? name with
  | some c => .builtin c
  | none => .named name

def ofFieldSet? (name : String) : Option Value :=
  if name = "__doc__" then
    some (.text none "A simple attribute-based namespace.\n\nSimpleNamespace(**kwargs)")
  else none

/-- What callers gave under a name comes before what is made of the name. -/
def givenOr (v : Value) (name : String) (other : Operation Value) : Operation Value := do
  match (← theStore).givenTo? v name with
  | some w => return w
  | none => other

def read (v : Value) (name : String) : Operation Value := do
  let s ← theStore
  if name = "__class__" then return .classOf (classOf s v)
  else match v, s.cellOf? v with
    | .query _ t args, _ =>
      if name = "text" then return t else if name = "args" then return args
      else givenOr v name (missing v name)
    | .classOf c, _ => ofClass c name
    | .mode m, _ => ofMode m name
    | _, some (.field path) =>
      if name = "path" || name = "_path" then Field.present path
      else givenOr v name (Field.nested path name)
    | _, some (.proxy lead) =>
      match lead with
      | some l =>
        if name = "_prefix" then return l else givenOr v name (FieldsProxy.nested lead name)
      | none => givenOr v name (FieldsProxy.nested lead name)
    | _, some (.fieldSet es) =>
      match es.lookup name, ofFieldSet? name with
      | some w, _ | none, some w => return w
      | none, none => missing v name
    | .shared h, some (.builder b) => ofBuilder h b name
    | _, _ => ofOther v name

def fixedFault (s : Store) (v : Value) (deleting : Bool) (name : String) : Fault :=
  match v, s.part? v name with
  | .range .., some _ => .boundOfRange
  | .point .., some _ => .partOfPoint deleting
  | _, some (kind, _) => .partOf kind name
  | v, none =>
    match s.cellOf? v, s.thing? v name with
    | some (.stream true _), some kind =>
      if kind = "code" then .boundOfRange else .partOf "generator" name
    | _, _ =>
      if Operations.has (s.shortName v) name || (v.commonParts.lookup name).isSome ||
          (v.commonThings.lookup name).isSome then
        .operationStays (s.longName v) name
      else .noAttribute (s.longName v) name

def erased (name : String) (es : List (String × Value)) : List (String × Value) :=
  es.filter fun e => e.1 != name

def assignEntry (h : Handle) (es : List (String × Value)) (name : String) (value : Value) :
    Operation Unit := do
  if name = "__class__" then
    match value with
    | .classOf _ => refuse .classOfOther
    | v => refuse (.classOfClass ((← theStore).longName v))
  else if name = "__dict__" then refuse .boundOfRange
  else put h (.fieldSet (putNamed name value es))

def assignCell (h : Handle) (c : Cell) (name : String) (value : Value) : Operation Unit := do
  let s ← theStore
  let v : Value := .shared h
  match c with
  | .field path =>
    if name = "_path" then
      match path with
      | some _ => refuse .pathIsFixed
      | none => put h (.field (some value))
    else refuse (.attributeOfField name)
  | .proxy _ =>
    if name = "_prefix" then put h (.proxy (some value))
    else refuse (.noAttribute "GenericFieldsProxy" name)
  | .fieldSet es => assignEntry h es name value
  | .builder b =>
    if name = "fields" then put h (.builder { b with fields := some value })
    else if name = "model_cls" then put h (.builder { b with model := some value })
    else if name = "index" then refuse (.noSetter "ConditionBuilder" name)
    else match holding? b name value with
      | some b => put h (.builder b)
      | none => give (.cell h) (putNamed name value (s.given (.cell h)))
  | _ =>
    match s.owner? v with
    | some o => give o (putNamed name value (s.given o))
    | none => refuse (fixedFault s v false name)

def assignClass (c : ClassRef) (name : String) (value : Value) : Operation Unit := do
  match c, (← get).modelOf? c with
  | .declared index _ _, some m =>
    match Model.Slot.ofName? name with
    | some slot => slot.assign index m name value
    | none =>
      modify fun s => s.putModel index { m with attributes := putNamed name value m.attributes }
  | .builtin b, _ =>
    if BuiltinClass.closed.contains b then refuse (.fixedClass c.name name)
    else if b = .matchMode && (MatchMode.ofName? name).isSome then refuse (.modeStays name)
    else if (Model.Slot.ofName? name).isSome then return ()
    else give (.builtin b) (putNamed name value ((← theStore).given (.builtin b)))
  | _, _ => refuse (.fixedClass c.name name)

/-- A path is fixed until it is deleted. A built query never changes. -/
def assign (v : Value) (name : String) (value : Value) : Operation Unit := do
  let s ← theStore
  match v, s.cellOf? v with
  | .shared h, some c => assignCell h c name value
  | .query .., _ => refuse (.frozenAttribute (Text.quoted name))
  | .classOf c, _ => assignClass c name value
  | .mode m, _ =>
    if name = "name" || name = "value" then refuse (.partOfMode false name)
    else give (.mode m) (putNamed name value (s.given (.mode m)))
  | v, _ => refuse (fixedFault s v false name)

def eraseGiven (o : Owner) (v : Value) (name : String) : Operation Unit := do
  let es := (← theStore).given o
  if (es.lookup name).isSome then give o (erased name es) else missing v name

def eraseCell (h : Handle) (c : Cell) (name : String) : Operation Unit := do
  let s ← theStore
  let v : Value := .shared h
  match c with
  | .field path =>
    if name = "path" then refuse .pathStays
    else if name = "__dict__" || name = "_path" && path.isSome then put h (.field none)
    else refuse (.noAttribute "Field" name)
  | .proxy lead =>
    if name = "_prefix" then
      if lead.isSome then put h (.proxy none) else refuse (.emptySlot name)
    else refuse (.noAttribute "GenericFieldsProxy" name)
  | .fieldSet es =>
    if name = "__dict__" then refuse .boundOfRange
    else if (es.lookup name).isSome then put h (.fieldSet (erased name es))
    else refuse (.noAttribute "types.SimpleNamespace" name)
  | .builder b =>
    if name = "index" then refuse (.noDeleter "ConditionBuilder" name)
    else if name = "fields" && b.fields.isSome then put h (.builder { b with fields := none })
    else if name = "model_cls" && b.model.isSome then put h (.builder { b with model := none })
    else eraseGiven (.cell h) v name
  | _ =>
    match s.owner? v with
    | some o => eraseGiven o v name
    | none => refuse (fixedFault s v true name)

def eraseClass (c : ClassRef) (name : String) : Operation Unit := do
  let lacks : Operation Unit := do refuse (.classLacksAttribute ((← get).nameOf c) name)
  match c, (← get).modelOf? c with
  | .declared index _ _, some m =>
    match Model.Slot.ofName? name with
    | some slot => slot.erase index m name
    | none =>
      if (m.attributes.lookup name).isSome then
        modify fun s => s.putModel index { m with attributes := erased name m.attributes }
      else lacks
  | .builtin b, _ =>
    let es := (← theStore).given (.builtin b)
    if BuiltinClass.closed.contains b then refuse (.fixedClass c.name name)
    else if b = .matchMode && (MatchMode.ofName? name).isSome then
      refuse (.modeRemains c.name name)
    else if (es.lookup name).isSome then give (.builtin b) (erased name es)
    else lacks
  | _, _ => refuse (.fixedClass c.name name)

def erase (v : Value) (name : String) : Operation Unit := do
  let s ← theStore
  match v, s.cellOf? v with
  | .query .., _ => refuse (.frozenDeletion (Text.quoted name))
  | .classOf c, _ => eraseClass c name
  | v, c =>
    if name = "__class__" then refuse .classOfClassStays
    else match v, c with
    | .shared h, some c => eraseCell h c name
    | .mode m, _ =>
      if name = "name" || name = "value" then refuse (.partOfMode true name)
      else eraseGiven (.mode m) v name
    | v, _ => refuse (fixedFault s v true name)

def names (v : Value) : Operation (List String) := do
  match (← theStore).cellOf? v with
  | some (.fieldSet es) => return es.map (·.1)
  | _ => return []

end Attribute

end Criteria
