import Criteria.Calendar
import Criteria.MatchMode

/-! Values that a caller may pass. A value that cannot change holds its parts, with a mark where it
is told apart from an equal one. A value that can change is a handle of a cell in a store.
-/

set_option autoImplicit false

namespace Criteria

structure Handle where
  index : Nat
  deriving DecidableEq, Repr

/-- Tells apart values that are equal and were made apart. Of what has none there is only one. -/
abbrev Mark := Option Nat

namespace Mark

def width : Nat := 4

def part (m : Mark) (place : Nat) : Mark := m.map (· + place)

end Mark

inductive BuiltinClass where
  | integer
  | text
  | object
  | dictionary
  | field
  | builtQuery
  | builder
  | matchMode
  | fieldsProxy
  | tabled
  | generic
  | enumeration
  deriving DecidableEq, Repr

namespace BuiltinClass

def all : List BuiltinClass :=
  [integer, text, object, dictionary, field, builtQuery, builder, matchMode, fieldsProxy]

def name : BuiltinClass → String
  | integer => "int"
  | text => "str"
  | object => "object"
  | dictionary => "dict"
  | field => "Field"
  | builtQuery => "BuiltQuery"
  | builder => "ConditionBuilder"
  | matchMode => "MatchMode"
  | fieldsProxy => "GenericFieldsProxy"
  | tabled => "BaseModel"
  | generic => "Generic"
  | enumeration => "Enum"

def ofName? (s : String) : Option BuiltinClass := all.find? fun c => c.name = s

def closed : List BuiltinClass := [integer, text, object, dictionary]

def fullName : BuiltinClass → String
  | field => "jpql_builder.base.fields.Field"
  | fieldsProxy => "jpql_builder.base.fields.GenericFieldsProxy"
  | builtQuery => "jpql_builder.base.builder.BuiltQuery"
  | builder => "jpql_builder.base.builder.ConditionBuilder"
  | matchMode => "jpql_builder.base.match.MatchMode"
  | c => c.name

def shown : BuiltinClass → String
  | matchMode => "<enum 'MatchMode'>"
  | c => "<class '" ++ c.fullName ++ "'>"

def hinted : BuiltinClass → List String
  | builtQuery => ["text", "args"]
  | builder => ["model_cls", "fields"]
  | _ => []

def line : BuiltinClass → List BuiltinClass
  | object => [object]
  | field => [field, generic, object]
  | matchMode => [matchMode, enumeration, object]
  | c => [c, object]

end BuiltinClass

/-- A declared class is known by its place in the order of declaration. It is tabled when it keeps
a table of its own fields. -/
inductive ClassRef where
  | builtin (c : BuiltinClass)
  | declared (index : Nat) (name : String) (tabled : Bool)
  | named (name : String)
  deriving DecidableEq, Repr

namespace ClassRef

def name : ClassRef → String
  | builtin c => c.name
  | declared _ n _ => n
  | named n => n

def fullName : ClassRef → String
  | builtin c => c.fullName
  | c => c.name

def shown : ClassRef → String
  | builtin c => c.shown
  | c => "<class '" ++ c.name ++ "'>"

def isTabled : ClassRef → Bool
  | builtin c => c == .tabled
  | declared _ _ tabled => tabled
  | named _ => false

end ClassRef

inductive Value where
  | null
  | unset
  | truth (b : Bool)
  | int (mark : Mark) (n : Int)
  | text (mark : Mark) (s : String)
  | float (mark : Mark) (written : String)
  | decimal (mark : Mark) (written : String)
  | bytes (mark : Mark) (data : List UInt8)
  | date (mark : Mark) (d : Date)
  | moment (mark : Mark) (d : Date) (t : TimeOfDay)
  | time (mark : Mark) (t : TimeOfDay)
  | range (mark : Mark) (first stop step : Int)
  | tuple (mark : Mark) (items : List Value)
  | point (mark : Mark) (items : List Value)
  | mode (m : MatchMode)
  | classOf (c : ClassRef)
  | query (mark : Mark) (text args : Value)
  | shared (h : Handle)
  deriving Repr, Inhabited

namespace Value

/-- Whether there is only one value that is equal to this one, however it is made. -/
def isSingle : Value → Bool
  | .int _ n => -5 ≤ n && n ≤ 256
  | .text _ s =>
    match s.toList with
    | [] => true
    | [c] => c.toNat < 0x100
    | _ => false
  | .bytes _ data => data.length ≤ 1
  | .tuple _ items => items.isEmpty
  | _ => false

def mark : Value → Mark
  | .int m _ | .text m _ | .float m _ | .decimal m _ | .bytes m _ | .date m _ | .moment m _ _
  | .time m _ | .range m _ _ _ | .tuple m _ | .point m _ | .query m _ _ => m
  | _ => none

def withMark (m : Mark) : Value → Value
  | .int _ n => .int m n
  | .text _ s => .text m s
  | .float _ w => .float m w
  | .decimal _ w => .decimal m w
  | .bytes _ data => .bytes m data
  | .date _ d => .date m d
  | .moment _ d t => .moment m d t
  | .time _ t => .time m t
  | .range _ first stop step => .range m first stop step
  | .tuple _ items => .tuple m items
  | .point _ items => .point m items
  | .query _ t args => .query m t args
  | v => v

def atPlace (m : Mark) (place : Nat) (v : Value) : Value :=
  v.withMark (if v.isSingle then none else m.part place)

def alike : Value → Value → Bool
  | .null, .null | .unset, .unset => true
  | .truth b, .truth c => b = c
  | .int _ m, .int _ n => m = n
  | .text _ s, .text _ t => s = t
  | .bytes _ xs, .bytes _ ys => xs = ys
  | .date _ d, .date _ e => d = e
  | .moment _ d t, .moment _ e u => d = e && t = u
  | .time _ t, .time _ u => t = u
  | .tuple _ xs, .tuple _ ys => xs.isEmpty && ys.isEmpty
  | .mode m, .mode n => m = n
  | .classOf c, .classOf d => c = d
  | .shared h, .shared k => h = k
  | _, _ => false

def same (v w : Value) : Bool :=
  if v.mark.isSome || w.mark.isSome then v.mark = w.mark else v.alike w

end Value

def rangeSize (first stop step : Int) : Nat :=
  if 0 < step then ((stop - first + step - 1) / step).toNat
  else if step < 0 then ((first - stop - step - 1) / (-step)).toNat
  else 0

/-- Ranges with the same numbers have the same key. -/
def rangeKey (first stop step : Int) : List Int :=
  match rangeSize first stop step with
  | 0 => [0]
  | 1 => [1, first]
  | n => [n, first, step]

def rangeAt (first step : Int) (i : Nat) : Int := first + step * i

def rangeItems (first stop step : Int) : List Int :=
  (List.range (rangeSize first stop step)).map (rangeAt first step)

theorem rangeItems_length (first stop step : Int) :
    (rangeItems first stop step).length = rangeSize first stop step := by
  simp [rangeItems]

end Criteria
