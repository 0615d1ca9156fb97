import Criteria.Session

/-! The text of a query and its arguments. The base text comes first, then the condition part, then
the order part. A base that is a list takes the characters of both parts itself, whenever the query
is built; any other base that is not a text admits neither. What callers gave to a builder under the
name of an operation is called in its place, also by the builder itself. `result_build_of_text` and
`result_build_of_text_order` give the whole text for a base that is a text.
-/

set_option autoImplicit false

namespace Criteria

namespace Builder

open Operation

def characters (t : String) : List Value := t.toList.map fun c => .text none (String.singleton c)

def extensionFault (s : Store) (v : Value) : Fault :=
  match v, s.cellOf? v with
  | .tuple .., _ | .point .., _ => .onlyConcatenates "tuple" "str"
  | .bytes .., _ | _, some (.byteArray _) => .bytesExtended (s.longName v) "str"
  | _, _ => .notExtended (s.longName v)

def extend (built : Value) (more : String) : Operation Value := do
  match built with
  | .text _ t => return .text none (t ++ more)
  | v =>
    let s ← theStore
    match v, s.cellOf? v with
    | .shared h, some (.list items) => put h (.list (items ++ characters more))
    | .shared h, some (.deque items) => put h (.deque (items ++ characters more))
    | v, _ => refuse (extensionFault s v)
    return v

def orderText : Value → Operation String
  | .text _ t => return Text.orderWord ++ t
  | v => do refuse (.onlyConcatenates "str" ((← theStore).longName v))

def build (b : Builder) : Operation Value := do
  let built ← if b.conditions.isEmpty then pure b.base else extend b.base b.whereText
  match b.order with
  | none => return built
  | some o => do
    let more ← orderText o
    extend built more

theorem result_extend_text (m : Mark) (t more : String) (s : Session) :
    (extend (.text m t) more).result s = (.ok (.text none (t ++ more)), s) := rfl

theorem result_build_of_text {b : Builder} {m : Mark} {t : String} (s : Session)
    (hb : b.base = .text m t) (ho : b.order = none) :
    b.build.result s =
      (.ok (.text (if b.conditions.isEmpty then m else none) (t ++ b.whereText)), s) := by
  by_cases hc : b.conditions.isEmpty = true
  · simp [build, whereText, hb, ho, hc]
  · simp [build, hb, ho, hc, result_extend_text]

theorem result_build_of_text_order {b : Builder} {m k : Mark} {t o : String} (s : Session)
    (hb : b.base = .text m t) (ho : b.order = some (.text k o)) :
    b.build.result s = (.ok (.text none (t ++ b.whereText ++ (Text.orderWord ++ o))), s) := by
  by_cases hc : b.conditions.isEmpty = true
  · simp [build, orderText, whereText, hb, ho, hc, result_extend_text]
  · simp [build, orderText, hb, ho, hc, result_bind, result_extend_text]

def builtRecord (s : Store) (built : Value) : Except Fault String := do
  let t ← s.plain built
  .ok ("Built query: '" ++ t ++ "'")

def buildNoted (b : Builder) : Operation Value := do
  let built ← b.build
  let message ← asking fun s => builtRecord s built
  note .info .builder message
  settled built

def argsList (b : Builder) : Operation Value := share (.list b.args)

/-- What a call of this name on the builder in the cell `h` gives, when its own operation gives
`own`. -/
def told (h : Handle) (name : String) (own : Operation Value) : Operation Value := do
  match (← theStore).givenTo? (.shared h) name with
  | some w => call w
  | none => own

def toldText (h : Handle) (b : Builder) : Operation Value := told h "build" b.buildNoted

def buildQuery (h : Handle) (b : Builder) : Operation Value := do
  let built ← toldText h b
  let args ← drain (← told h "args" b.argsList)
  return .query (← mark) built (.tuple (← mark) args)

def holds (b : Builder) : Bool := !b.conditions.isEmpty

end Builder

end Criteria
