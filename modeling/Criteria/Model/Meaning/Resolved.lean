import Criteria.Model.Hint
import Criteria.Model.Meaning.Evaluated

/-! Deferred hints and what they come to. A text that an expression comes to is again a deferred
hint. In the end a hint says what every hint says: whether the attribute belongs to the class, and
whether it can be one of its instances.
-/

set_option autoImplicit false

namespace Criteria

namespace Meaning

open Operation

def argumentOf : Meaning → Except Fault Meaning
  | value (.text _ t) => ofText t false
  | m => .ok m

/-- Evaluates what is deferred, with at most `steps` meanings inside one another. A text that is
being evaluated already is left as it is. -/
def resolved (around : Surroundings) : Nat → List String → Meaning → Operation Meaning
  | 0, _, m => return m
  | steps + 1, evaluated, m => do
    let inner := resolved around steps evaluated
    match m with
    | deferred text wide =>
      if evaluated.contains text then return m
      else match Expression.ofText? text with
        | none => refuse (.notExpression (Text.quoted text))
        | some e => do
          let m ← ofExpression around e
          let m ← asking fun s => checked s formRule wide m
          resolved around steps (text :: evaluated) m
    | applied .construction _ => return m
    | applied .annotated (m :: remarks) => do
      let found ← inner m
      if ← asking fun s => same s m found then return applied .annotated (m :: remarks)
      else asking fun s => annotated s found remarks
    | applied .starred [m] => do
      let m ← inner m
      return applied .unpacked [m]
    | applied f items => do
      let found ← items.mapM inner
      if ← asking fun s => sameAll s items found then return m
      else asking fun s => reapplied s f found
    | generic c items => do
      let items ← asking fun _ => items.mapM argumentOf
      return generic c (← items.mapM inner)
    | either items => do
      let found ← items.mapM inner
      if ← asking fun s => sameAll s items found then return m
      else asking fun s => allBarred s found
    | m => return m

def hint : Meaning → Hint
  | form .classWide | applied .classWide _ => .classWide
  | applied .annotated (form .classWide :: _) | applied .annotated (applied .classWide _ :: _) =>
    .remarked
  | form .final | applied .final _ | applied .annotated (form .final :: _)
  | applied .annotated (applied .final _ :: _) => .final
  | applied .construction _ | applied .annotated (applied .construction _ :: _) => .construction
  | _ => .ordinary

def depthOf (around : Surroundings) (text : String) : Nat :=
  around.attributes.foldl (fun n a => match a.2 with
    | .text _ t => n + t.length + 1
    | _ => n + 1) (2 * text.length + 8)

end Meaning

namespace Hint

open Operation

def evaluated (around : Surroundings) : Hint → Operation Hint
  | deferred e => do
    let m ← asking fun _ => Meaning.ofText e around.ofClass
    return (← Meaning.resolved around (Meaning.depthOf around e) [] m).hint
  | h => return h

/-- Whether the attribute belongs to the class, once a deferred hint is evaluated among the
attributes of the class that owns it. -/
def resolve (around : Surroundings) (h : Hint) : Operation Bool :=
  return (← h.evaluated around).asWritten

end Hint

end Criteria
