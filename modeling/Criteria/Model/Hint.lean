import Criteria.Fault
import Criteria.Model.HintForm
import Criteria.Model.Token
import Criteria.Text.Blank

set_option autoImplicit false

namespace Criteria

inductive Hint where
  | ordinary
  | classWide
  /-- Class-wide under a remark, which only a table of fields looks through. -/
  | remarked
  | final
  /-- An argument of construction that makes no attribute. -/
  | construction
  | deferred (expression : String)
  deriving DecidableEq, Repr

namespace Hint

def forms : List (String × Hint) :=
  [("ClassVar", classWide), ("ClassVar[int]", classWide), ("ClassVar[dict]", classWide),
   ("Annotated[ClassVar[int], 'm']", remarked), ("Final[int]", final),
   ("InitVar[int]", construction)]

def ofForm (form : String) : Hint := (forms.lookup form).getD ordinary

def ofValue : Value → Hint
  | .text _ t => deferred t
  | _ => ordinary

def asWritten : Hint → Bool
  | classWide => true
  | _ => false

def firstWord (cs : List Char) : String × List Char :=
  let cs := cs.dropWhile Text.blankChar
  (String.ofList (cs.takeWhile Token.wordChar), cs.dropWhile Token.wordChar)

def leadingWords (e : String) : Option String × String :=
  let (first, rest) := firstWord e.toList
  match rest.dropWhile Text.blankChar with
  | '.' :: cs =>
    let second := (firstWord cs).1
    if first.isEmpty || second.isEmpty then (none, first) else (some first, second)
  | _ => (none, first)

/-- The form that a deferred hint names at its beginning, to a reader that does not evaluate it. It
can be named as a member of the module of forms. -/
def leadingForm? (e : String) : Option HintForm :=
  match leadingWords e with
  | (none, n) => HintForm.ofName? n
  | (some "typing", n) => (HintForm.ofName? n).filter (· != .construction)
  | _ => none

def behindPoint (cs : List Char) : List Char :=
  match cs.takeWhile Token.wordChar, cs.dropWhile Token.wordChar with
  | _ :: _, '.' :: rest => rest
  | _, _ => cs

def bracketsOf? (form : String) (cs : List Char) : Option (List Char) :=
  let cs := behindPoint cs
  let opening := (form ++ "[").toList
  if opening.isPrefixOf cs then some (cs.drop opening.length) else none

def looksClassWide (e : String) : Bool :=
  let cs := e.toList
  (bracketsOf? "ClassVar" ((bracketsOf? "Annotated" cs).getD cs)).isSome

/-- Whether the attribute is a field of a table. `valued` tells whether the class has a value for
it. A hint that is still deferred makes a field unless it looks class-wide. -/
def isField (valued : Bool) : Hint → Except Fault Bool
  | ordinary => .ok true
  | classWide | remarked => .ok false
  | final => .ok !valued
  | construction => .error .foreignQualifier
  | deferred e => .ok !looksClassWide e

end Hint

end Criteria
