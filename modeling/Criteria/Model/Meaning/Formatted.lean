import Criteria.Model.Meaning.Arithmetic

set_option autoImplicit false

namespace Criteria

namespace Meaning

inductive Placing where
  | written (t : String)
  | unwritten

def wholeLetters : List Char := ['d', 'i', 'u']

def numberLetters : List Char := ['o', 'x', 'X', 'e', 'E', 'f', 'F', 'g', 'G', 'c']

def plain (s : Store) : Meaning → Except Fault String
  | value v => s.plain v
  | m => m.shown s

def placed (s : Store) (place : Nat) (letter : Char) (m : Meaning) : Except Fault Placing := do
  if letter = 's' then .ok (.written (← m.plain s))
  else if letter = 'r' then .ok (.written (← m.shown s))
  else if letter = 'a' then .ok .unwritten
  else if wholeLetters.contains letter then
    match m.whole?, numeric? s m with
    | some n, _ => .ok (.written (← Whole.written n))
    | none, some _ => .ok .unwritten
    | none, none =>
      .error (.numberForm (String.singleton letter ++ " format: a real number is required, not ")
        (m.kind s))
  else if numberLetters.contains letter then .ok .unwritten
  else .error (.formLetter letter place)

/-- Writes meanings into the places of a text, from the character at `place` on. The answer is none
when something is not worked out. -/
def filled (s : Store) (isRow : Bool) : Nat → List Char → List Meaning →
    Except Fault (Option String)
  | _, [], items => if isRow && !items.isEmpty then .error .formUnused else .ok (some "")
  | place, '%' :: cs, items =>
    match cs, items with
    | [], _ => .error .formIncomplete
    | '%' :: cs, items => do .ok ((← filled s isRow (place + 2) cs items).map ("%" ++ ·))
    | c :: cs, items => do
      if c = '(' then .ok none
      else match items with
        | [] => .error .formMissing
        | m :: ms =>
          let p ← placed s (place + 1) c m
          let rest ← filled s isRow (place + 2) cs ms
          .ok (match p, rest with
            | .written t, some u => some (t ++ u)
            | _, _ => none)
  | place, c :: cs, items => do
    .ok ((← filled s isRow (place + 1) cs items).map (String.singleton c ++ ·))

def formOptions : List Char := "0123456789.-+ #*lhL".toList

def hasOptions : List Char → Bool
  | '%' :: c :: cs => formOptions.contains c || hasOptions cs
  | _ :: cs => hasOptions cs
  | [] => false

def keyedKinds : List String :=
  ["dict", "list", "collections.OrderedDict", "bytes", "bytearray", "range", "Field",
   "types.GenericAlias", "types.UnionType"]

def isKeyed (s : Store) : Meaning → Bool
  | form f => f.className?.isNone && !f.isParameter && !(f matches .label _)
  | applied f _ => f != .construction
  | m => keyedKinds.contains (m.kind s)

/-- A text with a row of meanings in its places, or with a single one. What has keys may stay
unused. -/
def formatted (s : Store) (t : String) (m : Meaning) : Except Fault Meaning := do
  if hasOptions t.toList then .ok unknown
  else
    let items := m.rowItems?.getD [m]
    match ← filled s (m.rowItems?.isSome || !m.isKeyed s) 0 t.toList items with
    | some u => .ok (value (.text none u))
    | none => .ok unknown

end Meaning

end Criteria
