import Criteria.Text.Unprintable

set_option autoImplicit false

namespace Criteria.Text

def hexDigit (n : Nat) : Char :=
  Char.ofNat (if n < 10 then 0x30 + n else 0x57 + n)

def hexDigits : Nat → Nat → List Char
  | 0, _ => []
  | width + 1, n => hexDigits width (n / 16) ++ [hexDigit (n % 16)]

def escapedCode (n : Nat) : List Char :=
  if n < 0x100 then '\\' :: 'x' :: hexDigits 2 n
  else if n < 0x10000 then '\\' :: 'u' :: hexDigits 4 n
  else '\\' :: 'U' :: hexDigits 8 n

/-- Double quotes serve only a text with a single quote and without a double one. -/
def quoteMark (single double : Bool) : Char := if single && !double then '"' else '\''

def escapedChar (mark c : Char) : List Char :=
  if c = mark || c = '\\' then ['\\', c]
  else if c = '\n' then ['\\', 'n']
  else if c = '\r' then ['\\', 'r']
  else if c = '\t' then ['\\', 't']
  else if unprintableChar c then escapedCode c.toNat
  else [c]

def quoted (s : String) : String :=
  let cs := s.toList
  let mark := quoteMark (cs.contains '\'') (cs.contains '"')
  String.ofList (mark :: cs.flatMap (escapedChar mark) ++ [mark])

def escapedByte (mark : Char) (b : UInt8) : List Char :=
  if b.toNat < 0x80 then escapedChar mark (Char.ofNat b.toNat) else escapedCode b.toNat

def bytesMark (data : List UInt8) : Char := quoteMark (data.contains 0x27) (data.contains 0x22)

def quotedBytes (data : List UInt8) : String :=
  let mark := bytesMark data
  String.ofList ('b' :: mark :: data.flatMap (escapedByte mark) ++ [mark])

/-- In bytes that can change, a single quote is escaped whichever mark encloses them. -/
def quotedByteArray (data : List UInt8) : String :=
  let mark := bytesMark data
  String.ofList ('b' :: mark :: data.flatMap (escapedByte '\'') ++ [mark])

end Criteria.Text
