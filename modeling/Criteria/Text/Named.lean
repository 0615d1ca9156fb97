import Criteria.Text.Named.Further
import Criteria.Text.Named.Letters
import Criteria.Text.Named.Pictures
import Criteria.Text.Named.Symbols

set_option autoImplicit false

namespace Criteria.Text

namespace Named

def rows : List (Nat × String) :=
  basic ++ extended ++ greek ++ cyrillic ++ hebrew ++ punctuation ++ currencies ++ letterlike ++
    arrows ++ operators ++ shapes ++ signs ++ ornaments ++ pictures ++ faces

def inRow? (name : String) (row : Nat × String) : Option Char :=
  ((row.2.splitOn ";").idxOf? name).map fun i => Char.ofNat (row.1 + i)

def isFurther (name : String) (entry : Nat × String) : Bool := (entry.2.splitOn ";").contains name

def ideographs : List (Nat × Nat) :=
  [(0x3400, 0x4DBF), (0x4E00, 0x9FFF), (0x20000, 0x2A6DF), (0x2A700, 0x2B738), (0x2B740, 0x2B81D),
   (0x2B820, 0x2CEA1), (0x2CEB0, 0x2EBE0), (0x30000, 0x3134A)]

def digitValue? (c : Char) : Option Nat :=
  if c.isDigit then some (c.toNat - '0'.toNat)
  else if 'A' ≤ c && c ≤ 'F' then some (c.toNat - 'A'.toNat + 10)
  else none

def ideograph? (digits : List Char) : Option Char := do
  guard (digits.length = 4 || digits.length = 5)
  let ds ← digits.mapM digitValue?
  let n := ds.foldl (fun n d => 16 * n + d) 0
  if ideographs.any fun r => r.1 ≤ n && n ≤ r.2 then some (Char.ofNat n) else none

def initials : List String := "G GG N D DD R M B BB S SS  J JJ C K T P H".splitOn " "

def vowels : List String :=
  "A AE YA YAE EO E YEO YE O WA WAE OE YO U WEO WE WI YU EU YI I".splitOn " "

def finals : List String :=
  " G GG GS N NJ NH D L LG LM LB LS LT LP LH M B BS S SS NG J C K T P H".splitOn " "

def longest? (parts : List String) (name : List Char) : Option (Nat × List Char) :=
  let fitting := (parts.zipIdx.filter fun p => p.1.toList.isPrefixOf name).map fun p =>
    (p.2, p.1.length)
  let best? := fitting.foldl (fun best? p => match best? with
    | some b => if b.2 < p.2 then some p else some b
    | none => some p) none
  best?.map fun b => (b.1, name.drop b.2)

def syllable? (name : List Char) : Option Char := do
  let (i, rest) ← longest? initials name
  let (v, rest) ← longest? vowels rest
  let (f, rest) ← longest? finals rest
  if rest.isEmpty then some (Char.ofNat (0xAC00 + (i * 21 + v) * 28 + f)) else none

def ideographLead : String := "CJK UNIFIED IDEOGRAPH-"

def syllableLead : String := "HANGUL SYLLABLE "

end Named

open Named

/-- The character of this name, be the letters of the name small or large. -/
def named? (name : String) : Option Char :=
  if name.startsWith syllableLead then syllable? (name.toList.drop syllableLead.length)
  else if name.startsWith ideographLead then ideograph? (name.toList.drop ideographLead.length)
  else
    let name := name.toUpper
    (rows.findSome? (inRow? name)).or
      ((further.find? (isFurther name)).map fun e => Char.ofNat e.1)

end Criteria.Text
