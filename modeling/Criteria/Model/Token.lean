import Criteria.Fault
import Criteria.Text.Identifier
import Criteria.Text.Quoted

/-! Tokens of a text that is read as an expression or as a definition. Blanks and remarks stand
between tokens. Outside brackets a line has an end, and where it begins tells whether it stands
deeper than the line before. The tokens stop at the first flaw of the text.
-/

set_option autoImplicit false

namespace Criteria

structure Flaw where
  reason : String
  line : Nat
  kind : FlawKind := .writing
  deriving DecidableEq, Repr

inductive Token where
  | name (s : String)
  | number (written : String)
  | quotation (written : String)
  | mark (s : String)
  | stray (c : Char)
  | lineEnd
  | indent
  | dedent
  | ending
  deriving DecidableEq, Repr, Inhabited

structure Placed where
  token : Token
  line : Nat
  depth : Nat
  deriving DecidableEq, Repr, Inhabited

structure Opened where
  bracket : Char
  line : Nat
  deriving DecidableEq, Repr

inductive Halt where
  | done
  /-- A flaw that is told wherever a reader fails. -/
  | flawed (f : Flaw)
  /-- A flaw that is told only to a reader that comes so far. -/
  | broken (f : Flaw)
  deriving DecidableEq, Repr

structure Tokens where
  all : Array Placed
  opened? : Option Opened
  halt : Halt
  deriving Repr

namespace Token

/-- Characters that stand together until they are looked at as a name. -/
def wordChar (c : Char) : Bool := c.isAlphanum || c = '_' || 0x80 ≤ c.toNat

def wordOf (cs : List Char) : String := String.ofList (cs.takeWhile wordChar)

def afterDigits (isDigit : Char → Bool) : List Char → Option (List Char)
  | [] => some []
  | ['_'] => none
  | '_' :: c :: cs => if isDigit c then afterDigits isDigit cs else none
  | c :: cs => if isDigit c then afterDigits isDigit cs else some (c :: cs)

def afterZeros : List Char → Option (List Char)
  | ['_'] => none
  | '_' :: '0' :: cs => afterZeros cs
  | '_' :: c :: cs => if c.isDigit then some (c :: cs) else none
  | '0' :: cs => afterZeros cs
  | cs => some cs

def joinsNumber : List Char → Bool
  | 'i' :: c :: _ => c = 'f' || c = 'n' || c = 's'
  | cs => ["and", "else", "for", "or", "not"].contains (wordOf cs)

def flawed (kind : String) : Except String (List Char) := .error s!"invalid {kind} literal"

def endNumber (kind : String) (cs : List Char) : Except String (List Char) :=
  if joinsNumber cs || !cs.head?.any fun c => c.isAlphanum || c = '_' then .ok cs else flawed kind

def decimalDigits (cs : List Char) : Except String (List Char) :=
  match afterDigits Char.isDigit cs with
  | some r => .ok r
  | none => flawed "decimal"

def imaginaryPart : List Char → Except String (List Char)
  | 'j' :: cs | 'J' :: cs => endNumber "imaginary" cs
  | cs => endNumber "decimal" cs

def exponentPart (cs : List Char) : Except String (List Char) := do
  match cs with
  | e :: c :: rest =>
    if e = 'e' || e = 'E' then
      if c = '+' || c = '-' then
        if rest.head?.any Char.isDigit then imaginaryPart (← decimalDigits rest)
        else flawed "decimal"
      else if c.isDigit then imaginaryPart (← decimalDigits rest)
      else endNumber "decimal" cs
    else imaginaryPart cs
  | cs => imaginaryPart cs

def fractionPart (cs : List Char) : Except String (List Char) := do
  if cs.head?.any Char.isDigit then exponentPart (← decimalDigits cs) else exponentPart cs

def afterWhole : List Char → Except String (List Char)
  | '.' :: cs => fractionPart cs
  | cs => exponentPart cs

def radixPart (kind : String) (isDigit : Char → Bool) (cs : List Char) :
    Except String (List Char) := do
  let inner := match cs with
    | '_' :: r => r
    | r => r
  let wrong (c : Char) : Except String (List Char) :=
    .error s!"invalid digit '{c}' in {kind} literal"
  match inner with
  | [] => flawed kind
  | c :: r =>
    if !isDigit c then if c.isDigit && kind != "hexadecimal" then wrong c else flawed kind
    else match afterDigits isDigit r with
      | none =>
        match (r.dropWhile fun c => c = '_' || isDigit c).head? with
        | some d => if d.isDigit && kind != "hexadecimal" then wrong d else flawed kind
        | none => flawed kind
      | some [] => .ok []
      | some (d :: rest) =>
        if d.isDigit && kind != "hexadecimal" then wrong d else endNumber kind (d :: rest)

def leadingZeros : String :=
  "leading zeros in decimal integer literals are not permitted; " ++
    "use an 0o prefix for octal integers"

def hexDigitChar (c : Char) : Bool := c.isDigit || ('a' ≤ c && c ≤ 'f') || ('A' ≤ c && c ≤ 'F')

def afterZero (cs : List Char) : Except String (List Char) := do
  match cs with
  | 'x' :: r | 'X' :: r => radixPart "hexadecimal" hexDigitChar r
  | 'o' :: r | 'O' :: r => radixPart "octal" (fun c => '0' ≤ c && c < '8') r
  | 'b' :: r | 'B' :: r => radixPart "binary" (fun c => c = '0' || c = '1') r
  | cs =>
    match afterZeros cs with
    | none => flawed "decimal"
    | some r =>
      if r.head?.any Char.isDigit then
        let r ← decimalDigits r
        if r.head?.any fun c => ['.', 'e', 'E', 'j', 'J'].contains c then afterWhole r
        else .error leadingZeros
      else afterWhole r

def afterNumber (first : Char) (cs : List Char) : Except String (List Char) := do
  if first = '.' then fractionPart cs
  else if first = '0' then afterZero cs
  else afterWhole (← decimalDigits cs)

def afterQuote (mark : Char) (long : Bool) : List Char → Option (List Char)
  | [] => none
  | ['\\'] => none
  | '\\' :: _ :: cs => afterQuote mark long cs
  | c :: d :: e :: cs =>
    if c = mark && !long then some (d :: e :: cs)
    else if c = mark && d = mark && e = mark then some cs
    else if c = '\n' && !long then none
    else afterQuote mark long (d :: e :: cs)
  | c :: cs => if c = mark && !long then some cs else if c = '\n' && !long then none
    else afterQuote mark long cs

/-- What stands before the end of a line. A stroke hides the character behind it. -/
def toLineEnd : List Char → List Char
  | '\\' :: c :: cs => '\\' :: c :: toLineEnd cs
  | c :: cs => if c = '\n' then [] else c :: toLineEnd cs
  | [] => []

def quotePrefixes : List String := ["", "b", "u", "r", "f", "br", "rb", "fr", "rf"]

def lineEnds (cs : List Char) : Nat := cs.count '\n'

def longMarks : List String :=
  ["**=", "//=", ">>=", "<<=", "...", "**", "//", ">>", "<<", "<=", ">=", "==", "!=", "->", "+=",
   "-=", "*=", "/=", "%=", "&=", "|=", "^=", "@=", ":=", "<>"]

def shortMarks : List Char := "()[]:,;+-*/|&<>=.%\x7b\x7d~^@".toList

def mark? (cs : List Char) : Option String :=
  match longMarks.find? fun m => m.toList.isPrefixOf cs with
  | some m => some m
  | none => (cs.head?.filter shortMarks.contains).map String.singleton

def pairs : List (Char × Char) := [('(', ')'), ('[', ']'), ('\x7b', '\x7d')]

def deepest : Nat := 200

def bracketed (opened : List Opened) (line : Nat) (c : Char) : Except Flaw (List Opened) :=
  if pairs.any fun p => p.1 = c then
    if deepest ≤ opened.length then .error { reason := "too many nested parentheses", line }
    else .ok (⟨c, line⟩ :: opened)
  else match pairs.find? fun p => p.2 = c, opened with
    | none, _ => .ok opened
    | some _, [] => .error { reason := s!"unmatched '{c}'", line }
    | some p, o :: rest =>
      if o.bracket = p.1 then .ok rest
      else
        let place := if o.line = line then "" else s!" on line {o.line}"
        let reason := s!"closing parenthesis '{c}' does not match opening parenthesis " ++
          s!"'{o.bracket}'{place}"
        .error { reason, line }

def strayText (c : Char) : String :=
  let digits := (Nat.toDigits 16 c.toNat).map Char.toUpper
  let code := "U+" ++ String.ofList (List.replicate (4 - digits.length) '0' ++ digits)
  if Text.unprintableChar c then s!"invalid non-printable character {code}"
  else s!"invalid character '{c}' ({code})"

def first (line : Nat) (c : Char) (cs : List Char) : Except Flaw (Token × List Char) := do
  let all := c :: cs
  let word := all.takeWhile wordChar
  let rest := all.drop word.length
  let quoting := quotePrefixes.contains (String.ofList (word.map Char.toLower))
  match rest with
  | q :: inner =>
    if quoting && (q = '\'' || q = '"') then
      let long := inner.take 2 == [q, q]
      match afterQuote q long (if long then inner.drop 2 else inner) with
      | some r => return (.quotation (String.ofList (all.take (all.length - r.length))), r)
      | none =>
        let passed := (if long then inner else toLineEnd inner).take (inner.length - 1)
        let kind := if long then "triple-quoted string" else "string"
        let reason := s!"unterminated {kind} literal (detected at line {line + lineEnds passed})"
        throw { reason, line }
  | [] => pure ()
  if c.isDigit || (c = '.' && cs.head?.any Char.isDigit) then
    match afterNumber c cs with
    | .ok r => return (.number (String.ofList (all.take (all.length - r.length))), r)
    | .error reason => throw { reason, line }
  else if !word.isEmpty then
    match Text.strayInName? word with
    | some d => throw { reason := strayText d, line }
    | none => return (.name (String.ofList word), rest)
  else match mark? all with
    | some m => return (.mark m, all.drop m.length)
    | none =>
      if Text.unprintableChar c then throw { reason := strayText c, line }
      else return (.stray c, cs)

/-- What stands before the first thing of a line: its width when a tab goes on to the next eighth
place, and its width when a tab is like a blank. -/
structure Margin where
  wide : Nat
  narrow : Nat
  deriving DecidableEq, Repr

namespace Margin

def none : Margin := ⟨0, 0⟩

def step? (m : Margin) (c : Char) : Option Margin :=
  if c = ' ' then some ⟨m.wide + 1, m.narrow + 1⟩
  else if c = '\t' then some ⟨8 * (m.wide / 8 + 1), m.narrow + 1⟩
  else if c = '\x0c' then some none
  else Option.none

end Margin

def tooDeep : Nat := 100

/-- The margins that lines can have, innermost first, after a line with this margin, and the tokens
that tell how they changed. -/
def indented (line : Nat) (m : Margin) (margins : List Margin) :
    Except Flaw (List Margin × List Token) :=
  let top := margins.headD .none
  let mixed : Flaw := ⟨"inconsistent use of tabs and spaces in indentation", line, .blanks⟩
  if m.wide = top.wide then if m.narrow = top.narrow then .ok (margins, []) else .error mixed
  else if top.wide < m.wide then
    if tooDeep ≤ margins.length then .error ⟨"too many levels of indentation", line, .indentation⟩
    else if m.narrow ≤ top.narrow then .error mixed
    else .ok (m :: margins, [.indent])
  else
    let left := margins.dropWhile fun n => m.wide < n.wide
    let outer := left.headD .none
    if m.wide != outer.wide then
      .error ⟨"unindent does not match any outer indentation level", line, .indentation⟩
    else if m.narrow != outer.narrow then .error mixed
    else .ok (left, List.replicate (margins.length - left.length) .dedent)

inductive Place where
  | margin (m : Margin) (fixed? : Option Margin)
  | line
  deriving DecidableEq, Repr

structure Scan where
  line : Nat
  place : Place
  opened : List Opened
  margins : List Margin
  found : Array Placed

namespace Scan

def begun : Scan := ⟨1, .margin .none none, [], [.none], #[]⟩

def push (s : Scan) (t : Token) : Scan :=
  { s with found := s.found.push ⟨t, s.line, s.opened.length⟩ }

def stopped (s : Scan) (h : Halt) : Tokens := ⟨s.found, s.opened.head?, h⟩

def unclosed (o : Opened) : Flaw := { reason := s!"'{o.bracket}' was never closed", line := o.line }

def cut (s : Scan) : Tokens :=
  s.stopped (.broken (match s.opened with
    | o :: _ => unclosed o
    | [] => { reason := "unexpected EOF while parsing", line := s.line }))

def isBlank (c : Char) : Bool := c = '#' || c = '\n'

def entered (s : Scan) (m : Margin) : Except Flaw Scan :=
  let s := { s with place := .line }
  if s.opened.isEmpty then do
    let (margins, ts) ← indented s.line m s.margins
    .ok (ts.foldl push { s with margins })
  else .ok s

def ended (s : Scan) : Tokens :=
  let finish (s : Scan) : Tokens := (s.push .ending).stopped .done
  if !s.opened.isEmpty then s.cut
  else match s.place with
    | .line => finish s
    | .margin m _ =>
      match { s with line := s.line - 1 }.entered m with
      | .ok s => finish s
      | .error f => s.stopped (.broken f)

end Scan

/-- Reads a text on. Each step takes a character at least, or leaves a margin. -/
def scan : Nat → Scan → List Char → Tokens
  | 0, s, _ => s.ended
  | _, s, [] => s.ended
  | steps + 1, s, c :: cs =>
    let nextLine : Scan := { s with line := s.line + 1 }
    let stroke (fixed : Scan) : Tokens :=
      match cs with
      | ['\n'] => s.cut
      | '\n' :: r => scan steps fixed r
      | _ =>
        s.stopped (.broken
          { reason := "unexpected character after line continuation character", line := s.line })
    match s.place with
    | .margin m fixed? =>
      match m.step? c with
      | some m => scan steps { s with place := .margin m fixed? } cs
      | none =>
        if c = '\\' then stroke { nextLine with place := .margin m (fixed?.or (some m)) }
        else if Scan.isBlank c && s.opened.isEmpty then
          scan steps { nextLine with place := .margin .none none }
            ((c :: cs).dropWhile (· != '\n')).tail
        else
          let m := match fixed? with
            | some f => if f.wide = 0 then m else f
            | none => m
          match s.entered m with
          | .ok s => scan steps s (c :: cs)
          | .error f => s.stopped (.broken f)
    | .line =>
      if c = '\n' then
        let s := if s.opened.isEmpty then s.push .lineEnd else s
        scan steps { s with line := s.line + 1, place := .margin .none none } cs
      else if c = ' ' || c = '\t' || c = '\x0c' then scan steps s cs
      else if c = '#' then scan steps s (cs.dropWhile (· != '\n'))
      else if c = '\\' then stroke nextLine
      else
        let read : Except Flaw (Token × List Char × List Opened) := do
          let (t, r) ← first s.line c cs
          let opened ← match t with
            | .mark m => bracketed s.opened s.line (m.toList.headD ' ')
            | _ => pure s.opened
          return (t, r, opened)
        match read with
        | .error f => s.stopped (.flawed f)
        | .ok (t, r, opened) =>
          let passed := lineEnds ((c :: cs).take (cs.length + 1 - r.length))
          let s := { s with opened }.push t
          scan steps { s with line := s.line + passed } r

def oneLineEnd : List Char → List Char
  | '\r' :: '\n' :: cs | '\r' :: cs => '\n' :: oneLineEnd cs
  | c :: cs => c :: oneLineEnd cs
  | [] => []

def withLineEnd (cs : List Char) : List Char :=
  if cs.getLast?.any (· != '\n') then cs ++ ['\n'] else cs

/-- The tokens of a text whose first line has this number. The last line of a `closed` text has an
end. -/
def ofText (line : Nat) (closed : Bool) (text : String) : Tokens :=
  let cs := oneLineEnd text.toList
  let cs := if closed then withLineEnd cs else cs
  scan (2 * cs.length + 1) { Scan.begun with line } cs

end Token

end Criteria
