import Criteria.Model.Expression
import Criteria.Model.Token
import Criteria.Text.Named

set_option autoImplicit false

namespace Criteria

structure Quotation where
  letters : List Char
  body : List Char
  deriving DecidableEq, Repr

inductive QuotationFlaw where
  | here (reason : String)
  | begun (reason : String) (line : Nat)
  | inside (f : Flaw)
  deriving Repr

namespace Quotation

def isMark (c : Char) : Bool := c = '\'' || c = '"'

def ofWritten (written : String) : Quotation :=
  let cs := written.toList
  let body := cs.dropWhile fun c => !isMark c
  let long := 6 ≤ body.length && body.take 3 == List.replicate 3 (body.headD ' ')
  let width := if long then 3 else 1
  ⟨(cs.takeWhile fun c => !isMark c).map Char.toLower,
    (body.drop width).take (body.length - 2 * width)⟩

def isBytes (q : Quotation) : Bool := q.letters.contains 'b'

def isRaw (q : Quotation) : Bool := q.letters.contains 'r'

def isComposed (q : Quotation) : Bool := q.letters.contains 'f'

def escapes : List (Char × Char) :=
  [('\\', '\\'), ('\'', '\''), ('"', '"'), ('n', '\n'), ('t', '\t'), ('r', '\r'),
   ('a', '\x07'), ('b', '\x08'), ('f', '\x0c'), ('v', '\x0b')]

/-- How many digits follow the letters for a character by its number, and how they are asked for. -/
def numbered : List (Char × Nat × String) :=
  [('x', 2, "\\xXX"), ('u', 4, "\\uXXXX"), ('U', 8, "\\UXXXXXXXX")]

def isOctal (c : Char) : Bool := '0' ≤ c && c < '8'

def digitsIn (base : Nat) (digits : List Char) : Nat :=
  digits.foldl (fun n c =>
    base * n + (if c.isDigit then c.toNat - '0'.toNat else c.toLower.toNat - 'a'.toNat + 10)) 0

/-- Characters that are not of the basic ones are written by their numbers. A stroke that belongs to
no basic character is written by its own. -/
def basic : List Char → List Char
  | '\\' :: c :: cs =>
    if c.toNat < 0x80 then '\\' :: c :: basic cs
    else "\\u005c\\U".toList ++ Text.hexDigits 8 c.toNat ++ basic cs
  | ['\\'] => "\\u005c".toList
  | c :: cs =>
    if c.toNat < 0x80 then c :: basic cs else "\\U".toList ++ Text.hexDigits 8 c.toNat ++ basic cs
  | [] => []

def undecoded (first last : Nat) (why : String) : String :=
  s!"(unicode error) 'unicodeescape' codec can't decode bytes in position {first}-{last}: " ++ why

def malformedName : String := "malformed \\N character escape"

def escaped (place : Nat) (c : Char) (cs : List Char) : Except String (List Char × Nat) :=
  match numbered.lookup c, escapes.lookup c with
  | some (count, asked), _ =>
    let digits := (cs.take count).takeWhile Token.hexDigitChar
    let n := digitsIn 16 digits
    if digits.length < count then
      .error (undecoded place (place + 1 + digits.length) ("truncated " ++ asked ++ " escape"))
    else if 0x10FFFF < n then
      .error (undecoded place (place + 1 + count) "illegal Unicode character")
    else .ok ([if n.isValidChar then Char.ofNat n else '\uFFFD'], count)
  | none, some d => .ok ([d], 0)
  | none, none =>
    if c = '\n' then .ok ([], 0)
    else if isOctal c then
      let more := (cs.take 2).takeWhile isOctal
      .ok ([Char.ofNat (digitsIn 8 (c :: more))], more.length)
    else if c = 'N' then
      match cs with
      | '\x7b' :: rest =>
        let name := rest.takeWhile (· != '\x7d')
        if name.length = rest.length then
          .error (undecoded place (place + 2 + name.length) malformedName)
        else if name.isEmpty then .error (undecoded place (place + 2) malformedName)
        else match Text.named? (String.ofList name) with
          | some d => .ok ([d], name.length + 2)
          | none =>
            .error (undecoded place (place + 3 + name.length) "unknown Unicode character name")
      | _ => .error (undecoded place (place + 1) malformedName)
    else .ok (['\\', c], 0)

def decoded : Nat → Nat → List Char → Except String (List Char)
  | 0, _, _ => .ok []
  | _, _, [] => .ok []
  | steps + 1, place, '\\' :: c :: cs => do
    let (ds, more) ← escaped place c cs
    let rest ← decoded steps (place + 2 + more) (cs.drop more)
    .ok (ds ++ rest)
  | steps + 1, place, c :: cs => do
    let rest ← decoded steps (place + 1) cs
    .ok (c :: rest)

def textOf (raw : Bool) (cs : List Char) : Except String (List Char) :=
  if raw || !cs.contains '\\' then .ok cs
  else
    let cs := basic cs
    decoded cs.length 0 cs

def bytesOf (raw : Bool) : Nat → Nat → List Char → Except String (List Char)
  | 0, _, _ => .ok []
  | _, _, [] => .ok []
  | steps + 1, place, '\\' :: c :: cs =>
    if raw then do .ok ('\\' :: c :: (← bytesOf raw steps (place + 2) cs))
    else if c = 'x' && ((cs.take 2).takeWhile Token.hexDigitChar).length < 2 then
      .error s!"(value error) invalid \\x escape at position {place}"
    else if ['u', 'U', 'N'].contains c then do
      .ok ('\\' :: c :: (← bytesOf raw steps (place + 2) cs))
    else do
      let (ds, more) ← escaped place c cs
      .ok (ds ++ (← bytesOf raw steps (place + 2 + more) (cs.drop more)))
  | steps + 1, place, c :: cs => do .ok (c :: (← bytesOf raw steps (place + 1) cs))

structure Inner where
  mark : Char
  long : Bool

def unmatched (c : Char) : String := s!"f-string: unmatched '{c}'"

/-- Divides what follows an opening brace into an expression and the rest, which begins with what
ends the expression. -/
def divide : Nat → Option Inner → List Char → List Char → Except String (List Char × List Char)
  | 0, _, _, _ => .ok ([], [])
  | _, some _, _, [] => .error "f-string: unterminated string"
  | _, none, o :: _, [] => .error (unmatched o)
  | _, none, [], [] => .ok ([], [])
  | steps + 1, inner, opened, c :: cs =>
    let pass (inner : Option Inner) (opened : List Char) (more : Nat) :
        Except String (List Char × List Char) := do
      let (e, rest) ← divide steps inner opened (cs.drop more)
      .ok (c :: cs.take more ++ e, rest)
    if c = '\\' then .error "f-string expression part cannot include a backslash"
    else match inner with
      | some q =>
        if c != q.mark then pass inner opened 0
        else if !q.long then pass none opened 0
        else if cs.take 2 == [c, c] then pass none opened 2
        else pass inner opened 0
      | none =>
        if isMark c then
          if cs.take 2 == [c, c] then pass (some ⟨c, true⟩) opened 2
          else pass (some ⟨c, false⟩) opened 0
        else if Token.pairs.any fun p => p.1 = c then
          if Token.deepest ≤ opened.length then .error "f-string: too many nested parenthesis"
          else pass none (c :: opened) 0
        else if c = '#' then .error "f-string expression part cannot include '#'"
        else if opened.isEmpty && ['!', ':', '\x7d', '=', '<', '>'].contains c then
          if ['!', '=', '<', '>'].contains c && cs.head? = some '=' then pass none opened 1
          else if c = '<' || c = '>' then pass none opened 0
          else .ok ([], c :: cs)
        else match Token.pairs.find? fun p => p.2 = c, opened with
          | none, _ => pass none opened 0
          | some _, [] => .error (unmatched c)
          | some p, o :: outer =>
            if o = p.1 then pass none outer 0
            else .error (s!"f-string: closing parenthesis '{c}' does not match opening " ++
              s!"parenthesis '{o}'")

/-- What a text holds up to the next expression or the end, whether a doubled brace ended it, and
the rest. -/
def literal (raw nested : Bool) : Nat → List Char → Except String (List Char × Bool × List Char)
  | 0, cs => .ok ([], false, cs)
  | _, [] => .ok ([], false, [])
  | steps + 1, c :: cs =>
    let pass (more : Nat) : Except String (List Char × Bool × List Char) := do
      let (t, doubled, rest) ← literal raw nested steps (cs.drop more)
      .ok (c :: cs.take more ++ t, doubled, rest)
    let brace (stroke : List Char) (c : Char) (cs : List Char) :
        Except String (List Char × Bool × List Char) :=
      if !nested && cs.head? = some c then .ok (stroke ++ [c], true, cs.tail)
      else if !nested && c = '\x7d' then .error "f-string: single '\x7d' is not allowed"
      else .ok (stroke, false, c :: cs)
    let isBrace (c : Char) : Bool := c = '\x7b' || c = '\x7d'
    match raw || c != '\\', cs with
    | false, 'N' :: '\x7b' :: rest => pass ((rest.takeWhile (· != '\x7d')).length + 3)
    | false, 'N' :: _ => pass 2
    | false, d :: rest => if isBrace d then brace [c] d rest else pass 1
    | _, _ => if isBrace c then brace [] c cs else pass 0

def isSpace (c : Char) : Bool := c = ' ' || (9 ≤ c.toNat && c.toNat ≤ 13)

abbrev Inside := Nat → List Char → Except QuotationFlaw Expression

def here {α : Type} (reason : String) : Except QuotationFlaw α := .error (.here reason)

def told {α : Type} : Except String α → Except QuotationFlaw α
  | .ok a => .ok a
  | .error reason => here reason

def unended : String := "f-string: expecting '\x7d'"

def insertedIn (inside : Inside) (lines : Nat) (text rest : List Char) :
    Except QuotationFlaw Expression :=
  match text.all (fun c => [' ', '\t', '\n', '\x0c'].contains c), rest with
  | _, [] => here unended
  | true, '\x7d' :: _ => here "f-string: empty expression not allowed"
  | true, c :: _ => here s!"f-string: expression required before '{c}'"
  | false, _ => inside lines text

def shownAs : List Char → Except QuotationFlaw (Option Char × List Char)
  | ['!'] => here unended
  | '!' :: c :: rest =>
    if ['s', 'r', 'a'].contains c then .ok (some c, rest)
    else here "f-string: invalid conversion character: expected 's', 'r', or 'a'"
  | rest => .ok (none, rest)

mutual

def parts (inside : Inside) (raw : Bool) (lines : Nat) :
    Nat → Nat → List Char → Except QuotationFlaw (List Expression × List Char)
  | 0, _, cs => .ok ([], cs)
  | steps + 1, level, cs => do
    let (t, doubled, rest) ← told (literal raw (level != 0) (cs.length + 1) cs)
    let t ← told (textOf raw t)
    let before := if t.isEmpty then [] else [Expression.text (String.ofList t)]
    if doubled then
      let (more, rest) ← parts inside raw lines steps level rest
      .ok (before ++ more, rest)
    else match rest with
      | '\x7b' :: cs =>
        let (found, rest) ← part inside raw lines steps level cs
        let (more, rest) ← parts inside raw lines steps level rest
        .ok (before ++ found ++ more, rest)
      | rest => .ok (before, rest)

def part (inside : Inside) (raw : Bool) (lines : Nat) :
    Nat → Nat → List Char → Except QuotationFlaw (List Expression × List Char)
  | 0, _, cs => .ok ([], cs)
  | steps + 1, level, cs => do
    if 2 ≤ level then here "f-string: expressions nested too deeply"
    else
      let (text, rest) ← told (divide (cs.length + 1) none [] cs)
      let e ← insertedIn inside (lines - Token.lineEnds cs) text rest
      let behind := match rest with
        | '=' :: r => r.dropWhile isSpace
        | r => r
      let shown := if rest.head? = some '=' then
          [Expression.text (String.ofList (cs.take (cs.length - behind.length)))]
        else []
      if behind.isEmpty then here unended
      else
        let (letter, rest) ← shownAs behind
        let (form, rest) ← match rest with
          | [':'] => here unended
          | ':' :: r => do
            let (es, r) ← parts inside raw lines steps (level + 1) r
            if r.head? = some '\x7d' then pure (some (Expression.composed es), r) else here unended
          | r => pure (none, r)
        match rest with
        | '\x7d' :: r =>
          let letter := if shown.isEmpty || form.isSome then letter else letter.or (some 'r')
          .ok (shown ++ [.inserted e letter form], r)
        | _ => here unended

end

def contents (line : Nat) (q : Quotation) : Except QuotationFlaw (List Expression) := do
  if q.isBytes then
    if q.body.any fun c => 0x80 ≤ c.toNat then
      .error (.begun "bytes can only contain ASCII literal characters" line)
    else
      let cs ← told (bytesOf q.isRaw q.body.length 0 q.body)
      .ok [.bytes (cs.map fun c => UInt8.ofNat c.toNat)]
  else if q.isComposed then .ok []
  else
    let t ← told (textOf q.isRaw q.body)
    .ok [.text (String.ofList t)]

def composedOf (inside : Inside) (q : Quotation) : Except QuotationFlaw (List Expression) := do
  let (es, rest) ← parts inside q.isRaw (Token.lineEnds q.body) (2 * q.body.length + 2) 0 q.body
  if 1 < rest.length then here "f-string: unexpected end of string" else .ok es

def allContents (inside : Nat → Inside) : Option Bool → List Placed →
    Except QuotationFlaw (List Expression)
  | _, [] => .ok []
  | bytes?, p :: rest => do
    let q := match p.token with
      | .quotation written => ofWritten written
      | _ => ⟨[], []⟩
    let es ← contents p.line q
    if bytes?.any (· != q.isBytes) then here "cannot mix bytes and nonbytes literals"
    else
      let es ← if q.isComposed then composedOf (inside p.line) q else pure es
      let more ← allContents inside (some q.isBytes) rest
      .ok (es ++ more)

def joined : List Expression → List Expression
  | .text s :: es =>
    match joined es with
    | .text t :: more => .text (s ++ t) :: more
    | more => .text s :: more
  | e :: es => e :: joined es
  | [] => []

def isBytesPart : Expression → Option (List UInt8)
  | .bytes data => some data
  | _ => none

/-- The expression that quotations side by side are. `inside` reads the expressions that stand in a
quotation of a line. -/
def read (inside : Nat → Inside) (ps : List Placed) : Except QuotationFlaw Expression := do
  let es ← allContents inside none ps
  let composed := ps.any fun p => match p.token with
    | .quotation w => (ofWritten w).isComposed
    | _ => false
  if es.any fun e => (isBytesPart e).isSome then .ok (.bytes (es.filterMap isBytesPart).flatten)
  else if composed then .ok (.composed (joined es))
  else match joined es with
    | [e] => .ok e
    | _ => .ok (.text "")

end Quotation

end Criteria
