set_option autoImplicit false

namespace Criteria

/-- Arguments named `kind` are names of classes, and a `callee` is what was called. -/
inductive ArgumentFault where
  | places (callee : String) (least most given : Nat)
  | atMost (callee : String) (named : Bool) (most given : Nat)
  | atLeast (callee : String) (least given : Nat)
  | nameless (callee : String)
  | foreignName (callee name : String)
  | namedAgain (callee name : String) (place : Nat)
  | absent (callee name : String) (place : Nat)
  | absentSource
  | repeatedName (callee name : String)
  | nameKind
  | oneOrThree
  | noSources
  | spread (callee kind : String)
  | mapping (callee kind : String)
  | entriesOf (kind : String)
  | magnitude (kind : String)
  | waitingPass (kind : String)
  | waitingStep (kind : String)
  | step (kind : String)
  | backward (kind : String)
  | rounding (kind : String)
  | character (kind : String)
  | characterLength (length : Nat)
  | characterRange
  | wideCharacter
  | instanceOf
  | heirOf
  | heir
  | parametrised (callee : String)
  | formTested (shown callee : String)
  | argumentsTested
  | sentinel
  | nothingChosen (callee : String)
  | defaultAmongPlaces (callee : String)
  | texts (what joiner : String)
  | modulusZero
  | moduli
  | operands (first second third : String)
  | realQuotient
  | noInverse
  | complexPart (kind : String)
  | complexSecond (kind : String)
  | complexText
  | complexTexts (first : Bool)
  | realNumber (kind : String)
  | endlessNumber (infinite : Bool)
  | baseRange
  | baseAlone
  | baseOfNumber
  | digits (base : Nat) (shown : String)
  | bytesOf (className kind : String)
  | negativeCount
  | encodingAbsent
  | encodingGiven
  | decoded
  | decodedKind (kind : String)
  | bytesRange
  | buffer (kind : String)
  | bytesNeeded (kind : String)
  | mostKind
  | negativeMost
  | textAt (callee place kind : String)
  | partOfClass (place : Nat) (expected kind : String)
  | source (callee : String)
  | classAt (kind : String)
  | attributesOf
  | exhausted
  | factory
  | mostPlaces (most given : Nat)
  | unpacked (many : Bool) (length : Nat)
  | referenceText (shown : String)
  | singleConstraint
  | form (letter kind : String)
  | formOf (kind : String)
  | strippedKind (callee : String)
  | unjoined
  | textOnly (kind : String)
  | textOrNothing (kind : String)
  | ends (callee kind : String)
  | endsAbsent (callee : String)
  | emptySeparator
  | notWithin
  | notInList (shown : String)
  | notInRow
  | notRemoved
  | poppedEmpty
  | poppedOutside
  | noPlaces (callee : String)
  | reached (shown : String)
  | noProtocol (shown : String)
  | withoutClass
  | unbound (kind name : String)
  | otherKind (kind name given : String)
  deriving DecidableEq, Repr

namespace ArgumentFault

def counted (n : Nat) : String := toString n ++ (if n = 1 then " argument" else " arguments")

def message : ArgumentFault → String
  | places callee least most given =>
    let bound := if least = most then counted most
      else if given < least then "at least " ++ counted least
      else "at most " ++ counted most
    s!"{callee} expected {bound}, got {given}"
  | atMost callee named most given =>
    let noun := (if named then "keyword argument" else "argument") ++ (if most = 1 then "" else "s")
    s!"{callee}() takes at most {most} {noun} ({given} given)"
  | atLeast callee least given =>
    let noun := if least = 1 then "argument" else "arguments"
    s!"{callee}() takes at least {least} positional {noun} ({given} given)"
  | nameless callee => s!"{callee}() takes no keyword arguments"
  | foreignName callee name => s!"'{name}' is an invalid keyword argument for {callee}()"
  | namedAgain callee name place =>
    s!"argument for {callee}() given by name ('{name}') and position ({place})"
  | absent callee name place => s!"{callee}() missing required argument '{name}' (pos {place})"
  | absentSource => "enumerate() missing required argument 'iterable'"
  | repeatedName callee name => s!"{callee} got multiple values for keyword argument '{name}'"
  | nameKind => "keywords must be strings"
  | oneOrThree => "type() takes 1 or 3 arguments"
  | noSources => "map() must have at least two arguments."
  | spread callee kind => s!"{callee} argument after * must be an iterable, not {kind}"
  | mapping callee kind => s!"{callee} argument after ** must be a mapping, not {kind}"
  | entriesOf kind => s!"'{kind}' object is not a mapping"
  | magnitude kind => s!"bad operand type for abs(): '{kind}'"
  | waitingPass kind => s!"'{kind}' object is not an async iterable"
  | waitingStep kind => s!"'{kind}' object is not an async iterator"
  | step kind => s!"'{kind}' object is not an iterator"
  | backward kind => s!"'{kind}' object is not reversible"
  | rounding kind => s!"type {kind} doesn't define __round__ method"
  | character kind => s!"ord() expected string of length 1, but {kind} found"
  | characterLength length =>
    s!"ord() expected a character, but string of length {length} found"
  | characterRange => "chr() arg not in range(0x110000)"
  | wideCharacter => "Python int too large to convert to C int"
  | instanceOf => "isinstance() arg 2 must be a type, a tuple of types, or a union"
  | heirOf => "issubclass() arg 2 must be a class, a tuple of classes, or a union"
  | heir => "issubclass() arg 1 must be a class"
  | parametrised callee => s!"{callee}() argument 2 cannot be a parameterized generic"
  | formTested shown callee => s!"{shown} cannot be used with {callee}()"
  | argumentsTested => "Subscripted generics cannot be used with class and instance checks"
  | sentinel => "iter(v, w): v must be callable"
  | nothingChosen callee => s!"{callee}() arg is an empty sequence"
  | defaultAmongPlaces callee =>
    s!"Cannot specify a default for {callee}() with multiple positional arguments"
  | texts what joiner => s!"sum() can't sum {what} [use {joiner}.join(seq) instead]"
  | modulusZero => "pow() 3rd argument cannot be 0"
  | moduli => "pow() 3rd argument not allowed unless all arguments are integers"
  | operands first second third =>
    s!"unsupported operand type(s) for ** or pow(): '{first}', '{second}', '{third}'"
  | realQuotient => "float divmod()"
  | noInverse => "base is not invertible for the given modulus"
  | complexPart kind => s!"complex() first argument must be a string or a number, not '{kind}'"
  | complexSecond kind => s!"complex() second argument must be a number, not '{kind}'"
  | complexText => "complex() arg is a malformed string"
  | complexTexts first =>
    if first then "complex() can't take second arg if first is a string"
    else "complex() second arg can't be a string"
  | realNumber kind => s!"float() argument must be a string or a real number, not '{kind}'"
  | endlessNumber infinite =>
    if infinite then "cannot convert float infinity to integer"
    else "cannot convert float NaN to integer"
  | baseRange => "int() base must be >= 2 and <= 36, or 0"
  | baseAlone => "int() missing string argument"
  | baseOfNumber => "int() can't convert non-string with explicit base"
  | digits base shown => s!"invalid literal for int() with base {base}: {shown}"
  | bytesOf className kind => s!"cannot convert '{kind}' object to {className}"
  | negativeCount => "negative count"
  | encodingAbsent => "string argument without an encoding"
  | encodingGiven => "encoding without a string argument"
  | decoded => "decoding str is not supported"
  | decodedKind kind => s!"decoding to str: need a bytes-like object, {kind} found"
  | bytesRange => "bytes must be in range(0, 256)"
  | buffer kind => s!"memoryview: a bytes-like object is required, not '{kind}'"
  | bytesNeeded kind => s!"a bytes-like object is required, not '{kind}'"
  | mostKind => "an integer is required"
  | negativeMost => "maxlen must be non-negative"
  | textAt callee place kind => s!"{callee}() argument {place} must be str, not {kind}"
  | partOfClass place expected kind =>
    s!"type.__new__() argument {place} must be {expected}, not {kind}"
  | source callee => s!"{callee}() arg 1 must be a string, bytes or code object"
  | classAt kind => s!"super() argument 1 must be a type, not {kind}"
  | attributesOf => "vars() argument must have __dict__ attribute"
  | exhausted => ""
  | mostPlaces most given => s!"expected at most {most} arguments, got {given}"
  | unpacked many length =>
    if many then "too many values to unpack (expected 2)"
    else if length = 0 then "need more than 0 values to unpack"
    else "need more than 1 value to unpack"
  | factory => "first argument must be callable or None"
  | referenceText shown => s!"Forward reference must be a string -- got {shown}"
  | singleConstraint => "A single constraint is not allowed"
  | form letter kind => s!"Unknown format code '{letter}' for object of type '{kind}'"
  | formOf kind => s!"unsupported format string passed to {kind}.__format__"
  | strippedKind callee => s!"{callee} arg must be None or str"
  | unjoined => "can only join an iterable"
  | textOnly kind => s!"must be str, not {kind}"
  | textOrNothing kind => s!"must be str or None, not {kind}"
  | ends callee kind => s!"{callee} first arg must be str or a tuple of str, not {kind}"
  | endsAbsent callee => s!"{callee}() takes at least 1 argument (0 given)"
  | emptySeparator => "empty separator"
  | notWithin => "substring not found"
  | notInList shown => s!"{shown} is not in list"
  | notInRow => "tuple.index(x): x not in tuple"
  | notRemoved => "list.remove(x): x not in list"
  | poppedEmpty => "pop from empty list"
  | poppedOutside => "pop index out of range"
  | noPlaces callee => s!"{callee}() takes no positional arguments"
  | reached shown => s!"Expected code to be unreachable, but got: {shown}"
  | noProtocol shown =>
    s!"@runtime_checkable can be only applied to protocol classes, got {shown}"
  | withoutClass => "super(): no arguments"
  | unbound kind name => s!"unbound method {kind}.{name}() needs an argument"
  | otherKind kind name given =>
    s!"descriptor '{name}' for '{kind}' objects doesn't apply to a '{given}' object"

end ArgumentFault

end Criteria
