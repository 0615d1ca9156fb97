import Criteria.Fault.Argument

set_option autoImplicit false

namespace Criteria

inductive UsageKind where
  | usage
  | startIndex
  | fieldList
  deriving DecidableEq, Repr

inductive FlawKind where
  | writing
  | indentation
  /-- Blanks and tabs before lines that are not told apart. -/
  | blanks
  deriving DecidableEq, Repr

inductive FaultKind where
  | typeMismatch
  | badValue
  | member
  | position
  | key
  | naming
  | grammar (k : FlawKind)
  | division
  | frozen
  | recursion
  | overflow
  | memory
  | arithmetic
  | decimalDivision
  | exhaustion
  | assertion
  | state
  | qualifier
  | usage (k : UsageKind)
  deriving DecidableEq, Repr

namespace UsageKind

def all : List UsageKind := [usage, startIndex, fieldList]

def name : UsageKind → String
  | usage => "BuilderUsageError"
  | startIndex => "InvalidStartIndexError"
  | fieldList => "InvalidFieldListError"

def ofName? (s : String) : Option UsageKind := all.find? fun k => k.name = s

def defaultText : String := "Invalid use of the condition builder."

def ancestry (k : UsageKind) : List String :=
  (if k = usage then [] else [k.name]) ++ [usage.name, "ValueError", "Exception", "BaseException"]

end UsageKind

namespace FaultKind

def name : FaultKind → String
  | typeMismatch => "TypeError"
  | badValue => "ValueError"
  | member => "AttributeError"
  | position => "IndexError"
  | key => "KeyError"
  | naming => "NameError"
  | grammar .writing => "SyntaxError"
  | grammar .indentation => "IndentationError"
  | grammar .blanks => "TabError"
  | division => "ZeroDivisionError"
  | frozen => "FrozenInstanceError"
  | recursion => "RecursionError"
  | overflow => "OverflowError"
  | memory => "MemoryError"
  | arithmetic => "InvalidOperation"
  | decimalDivision => "DivisionByZero"
  | exhaustion => "StopIteration"
  | assertion => "AssertionError"
  | state => "RuntimeError"
  | qualifier => "PydanticForbiddenQualifier"
  | usage k => k.name

end FaultKind

/-- What was done when a value that holds itself was followed without end. -/
inductive Pursuit where
  | showing
  | comparing
  | keying
  deriving DecidableEq, Repr

def Pursuit.text : Pursuit → String
  | showing => "while getting the repr of an object"
  | comparing => "in comparison"
  | keying => "while calling a Python object"

/-- Arguments named `kind` are names of classes, arguments named `shown` are printed values, and a
`callee` is what was called. -/
inductive Fault where
  | blankPath
  | noAttribute (kind member : String)
  | classLacksAttribute (kind member : String)
  | hiddenAttribute (member : String)
  | emptySlot (slot : String)
  | pathIsFixed
  | attributeOfField (member : String)
  | pathStays
  | frozenAttribute (shown : String)
  | frozenDeletion (shown : String)
  | noSetter (kind member : String)
  | noDeleter (kind member : String)
  | operationStays (kind member : String)
  | partOf (kind member : String)
  | boundOfRange
  | partOfPoint (deleted : Bool)
  | partOfMode (deleted : Bool) (member : String)
  | modeStays (member : String)
  | modeRemains (kind member : String)
  | fixedClass (kind member : String)
  | keptInClass (kind member : String)
  | notClassText (kind member given : String)
  | nullInName
  | nullInText
  | classOfClass (given : String)
  | classOfClassStays
  | classOfOther
  | basesKind (kind given : String)
  | notPair (place : Nat)
  | pairLength (place length : Nat)
  | unhinted (shown : String)
  | memberNameKind (kind : String)
  | negativeKey
  | keyKind (kind : String)
  | missingKey (shown : String)
  | notIndexed (kind : String)
  | classNotIndexed (kind : String)
  | outOfRange (kind : String)
  | byteOutOfRange
  | indexOverflow
  | textIndexKind (kind : String)
  | sequenceIndexKind (sequence kind : String)
  | dequeIndexKind (kind : String)
  | notCallable (kind : String)
  | bytesStart
  | nothingStarted
  | fieldKind (kind : String)
  | notMode (shown : String)
  | noModeNamed (shown : String)
  | patternKind (mode kind : String)
  | singleField (shown : String)
  | noFields
  | joinItem (position : Nat) (kind : String)
  | withinKind (kind : String)
  | orderKind (kind : String)
  | startKind (kind : String)
  | startNegative (n : Int)
  | reservedKind (kind : String)
  | notExtended (kind : String)
  | bytesExtended (kind other : String)
  | onlyConcatenates (own other : String)
  | notIterable (kind : String)
  | noLength (kind : String)
  | countOverflow
  | lengthOverflow
  | negativeLength
  | noMemory
  | unhashable (kind : String)
  | signalingKey
  | signalingComparison
  | decimalSyntax
  | decimalLimit
  | binarySyntax (shown : String)
  | wholeSyntax (shown : String)
  | tooManyDigits (found : Option Nat)
  | zeroStep
  | yearZero
  | monthRange
  | dayRange
  | timePart (unit : String) (last : Nat)
  | calendarSyntax (shown : String)
  | notText (kind : String)
  | byteRange
  | notInteger (kind : String)
  | missingArguments (callee : String) (names : List String)
  | tooManyArguments (callee : String) (least most given : Nat)
  | unexpectedArgument (callee name : String)
  | repeatedArgument (callee name : String)
  | oneArgument (callee : String) (given : Nat)
  | noArguments (callee : String) (given : Nat)
  | argumentsUnknown (callee : String)
  | notWhole (kind : String)
  | duplicateBase (name : String)
  | noLinearOrder (names : List String)
  | unrelatedClasses
  | conflictingLayouts
  | noBaseClass (kind : String)
  | placeKind (kind : String)
  | placeName
  | placeTaken (name why : String)
  | placeFilled (shown : String)
  | noPlaces (kind : String)
  | fullNameKind (kind : String)
  | notCell (kind : String)
  | mutableDefault (shown name : String)
  | defaultOrder (shown : String)
  /-- A text that a name of a parameter spoils, and the line where it does. -/
  | parameterName (reason : String) (line : Nat) (flaw : FlawKind)
  | repeatedParameter (name : String) (line : Nat)
  | frozenParent
  | foreignQualifier
  | unknownName (name : String)
  | unsupportedOperands (op left right : String)
  | unsupportedOperand (op kind : String)
  | notOrdered (op left right : String)
  | notType (rule shown : String)
  | argumentCount (form : String) (actual expected : Nat)
  | argumentsMissing (form rule : String)
  | noArgumentTypes (form : String)
  | notIndexedForm (shown : String)
  | indexedTwice (shown : String)
  | openEnd
  | callsRule
  | noParameters (form : String)
  | foreignParameters (form : String)
  | repeatedParameters (form : String)
  | notRowOfTypes (shown : String)
  | fewArguments (form : String)
  | notArgument (expression : String)
  | notGeneric (shown : String)
  | notMade (shown : String)
  | formMadeBy (form className : String)
  | formNotMade (form : String)
  | remarksNotMade
  | leavesOperations (className : String) (operations : List String)
  | neverMade (className : String)
  | notRepeated (kind : String)
  | notContainer (kind : String)
  | notInText (kind : String)
  | notSpread (kind : String)
  | notInModule (name : String)
  | notExpression (shown : String)
  | emptyExpression
  | numberForm (rule kind : String)
  | formLetter (letter : Char) (place : Nat)
  | formUnused
  | boundKind
  | zeroSliceStep
  | formMissing
  | formIncomplete
  | divisionByZero
  | zeroPower
  | complexByZero
  | decimalByZero
  | noQuotient
  | negativeShift
  | wholeTooLarge
  | quotientTooLarge
  | wholeDivisionByZero (modulo : Bool)
  | binaryDivisionByZero (op : String)
  | argument (f : ArgumentFault)
  | endless (pursuit : Pursuit)
  deriving DecidableEq, Repr

def ArgumentFault.kind : ArgumentFault → FaultKind
  | characterRange | nothingChosen _ | modulusZero | noInverse | complexText | endlessNumber false
  | baseRange | digits .. | negativeCount | bytesRange | form .. | emptySeparator | notWithin
  | notInList _ | notInRow | notRemoved | unpacked .. | negativeMost => .badValue
  | poppedEmpty | poppedOutside => .position
  | wideCharacter | endlessNumber true => .overflow
  | exhausted => .exhaustion
  | reached _ => .assertion
  | withoutClass => .state
  | realQuotient => .division
  | _ => .typeMismatch

namespace Fault

def kind : Fault → FaultKind
  | noAttribute .. | classLacksAttribute .. | hiddenAttribute _ | emptySlot _ | pathIsFixed
  | attributeOfField _ | pathStays | noSetter .. | noDeleter .. | operationStays .. | partOf ..
  | boundOfRange | partOfPoint _ | partOfMode .. | modeStays _ | modeRemains .. | notInModule _ =>
    .member
  | frozenAttribute _ | frozenDeletion _ => .frozen
  | negativeKey | outOfRange _ | byteOutOfRange | indexOverflow | emptyExpression => .position
  | notMode _ | byteRange | negativeLength | binarySyntax _ | wholeSyntax _ | tooManyDigits _
  | zeroStep | yearZero | monthRange | dayRange | timePart .. | calendarSyntax _
  | mutableDefault .. | placeFilled _ | nullInName | nullInText | pairLength ..
  | negativeShift | formLetter .. | formIncomplete | zeroSliceStep => .badValue
  | noModeNamed _ | missingKey _ => .key
  | singleField _ | noFields => .usage .fieldList
  | startKind _ | startNegative _ => .usage .startIndex
  | unknownName _ => .naming
  | parameterName _ _ flaw => .grammar flaw
  | notExpression _ | repeatedParameter .. => .grammar .writing
  | divisionByZero | wholeDivisionByZero _ | binaryDivisionByZero _ | zeroPower
  | complexByZero => .division
  | decimalByZero => .decimalDivision
  | countOverflow | lengthOverflow | wholeTooLarge | quotientTooLarge => .overflow
  | noMemory => .memory
  | foreignQualifier => .qualifier
  | signalingComparison | decimalSyntax | decimalLimit | noQuotient => .arithmetic
  | endless _ => .recursion
  | argument f => f.kind
  | _ => .typeMismatch

def listed (names : List String) : String :=
  let quoted := names.map fun n => s!"'{n}'"
  match quoted with
  | [m, n] => s!"{m} and {n}"
  | _ :: _ :: _ =>
    let last := quoted.getLastD ""
    ", ".intercalate quoted.dropLast ++ s!", and {last}"
  | _ => ", ".intercalate quoted

def countText (least most given : Nat) : String :=
  let taken := if least = most then toString most else s!"from {least} to {most}"
  let noun := if least = most && most = 1 then "argument" else "arguments"
  let verb := if given = 1 then "was" else "were"
  s!"takes {taken} positional {noun} but {given} {verb} given"

def message : Fault → String
  | blankPath => "Field path must be a non-empty string"
  | noAttribute kind member => s!"'{kind}' object has no attribute '{member}'"
  | classLacksAttribute kind member => s!"type object '{kind}' has no attribute '{member}'"
  | hiddenAttribute member => s!"No attribute '{member}'"
  | emptySlot slot => slot
  | pathIsFixed => "Cannot modify Field attributes after initialization."
  | attributeOfField member => s!"Cannot set attribute '{member}' on Field object."
  | pathStays => "property 'path' of 'Field' object has no deleter"
  | frozenAttribute shown => s!"cannot assign to field {shown}"
  | frozenDeletion shown => s!"cannot delete field {shown}"
  | noSetter kind member => s!"property '{member}' of '{kind}' object has no setter"
  | noDeleter kind member => s!"property '{member}' of '{kind}' object has no deleter"
  | operationStays kind member => s!"'{kind}' object attribute '{member}' is read-only"
  | partOf kind member => s!"attribute '{member}' of '{kind}' objects is not writable"
  | boundOfRange => "readonly attribute"
  | partOfPoint deleted => if deleted then "can't delete attribute" else "can't set attribute"
  | partOfMode deleted member =>
    let verb := if deleted then "delete" else "set"
    s!"<enum 'Enum'> cannot {verb} attribute '{member}'"
  | modeStays member => s!"cannot reassign member '{member}'"
  | modeRemains kind member => s!"'{kind}' cannot delete member '{member}'."
  | fixedClass kind member => s!"cannot set '{member}' attribute of immutable type '{kind}'"
  | keptInClass kind member => s!"cannot delete '{member}' attribute of immutable type '{kind}'"
  | notClassText kind member given =>
    s!"can only assign string to {kind}.{member}, not '{given}'"
  | nullInName => "type name must not contain null characters"
  | nullInText => "source code string cannot contain null bytes"
  | classOfClass given => s!"__class__ must be set to a class, not '{given}' object"
  | classOfClassStays => "can't delete __class__ attribute"
  | classOfOther => "__class__ assignment only supported for mutable types or ModuleType subclasses"
  | basesKind kind given => s!"can only assign tuple to {kind}.__bases__, not {given}"
  | notPair place =>
    s!"cannot convert dictionary update sequence element #{place} to a sequence"
  | pairLength place length =>
    s!"dictionary update sequence element #{place} has length {length}; 2 is required"
  | unhinted shown => s!"{shown} is not a module, class, method, or function."
  | memberNameKind kind => s!"attribute name must be string, not '{kind}'"
  | negativeKey => "Negative indexing is not currently supported for query fields"
  | keyKind kind => s!"Field index must be an integer or string, got {kind}"
  | missingKey shown => shown
  | notIndexed kind => s!"'{kind}' object is not subscriptable"
  | classNotIndexed kind => s!"type '{kind}' is not subscriptable"
  | outOfRange kind => s!"{kind} index out of range"
  | byteOutOfRange => "index out of range"
  | indexOverflow => "cannot fit 'int' into an index-sized integer"
  | textIndexKind kind => s!"string indices must be integers, not '{kind}'"
  | sequenceIndexKind sequence kind =>
    s!"{sequence} indices must be integers or slices, not {kind}"
  | dequeIndexKind kind => s!"sequence index must be integer, not '{kind}'"
  | notCallable kind => s!"'{kind}' object is not callable"
  | bytesStart => "startswith first arg must be bytes or a tuple of bytes, not str"
  | nothingStarted => "startswith() takes at least 1 argument (0 given)"
  | fieldKind kind => s!"Field must be a str or Field, got {kind}"
  | notMode shown => s!"{shown} is not a valid MatchMode"
  | noModeNamed shown => shown
  | patternKind mode kind => s!"Match mode '{mode}' requires a string value, got {kind}"
  | singleField shown =>
    s!"like_any requires a sequence of fields, got a single field {shown}; use like() instead"
  | noFields => "like_any requires at least one field"
  | joinItem position kind => s!"sequence item {position}: expected str instance, {kind} found"
  | withinKind kind => s!"Operator 'in' requires a list/set/tuple, got {kind}"
  | orderKind kind => s!"Order by clause must be a str or Field, got {kind}"
  | startKind kind => s!"start_index must be an integer, got {kind}"
  | startNegative n => s!"start_index must be non-negative, got {n}"
  | reservedKind kind => s!"reserved_args must be an iterable of argument values, got {kind}"
  | notExtended kind => s!"unsupported operand type(s) for +=: '{kind}' and 'str'"
  | bytesExtended kind other => s!"can't concat {other} to {kind}"
  | onlyConcatenates own other => s!"can only concatenate {own} (not \"{other}\") to {own}"
  | notIterable kind => s!"'{kind}' object is not iterable"
  | noLength kind => s!"object of type '{kind}' has no len()"
  | countOverflow => "Python int too large to convert to C ssize_t"
  | lengthOverflow => "cannot fit 'int' into an index-sized integer"
  | negativeLength => "__len__() should return >= 0"
  | noMemory => ""
  | unhashable kind => s!"unhashable type: '{kind}'"
  | signalingKey => "Cannot hash a signaling NaN value"
  | signalingComparison | decimalLimit => "[<class 'decimal.InvalidOperation'>]"
  | decimalSyntax => "[<class 'decimal.ConversionSyntax'>]"
  | binarySyntax shown => s!"could not convert string to float: {shown}"
  | wholeSyntax shown => s!"invalid literal for int() with base 10: {shown}"
  | tooManyDigits found =>
    let amount := match found with
      | some n => s!": value has {n} digits"
      | none => ""
    s!"Exceeds the limit (4300 digits) for integer string conversion{amount}; " ++
      "use sys.set_int_max_str_digits() to increase the limit"
  | zeroStep => "range() arg 3 must not be zero"
  | yearZero => "year 0 is out of range"
  | monthRange => "month must be in 1..12"
  | dayRange => "day is out of range for month"
  | timePart unit last => s!"{unit} must be in 0..{last}"
  | calendarSyntax shown => s!"Invalid isoformat string: {shown}"
  | notText kind => s!"__str__ returned non-string (type {kind})"
  | byteRange => "byte must be in range(0, 256)"
  | notInteger kind => s!"'{kind}' object cannot be interpreted as an integer"
  | missingArguments callee names =>
    let count := names.length
    let noun := if count = 1 then "argument" else "arguments"
    let text := listed names
    s!"{callee}() missing {count} required positional {noun}: {text}"
  | tooManyArguments callee least most given => s!"{callee}() " ++ countText least most given
  | unexpectedArgument callee name => s!"{callee}() got an unexpected keyword argument '{name}'"
  | repeatedArgument callee name => s!"{callee}() got multiple values for argument '{name}'"
  | oneArgument callee given => s!"{callee}() takes exactly one argument ({given} given)"
  | argumentsUnknown callee => s!"{callee}() takes no arguments"
  | notWhole kind =>
    s!"int() argument must be a string, a bytes-like object or a real number, not '{kind}'"
  | noArguments callee given => s!"{callee}() takes no arguments ({given} given)"
  | duplicateBase name => s!"duplicate base class {name}"
  | noLinearOrder names =>
    "Cannot create a consistent method resolution\norder (MRO) for bases " ++
      ", ".intercalate names
  | unrelatedClasses =>
    "metaclass conflict: the metaclass of a derived class must be a (non-strict) subclass of " ++
      "the metaclasses of all its bases"
  | conflictingLayouts => "multiple bases have instance lay-out conflict"
  | noBaseClass kind => s!"type '{kind}' is not an acceptable base type"
  | placeKind kind => s!"__slots__ items must be strings, not '{kind}'"
  | placeName => "__slots__ must be identifiers"
  | placeTaken name why => s!"{name} slot disallowed: {why}"
  | placeFilled shown => s!"{shown} in __slots__ conflicts with class variable"
  | noPlaces kind => s!"nonempty __slots__ not supported for subtype of '{kind}'"
  | fullNameKind kind => s!"type __qualname__ must be a str, not {kind}"
  | notCell kind => s!"__classcell__ must be a nonlocal cell, not <class '{kind}'>"
  | mutableDefault shown name =>
    s!"mutable default {shown} for field {name} is not allowed: use default_factory"
  | defaultOrder shown => s!"non-default argument {shown} follows default argument"
  | parameterName reason line _ => s!"{reason} (<string>, line {line})"
  | repeatedParameter name line =>
    s!"duplicate argument '{name}' in function definition (<string>, line {line})"
  | frozenParent => "cannot inherit non-frozen dataclass from a frozen one"
  | foreignQualifier =>
    "The annotation 'InitVar' contains the 'dataclasses.InitVar' type qualifier, which is " ++
      "invalid in the context it is defined."
  | unknownName name => s!"name '{name}' is not defined"
  | unsupportedOperands op left right =>
    s!"unsupported operand type(s) for {op}: '{left}' and '{right}'"
  | unsupportedOperand op kind => s!"bad operand type for unary {op}: '{kind}'"
  | notOrdered op left right =>
    s!"'{op}' not supported between instances of '{left}' and '{right}'"
  | notType rule shown => s!"{rule} Got {shown}."
  | argumentCount form actual expected =>
    let amount := if actual < expected then "few" else "many"
    s!"Too {amount} arguments for {form}; actual {actual}, expected {expected}"
  | argumentsMissing form rule => s!"{form} should be used with {rule}."
  | noArgumentTypes form => s!"Cannot take a {form} of no types."
  | notIndexedForm shown => s!"{shown} is not subscriptable"
  | indexedTwice shown => s!"Cannot subscript already-subscripted {shown}"
  | openEnd => "The last parameter to Concatenate should be a ParamSpec variable or ellipsis."
  | callsRule => "Callable must be used as Callable[[arg, ...], result]."
  | noParameters form => s!"Parameter list to {form}[...] cannot be empty"
  | foreignParameters form =>
    s!"Parameters to {form}[...] must all be type variables or parameter specification variables."
  | repeatedParameters form => s!"Parameters to {form}[...] must all be unique"
  | notRowOfTypes shown =>
    s!"Expected a list of types, an ellipsis, ParamSpec, or Concatenate. Got {shown}"
  | fewArguments form => s!"Too few arguments for {form}"
  | notGeneric shown => s!"{shown} is not a generic class"
  | notMade shown => s!"Cannot instantiate {shown}"
  | formMadeBy form className =>
    s!"Type {form} cannot be instantiated; use {className}() instead"
  | formNotMade form => s!"{form} cannot be instantiated"
  | remarksNotMade => "Type Annotated cannot be instantiated."
  | leavesOperations className operations =>
    let noun := if operations.length = 1 then "method" else "methods"
    s!"Can't instantiate abstract class {className} with abstract {noun} " ++
      ", ".intercalate operations
  | neverMade className => s!"cannot create '{className}' instances"
  | notRepeated kind => s!"can't multiply sequence by non-int of type '{kind}'"
  | notContainer kind => s!"argument of type '{kind}' is not iterable"
  | notInText kind => s!"'in <string>' requires string as left operand, not {kind}"
  | notSpread kind => s!"Value after * must be an iterable, not {kind}"
  | notArgument expression => s!"{expression} is not valid as type argument"
  | notInModule name => s!"module 'typing' has no attribute '{name}'"
  | notExpression shown => s!"Forward reference must be an expression -- got {shown}"
  | emptyExpression => "string index out of range"
  | numberForm rule kind => "%" ++ rule ++ kind
  | formLetter letter place =>
    let code := String.ofList (Nat.toDigits 16 letter.toNat)
    s!"unsupported format character '{letter}' (0x{code}) at index {place}"
  | boundKind => "slice indices must be integers or None or have an __index__ method"
  | zeroSliceStep => "slice step cannot be zero"
  | formUnused => "not all arguments converted during string formatting"
  | formMissing => "not enough arguments for format string"
  | formIncomplete => "incomplete format"
  | divisionByZero => "division by zero"
  | zeroPower => "0.0 cannot be raised to a negative power"
  | complexByZero => "complex division by zero"
  | decimalByZero => "[<class 'decimal.DivisionByZero'>]"
  | noQuotient => "[<class 'decimal.DivisionUndefined'>]"
  | negativeShift => "negative shift count"
  | wholeTooLarge => "int too large to convert to float"
  | quotientTooLarge => "integer division result too large for a float"
  | wholeDivisionByZero modulo =>
    if modulo then "integer modulo by zero" else "integer division or modulo by zero"
  | binaryDivisionByZero op =>
    if op = "%" then "float modulo"
    else if op = "//" then "float floor division by zero"
    else "float division by zero"
  | argument f => f.message
  | endless pursuit => "maximum recursion depth exceeded " ++ pursuit.text

end Fault

end Criteria
