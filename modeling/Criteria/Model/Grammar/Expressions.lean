import Criteria.Model.Grammar.Form
import Criteria.Model.Quotation

set_option autoImplicit false

namespace Criteria.Grammar

open Rule Form

namespace Found

def chained (f : Found) : Expression :=
  match f.expressions with
  | [] => .row []
  | e :: es => (f.words.zip es).foldl (fun a p => .binary p.1 a p.2) e

def prefixed (f : Found) : Expression := .unary (f.words.headD "") ((f.expressions).headD (.row []))

def rowed (f : Found) : Expression := .row f.expressions

def numeral (f : Found) : Expression :=
  let digits := match f.tokens with
    | ⟨.number w, _, _⟩ :: _ => (w.toList.filter (· != '_')).map Char.toLower
    | _ => []
  match digits with
  | '0' :: 'x' :: r => .whole (Quotation.digitsIn 16 r)
  | '0' :: 'o' :: r => .whole (Quotation.digitsIn 8 r)
  | '0' :: 'b' :: r => .whole (Quotation.digitsIn 2 r)
  | _ =>
    if digits.all Char.isDigit then .whole (Quotation.digitsIn 10 digits)
    else if digits.getLast? = some 'j' then .imaginary (String.ofList digits.dropLast)
    else .real (String.ofList digits)

def compared (f : Found) : Expression :=
  let ops := match f.parts with
    | [_, .all pairs] => pairs.map fun p => " ".intercalate (p.tokens.map Placed.word)
    | _ => []
  .comparison ops f.expressions

def extended (e : Expression) : List Part → Expression
  | [] => e
  | p :: ps =>
    let next : Expression := match p with
      | .expression _ g => .call e [g]
      | .all (.token ⟨.mark ".", _, _⟩ :: more) =>
        .member e (((Part.all more).tokens.filterMap Placed.name?).headD "")
      | .all (.token ⟨.mark "[", _, _⟩ :: more) =>
        .item e (((Part.all more).expressions).headD (.row []))
      | p => .call e p.expressions
    extended next ps

def primary (f : Found) : Expression :=
  match f.parts with
  | [first, .all more] => extended (first.expression?.getD (.row [])) more
  | _ => .row []

def optionalAt (f : Found) (place : Nat) : Expression :=
  (f.parts[place]?.bind Part.expression?).getD (.constant .nothing)

def sliced (f : Found) : Expression := .slice [f.optionalAt 0, f.optionalAt 2, f.optionalAt 3]

def gathered (g : Gathering) (f : Found) : Expression :=
  let isClause : Expression → Bool
    | .clause .. => true
    | _ => false
  .gathered g (f.expressions.filter fun e => !isClause e) (f.expressions.filter isClause)

def clause (f : Found) : Expression :=
  match f.expressions with
  | taken :: source :: tests => .clause (f.words.head? = some "async") taken source tests
  | _ => .row []

def parameterMarks : List String := ["*", "**", "/"]

def function (f : Found) : Expression :=
  let head := f.words.takeWhile (· != ":")
  .function f.names (!head.any parameterMarks.contains) f.expressions.dropLast
    (f.expressions.getLast?.getD (.row []))

end Found

namespace Way

/-- Tells that the expression at this place is called by a name that does not fit. -/
def tellsCalled (place : Nat) (reason : String → String) (forms : List Form) : Way :=
  blames forms fun f => .flaw
    { reason := reason (f.expressionAt place).called, line := f.lineOf place }

def tellsTarget (place : Nat) (purpose : Expression.Purpose) (forms : List Form) : Way :=
  blames forms fun f =>
    match (f.expressionAt place).targetFault? purpose with
    | some reason => .flaw { reason, line := f.lineOf place }
    | none => .failure

end Way

open Way

def perhapsEqual : String := "invalid syntax. Maybe you meant '==' or ':=' instead of '='?"

def looseGenerator : String := "Generator expression must be parenthesized"

def commaSeparated (item : Rule) : List Way :=
  [makes [item, several (sequence [",", item]), maybe ","] Found.rowed,
   makes [item, ","] Found.rowed,
   plain item]

def leftToRight (tighter : Rule) (ops : List Form) : List Way :=
  [⟨false, [tighter, many (sequence [any ops, tighter])], fun f =>
    if f.words.isEmpty then .part (f.parts.headD .nothing)
    else .part (.expression f.line f.chained)⟩]

def connected (tighter : Rule) (word : String) : List Way :=
  [makes [tighter, several (sequence [word, tighter])] Found.chained, plain tighter]

def comparedBy (ops : List String) : Way := kept (followed (ops.map mark) [bitOr])

def choiceWays : List Way :=
  [makes [disjunction, "if", disjunction, "else", expression] fun f =>
     .choice (f.expressionAt 2) (f.expressionAt 0) (f.expressionAt 4),
   plain disjunction,
   plain function]

def oldCalls : List String := ["print", "exec"]

def isOldCall : Expression → Bool
  | .name n => oldCalls.contains n
  | _ => false

def badExpressionWays : List Way :=
  [blames [notAhead (any [sequence [name, quotation], softWord]), disjunction, bareExpression]
     fun f =>
       if isOldCall (f.expressionAt 1) || f.depth = 0 then .failure
       else .flaw { reason := "invalid syntax. Perhaps you forgot a comma?", line := f.lineOf 1 },
   tells 0 "expected 'else' after 'if' expression"
     [disjunction, "if", disjunction, notAhead (any ["else", ":"])]]

def badCallWays : List Way :=
  [blames [name, notAhead "(", starExpressions] fun f =>
    match f.names.filter oldCalls.contains with
    | n :: _ =>
      .flaw
        { reason := s!"Missing parentheses in call to '{n}'. Did you mean {n}(...)?",
          line := f.line }
    | [] => .failure]

def badNamedWays : List Way :=
  [tellsCalled 0 ("cannot use assignment expressions with " ++ ·) [expression, ":=", expression],
   tells 0 perhapsEqual [name, "=", bitOr, notAhead (any ["=", ":="])],
   tellsCalled 1 (fun n => s!"cannot assign to {n} here. Maybe you meant '==' instead of '='?")
     [notAhead (any [list, row, generator, "True", "None", "False"]), bitOr, "=", bitOr,
      notAhead (any ["=", ":="])]]

def freeExpression : Form := any [namedAssignment, sequence [expression, notAhead ":="]]

def atomWays : List Way :=
  [makes [name] fun f => .name (f.names.headD ""),
   makes ["True"] fun _ => .constant .yes,
   makes ["False"] fun _ => .constant .no,
   makes ["None"] fun _ => .constant .nothing,
   takes 1 [ahead quotation, strings],
   makes [number] Found.numeral,
   takes 1 [ahead "(", any [row, group, generator]],
   takes 1 [ahead "[", any [list, listGathered]],
   takes 1 [ahead "\x7b", any [dictionary, set, dictionaryGathered, setGathered]],
   makes ["..."] fun _ => .constant .ellipsis]

def primaryWays : List Way :=
  [⟨false, [atom, many (any [sequence [".", name], generator, sequence ["(", maybe arguments, ")"],
      sequence ["[", slices, "]"]])], fun f =>
    match f.parts with
    | [first, .all []] => .part first
    | _ => .part (.expression f.line f.primary)⟩]

def badGroupWays : List Way :=
  [tells 1 "cannot use starred expression here" ["(", spreadArgument, ")"],
   tells 1 "cannot use double starred expression here" ["(", "**", expression, ")"]]

def afterKey : String := "expression expected after dictionary key and ':'"

def spreadAsValue : String := "cannot use a starred expression in a dictionary value"

def badEntriesWays : List Way :=
  [kept [parted "," anyEntry, ",", badEntry],
   tells 2 spreadAsValue [expression, ":", "*", bitOr],
   tells 1 afterKey [expression, ":", ahead (any ["\x7d", ","])]]

def badEntryWays : List Way :=
  [tells 0 "':' expected after dictionary key" [expression, notAhead ":"],
   tells 2 spreadAsValue [expression, ":", "*", bitOr],
   tells 1 afterKey [expression, ":", ahead (any ["\x7d", ","])]]

def clauseWays : List Way :=
  [makes ["async", "for", targets, "in", cut, disjunction, many (sequence ["if", disjunction])]
     Found.clause,
   makes ["for", targets, "in", cut, disjunction, many (sequence ["if", disjunction])] Found.clause,
   watch badIteration]

def badIterationWays : List Way :=
  [tellsTarget 2 .iteration [maybe "async", "for", starExpressions]]

def unparted : String := "did you forget parentheses around the comprehension target?"

def badGatheredWays : List Way :=
  [tells 1 "iterable unpacking cannot be used in comprehension"
     [any ["[", "(", "\x7b"], spreadArgument, clauses],
   tells 1 unparted [any ["[", "\x7b"], starItem, ",", starItems, clauses],
   tells 1 unparted [any ["[", "\x7b"], starItem, ",", clauses]]

def placeArgument : Form := any [spreadArgument, sequence [freeExpression, notAhead "="]]

def isMerged : Expression → Bool
  | .merged _ => true
  | _ => false

def isKeyword : Expression → Bool
  | .keyword .. => true
  | _ => false

def badArgumentsWays : List Way :=
  [tells 1 "iterable argument unpacking follows keyword argument unpacking"
     [any [sequence [parted "," placeArgument, ",", keywordArguments], keywordArguments], ",",
      parted "," (sequence [spreadArgument, notAhead "="])],
   tells 0 looseGenerator
     [expression, clauses, ",", maybe (any [argumentList, sequence [expression, clauses]])],
   tells 0 perhapsEqual [name, "=", expression, clauses],
   blames [argumentList, clauses] fun f =>
     let placed := ((f.parts.headD .nothing).placed).filter fun p => !isMerged p.2 && !isKeyword p.2
     match placed with
     | [] | [_] => .failure
     | _ => .flaw { reason := looseGenerator, line := (placed.getLast?.map (·.1)).getD f.line },
   tells 2 looseGenerator [argumentList, ",", expression, clauses],
   blames [argumentList, ",", argumentList] fun f =>
     let merges := ((f.parts.headD .nothing).expressions).any isMerged
     let reason := "positional argument follows keyword argument"
     .flaw { reason := if merges then reason ++ " unpacking" else reason, line := f.lastLine }]

def keywordWay : Way :=
  makes [name, "=", expression] fun f => .keyword (f.names.headD "") (f.expressionAt 2)

def badKeywordWays : List Way :=
  [blames [any ["True", "False", "None"], "="] fun f =>
     .flaw { reason := "cannot assign to " ++ f.words.headD "", line := f.line },
   tells 0 perhapsEqual [name, "=", expression, clauses],
   tells 1 "expression cannot contain assignment, perhaps you meant \"==\"?"
     [notAhead (sequence [name, "="]), expression, "="]]

def goesOn : Form := any ["(", "[", "."]

def memberOrItem (rest : Form) : List Way :=
  [makes [targetPrimary, ".", name, rest] fun f =>
     .member (f.expressionAt 0) (f.names.headD ""),
   makes [targetPrimary, "[", slices, "]", rest] fun f =>
     .item (f.expressionAt 0) (f.expressionAt 2)]

def targetPrimaryWays : List Way :=
  [⟨false, [atom, ahead goesOn, many (any [sequence [".", name, ahead goesOn],
      sequence ["[", slices, "]", ahead goesOn], sequence [generator, ahead goesOn],
      sequence ["(", maybe arguments, ")", ahead goesOn]])], fun f =>
    match f.parts with
    | [first, _, .all []] => .part first
    | [_, _, .all more] => .part (.expression f.line (Found.extended (f.expressionAt 0) more))
    | _ => .failure⟩]

def targetAtomWays (inner items rows : Rule) : List Way :=
  [makes [name] fun f => .name (f.names.headD ""),
   takes 1 ["(", inner, ")"],
   makes ["(", maybe rows, ")"] Found.rowed,
   makes ["[", maybe items, "]"] fun f => .list f.expressions]

def expressionWays : Rule → List Way
  | inserted => [plain starExpressions]
  | single => [takes 0 [expressions, many lineEnd, ending]]
  | expressions => commaSeparated expression
  | expression => watch badExpression :: watch badCall :: choiceWays
  | bareExpression => choiceWays
  | badExpression => badExpressionWays
  | badCall => badCallWays
  | yielded =>
    [makes ["yield", "from", expression] fun f => .yielded f.expressions,
     makes ["yield", maybe starExpressions] fun f => .yielded f.expressions]
  | starExpressions => commaSeparated starExpression
  | starExpression => [makes ["*", bitOr] fun f => .spread (f.expressionAt 1), plain expression]
  | starItems => [kept [parted "," starItem, maybe ","]]
  | starItem => [makes ["*", bitOr] fun f => .spread (f.expressionAt 1), plain namedExpression]
  | namedAssignment =>
    [makes [name, ":=", cut, expression] fun f => .named (f.names.headD "") (f.expressionAt 3)]
  | namedExpression =>
    [plain namedAssignment, watch badNamed, takes 0 [expression, notAhead ":="]]
  | badNamed => badNamedWays
  | disjunction => connected conjunction "or"
  | conjunction => connected inversion "and"
  | inversion => [makes ["not", inversion] Found.prefixed, plain comparison]
  | comparison => [makes [bitOr, several comparisonPair] Found.compared, plain bitOr]
  | comparisonPair =>
    [["=="], ["!="], ["<="], ["<"], [">="], [">"], ["not", "in"], ["in"], ["is", "not"],
     ["is"]].map comparedBy
  | bitOr => leftToRight bitXor ["|"]
  | bitXor => leftToRight bitAnd ["^"]
  | bitAnd => leftToRight shift ["&"]
  | shift => leftToRight sum ["<<", ">>"]
  | sum => leftToRight term ["+", "-"]
  | term => leftToRight factor ["*", "/", "//", "%", "@"]
  | factor =>
    [makes ["+", factor] Found.prefixed, makes ["-", factor] Found.prefixed,
     makes ["~", factor] Found.prefixed, plain power]
  | power => [makes [awaited, "**", factor] Found.chained, plain awaited]
  | awaited => [makes ["await", primary] fun f => .awaited (f.expressionAt 1), plain primary]
  | primary => primaryWays
  | slices =>
    [takes 0 [slice, notAhead ","],
     makes [parted "," (any [slice, spreadArgument]), maybe ","] Found.rowed]
  | slice =>
    [makes [maybe expression, ":", maybe expression, maybe (sequence [":", maybe expression])]
       Found.sliced,
     plain namedExpression]
  | atom => atomWays
  | group => [takes 1 ["(", any [yielded, namedExpression], ")"], watch badGroup]
  | badGroup => badGroupWays
  | function => [makes ["lambda", maybe lambdaParameters, ":", expression] Found.function]
  | list => [makes ["[", maybe starItems, "]"] fun f => .list f.expressions]
  | row => [makes ["(", maybe (sequence [starItem, ",", maybe starItems]), ")"] Found.rowed]
  | .set => [makes ["\x7b", starItems, "\x7d"] fun f => .set f.expressions]
  | dictionary =>
    [makes ["\x7b", maybe entries, "\x7d"] fun f => .dictionary f.expressions,
     kept ["\x7b", badEntries, "\x7d"]]
  | entries => [kept [parted "," anyEntry, maybe ","]]
  | badEntries => badEntriesWays
  | badEntry => badEntryWays
  | anyEntry => [makes ["**", bitOr] fun f => .merged (f.expressionAt 1), plain entry]
  | entry =>
    [makes [expression, ":", expression] fun f => .entry (f.expressionAt 0) (f.expressionAt 2)]
  | clauses => [kept [several clause]]
  | clause => clauseWays
  | badIteration => badIterationWays
  | listGathered =>
    [makes ["[", namedExpression, clauses, "]"] (Found.gathered .list), watch badGathered]
  | setGathered =>
    [makes ["\x7b", namedExpression, clauses, "\x7d"] (Found.gathered .set), watch badGathered]
  | generator =>
    [makes ["(", freeExpression, clauses, ")"] (Found.gathered .generator), watch badGathered]
  | dictionaryGathered =>
    [makes ["\x7b", entry, clauses, "\x7d"] (Found.gathered .dictionary),
     watch badDictionaryGathered]
  | badGathered => badGatheredWays
  | badDictionaryGathered =>
    [tells 1 "dict unpacking cannot be used in dict comprehension"
      ["\x7b", "**", bitOr, clauses, "\x7d"]]
  | arguments => [takes 0 [argumentList, maybe ",", ahead ")"], watch badArguments]
  | badArguments => badArgumentsWays
  | argumentList =>
    [kept [parted "," placeArgument, maybe (sequence [",", keywordArguments])],
     plain keywordArguments]
  | keywordArguments =>
    [kept [parted "," keywordOrSpread, ",", parted "," keywordOrMerged],
     plain (parted "," keywordOrSpread),
     plain (parted "," keywordOrMerged)]
  | spreadArgument =>
    [makes ["*", expression] fun f => .spread (f.expressionAt 1),
     tellsHere "Invalid star expression" ["*"]]
  | keywordOrSpread => [watch badKeyword, keywordWay, plain spreadArgument]
  | keywordOrMerged =>
    [watch badKeyword, keywordWay, makes ["**", expression] fun f => .merged (f.expressionAt 1)]
  | badKeyword => badKeywordWays
  | targets =>
    [takes 0 [target, notAhead ","],
     makes [target, many (sequence [",", target]), maybe ","] Found.rowed]
  | targetItems => [kept [parted "," target, maybe ","]]
  | targetRow =>
    [kept [target, several (sequence [",", target]), maybe ","], kept [target, ","]]
  | target =>
    [makes ["*", sequence [notAhead "*", target]] fun f => .spread (f.expressionAt 1),
     plain memberTarget]
  | memberTarget => memberOrItem (notAhead goesOn) ++ [plain targetAtom]
  | targetAtom => targetAtomWays memberTarget targetItems targetRow
  | singleTarget =>
    [plain singleMemberTarget, makes [name] fun f => .name (f.names.headD ""),
     takes 1 ["(", singleTarget, ")"]]
  | singleMemberTarget => memberOrItem (notAhead goesOn)
  | targetPrimary => targetPrimaryWays
  | deletedAll => [kept [parted "," deleted, maybe ","]]
  | deleted => memberOrItem (notAhead goesOn) ++ [plain deletedAtom]
  | deletedAtom => targetAtomWays deleted deletedAll deletedAll
  | _ => []

def keptExpressions : List Rule :=
  [expression, starExpression, disjunction, conjunction, inversion, bitOr, bitXor, bitAnd, shift,
   sum, term, factor, awaited, primary, strings, arguments, badNamed, target, memberTarget,
   targetPrimary, deleted]

end Criteria.Grammar
