import Criteria.Model.Grammar.Form

set_option autoImplicit false

namespace Criteria.Grammar

open Rule Form Way

structure ParameterRules where
  list : Rule
  slashed : Rule
  slashedDefaults : Rule
  afterStar : Rule
  badAfterStar : Rule
  keywords : Rule
  badKeywords : Rule
  plain : Rule
  valued : Rule
  any : Rule
  parameter : Rule
  closing : String

def ofDefinition : ParameterRules :=
  { list := parameterList, slashed := Rule.slashed, slashedDefaults := Rule.slashedDefaults
    afterStar := Rule.afterStar, badAfterStar := Rule.badAfterStar, keywords := Rule.keywords
    badKeywords := Rule.badKeywords, plain := plainParameter, valued := valuedParameter
    any := anyParameter, parameter := Rule.parameter, closing := ")" }

def ofFunction : ParameterRules :=
  { list := lambdaList, slashed := lambdaSlashed, slashedDefaults := lambdaSlashedDefaults
    afterStar := lambdaAfterStar, badAfterStar := badLambdaAfterStar, keywords := lambdaKeywords
    badKeywords := badLambdaKeywords, plain := lambdaPlain, valued := lambdaValued
    any := lambdaAny, parameter := lambdaParameter, closing := ":" }

namespace ParameterRules

def ended (p : ParameterRules) (forms : List Form) : List Way :=
  [kept (followed forms [","]), kept (followed forms [ahead p.closing])]

def listWays (p : ParameterRules) : List Way :=
  [kept [p.slashed, many p.plain, many p.valued, maybe p.afterStar],
   kept [p.slashedDefaults, many p.valued, maybe p.afterStar],
   kept [several p.plain, many p.valued, maybe p.afterStar],
   kept [several p.valued, maybe p.afterStar],
   Way.plain p.afterStar]

def keywordWays (p : ParameterRules) : List Way := [watch p.badKeywords, kept ["**", p.plain]]

def badKeywordWays (p : ParameterRules) : List Way :=
  let follows := "arguments cannot follow var-keyword argument"
  [tells 2 "var-keyword argument cannot have default value" ["**", p.parameter, "="],
   tells 3 follows ["**", p.parameter, ",", p.parameter],
   tells 3 follows ["**", p.parameter, ",", Form.any ["*", "**", "/"]]]

def bareStar : String := "named arguments must follow bare *"

def badAfterStarWays (p : ParameterRules) : List Way :=
  let begun : Form := Form.any [p.plain, ","]
  [tells 2 "var-positional argument cannot have default value" ["*", p.parameter, "="],
   tells 3 "* argument may appear only once" ["*", begun, many p.any, "*", begun]]

/-- What is wrong with a whole list. `bracketed` is told of names in brackets of their own, which
look like `inBrackets`. -/
def badWays (p : ParameterRules) (inBrackets : Form) (bracketed : String) : List Way :=
  let slash : Form := Form.any [p.slashed, p.slashedDefaults]
  [tells 2 "non-default argument follows default argument"
     [many p.plain, Form.any [p.slashedDefaults, several p.valued], p.plain],
   tells 1 bracketed [many p.plain, "(", inBrackets, maybe ",", ")"],
   tells 0 "at least one argument must precede /" ["/", ","],
   tells 2 "/ may appear only once" [slash, many p.any, "/"],
   tells 5 "/ must be ahead of *"
     [maybe slash, many p.any, "*", Form.any [",", p.plain], many p.any, "/"],
   tells 2 "expected comma between / and *" [several p.any, "/", "*"]]

end ParameterRules

def hinted (hint : Rule) : Form := sequence [":", hint]

/-- The ends of a parameter that can have a hint. Behind its comma a reader looks on. -/
def endedHinted (forms : List Form) : List Way :=
  [kept (followed forms [",", maybe (ahead ending)]), kept (followed forms [ahead ")"])]

def bareStarForms (closing : String) : List Form :=
  ["*", any [closing, sequence [",", any [closing, "**"]]]]

def parameterWays : Rule → List Way
  | parameters => [watch badParameters, plain parameterList]
  | badParameters =>
    ofDefinition.badWays (several plainParameter) "Function parameters cannot be parenthesized"
  | parameterList => ofDefinition.listWays
  | slashed => ofDefinition.ended [several plainParameter, "/"]
  | slashedDefaults => ofDefinition.ended [many plainParameter, several valuedParameter, "/"]
  | afterStar =>
    [watch badAfterStar,
     kept ["*", plainParameter, many anyParameter, maybe keywords],
     kept ["*", starParameter, many anyParameter, maybe keywords],
     kept ["*", ",", several anyParameter, maybe keywords],
     plain keywords]
  | badAfterStar =>
    tells 0 ParameterRules.bareStar (bareStarForms ")") :: ofDefinition.badAfterStarWays
  | keywords => ofDefinition.keywordWays
  | badKeywords => ofDefinition.badKeywordWays
  | plainParameter => endedHinted [parameter]
  | starParameter => endedHinted [name, hinted starExpression]
  | valuedParameter => endedHinted [parameter, default]
  | anyParameter => endedHinted [parameter, maybe default]
  | parameter => [kept [name, maybe (hinted expression)]]
  | Rule.default => [kept ["=", expression], watch badDefault]
  | badDefault => [tells 0 "expected default value expression" ["=", ahead (any [")", ","])]]
  | lambdaParameters => [watch badLambdaParameters, plain lambdaList]
  | badLambdaParameters =>
    ofFunction.badWays (parted "," lambdaParameter)
      "Lambda expression parameters cannot be parenthesized"
  | lambdaList => ofFunction.listWays
  | lambdaSlashed => ofFunction.ended [several lambdaPlain, "/"]
  | lambdaSlashedDefaults => ofFunction.ended [many lambdaPlain, several lambdaValued, "/"]
  | lambdaAfterStar =>
    [watch badLambdaAfterStar,
     kept ["*", lambdaPlain, many lambdaAny, maybe lambdaKeywords],
     kept ["*", ",", several lambdaAny, maybe lambdaKeywords],
     plain lambdaKeywords]
  | badLambdaAfterStar =>
    tellsHere ParameterRules.bareStar (bareStarForms ":") :: ofFunction.badAfterStarWays
  | lambdaKeywords => ofFunction.keywordWays
  | badLambdaKeywords => ofFunction.badKeywordWays
  | lambdaPlain => ofFunction.ended [lambdaParameter]
  | lambdaValued => ofFunction.ended [lambdaParameter, default]
  | lambdaAny => ofFunction.ended [lambdaParameter, maybe default]
  | lambdaParameter => [kept [name]]
  | _ => []

def assignedValue : Form := any [yielded, starExpressions]

def augmentations : List String :=
  ["+=", "-=", "*=", "@=", "/=", "%=", "&=", "|=", "^=", "<<=", ">>=", "**=", "//="]

def assignmentWays : List Way :=
  [kept [name, ":", expression, maybe (sequence ["=", assigned])],
   kept [any [sequence ["(", singleTarget, ")"], singleMemberTarget], ":", expression,
     maybe (sequence ["=", assigned])],
   kept [several (sequence [targets, "="]), assignedValue, notAhead "="],
   kept [singleTarget, augmented, cut, assignedValue],
   watch badAssignment]

def badAssignmentWays : List Way :=
  let alone (n : String) : String := s!"only single target (not {n}) can be annotated"
  [blames [badAnnotated, ":", expression] fun f =>
     .flaw { reason := alone (f.expressionAt 0).called, line := f.lineOf 0 },
   tells 0 (alone "tuple") [starItem, ",", many starItems, ":", expression],
   tells 0 "illegal target for annotation" [expression, ":", expression],
   blames [many (sequence [targets, "="]), starExpressions, "="] fun f =>
     match (f.expressionAt 1).targetFault? .assignment with
     | some reason => .flaw { reason, line := f.lineOf 1 }
     | none => .failure,
   tells 1 "assignment to yield expression not possible"
     [many (sequence [targets, "="]), yielded, "="],
   blames [starExpressions, augmented, assignedValue] fun f =>
     .flaw
       { reason := s!"'{(f.expressionAt 0).called}' is an illegal expression for " ++
           "augmented assignment"
         line := f.lineOf 0 }]

def simpleWays : List Way :=
  [plain assignment,
   plain starExpressions,
   kept ["return", maybe starExpressions],
   plain imported,
   kept ["raise", expression, maybe (sequence ["from", expression])],
   kept ["raise"],
   kept ["pass"],
   plain deletion,
   plain yielded,
   kept ["assert", expression, maybe (sequence [",", expression])],
   kept ["break"],
   kept ["continue"],
   kept ["global", parted "," name],
   kept ["nonlocal", parted "," name]]

def importedWays : List Way :=
  let dots : Form := any [".", "..."]
  [kept ["import", parted "," (sequence [dottedName, maybe (sequence ["as", name])])],
   kept ["from", many dots, dottedName, "import", importedNames],
   kept ["from", several dots, "import", importedNames]]

def importedNamesWays : List Way :=
  [kept ["(", parted "," importedName, maybe ",", ")"],
   kept [parted "," importedName, notAhead ","],
   kept ["*"],
   watch badImportedNames]

def headWays (place : Nat) (forms : List Form) (what : String) : List Way :=
  [tellsHere "expected ':'" (followed forms [lineEnd]),
   tellsFlat place (followed forms [":"]) (what ++ " statement")]

def classHead : List Form := ["class", name, maybe (sequence ["(", maybe arguments, ")"])]

def definitionHead : List Form := [maybe "async", "def", name, "(", maybe parameters, ")",
  maybe (sequence ["->", expression]), ":"]

def defines (forms : List Form) (parametersAt : Nat) : Way :=
  blames forms fun f =>
    let names := ((f.parts[parametersAt]?).getD .nothing).tokens.filterMap fun p =>
      p.name?.map fun n => (n, p.line)
    .part (.definition ⟨f.line, names⟩ (f.parts.getLast?.getD .nothing))

def definedAs : List Form :=
  ["def", name, must "(", maybe parameters, ")", maybe (sequence ["->", expression]), must ":",
   block]

def contextHead (item : Rule) : List (List Form) :=
  let withTarget : Form := sequence [item, maybe (sequence ["as", target])]
  let inBrackets : Form := sequence [expressions, maybe (sequence ["as", target])]
  [[maybe "async", "with", parted "," withTarget],
   [maybe "async", "with", "(", parted "," inBrackets, maybe ",", ")"]]

def contextWays : List Way :=
  let bracketed : List Form := ["with", "(", parted "," contextItem, maybe ",", ")", ":", block]
  let bare : List Form := ["with", parted "," contextItem, ":", block]
  [watch badContextBlock, kept bracketed, kept bare, kept ("async" :: bracketed),
   kept ("async" :: bare), watch badContext]

def caught : List Form := [expression, maybe (sequence ["as", name])]

def bothHandlers : String := "cannot have both 'except' and 'except*' on the same 'try'"

def badAttemptWays : List Way :=
  let tried : List Form := ["try", ":", many block]
  [tellsFlat 0 ["try", ":"] "'try' statement",
   tellsHere "expected 'except' or 'finally' block"
     ["try", ":", block, notAhead (any ["except", "finally"])],
   tells 4 bothHandlers (followed tried [several handler, "except", "*", sequence caught, ":"]),
   tells 4 bothHandlers
     (followed tried [several groupHandler, "except", maybe (sequence caught), ":"])]

def badHandlerWays : List Way :=
  [tells 2 "multiple exception types must be parenthesized"
     ["except", maybe "*", expression, ",", expressions, maybe (sequence ["as", name]), ":"],
   tellsHere "expected ':'" ["except", maybe "*", sequence caught, lineEnd],
   tellsHere "expected ':'" ["except", lineEnd],
   tellsHere "expected one or more exception types" ["except", "*", any [lineEnd, ":"]]]

def statementWays : Rule → List Way
  | file => [takes 0 [maybe (several statement), ending]]
  | statement =>
    [kept [ahead (any ["def", "@", "async"]), definition],
     plain conditional,
     kept [ahead (any ["class", "@"]), classDefinition],
     kept [ahead (any ["with", "async"]), context],
     kept [ahead (any ["for", "async"]), iteration],
     kept [ahead "try", attempt],
     kept [ahead "while", loop],
     plain simpleLine]
  | simpleLine =>
    [kept [simple, notAhead ";", lineEnd], kept [parted ";" simple, maybe ";", lineEnd]]
  | simple => simpleWays
  | block =>
    [kept [lineEnd, indent, several statement, dedent], plain simpleLine, watch badBlock]
  | badBlock =>
    [blames [lineEnd, notAhead indent] fun f => .flaw
      { reason := "expected an indented block", line := f.lastLine, kind := .indentation }]
  | assignment => assignmentWays
  | badAssignment => badAssignmentWays
  | badAnnotated => [plain list, plain row, takes 1 ["(", badAnnotated, ")"]]
  | assigned => [plain yielded, plain starExpressions]
  | augmented => augmentations.map fun m => kept [mark m]
  | imported => importedWays
  | importedNames => importedNamesWays
  | importedName => [kept [name, maybe (sequence ["as", name])]]
  | badImportedNames =>
    [tellsHere "trailing comma not allowed without surrounding parentheses"
      [parted "," importedName, ",", lineEnd]]
  | dottedName => [kept [name, many (sequence [".", name])]]
  | deletion => [kept ["del", deletedAll, ahead (any [";", lineEnd])], watch badDeletion]
  | badDeletion =>
    [blames ["del", starExpressions] fun f =>
      match (f.expressionAt 1).targetFault? .deletion with
      | some reason => .flaw { reason, line := f.lineOf 1 }
      | none => .failure]
  | decorators => [kept [several (sequence ["@", namedExpression, lineEnd])]]
  | definition => [takes 1 [decorators, bareDefinition], plain bareDefinition]
  | bareDefinition => [watch badDefinition, defines definedAs 3, defines ("async" :: definedAs) 4]
  | badDefinition => [tellsFlat 1 definitionHead "function definition"]
  | classDefinition => [takes 1 [decorators, bareClass], plain bareClass]
  | bareClass => [watch badClass, kept (followed classHead [":", block])]
  | badClass =>
    [tellsHere "expected ':'" (followed classHead [lineEnd]),
     tellsFlat 0 (followed classHead [":"]) "class definition"]
  | conditional =>
    [watch badConditional,
     kept ["if", namedExpression, ":", block, furtherConditional],
     kept ["if", namedExpression, ":", block, maybe otherwise]]
  | badConditional => headWays 0 ["if", namedExpression] "'if'"
  | furtherConditional =>
    [watch badFurtherConditional,
     kept ["elif", namedExpression, ":", block, furtherConditional],
     kept ["elif", namedExpression, ":", block, maybe otherwise]]
  | badFurtherConditional => headWays 0 ["elif", namedExpression] "'elif'"
  | otherwise => [watch badOtherwise, kept ["else", must ":", block]]
  | badOtherwise => [tellsFlat 0 ["else", ":"] "'else' statement"]
  | loop =>
    [watch badLoop, kept ["while", namedExpression, ":", block, maybe otherwise]]
  | badLoop => headWays 0 ["while", namedExpression] "'while'"
  | iteration =>
    let forms : List Form :=
      ["for", targets, "in", cut, starExpressions, ":", block, maybe otherwise]
    [watch badIterationHead, kept forms, kept ("async" :: forms), watch badIteration]
  | badIterationHead => headWays 1 [maybe "async", "for", targets, "in", starExpressions] "'for'"
  | context => contextWays
  | badContext =>
    (contextHead expression).map fun forms => tellsHere "expected ':'" (followed forms [lineEnd])
  | badContextBlock =>
    (contextHead expression).map fun forms => tellsFlat 1 (followed forms [":"]) "'with' statement"
  | contextItem =>
    [kept [expression, "as", target, ahead (any [",", ")", ":"])], watch badContextItem,
     plain expression]
  | badContextItem =>
    [blames [expression, "as", expression, ahead (any [",", ")", ":"])] fun f =>
      match (f.expressionAt 2).targetFault? .assignment with
      | some reason => .flaw { reason, line := f.lineOf 2 }
      | none => .failure]
  | attempt =>
    [watch badAttempt,
     kept ["try", must ":", block, finish],
     kept ["try", must ":", block, several handler, maybe otherwise, maybe finish],
     kept ["try", must ":", block, several groupHandler, maybe otherwise, maybe finish]]
  | badAttempt => badAttemptWays
  | handler =>
    [watch badHandlerBlock, kept ["except", sequence caught, ":", block],
     kept ["except", ":", block], watch badHandler]
  | badHandler => badHandlerWays
  | badHandlerBlock =>
    [tellsFlat 0 ["except", sequence caught, ":"] "'except' statement",
     tellsFlat 0 ["except", ":"] "'except' statement"]
  | groupHandler =>
    [watch badGroupHandlerBlock, kept ["except", "*", sequence caught, ":", block],
     watch badHandler]
  | badGroupHandlerBlock =>
    [tellsFlat 0 ["except", "*", sequence caught, ":"] "'except*' statement"]
  | finish => [watch badFinish, kept ["finally", must ":", block]]
  | badFinish => [tellsFlat 0 ["finally", ":"] "'finally' statement"]
  | _ => []

def keptStatements : List Rule := [simple, block, dottedName]

end Criteria.Grammar
