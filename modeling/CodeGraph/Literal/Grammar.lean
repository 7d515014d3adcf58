import CodeGraph.Document.Fault
import CodeGraph.Literal.Pattern
import CodeGraph.Literal.TextEscape
import CodeGraph.Text.Numeral

/-!
# The grammar of expressions

Literals are written in a grammar of expressions, which has more of them than literals. Whoever
looks for the reason why a text is no expression also matches the mistakes of the grammar.

Main definitions:

- `Rule`: the names of the rules;
- `Rule.body`: what each of them stands for;
- `Rule.isRemembered`: the rules whose outcome at a place counts for all later looks.
-/
namespace CodeGraph.Literal

/-- The rules of the grammar. -/
inductive Rule where
  -- Texts and lists of expressions.
  | whole | expressions | starExpressions | starExpression | starNamed | starNameds
  -- Expressions, those that bind loosely first.
  | expression | plainExpression | assigned | named | yielded
  | disjunction | conjunction | inversion | comparison | comparisonSign
  | bitOr | bitXor | bitAnd | shift | sum | term | factor | power | awaited | primary
  | application | subscripts | slice | atom | strings | number
  -- Expressions in brackets.
  | group | tuple | list | set | dictionary | pairs | pair | keyAndValue
  | generator | listComprehension | setComprehension | dictionaryComprehension
  | clauses | clause | targets | target | targetItem | targetAtom | targetPrimary | targetNext
  -- What functions take.
  | arguments | givens | keywords | starred | keywordOrStarred | keywordOrUnpacking
  | lambda | parameters | freeParameter | defaultParameter | default | anyParameter
  | lastParameters | slashFree | slashDefault | allKeywords
  -- Mistakes.
  | badExpression | badStatement | badNamed | badGroup | badPairs | badPair | badComprehension
  | badDictionaryComprehension | badTarget | badArguments | badKeyword | badParameters
  | badLastParameters | badAllKeywords
  deriving DecidableEq, Hashable, Repr

/-- Whether a token is a name without a meaning in the grammar. -/
def Token.isName : Token → Bool
  | .name s => !keywords.contains s
  | _ => false

/-- Whether a token is one of the constants with names. -/
def Token.isConstant : Token → Bool
  | .name s => ["True", "False", "None"].contains s
  | _ => false

/-- Whether a token is a number. -/
def Token.isNumber : Token → Bool
  | .number _ => true
  | _ => false

/-- Whether a token is a text. -/
def Token.isText : Token → Bool
  | .text _ _ => true
  | _ => false

/-- Whether a token is a name with a meaning in some places. -/
def Token.isSoftKeyword : Token → Bool
  | .name s => softKeywords.contains s
  | _ => false

/-- Whether a token is another. -/
def Token.is (t u : Token) : Bool := t = u

/-- What is wrong with a number: it may have too many digits. Fractions may have any number of
them, and so may zeros. -/
def numberFault? : List Tree → Option String
  | [.node .number [.leaf (.number cs)]] =>
    let digits := cs.filter (· != '_')
    if digits.all Text.isDecimal && digits.any (· != '0') && maxDigits < digits.length then
      some ((CodeGraph.Fault.tooManyDigits digits.length).message ++
        " - Consider hexadecimal for huge integer literals to avoid decimal conversion limits.")
    else none
  | _ => none

/-- A text with its form, if a tree is one. -/
def Tree.text? : Tree → Option (TextForm × List Char)
  | .leaf (.text form body) => some (form, body)
  | _ => none

/-- What is wrong with texts in a row. -/
def textsFault? : List Tree → Option String
  | [.node .text parts] => textFault? (parts.filterMap Tree.text?)
  | _ => none

/-- The fault of two expressions next to each other. Within brackets a comma may be missing. -/
def commaFault? (trees : List Tree) (level : Nat) : Option String :=
  match trees with
  | t :: _ =>
    if t.isNameIn formerStatements || level = 0 then none
    else some "invalid syntax. Perhaps you forgot a comma?"
  | [] => none

/-- The fault of a statement of old. -/
def statementFault? : List Tree → Option String
  | .leaf (.name s) :: _ =>
    if formerStatements.contains s then
      some ("Missing parentheses in call to '" ++ s ++ "'. Did you mean " ++ s ++ "(...)?")
    else none
  | _ => none

/-- The fault of an expression that takes no value, between two texts. -/
def describedFault (before after : String) : List Tree → Option String
  | t :: _ => some (before ++ t.description ++ after)
  | [] => none

/-- The fault of a comprehension behind other arguments. -/
def looseGeneratorFault? : List Tree → Option String
  | .node _ parts :: _ =>
    if 1 < (parts.filter fun t => !t.isOf .keyword && !t.isOf .unpacking).length then
      some "Generator expression must be parenthesized"
    else none
  | _ => none

/-- The fault of arguments behind those with names. -/
def lateArgumentFault? : List Tree → Option String
  | .node _ parts :: _ =>
    some ("positional argument follows keyword argument" ++
      if parts.any (Tree.isOf .unpacking) then " unpacking" else "")
  | _ => none

/-- The fault of what a loop gives values to. -/
def targetFault? : List Tree → Option String
  | t :: _ => t.untakeable?.map fun u => "cannot assign to " ++ u.description
  | [] => none

section

open Pattern

/-- The reason given where one sign of equality stands for another. -/
def equalityMeant : String := "invalid syntax. Maybe you meant '==' or ':=' instead of '='?"

/-- The reason given where a comprehension needs brackets. -/
def generatorBrackets : String := "Generator expression must be parenthesized"

/-- The reason given where what a comprehension lists needs brackets. -/
def targetBrackets : String := "did you forget parentheses around the comprehension target?"

/-- The reason given where a key has no value. -/
def valueExpected : String := "expression expected after dictionary key and ':'"

/-- The reason given where a value is starred. -/
def starredValue : String := "cannot use a starred expression in a dictionary value"

/-- A name. -/
def aName : Pattern Rule := .token Token.isName

/-- An expression that is a name. -/
def nameAlone : Pattern Rule := .node .name aName

/-- A constant with a name. -/
def constant : Pattern Rule := .node .constant (.token Token.isConstant)

/-- What a rule stands for. -/
def Rule.body : Rule → Pattern Rule
  -- Texts and lists of expressions.
  | .whole => row [Rule.expressions, .many (.token (Token.is .newline)),
      .token (Token.is .finish)]
  | .expressions => oneOf [.node .tuple (severalListed Rule.expression),
      .node .tuple (row [Rule.expression, ","]), Rule.expression]
  | .starExpressions => oneOf [.node .tuple (severalListed Rule.starExpression),
      .node .tuple (row [Rule.starExpression, ","]), Rule.starExpression]
  | .starExpression => oneOf [.node .starred (row ["*", Rule.bitOr]), Rule.expression]
  | .starNamed => oneOf [.node .starred (row ["*", Rule.bitOr]), Rule.named]
  | .starNameds => row [listed Rule.starNamed, optional ","]
  -- Expressions.
  | .expression => oneOf [Rule.badExpression, Rule.badStatement, Rule.plainExpression]
  | .plainExpression => oneOf
      [.node .conditional (row [Rule.disjunction, "if", Rule.disjunction, "else",
        Rule.expression]), Rule.disjunction, Rule.lambda]
  | .assigned => .node .named (row [nameAlone, ":=", Rule.expression])
  | .named => oneOf [Rule.assigned, Rule.badNamed, row [Rule.expression, .notAhead ":="]]
  | .yielded => .node .yielded (oneOf [row ["yield", "from", Rule.expression],
      row ["yield", optional Rule.starExpressions]])
  | .disjunction => .joined .junction Rule.conjunction "or"
  | .conjunction => .joined .junction Rule.inversion "and"
  | .inversion => oneOf [.node .operation (row ["not", Rule.inversion]), Rule.comparison]
  | .comparison => oneOf
      [.node .membership (row [Rule.bitOr, "in", Rule.bitOr,
        .many (row [Rule.comparisonSign, Rule.bitOr])]),
       .joined .comparison Rule.bitOr Rule.comparisonSign]
  | .comparisonSign => oneOf ["==", "!=", "<=", "<", ">=", ">", row ["not", "in"], "in",
      row ["is", "not"], "is"]
  | .bitOr => .joined .operation Rule.bitXor "|"
  | .bitXor => .joined .operation Rule.bitAnd "^"
  | .bitAnd => .joined .operation Rule.shift "&"
  | .shift => .joined .operation Rule.sum (oneOf ["<<", ">>"])
  | .sum => .joined .sum Rule.term (oneOf ["+", "-"])
  | .term => .joined .operation Rule.factor (oneOf ["*", "/", "//", "%", "@"])
  | .factor => oneOf [.node .signed (row [oneOf ["+", "-"], Rule.factor]),
      .node .operation (row ["~", Rule.factor]), Rule.power]
  | .power => oneOf [.node .operation (row [Rule.awaited, "**", Rule.factor]), Rule.awaited]
  | .awaited => oneOf [.node .awaited (row ["await", Rule.primary]), Rule.primary]
  | .primary => .applied Rule.atom Rule.application
  | .application => oneOf
      [.node .attribute (row [".", aName]), .node .call Rule.generator,
       .node .call (row ["(", optional Rule.arguments, ")"]),
       .node .subscript (row ["[", Rule.subscripts, "]"])]
  | .subscripts => oneOf [row [Rule.slice, .notAhead ","],
      .node .tuple (row [listed (oneOf [Rule.slice, Rule.starred]), optional ","])]
  | .slice => oneOf
      [.node .slice (row [optional Rule.expression, ":", optional Rule.expression,
        optional (row [":", optional Rule.expression])]), Rule.named]
  | .atom => oneOf
      [nameAlone, constant, row [.ahead (.token Token.isText), Rule.strings], Rule.number,
       row [.ahead "(", oneOf [Rule.tuple, Rule.group, Rule.generator]],
       row [.ahead "[", oneOf [Rule.list, Rule.listComprehension]],
       row [.ahead "\x7b", oneOf [Rule.dictionary, Rule.set, Rule.dictionaryComprehension,
         Rule.setComprehension]],
       .node .ellipsis "..."]
  | .strings => .checked (.node .text (repeated (.token Token.isText))) textsFault?
  | .number => .checked (.node .number (.token Token.isNumber)) numberFault?
  -- Expressions in brackets.
  | .group => oneOf [row ["(", oneOf [Rule.yielded, Rule.named], ")"], Rule.badGroup]
  | .tuple => .node .tuple
      (row ["(", optional (row [Rule.starNamed, ",", optional Rule.starNameds]), ")"])
  | .list => .node .list (row ["[", optional Rule.starNameds, "]"])
  | .set => .node .set (row ["\x7b", Rule.starNameds, "\x7d"])
  | .dictionary => oneOf [.node .dictionary (row ["\x7b", optional Rule.pairs, "\x7d"]),
      row ["\x7b", Rule.badPairs, "\x7d"]]
  | .pairs => row [listed Rule.pair, optional ","]
  | .pair => oneOf [.node .unpacking (row ["**", Rule.bitOr]), Rule.keyAndValue]
  | .keyAndValue => .node .pair (row [Rule.expression, ":", Rule.expression])
  | .generator => oneOf
      [.node .generator (row ["(", oneOf [Rule.assigned, row [Rule.expression, .notAhead ":="]],
        Rule.clauses, ")"]), Rule.badComprehension]
  | .listComprehension => oneOf
      [.node .listComprehension (row ["[", Rule.named, Rule.clauses, "]"]), Rule.badComprehension]
  | .setComprehension => oneOf
      [.node .setComprehension (row ["\x7b", Rule.named, Rule.clauses, "\x7d"]),
       Rule.badComprehension]
  | .dictionaryComprehension => oneOf
      [.node .dictionaryComprehension (row ["\x7b", Rule.keyAndValue, Rule.clauses, "\x7d"]),
       Rule.badDictionaryComprehension]
  | .clauses => .node .clauses (repeated Rule.clause)
  | .clause =>
      let loop := row [optional "async", "for", Rule.targets, "in"]
      oneOf [row [loop, Rule.disjunction, .many (row ["if", Rule.disjunction])],
        row [.notAhead loop, Rule.badTarget]]
  | .targets => oneOf [row [Rule.target, .notAhead ","],
      row [listed Rule.target, optional ","]]
  | .target => oneOf [row ["*", .notAhead "*", Rule.target], Rule.targetItem]
  | .targetItem => oneOf
      [row [Rule.targetPrimary, ".", aName, .notAhead Rule.targetNext],
       row [Rule.targetPrimary, "[", Rule.subscripts, "]", .notAhead Rule.targetNext],
       Rule.targetAtom]
  | .targetAtom => oneOf
      [nameAlone, row ["(", Rule.targetItem, ")"],
       row ["(", optional (oneOf [severalListed Rule.target, row [Rule.target, ","]]), ")"],
       row ["[", optional (row [listed Rule.target, optional ","]), "]"]]
  | .targetPrimary => .applied (row [Rule.atom, .ahead Rule.targetNext])
      (row [Rule.application, .ahead Rule.targetNext])
  | .targetNext => oneOf ["(", "[", "."]
  -- What functions take.
  | .arguments => oneOf [row [Rule.givens, optional ",", .ahead ")"], Rule.badArguments]
  | .givens => .node .tuple (oneOf
      [row [listed (oneOf [Rule.starred, row [oneOf [Rule.assigned,
        row [Rule.expression, .notAhead ":="]], .notAhead "="]]),
        optional (row [",", Rule.keywords])], Rule.keywords])
  | .keywords => oneOf
      [row [listed Rule.keywordOrStarred, ",", listed Rule.keywordOrUnpacking],
       listed Rule.keywordOrStarred, listed Rule.keywordOrUnpacking]
  | .starred => oneOf [.node .starred (row ["*", Rule.expression]),
      wrong "Invalid star expression" ["*"]]
  | .keywordOrStarred => oneOf
      [Rule.badKeyword, .node .keyword (row [aName, "=", Rule.expression]), Rule.starred]
  | .keywordOrUnpacking => oneOf
      [Rule.badKeyword, .node .keyword (row [aName, "=", Rule.expression]),
       .node .unpacking (row ["**", Rule.expression])]
  | .lambda => .node .function
      (row ["lambda", optional Rule.parameters, ":", Rule.expression])
  | .parameters => oneOf
      [Rule.badParameters,
       row [Rule.slashFree, .many Rule.freeParameter, .many Rule.defaultParameter,
        optional Rule.lastParameters],
       row [Rule.slashDefault, .many Rule.defaultParameter, optional Rule.lastParameters],
       row [repeated Rule.freeParameter, .many Rule.defaultParameter,
        optional Rule.lastParameters],
       row [repeated Rule.defaultParameter, optional Rule.lastParameters], Rule.lastParameters]
  | .freeParameter => row [aName, oneOf [",", .ahead ":"]]
  | .defaultParameter => row [aName, Rule.default, oneOf [",", .ahead ":"]]
  | .default => oneOf [row ["=", Rule.expression],
      mistaken "expected default value expression" ["=", .ahead (oneOf [")", ","])]]
  | .anyParameter => row [aName, optional Rule.default, oneOf [",", .ahead ":"]]
  | .lastParameters => oneOf
      [Rule.badLastParameters,
       row ["*", Rule.freeParameter, .many Rule.anyParameter, optional Rule.allKeywords],
       row ["*", ",", repeated Rule.anyParameter, optional Rule.allKeywords], Rule.allKeywords]
  | .slashFree => row [repeated Rule.freeParameter, "/", oneOf [",", .ahead ":"]]
  | .slashDefault => row [.many Rule.freeParameter, repeated Rule.defaultParameter, "/",
      oneOf [",", .ahead ":"]]
  | .allKeywords => oneOf [Rule.badAllKeywords, row ["**", Rule.freeParameter]]
  -- Mistakes.
  | .badExpression => oneOf
      [.mistake (row [.notAhead (oneOf [row [aName, .token Token.isText],
        .token Token.isSoftKeyword]), Rule.disjunction, .lenient Rule.plainExpression]) commaFault?,
       mistaken "expected 'else' after 'if' expression"
        [Rule.disjunction, "if", Rule.disjunction, .notAhead (oneOf ["else", ":"])]]
  | .badStatement => .mistake (row [aName, .notAhead "(", Rule.starExpressions])
      fun trees _ => statementFault? trees
  | .badNamed => oneOf
      [.mistake (row [Rule.expression, ":=", Rule.expression])
        fun trees _ => describedFault "cannot use assignment expressions with " "" trees,
       mistaken equalityMeant [aName, "=", Rule.bitOr, .notAhead (oneOf ["=", ":="])],
       .mistake (row [.notAhead (oneOf [Rule.list, Rule.tuple, Rule.generator, "True", "None",
        "False"]), Rule.bitOr, "=", Rule.bitOr, .notAhead (oneOf ["=", ":="])])
        fun trees _ =>
          describedFault "cannot assign to " " here. Maybe you meant '==' instead of '='?" trees]
  | .badGroup => oneOf
      [mistaken "cannot use starred expression here" ["(", Rule.starred, ")"],
       mistaken "cannot use double starred expression here" ["(", "**", Rule.expression, ")"]]
  | .badPairs => oneOf
      [row [listed Rule.pair, ",", Rule.badPair],
       wrong starredValue [Rule.expression, ":", "*", Rule.bitOr],
       wrong valueExpected [Rule.expression, ":", .ahead (oneOf ["\x7d", ","])]]
  | .badPair => oneOf
      [wrong "':' expected after dictionary key" [Rule.expression, .notAhead ":"],
       wrong starredValue [Rule.expression, ":", "*", Rule.bitOr],
       wrong valueExpected [Rule.expression, ":", .ahead (oneOf ["\x7d", ","])]]
  | .badComprehension => oneOf
      [mistaken "iterable unpacking cannot be used in comprehension"
        [oneOf ["[", "(", "\x7b"], Rule.starred, Rule.clauses],
       mistaken targetBrackets
        [oneOf ["[", "\x7b"], Rule.starNamed, ",", Rule.starNameds, Rule.clauses],
       mistaken targetBrackets [oneOf ["[", "\x7b"], Rule.starNamed, ",", Rule.clauses]]
  | .badDictionaryComprehension =>
      mistaken "dict unpacking cannot be used in dict comprehension"
        ["\x7b", "**", Rule.bitOr, Rule.clauses, "\x7d"]
  | .badTarget => .mistake (row [optional "async", "for", Rule.starExpressions])
      fun trees _ => targetFault? trees
  | .badArguments => oneOf
      [mistaken "iterable argument unpacking follows keyword argument unpacking"
        [Rule.givens, ",", "*"],
       mistaken generatorBrackets [Rule.expression, Rule.clauses, ",",
        optional (oneOf [Rule.givens, row [Rule.expression, Rule.clauses]])],
       mistaken equalityMeant [aName, "=", Rule.expression, Rule.clauses],
       .mistake (row [Rule.givens, Rule.clauses]) fun trees _ => looseGeneratorFault? trees,
       mistaken generatorBrackets [Rule.givens, ",", Rule.expression, Rule.clauses],
       .mistake (row [Rule.givens, ",", Rule.givens]) fun trees _ => lateArgumentFault? trees]
  | .badParameters =>
      let slash := oneOf [Rule.slashFree, Rule.slashDefault]
      oneOf
      [mistaken "non-default argument follows default argument" [.many Rule.freeParameter,
        oneOf [Rule.slashDefault, repeated Rule.defaultParameter], Rule.freeParameter],
       mistaken "Lambda expression parameters cannot be parenthesized"
        [.many Rule.freeParameter, "(", listed aName, optional ",", ")"],
       mistaken "at least one argument must precede /" ["/", ","],
       mistaken "/ may appear only once" [slash, .many Rule.anyParameter, "/"],
       mistaken "/ must be ahead of *" [optional slash, .many Rule.anyParameter, "*",
        oneOf [",", Rule.freeParameter], .many Rule.anyParameter, "/"],
       mistaken "expected comma between / and *" [repeated Rule.anyParameter, "/", "*"]]
  | .badLastParameters =>
      let behindStar := oneOf [Rule.freeParameter, ","]
      oneOf
      [mistaken "named arguments must follow bare *"
        ["*", oneOf [":", row [",", oneOf [":", "**"]]]],
       mistaken "var-positional argument cannot have default value" ["*", aName, "="],
       mistaken "* argument may appear only once"
        ["*", behindStar, .many Rule.anyParameter, "*", behindStar]]
  | .badAllKeywords => oneOf
      [mistaken "var-keyword argument cannot have default value" ["**", aName, "="],
       mistaken "arguments cannot follow var-keyword argument"
        ["**", aName, ",", oneOf [aName, "*", "**", "/"]]]
  | .badKeyword => oneOf
      [.mistake (row [.token Token.isConstant, "="])
        fun trees _ => describedFault "cannot assign to " "" (trees.map fun t =>
          .node .constant [t]),
       mistaken equalityMeant [aName, "=", Rule.expression, Rule.clauses],
       mistaken "expression cannot contain assignment, perhaps you meant \"==\"?"
        [.notAhead (row [aName, "="]), Rule.expression, "="]]

end

/-- The rules whose outcome at a place counts for all later looks, also where one look was after
mistakes and the other was not. -/
def Rule.isRemembered : Rule → Bool
  | .expression | .starExpression | .disjunction | .conjunction | .inversion | .bitOr | .bitXor
  | .bitAnd | .shift | .sum | .term | .factor | .awaited | .primary | .strings | .arguments
  | .target | .targetItem | .targetPrimary | .badNamed => true
  | _ => false

end CodeGraph.Literal
