import CodeGraph.Literal.Token

/-!
# Trees of expressions

What a text says is a tree of expressions over names, numbers and texts. Signs and words of the
grammar show in the kinds of the expressions alone.

Main definitions:

- `Tree`: the trees;
- `Tree.description`: what an expression is called.
-/
namespace CodeGraph.Literal

/-- The kinds of expressions and of their parts. -/
inductive Kind where
  | name
  | constant
  | number
  | text
  | ellipsis
  | tuple
  | list
  | set
  | dictionary
  | pair
  | unpacking
  | starred
  | generator
  | listComprehension
  | setComprehension
  | dictionaryComprehension
  | clauses
  | call
  | keyword
  | attribute
  | subscript
  | slice
  | awaited
  | sum
  | operation
  | signed
  | junction
  | membership
  | comparison
  | conditional
  | function
  | named
  | yielded
  deriving DecidableEq, Repr

/-- An expression, or a token of it. -/
inductive Tree where
  | leaf (token : Token)
  | node (kind : Kind) (parts : List Tree)
  deriving Repr

/-- What expressions of a kind are called. -/
def Kind.description : Kind → String
  | .name => "name"
  | .constant | .number | .text => "literal"
  | .ellipsis => "ellipsis"
  | .tuple => "tuple"
  | .list => "list"
  | .set => "set display"
  | .dictionary => "dict literal"
  | .starred => "starred"
  | .generator => "generator expression"
  | .listComprehension => "list comprehension"
  | .setComprehension => "set comprehension"
  | .dictionaryComprehension => "dict comprehension"
  | .call => "function call"
  | .attribute => "attribute"
  | .subscript => "subscript"
  | .awaited => "await expression"
  | .membership | .comparison => "comparison"
  | .conditional => "conditional expression"
  | .function => "lambda"
  | .named => "named expression"
  | .yielded => "yield expression"
  | _ => "expression"

/-- Whether a token is a text with expressions in it. -/
def Tree.isFormattedText : Tree → Bool
  | .leaf (.text form _) => form.formatted
  | _ => false

/-- What an expression is called. The constants with names are called by them. -/
def Tree.description : Tree → String
  | .node .constant [.leaf (.name s)] => s
  | .node .text parts =>
    if parts.any Tree.isFormattedText then "f-string expression" else Kind.text.description
  | .node kind _ => kind.description
  | .leaf _ => "expression"

/-- Whether a tree is a name of a list. -/
def Tree.isNameIn (names : List String) : Tree → Bool
  | .leaf (.name s) => names.contains s
  | .node .name [.leaf (.name s)] => names.contains s
  | _ => false

/-- Whether a tree is of a kind. -/
def Tree.isOf (kind : Kind) : Tree → Bool
  | .node k _ => k = kind
  | .leaf _ => false

mutual

/-- The first part of an expression that no loop can give values to. Names, attributes and
subscripts take values, and so do lists and tuples of what takes them. -/
def Tree.untakeable? : Tree → Option Tree
  | .node .name _ | .node .attribute _ | .node .subscript _ | .node .comparison _ => none
  | .node .tuple parts | .node .list parts => Tree.firstUntakeable? parts
  | .node .starred [t] => t.untakeable?
  | .node .membership (t :: _) => t.untakeable?
  | t => some t

/-- The first part of expressions that no loop can give values to. -/
def Tree.firstUntakeable? : List Tree → Option Tree
  | [] => none
  | t :: ts => t.untakeable?.orElse fun _ => Tree.firstUntakeable? ts

end

end CodeGraph.Literal
