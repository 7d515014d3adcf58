import CodeGraph.Literal.Tree

/-!
# Patterns of tokens

A pattern matches tokens from a place on and gives trees for them. Choices are ordered: the first
that matches counts. Some patterns stand for mistakes: they matter only to a reader who looks for
the reason why a text is no expression.

Main definitions:

- `Pattern`: the patterns over the names of rules.
-/
namespace CodeGraph.Literal

/-- Patterns whose rules have names of a type. -/
inductive Pattern (ρ : Type) where
  /-- Nothing at all. -/
  | nothing
  /-- A sign or a word of the grammar, which gives no tree. -/
  | sign (text : String)
  /-- A token that passes a test, as a leaf. -/
  | token (test : Token → Bool)
  /-- What a rule stands for. -/
  | rule (name : ρ)
  /-- One pattern behind another. -/
  | both (first second : Pattern ρ)
  /-- The first of two patterns that matches. -/
  | either (first second : Pattern ρ)
  /-- A pattern as often as it matches. -/
  | many (item : Pattern ρ)
  /-- A look at what comes next. -/
  | ahead (next : Pattern ρ)
  /-- A look at what must not come next. -/
  | notAhead (next : Pattern ρ)
  /-- A pattern whose trees are the parts of one. -/
  | node (kind : Kind) (parts : Pattern ρ)
  /-- An item, or several with something between them, which are the parts of one tree. -/
  | joined (kind : Kind) (item between : Pattern ρ)
  /-- An item and all that is applied to it. Each application takes the tree before it as its first
  part. -/
  | applied (item application : Pattern ρ)
  /-- A pattern in which no mistake is looked for. -/
  | lenient (inner : Pattern ρ)
  /-- A pattern whose trees may be at fault. -/
  | checked (inner : Pattern ρ) (fault? : List Tree → Option String)
  /-- A mistake, unless there is no fault in its trees at the number of brackets open behind it. -/
  | mistake (inner : Pattern ρ) (fault? : List Tree → Nat → Option String)

namespace Pattern

variable {ρ : Type}

instance : Coe String (Pattern ρ) := ⟨.sign⟩

instance : Coe ρ (Pattern ρ) := ⟨.rule⟩

/-- Patterns one behind the other. -/
def row : List (Pattern ρ) → Pattern ρ
  | [] => .nothing
  | [p] => p
  | p :: ps => .both p (row ps)

/-- The first of several patterns that matches. -/
def oneOf : List (Pattern ρ) → Pattern ρ
  | [] => .notAhead .nothing
  | [p] => p
  | p :: ps => .either p (oneOf ps)

/-- A pattern, if it matches. -/
def optional (p : Pattern ρ) : Pattern ρ := .either p .nothing

/-- A pattern once at least. -/
def repeated (p : Pattern ρ) : Pattern ρ := .both p (.many p)

/-- Items with commas between them. -/
def listed (p : Pattern ρ) : Pattern ρ := .both p (.many (.both "," p))

/-- Two items at least with commas between them, and perhaps a comma behind them. -/
def severalListed (p : Pattern ρ) : Pattern ρ :=
  row [p, .repeated (.both "," p), .optional ","]

/-- A mistake with a reason of its own. -/
def mistaken (reason : String) (ps : List (Pattern ρ)) : Pattern ρ :=
  .mistake (row ps) fun _ _ => some reason

/-- A fault with a reason of its own, for every reader. -/
def wrong (reason : String) (ps : List (Pattern ρ)) : Pattern ρ :=
  .checked (row ps) fun _ => some reason

end Pattern

end CodeGraph.Literal
