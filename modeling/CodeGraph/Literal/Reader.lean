import CodeGraph.Literal.Grammar
import CodeGraph.Literal.Lexer
import Std.Data.HashMap

/-!
# Reading expressions

A text is read twice if need be: first for the expression that it says, and when it says none, again
for the first mistake of the grammar that is found in it. A broken token ends a reading where it is
met.

Main definitions:

- `read`: the tree of a text, or why it has none.
-/
namespace CodeGraph.Literal

/-- What a pattern gives at a place: trees and the place behind them, or nothing. -/
abbrev Outcome := Option (List Tree × Nat)

/-- What is known in the middle of a reading: the outcomes of rules at places, and how many tokens
were looked at. -/
structure Memory where
  outcomes : Std.HashMap (Rule × Nat) Outcome
  seen : Nat

/-- A step of a reading. It fails with the reason why the text is no expression. -/
abbrev Reading := ExceptT String (StateM Memory)

/-- Look at a token. -/
def look (tokens : Array LevelToken) (place : Nat) : Reading Token := do
  modify fun m => { m with seen := max m.seen (place + 1) }
  match tokens[place]? with
  | some ⟨.broken reason, _, _⟩ => throw reason
  | some t => return t.token
  | none => return .finish

/-- A token that passes a test. -/
def one (tokens : Array LevelToken) (place : Nat) (test : Token → Bool) :
    Reading (Option (Token × Nat)) := do
  let t ← look tokens place
  return if test t then some (t, place + 1) else none

/-- What is applied to a tree, given an application with its further parts. -/
def apply (function : Tree) : Tree → Tree
  | .node kind parts => .node kind (function :: parts)
  | .leaf token => .leaf token

/-- What a pattern gives at a place, given a bound for the depth of the search and whether mistakes
are looked for. -/
def search (tokens : Array LevelToken) :
    Nat → Bool → Pattern Rule → Nat → Reading Outcome
  | 0, _, _, _ => return none
  | depth + 1, strict, pattern, place => do
    match pattern with
    | .nothing => return some ([], place)
    | .sign s =>
      let r ← one tokens place fun t => t = .sign s || t = .name s
      return r.map fun r => ([], r.2)
    | .token test =>
      let r ← one tokens place test
      return r.map fun r => ([.leaf r.1], r.2)
    | .rule name =>
      if name.isRemembered then
        match (← get).outcomes[(name, place)]? with
        | some r => return r
        | none =>
          let r ← search tokens depth strict name.body place
          modify fun m => { m with outcomes := m.outcomes.insert (name, place) r }
          return r
      else search tokens depth strict name.body place
    | .both p q =>
      match ← search tokens depth strict p place with
      | none => return none
      | some (first, middle) =>
        return (← search tokens depth strict q middle).map fun r => (first ++ r.1, r.2)
    | .either p q =>
      match ← search tokens depth strict p place with
      | some r => return some r
      | none => search tokens depth strict q place
    | .many p =>
      match ← search tokens depth strict p place with
      | none => return some ([], place)
      | some (first, middle) =>
        return (← search tokens depth strict (.many p) middle).map fun r => (first ++ r.1, r.2)
    | .ahead p =>
      return (← search tokens depth strict p place).map fun _ => ([], place)
    | .notAhead p =>
      return if (← search tokens depth strict p place).isSome then none else some ([], place)
    | .node kind p =>
      return (← search tokens depth strict p place).map fun r => ([.node kind r.1], r.2)
    | .joined kind item between =>
      match ← search tokens depth strict item place with
      | none => return none
      | some (first, middle) =>
        match ← search tokens depth strict (.many (.both between item)) middle with
        | some ([], _) | none => return some (first, middle)
        | some (others, stop) => return some ([.node kind (first ++ others)], stop)
    | .applied item application =>
      match ← search tokens depth strict item place with
      | some ([function], middle) =>
        return (← search tokens depth strict (.many application) middle).map fun r =>
          ([r.1.foldl apply function], r.2)
      | r => return r
    | .lenient p => search tokens depth false p place
    | .checked p fault? =>
      match ← search tokens depth strict p place with
      | none => return none
      | some (trees, stop) =>
        match fault? trees with
        | some reason => throw reason
        | none => return some (trees, stop)
    | .mistake p fault? =>
      if !strict then return none
      match ← search tokens depth strict p place with
      | none => return none
      | some (trees, stop) =>
        match fault? trees (((tokens[stop - 1]?).map LevelToken.level).getD 0) with
        | some reason => throw reason
        | none => return none

/-- Read an expression from tokens, looking for mistakes or not. The last token that was looked at
comes with the outcome. -/
def readTokens (tokens : Array LevelToken) (strict : Bool) :
    Except String Outcome × Option LevelToken :=
  let r := ((search tokens (400 * (tokens.size + 1)) strict Rule.whole 0).run).run ⟨∅, 0⟩
  (r.1, tokens[r.2.seen - 1]?)

/-- Whether a token is broken. -/
def Token.isBroken : Token → Bool
  | .broken _ => true
  | _ => false

/-- The reason why a text is no expression, given the reason that a reading found and the last token
that it looked at. A fault of the tokens counts more, and so do brackets of earlier lines that are
open at the end. -/
def Scan.reason (s : Scan) (found : String) (seen? : Option LevelToken) : String :=
  match s.fault?, s.opened, seen? with
  | some fault, _, _ => fault
  | none, o :: _, some t =>
    if o.line < t.line && !t.token.isBroken then o.reason else found
  | none, _, _ => found

/-- The tree of a text, or why it has none. A line that is set in is a reason only where there is no
mistake of the grammar. -/
def read (cs : List Char) : Except String Tree :=
  let s := scan cs
  let tokens := s.tokens.toArray
  match readTokens tokens false with
  | (.ok (some (tree :: _, _)), _) => .ok tree
  | (.error reason, seen?) => .error (s.reason reason seen?)
  | (.ok _, first?) =>
    match readTokens tokens true with
    | (.error reason, seen?) => .error (s.reason reason seen?)
    | (.ok _, seen?) =>
      if first?.map LevelToken.token = some .indent then .error "unexpected indent"
      else .error (s.reason "invalid syntax" seen?)

end CodeGraph.Literal
