import CodeGraph.Manifest.Basic
import CodeGraph.Manifest.Language
import CodeGraph.Text.Blank
import CodeGraph.Text.Split
import CodeGraph.Text.Word

/-!
# Mix projects

The manifest of a project that is built with Mix is a module with a function `deps`, which lists
tuples of a name and options. The readers here look for these parts in the text and skip the rest.
A comment runs from a number sign outside a text in double quotes to the end of its line.

Main definitions:

- `appName?`: the name of the application;
- `block?`: the body of the function that lists the dependencies;
- `tuples`: the tuples in it;
- `read?`: the manifest.
-/
namespace CodeGraph.MixProject

/-- A word at the front of a text and what follows it. -/
def word? (cs : List Char) : Option (List Char × List Char) :=
  match cs.takeWhile Text.isWord with
  | [] => none
  | w => some (w, cs.dropWhile Text.isWord)

/-- A given word at the front of a text, ending there. -/
def wholeWord? (w : String) (cs : List Char) : Option (List Char) :=
  (Text.dropPrefix? w.toList cs).filter fun rest => !Text.startsWord rest

/-- The atom behind a blank or none: a colon and a word. -/
def atom? (cs : List Char) : Option (List Char × List Char) :=
  match Text.skipBlanks cs with
  | ':' :: ds => word? ds
  | _ => none

/-- The name of the application, wherever it is first given. -/
def appName? (cs : List Char) : Option String :=
  Text.firstMatch (fun ds => do
    let rest ← Text.dropPrefix? "app:".toList ds
    let (name, _) ← atom? rest
    return String.ofList name) cs

/-- A text without a pair of parentheses in front, if there is one with only blanks inside. -/
def skipParentheses (cs : List Char) : List Char :=
  match cs with
  | '(' :: ds =>
    match Text.skipBlanks ds with
    | ')' :: es => es
    | _ => cs
  | _ => cs

/-- What follows the head of the function that lists the dependencies. -/
def head? (cs : List Char) : Option (List Char) := do
  let rest ← Text.dropPrefix? "def".toList cs
  let rest := (Text.dropPrefix? ['p'] rest).getD rest
  guard (rest.head?.any Text.isBlank)
  let rest ← Text.dropPrefix? "deps".toList (Text.skipBlanks rest)
  wholeWord? "do" (Text.skipBlanks (skipParentheses (Text.skipBlanks rest)))

/-- The text up to the first line that starts with the word `end`, blank lines before that word
apart. The flag tells that a line starts here. -/
def bodyFrom? (atLineStart : Bool) (cs : List Char) : Option (List Char) :=
  if atLineStart && (wholeWord? "end" (Text.skipBlanks cs)).isSome then some []
  else
    match cs with
    | [] => none
    | c :: ds => (bodyFrom? (c == '\n') ds).map (c :: ·)

/-- The body of the function that lists the dependencies. -/
def block? (cs : List Char) : Option (List Char) :=
  Text.firstMatch (fun ds => (head? ds).bind (bodyFrom? false)) cs

/-- A text in double quotes behind its opening quote, up to and with its closing one, and the rest.
A backslash keeps the next character, which is no line feed, from ending it. -/
def quoted? : List Char → Option (List Char × List Char)
  | [] => none
  | '"' :: cs => some (['"'], cs)
  | ['\\'] => none
  | '\\' :: c :: cs =>
    if c = '\n' then none else (quoted? cs).map fun r => ('\\' :: c :: r.1, r.2)
  | c :: cs => (quoted? cs).map fun r => (c :: r.1, r.2)

/-- Drop comments, given how many characters of a quoted text still come. -/
def stripFrom (quotedLeft : Nat) (inComment : Bool) : List Char → List Char
  | [] => []
  | c :: cs =>
    match quotedLeft with
    | n + 1 => c :: stripFrom n false cs
    | 0 =>
      if inComment then
        if c = '\n' then c :: stripFrom 0 false cs else stripFrom 0 true cs
      else if c = '#' then stripFrom 0 true cs
      else if c = '"' then
        c :: stripFrom (((quoted? cs).map fun r => r.1.length).getD 0) false cs
      else c :: stripFrom 0 false cs

/-- A text without its comments. -/
def stripComments (cs : List Char) : List Char := stripFrom 0 false cs

/-- The options of a tuple up to its closing brace. Braces inside go one level deep; the flag tells
that one is open. -/
def options? (inner : Bool) : List Char → Option (List Char × List Char)
  | [] => none
  | c :: cs =>
    if c = '\x7d' then
      if inner then (options? false cs).map fun r => (c :: r.1, r.2) else some ([], cs)
    else if c = '\x7b' then
      if inner then none else (options? true cs).map fun r => (c :: r.1, r.2)
    else (options? inner cs).map fun r => (c :: r.1, r.2)

/-- A tuple behind its opening brace: its name and its options. -/
def tuple? (cs : List Char) : Option ((List Char × List Char) × List Char) := do
  let (name, rest) ← atom? cs
  match Text.skipBlanks rest with
  | ',' :: ds => (options? false ds).map fun r => ((name, r.1), r.2)
  | _ => none

/-- The tuples of a text, given how many of its characters belong to a tuple already found. -/
def tuplesFrom (taken : Nat) : List Char → List (List Char × List Char)
  | [] => []
  | c :: cs =>
    match taken with
    | n + 1 => tuplesFrom n cs
    | 0 =>
      if c = '\x7b' then
        match tuple? cs with
        | some (t, rest) => t :: tuplesFrom (cs.length - rest.length) cs
        | none => tuplesFrom 0 cs
      else tuplesFrom 0 cs

/-- The tuples of a text, each with its name and its options. -/
def tuples (cs : List Char) : List (List Char × List Char) := tuplesFrom 0 cs

/-- The version constraint that options start with. -/
def version? (options : List Char) : Option String :=
  match Text.skipBlanks options with
  | '"' :: cs =>
    if '"' ∈ cs then some (String.ofList (cs.takeWhile (· != '"'))) else none
  | _ => none

/-- Whether a text goes on with the name of an environment of development. -/
def startsDevAtom (cs : List Char) : Bool :=
  (wholeWord? ":dev" cs).isSome || (wholeWord? ":test" cs).isSome

/-- Whether an environment of development stands in a text before its first closing bracket. -/
def listsDevAtom : List Char → Bool
  | [] => false
  | c :: cs => c != ']' && (startsDevAtom (c :: cs) || listsDevAtom cs)

/-- Whether options restrict a dependency to environments of development. -/
def isDevOnly (options : List Char) : Bool :=
  (Text.firstMatch (fun cs => do
    let rest ← Text.dropPrefix? "only:".toList cs
    let rest := Text.skipBlanks rest
    guard (startsDevAtom rest || (rest.head? == some '[' && listsDevAtom (rest.drop 1))))
    options).isSome

/-- The dependency that a tuple declares. -/
def dependency (t : List Char × List Char) : Dependency := ⟨String.ofList t.1, version? t.2⟩

/-- The manifest in the text of a project file; none when the text defines no module. A project
without a name goes by the name of its directory. -/
def read? (directory : String) (cs : List Char) : Option Manifest :=
  if Text.occursIn "defmodule".toList cs then
    let declared := ((block? cs).map fun body => tuples (stripComments body)).getD []
    let (dev, needed) := declared.partition fun t => isDevOnly t.2
    some {
      name := (appName? cs).getD directory
      dependencies := needed.map dependency
      devDependencies := dev.map dependency
      language := .text Language.elixir.name }
  else none

end CodeGraph.MixProject
