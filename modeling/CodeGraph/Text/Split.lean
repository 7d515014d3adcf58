/-!
# Taking texts apart

Texts are lists of characters. The functions here look for a given text inside another one.

Main statements:

- `dropPrefix?_eq_some_iff`: a beginning is dropped exactly when the text starts with it;
- `before_append_rest`: a cut before a separator loses nothing.
-/
namespace CodeGraph.Text

/-- What follows a given beginning of a text. -/
def dropPrefix? : List Char → List Char → Option (List Char)
  | [], cs => some cs
  | _ :: _, [] => none
  | p :: ps, c :: cs => if p = c then dropPrefix? ps cs else none

/-- A beginning is dropped exactly when the text starts with it. -/
theorem dropPrefix?_eq_some_iff {ps cs rest : List Char} :
    dropPrefix? ps cs = some rest ↔ cs = ps ++ rest := by
  induction ps generalizing cs with
  | nil => simp [dropPrefix?]
  | cons p ps ih =>
    cases cs with
    | nil => simp [dropPrefix?]
    | cons c cs =>
      by_cases h : p = c
      · simp [dropPrefix?, h, ih]
      · have h' : ¬ c = p := fun he => h he.symm
        simp [dropPrefix?, h, h']

/-- Whether a text starts with another. -/
def startsWith (ps cs : List Char) : Bool := (dropPrefix? ps cs).isSome

/-- The text before the first occurrence of a separator; the whole text when there is none. -/
def before (sep : List Char) : List Char → List Char
  | [] => []
  | c :: cs => if startsWith sep (c :: cs) then [] else c :: before sep cs

/-- The text from the first occurrence of a separator on; nothing when there is none. -/
def fromFirst (sep : List Char) : List Char → List Char
  | [] => []
  | c :: cs => if startsWith sep (c :: cs) then c :: cs else fromFirst sep cs

/-- A cut before a separator loses nothing. -/
theorem before_append_rest (sep cs : List Char) : before sep cs ++ fromFirst sep cs = cs := by
  induction cs with
  | nil => rfl
  | cons c cs ih =>
    unfold before fromFirst
    split <;> simp [ih]

/-- Whether a text occurs somewhere in another. -/
def occursIn (sub : List Char) : List Char → Bool
  | [] => sub.isEmpty
  | c :: cs => startsWith sub (c :: cs) || occursIn sub cs

/-- What a test makes of the leftmost place of a text where it succeeds. The test sees the text
from that place on. -/
def firstMatch {α : Type} (test : List Char → Option α) : List Char → Option α
  | [] => test []
  | c :: cs =>
    match test (c :: cs) with
    | some a => some a
    | none => firstMatch test cs

/-- The pieces of a text between the places where a character stands. -/
def splitAt (sep : Char) (cs : List Char) : List (List Char) :=
  cs.foldr (fun c pieces =>
    if c = sep then [] :: pieces
    else match pieces with
      | [] => [[c]]
      | p :: ps => (c :: p) :: ps) [[]]

end CodeGraph.Text
