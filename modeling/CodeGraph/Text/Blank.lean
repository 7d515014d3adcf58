/-!
# Blank characters

White space in the sense of Unicode, with the four ASCII separators 0x1c to 0x1f, which end fields,
records and files.

Main statements:

- `trimEndWhile_append`: what trimming removes does not survive at the end of a text.
-/
namespace CodeGraph.Text

/-- Whether a character is white space. -/
def isBlank (c : Char) : Bool :=
  let n := c.toNat
  (9 ≤ n && n ≤ 13) || (0x1c ≤ n && n ≤ 0x20) || n == 0x85 || n == 0xa0 || n == 0x1680 ||
    (0x2000 ≤ n && n ≤ 0x200a) || n == 0x2028 || n == 0x2029 || n == 0x202f || n == 0x205f ||
    n == 0x3000

/-- A text without the characters at its end that a test accepts. -/
def trimEndWhile (p : Char → Bool) (cs : List Char) : List Char :=
  (cs.reverse.dropWhile p).reverse

/-- A text without the characters at either end that a test accepts. -/
def trimWhile (p : Char → Bool) (cs : List Char) : List Char :=
  trimEndWhile p (cs.dropWhile p)

/-- A text without the blanks in front. -/
def skipBlanks (cs : List Char) : List Char := cs.dropWhile isBlank

/-- A text without the blanks at either end. -/
def trim (cs : List Char) : List Char := trimWhile isBlank cs

/-- The words of a text, given the characters of the open word, last one first. -/
def wordsFrom (word : List Char) : List Char → List (List Char)
  | [] => if word.isEmpty then [] else [word.reverse]
  | c :: cs =>
    if isBlank c then
      if word.isEmpty then wordsFrom [] cs else word.reverse :: wordsFrom [] cs
    else wordsFrom (c :: word) cs

/-- The words of a text: its longest parts without blanks. -/
def words (cs : List Char) : List (List Char) := wordsFrom [] cs

/-- Characters that the test accepts do not survive at the end. -/
theorem trimEndWhile_append {p : Char → Bool} {cs ds : List Char} (h : ∀ c ∈ ds, p c = true) :
    trimEndWhile p (cs ++ ds) = trimEndWhile p cs := by
  have hr : ∀ c ∈ ds.reverse, p c = true := fun c hc => h c (List.mem_reverse.1 hc)
  rw [trimEndWhile, trimEndWhile, List.reverse_append, List.dropWhile_append_of_pos hr]

end CodeGraph.Text
