import CodeGraph.Manifest.Requirement
import CodeGraph.Proofs.TextParts
import Mathlib.Data.List.Basic

/-!
# Lines that declare requirements

A line that is put together from a name, extras, a version constraint, a condition and a comment is
taken apart into the same name and the same constraint, whichever of the other parts it has and
whatever blanks stand between them. Conditions and comments may hold anything. Extras and
constraints may hold anything that does not start a condition or a comment, does not make the line
an address, and does not end them early.

Main definitions:

- `Requirement.Line`: a line of this form, in its parts;
- `Requirement.FileLine`: a line of a file, which declares one dependency or none.

Main statements:

- `Requirement.Line.relevant_text`: the part of a line that counts;
- `Requirement.Line.nameAndRest?_eq`, `Requirement.Written.constraintOf_text`: its name and its
  constraint are found;
- `Requirement.Line.parse?_text`: a line declares the dependency that it was made for;
- `Requirement.parseLines_exact`: the dependencies that the lines of a file declare.
-/
namespace CodeGraph.Requirement

/-! ## The parts of a line -/

/-- A text in which no condition and no comment starts, and that is no address. -/
structure Plain (cs : List Char) : Prop where
  no_condition : ';' ∉ cs
  no_comment : ¬ [' ', '#'] <:+: cs
  no_address : ¬ [':', '/', '/'] <:+: cs

/-- The name of a package. -/
structure Name where
  text : List Char
  starts : ∃ c ∈ text.head?, c.isAlphanum = true
  inner : ∀ c ∈ text, c.isAlphanum = true ∨ c ∈ ['.', '_', '-']

/-- The extras of a package, without their brackets. -/
structure Extras where
  inner : List Char
  not_closed : ']' ∉ inner
  plain : Plain inner

/-- The signs that constraints start with. -/
def signs : List Char := ['<', '>', '=', '!', '~']

/-- A constraint on the versions of a package. -/
structure Constraint where
  text : List Char
  starts : ∃ c ∈ text.head?, c ∈ signs
  /-- Blanks and parentheses at the end would be taken off. -/
  ends : ∀ c ∈ text.getLast?, Text.isBlank c = false ∧ c ≠ '(' ∧ c ≠ ')'
  plain : Plain text
  one_line : '\n' ∉ text

/-- A constraint as it stands in a line. -/
inductive Written where
  | bare (constraint : Constraint)
  | inParentheses (front : Text.Gap) (constraint : Constraint) (back : Text.Gap)

/-- A line that declares a dependency, in its parts. -/
structure Line where
  lead : Text.Gap
  name : Name
  afterName : Text.Gap
  extras : Option Extras
  afterExtras : Text.Gap
  written : Option Written
  afterWritten : Text.Gap
  condition : Option (List Char)
  comment : Option (List Char)

/-- A line of a file. -/
inductive FileLine where
  | requirement (line : Line)
  | blank (blanks : Text.Blanks)
  | comment (text : List Char)
  | option (text : List Char)

/-! ## The text of a line -/

def Extras.text (e : Extras) : List Char := '[' :: (e.inner ++ [']'])

namespace Written

/-- The constraint itself. -/
def constraint : Written → Constraint
  | bare v => v
  | inParentheses _ v _ => v

def text : Written → List Char
  | bare v => v.text
  | inParentheses front v back => '(' :: ((front.text ++ (v.text ++ back.text)) ++ [')'])

end Written

namespace Line

variable (l : Line)

def extrasText : List Char := l.extras.elim [] Extras.text

def writtenText : List Char := l.written.elim [] Written.text

/-- What follows the name, without the condition and the comment. -/
def rest : List Char :=
  l.afterName.text ++ (l.extrasText ++
    (l.afterExtras.text ++ (l.writtenText ++ l.afterWritten.text)))

def conditionText : List Char := l.condition.elim [] fun cs => ';' :: cs

def commentText : List Char := l.comment.elim [] fun cs => ' ' :: '#' :: cs

/-- The whole line. -/
def text : List Char :=
  (l.lead.text ++ (l.name.text ++ l.rest)) ++ (l.conditionText ++ l.commentText)

/-- The dependency that the line was made for. -/
def dependency : Dependency :=
  ⟨String.ofList l.name.text, l.written.map fun w => String.ofList w.constraint.text⟩

end Line

namespace FileLine

def text : FileLine → List Char
  | requirement l => l.text
  | blank g => g.text
  | comment cs => '#' :: cs
  | option cs => '-' :: cs

def dependency? : FileLine → Option Dependency
  | requirement l => some l.dependency
  | blank _ | comment _ | option _ => none

end FileLine

/-! ## Parts that are not cut -/

variable {cs ds : List Char}

theorem plain_of_forall_mem (absent : ∀ c ∈ cs, c ∉ [';', '#', ':']) : Plain cs where
  no_condition listed := absent ';' listed (by decide)
  no_comment inside := absent '#' (inside.subset (by decide)) (by decide)
  no_address inside := absent ':' (inside.subset (by decide)) (by decide)

/-- A character that starts nothing may stand in front of a plain text. -/
theorem Plain.cons (h : Plain cs) {c : Char} (other : c ∉ [';', ' ', ':']) : Plain (c :: cs) := by
  have absent {d : Char} {sep : List Char} (starts : d ∈ [';', ' ', ':'])
      (later : ¬ (d :: sep) <:+: cs) : ¬ (d :: sep) <:+: c :: cs := by
    rw [List.infix_cons_iff, List.cons_prefix_cons]
    rintro (⟨rfl, -⟩ | inside)
    · exact other starts
    · exact later inside
  refine ⟨?_, absent (by decide) h.no_comment, absent (by decide) h.no_address⟩
  rw [List.mem_cons]
  rintro (rfl | listed)
  · exact other (by decide)
  · exact h.no_condition listed

/-- A plain text that may follow another one. -/
structure Piece (cs : List Char) : Prop extends Plain cs where
  joins : ∀ c ∈ cs.head?, c ∉ ['#', '/']

theorem Plain.append (h : Plain cs) (h' : Piece ds) : Plain (cs ++ ds) where
  no_condition := List.not_mem_append h.no_condition h'.no_condition
  no_comment :=
    have border : ∀ c ∈ ['#'], c ∈ ['#', '/'] := List.all_iff_forall_prop.1 (by decide)
    Text.not_isInfix_append h.no_comment h'.no_comment fun c hc => mt (border c) (h'.joins c hc)
  no_address :=
    have border : ∀ c ∈ ['/', '/'], c ∈ ['#', '/'] := List.all_iff_forall_prop.1 (by decide)
    Text.not_isInfix_append h.no_address h'.no_address fun c hc => mt (border c) (h'.joins c hc)

theorem Piece.append (h : Piece cs) (h' : Piece ds) : Piece (cs ++ ds) where
  toPlain := h.toPlain.append h'
  joins := Text.forall_mem_head?_append h.joins h'.joins

theorem piece_of_forall_mem (absent : ∀ c ∈ cs, c ∉ [';', '#', ':', '/']) : Piece cs where
  toPlain :=
    have fewer : ∀ c ∈ [';', '#', ':'], c ∈ [';', '#', ':', '/'] :=
      List.all_iff_forall_prop.1 (by decide)
    plain_of_forall_mem fun c hc => mt (fewer c) (absent c hc)
  joins c hc :=
    have fewer : ∀ c ∈ ['#', '/'], c ∈ [';', '#', ':', '/'] :=
      List.all_iff_forall_prop.1 (by decide)
    mt (fewer c) (absent c (List.mem_of_mem_head? hc))

/-! ## Each part on its own -/

theorem not_isBlank_of_isNameChar {c : Char} (inside : isNameChar c = true) :
    Text.isBlank c = false :=
  Text.not_isBlank_of_forall_blankCodes isNameChar (by decide) inside

/-- Blanks are not taken for parentheses. -/
theorem not_parenthesis_of_isBlank {c : Char} (blank : Text.isBlank c = true) :
    (c == '(' || c == ')') = false := by
  have not_open : c ≠ '(' := by
    rintro rfl
    exact absurd blank (by decide)
  have not_closed : c ≠ ')' := by
    rintro rfl
    exact absurd blank (by decide)
  simp [not_open, not_closed]

theorem isNameChar_of_isBlank {c : Char} (blank : Text.isBlank c = true) :
    isNameChar c = false := by
  by_contra inside
  rw [Bool.not_eq_false] at inside
  rw [not_isBlank_of_isNameChar inside] at blank
  cases blank

theorem piece_of_blank (blank : ∀ c ∈ cs, Text.isBlank c = true) : Piece cs := by
  have visible : ∀ c ∈ [';', '#', ':', '/'], Text.isBlank c = false :=
    List.all_iff_forall_prop.1 (by decide)
  exact piece_of_forall_mem fun c hc listed => Text.not_mem_of_blank blank (visible c listed) hc

namespace Name

variable (n : Name)

theorem isNameChar_of_mem {c : Char} (hc : c ∈ n.text) : isNameChar c = true := by
  have inner := n.inner c hc
  simp only [List.mem_cons, List.not_mem_nil, or_false] at inner
  simpa [isNameChar, or_assoc] using inner

theorem isAlphanum_of_mem_head? {rest : List Char} {c : Char}
    (hc : c ∈ (n.text ++ rest).head?) : c.isAlphanum = true := by
  obtain ⟨d, hd, letter⟩ := n.starts
  rw [List.head?_append, hd, Option.some_or] at hc
  obtain rfl := Option.some.inj hc
  exact letter

theorem piece : Piece n.text := by
  have other : ∀ c ∈ [';', '#', ':', '/'], isNameChar c = false :=
    List.all_iff_forall_prop.1 (by decide)
  refine piece_of_forall_mem fun c hc listed => ?_
  have inside := n.isNameChar_of_mem hc
  rw [other c listed] at inside
  cases inside

theorem skipBlanks_append {front : List Char} (blank : ∀ c ∈ front, Text.isBlank c = true)
    (rest : List Char) : Text.skipBlanks (front ++ (n.text ++ rest)) = n.text ++ rest :=
  Text.dropWhile_append_of_stop blank fun _ hc =>
    Text.not_isBlank_of_isAlphanum (n.isAlphanum_of_mem_head? hc)

/-- A name is read up to the first character that cannot stand in one. -/
theorem name?_append {rest : List Char} (stop : ∀ c ∈ rest.head?, isNameChar c = false) :
    name? (n.text ++ rest) = some (n.text, rest) := by
  have run : ∀ c ∈ n.text, isNameChar c = true := fun _ => n.isNameChar_of_mem
  have first : (n.text ++ rest).head?.any startsName = true := by
    obtain ⟨c, hc, letter⟩ := n.starts
    rw [List.head?_append, hc]
    exact letter
  rw [name?, if_pos first, Text.takeWhile_append_of_stop run stop,
    Text.dropWhile_append_of_stop run stop]

end Name

/-- A text that does not start with a bracket has no extras in front. -/
theorem skipExtras_eq_self (other : ∀ c ∈ cs.head?, c ≠ '[') : skipExtras cs = cs := by
  unfold skipExtras
  split
  · exact absurd rfl (other '[' rfl)
  · rfl

namespace Extras

variable (e : Extras)

theorem piece : Piece e.text where
  toPlain :=
    have closing : Piece [']'] := piece_of_forall_mem (by simp)
    (e.plain.append closing).cons (by decide)
  joins := by
    rintro c ⟨⟩
    decide

/-- Extras are skipped up to their closing bracket. -/
theorem skipExtras_append (rest : List Char) : skipExtras (e.text ++ rest) = rest := by
  have run : ∀ c ∈ e.inner, (c != ']') = true := fun c hc =>
    bne_iff_ne.2 fun same => e.not_closed (same ▸ hc)
  have stop : ∀ c ∈ (']' :: rest).head?, (c != ']') = false := by
    rintro c ⟨⟩
    rfl
  have closing : (e.inner ++ ']' :: rest).dropWhile (· != ']') = ']' :: rest :=
    Text.dropWhile_append_of_stop run stop
  have opened : e.text ++ rest = '[' :: (e.inner ++ ']' :: rest) := by simp [text]
  rw [opened, skipExtras, closing]

end Extras

namespace Constraint

variable (v : Constraint)

theorem mem_signs_of_mem_head? {c : Char} (hc : c ∈ v.text.head?) : c ∈ signs := by
  obtain ⟨d, hd, sign⟩ := v.starts
  obtain rfl : d = c := Option.some.inj (hd.symm.trans hc)
  exact sign

/-- Nothing is taken off a constraint at its front. -/
theorem kept_of_mem_head? {c : Char} (hc : c ∈ v.text.head?) :
    Text.isBlank c = false ∧ (c == '(' || c == ')') = false := by
  have kept : ∀ c ∈ signs, Text.isBlank c = false ∧ (c == '(' || c == ')') = false :=
    List.all_iff_forall_prop.1 (by decide)
  exact kept c (v.mem_signs_of_mem_head? hc)

/-- Nothing is taken off a constraint at its end. -/
theorem kept_of_mem_getLast? {c : Char} (hc : c ∈ v.text.getLast?) :
    Text.isBlank c = false ∧ (c == '(' || c == ')') = false := by
  obtain ⟨visible, not_open, not_closed⟩ := v.ends c hc
  exact ⟨visible, by simp [not_open, not_closed]⟩

theorem text_ne_nil : v.text ≠ [] := by
  obtain ⟨c, hc, -⟩ := v.starts
  intro empty
  rw [empty] at hc
  cases hc

theorem piece : Piece v.text where
  toPlain := v.plain
  joins c hc := by
    have other : ∀ c ∈ signs, c ∉ ['#', '/'] := List.all_iff_forall_prop.1 (by decide)
    exact other c (v.mem_signs_of_mem_head? hc)

end Constraint

namespace Written

variable (w : Written)

theorem piece : Piece w.text := by
  cases w with
  | bare v => exact v.piece
  | inParentheses front v back =>
    have opening : Piece ['('] := piece_of_forall_mem (by simp)
    have closing : Piece [')'] := piece_of_forall_mem (by simp)
    exact opening.append (((piece_of_blank front.blank).append
      (v.piece.append (piece_of_blank back.blank))).append closing)

theorem mem_of_mem_head? {c : Char} (hc : c ∈ w.text.head?) : c ∈ '(' :: signs := by
  cases w with
  | bare v => exact List.mem_cons_of_mem _ (v.mem_signs_of_mem_head? hc)
  | inParentheses front v back =>
    obtain rfl : '(' = c := Option.some.inj hc
    exact List.mem_cons_self

theorem not_isBlank_of_mem_getLast? {c : Char} (hc : c ∈ w.text.getLast?) :
    Text.isBlank c = false := by
  cases w with
  | bare v => exact (v.ends c hc).1
  | inParentheses front v back =>
    have last : ('(' :: ((front.text ++ (v.text ++ back.text)) ++ [')'])).getLast? = some ')' :=
      List.getLast?_concat (l := '(' :: (front.text ++ (v.text ++ back.text)))
    obtain rfl : ')' = c := Option.some.inj (last.symm.trans hc)
    decide

theorem one_line : '\n' ∉ w.text := by
  cases w with
  | bare v => exact v.one_line
  | inParentheses front v back =>
    have inner : '\n' ∉ front.text ++ (v.text ++ back.text) :=
      List.not_mem_append front.one_line (List.not_mem_append v.one_line back.one_line)
    show '\n' ∉ ['('] ++ ((front.text ++ (v.text ++ back.text)) ++ [')'])
    exact List.not_mem_append (by decide) (List.not_mem_append inner (by decide))

/-- Nothing is trimmed off a constraint as it stands in a line. -/
theorem trim_text : Text.trim w.text = w.text := by
  have visible : ∀ c ∈ '(' :: signs, Text.isBlank c = false :=
    List.all_iff_forall_prop.1 (by decide)
  exact Text.trimWhile_eq_self (fun c hc => visible c (w.mem_of_mem_head? hc))
    fun c hc => w.not_isBlank_of_mem_getLast? hc

/-- Blanks and parentheses around a constraint are taken off, and nothing else. -/
theorem constraintOf_text : constraintOf w.text = w.constraint.text := by
  rw [constraintOf, trim_text]
  cases w with
  | bare v =>
    have bare : Text.trimWhile (fun c => c == '(' || c == ')') v.text = v.text :=
      Text.trimWhile_eq_self (fun c hc => (v.kept_of_mem_head? hc).2)
        fun c hc => (v.kept_of_mem_getLast? hc).2
    calc Text.trim (Text.trimWhile (fun c => c == '(' || c == ')') (Written.bare v).text)
        = Text.trim v.text := congrArg Text.trim bare
      _ = v.text := Text.trimWhile_eq_self (fun c hc => (v.kept_of_mem_head? hc).1)
          fun c hc => (v.kept_of_mem_getLast? hc).1
  | inParentheses front v back =>
    have peeled : Text.trimWhile (fun c => c == '(' || c == ')')
        (['('] ++ ((front.text ++ (v.text ++ back.text)) ++ [')'])) =
          front.text ++ (v.text ++ back.text) := by
      apply Text.trimWhile_append (by simp) (by simp)
      · exact Text.forall_mem_head?_append
          (fun c hc => not_parenthesis_of_isBlank (front.blank c (List.mem_of_mem_head? hc)))
          (Text.forall_mem_head?_append (fun c hc => (v.kept_of_mem_head? hc).2)
            fun c hc => not_parenthesis_of_isBlank (back.blank c (List.mem_of_mem_head? hc)))
      · exact Text.forall_mem_getLast?_append
          (fun c hc => not_parenthesis_of_isBlank (front.blank c (List.mem_of_mem_getLast? hc)))
          (Text.forall_mem_getLast?_append (fun c hc => (v.kept_of_mem_getLast? hc).2)
            fun c hc => not_parenthesis_of_isBlank (back.blank c (List.mem_of_mem_getLast? hc)))
    calc Text.trim
          (Text.trimWhile (fun c => c == '(' || c == ')') (inParentheses front v back).text)
        = Text.trim (front.text ++ (v.text ++ back.text)) := congrArg Text.trim peeled
      _ = v.text :=
          Text.trimWhile_append front.blank back.blank (fun c hc => (v.kept_of_mem_head? hc).1)
            fun c hc => (v.kept_of_mem_getLast? hc).1

end Written

/-! ## A line as a whole -/

/-- A line that starts with a name and is no address declares what stands behind the name. -/
theorem parse?_of_nameAndRest? {line : List Char} {name rest : List Char}
    (found : nameAndRest? (relevant line) = some (name, rest))
    (entry : ∀ c ∈ (relevant line).head?, ¬ (c = '#' ∨ c = '-'))
    (no_address : Text.occursIn [':', '/', '/'] (relevant line) = false)
    (one_line : '\n' ∉ rest) :
    parse? (String.ofList line) = some ⟨String.ofList name,
      if (constraintOf rest).isEmpty then none else some (String.ofList (constraintOf rest))⟩ := by
  unfold parse?
  rw [String.toList_ofList]
  cases counted : relevant line with
  | nil =>
    rw [counted] at found
    cases found
  | cons c cs =>
    rw [counted] at found entry no_address
    have no_scheme : ¬ Text.occursIn "://".toList (c :: cs) = true := by
      simpa using no_address
    simp only [if_neg (entry c rfl), if_neg no_scheme, found, if_neg one_line]

/-- What is true of no text and of each text of a part is true of a part that may be missing. -/
theorem part_cases {α : Type} {P : List Char → Prop} {part : α → List Char} (a : Option α)
    (missing : P []) (present : ∀ b, P (part b)) : P (a.elim [] part) := by
  cases a with
  | none => exact missing
  | some b => exact present b

namespace Line

variable (l : Line)

/-- The text that counts has no condition, no comment and no address. -/
theorem piece_core : Piece (l.lead.text ++ (l.name.text ++ l.rest)) := by
  have nothing : Piece [] := piece_of_forall_mem (by simp)
  have extras : Piece l.extrasText := part_cases (P := Piece) l.extras nothing Extras.piece
  have written : Piece l.writtenText := part_cases (P := Piece) l.written nothing Written.piece
  have rest : Piece l.rest :=
    (piece_of_blank l.afterName.blank).append (extras.append
      ((piece_of_blank l.afterExtras.blank).append
        (written.append (piece_of_blank l.afterWritten.blank))))
  exact (piece_of_blank l.lead.blank).append (l.name.piece.append rest)

/-- A condition and a comment are cut off, and nothing else. -/
theorem before_text :
    Text.before [';'] (Text.before [' ', '#'] l.text) =
      l.lead.text ++ (l.name.text ++ l.rest) := by
  have border : ∀ c ∈ (l.conditionText ++ l.commentText).head?, c ∉ ['#'] := by
    apply Text.forall_mem_head?_append
    · exact part_cases (P := fun cs => ∀ c ∈ cs.head?, c ∉ ['#']) l.condition (by simp) (by simp)
    · exact part_cases (P := fun cs => ∀ c ∈ cs.head?, c ∉ ['#']) l.comment (by simp) (by simp)
  have nothing_left :
      Text.before [';'] (Text.before [' ', '#'] (l.conditionText ++ l.commentText)) = [] := by
    unfold conditionText commentText
    cases l.condition with
    | some cs => rfl
    | none => cases l.comment <;> rfl
  rw [text, Text.before_append_of_not_isInfix l.piece_core.no_comment border,
    Text.before_append_of_not_mem l.piece_core.no_condition, nothing_left, List.append_nil]

theorem relevant_text :
    relevant l.text = l.name.text ++ Text.trimEndWhile Text.isBlank l.rest := by
  have last : ∀ c ∈ l.name.text.getLast?, Text.isBlank c = false := fun c hc =>
    not_isBlank_of_isNameChar (l.name.isNameChar_of_mem (List.mem_of_mem_getLast? hc))
  show Text.trimEndWhile Text.isBlank (Text.skipBlanks
    (Text.before [';'] (Text.before [' ', '#'] l.text))) = _
  rw [before_text, l.name.skipBlanks_append l.lead.blank, Text.trimEndWhile_append_of_stop last]

theorem mem_of_mem_head?_writtenText {c : Char} (hc : c ∈ l.writtenText.head?) :
    c ∈ '(' :: signs :=
  part_cases (P := fun cs => ∀ c ∈ cs.head?, c ∈ '(' :: signs) l.written (by simp)
    (fun w _ => w.mem_of_mem_head?) c hc

theorem isNameChar_of_mem_head?_rest : ∀ c ∈ l.rest.head?, isNameChar c = false := by
  have gap (g : Text.Gap) : ∀ c ∈ g.text.head?, isNameChar c = false := fun c hc =>
    isNameChar_of_isBlank (g.blank c (List.mem_of_mem_head? hc))
  have extras : ∀ c ∈ l.extrasText.head?, isNameChar c = false := by
    have bracket (e : Extras) : ∀ c ∈ e.text.head?, isNameChar c = false := by
      rintro c ⟨⟩
      decide
    exact part_cases (P := fun cs => ∀ c ∈ cs.head?, isNameChar c = false) l.extras (by simp)
      bracket
  have written : ∀ c ∈ l.writtenText.head?, isNameChar c = false := by
    have other : ∀ c ∈ '(' :: signs, isNameChar c = false := List.all_iff_forall_prop.1 (by decide)
    exact fun c hc => other c (l.mem_of_mem_head?_writtenText hc)
  exact Text.forall_mem_head?_append (gap l.afterName) (Text.forall_mem_head?_append extras
    (Text.forall_mem_head?_append (gap l.afterExtras) (Text.forall_mem_head?_append written
      (gap l.afterWritten))))

/-- All but the constraint is skipped behind the name. -/
theorem skip_rest :
    Text.skipBlanks (skipExtras (Text.skipBlanks (Text.trimEndWhile Text.isBlank l.rest))) =
      l.writtenText := by
  have first : ∀ c ∈ l.writtenText.head?, c ≠ '[' ∧ Text.isBlank c = false := by
    have other : ∀ c ∈ '(' :: signs, c ≠ '[' ∧ Text.isBlank c = false :=
      List.all_iff_forall_prop.1 (by decide)
    exact fun c hc => other c (l.mem_of_mem_head?_writtenText hc)
  have last : ∀ c ∈ l.writtenText.getLast?, Text.isBlank c = false :=
    part_cases (P := fun cs => ∀ c ∈ cs.getLast?, Text.isBlank c = false) l.written (by simp)
      fun w _ => w.not_isBlank_of_mem_getLast?
  have skipped {front : List Char} (blank : ∀ c ∈ front, Text.isBlank c = true) :
      Text.skipBlanks (Text.trimEndWhile Text.isBlank
        (front ++ (l.writtenText ++ l.afterWritten.text))) = l.writtenText :=
    Text.dropWhile_trimEndWhile blank l.afterWritten.blank (fun c hc => (first c hc).2) last
  cases h : l.extras with
  | none =>
    have whole : l.rest = (l.afterName.text ++ l.afterExtras.text) ++
        (l.writtenText ++ l.afterWritten.text) := by simp [rest, extrasText, h]
    have blank : ∀ c ∈ l.afterName.text ++ l.afterExtras.text, Text.isBlank c = true := fun c hc =>
      (List.mem_append.1 hc).elim (l.afterName.blank c) (l.afterExtras.blank c)
    rw [whole, skipped blank, skipExtras_eq_self fun c hc => (first c hc).1]
    exact Text.dropWhile_eq_self_of_head fun c hc => (first c hc).2
  | some e =>
    let later := l.afterExtras.text ++ (l.writtenText ++ l.afterWritten.text)
    have whole : l.rest = (l.afterName.text ++ e.text) ++ later := by
      simp [rest, extrasText, h, later]
    have bracket : ∀ c ∈ (l.afterName.text ++ e.text).getLast?, Text.isBlank c = false := by
      have closed : l.afterName.text ++ e.text = (l.afterName.text ++ '[' :: e.inner) ++ [']'] := by
        simp [Extras.text]
      rw [closed, List.getLast?_concat]
      rintro c ⟨⟩
      decide
    have opened : ∀ c ∈ (e.text ++ Text.trimEndWhile Text.isBlank later).head?,
        Text.isBlank c = false := by
      rintro c ⟨⟩
      decide
    have found : Text.skipBlanks (l.afterName.text ++
        (e.text ++ Text.trimEndWhile Text.isBlank later)) =
          e.text ++ Text.trimEndWhile Text.isBlank later :=
      Text.dropWhile_append_of_stop l.afterName.blank opened
    rw [whole, Text.trimEndWhile_append_of_stop bracket, List.append_assoc, found,
      e.skipExtras_append]
    exact skipped l.afterExtras.blank

/-- The name and the constraint are found. -/
theorem nameAndRest?_eq : nameAndRest? (relevant l.text) = some (l.name.text, l.writtenText) := by
  have front : Text.trimEndWhile Text.isBlank l.rest <+: l.rest := Text.trimEndWhile_isPrefix _ _
  have stop : ∀ c ∈ (Text.trimEndWhile Text.isBlank l.rest).head?, isNameChar c = false :=
    fun c hc => l.isNameChar_of_mem_head?_rest c (Text.mem_head?_of_isPrefix front hc)
  have no_blanks : ∀ c ∈ ([] : List Char), Text.isBlank c = true := by simp
  have read := l.name.skipBlanks_append no_blanks (Text.trimEndWhile Text.isBlank l.rest)
  rw [List.nil_append] at read
  rw [nameAndRest?, relevant_text, read, l.name.name?_append stop, Option.map_some, skip_rest]

/-- No part of the line that counts is an address. -/
theorem no_address : Text.occursIn [':', '/', '/'] (relevant l.text) = false := by
  have inside : relevant l.text <:+: l.lead.text ++ (l.name.text ++ l.rest) := by
    rw [relevant_text]
    have front : Text.trimEndWhile Text.isBlank l.rest <+: l.rest := Text.trimEndWhile_isPrefix _ _
    exact ((List.prefix_append_right_inj _).2 front).isInfix.trans
      (List.suffix_append _ _).isInfix
  rw [Bool.eq_false_iff, Ne, Text.occursIn_iff]
  exact fun found => l.piece_core.no_address (found.trans inside)

/-- A line declares the dependency that it was made for. -/
theorem parse?_text : parse? (String.ofList l.text) = some l.dependency := by
  have entry : ∀ c ∈ (relevant l.text).head?, ¬ (c = '#' ∨ c = '-') := by
    rw [relevant_text]
    intro c hc
    have letter := l.name.isAlphanum_of_mem_head? hc
    rintro (rfl | rfl) <;> cases letter
  have one_line : '\n' ∉ l.writtenText :=
    part_cases (P := fun cs => '\n' ∉ cs) l.written (by simp) Written.one_line
  have version : (if (constraintOf l.writtenText).isEmpty then none
      else some (String.ofList (constraintOf l.writtenText))) =
        l.written.map fun w => String.ofList w.constraint.text := by
    unfold writtenText
    cases l.written with
    | none => rfl
    | some w =>
      have nonempty : ¬ w.constraint.text.isEmpty = true := by
        simpa using w.constraint.text_ne_nil
      simp only [Option.elim_some, Option.map_some, w.constraintOf_text, if_neg nonempty]
  rw [parse?_of_nameAndRest? l.nameAndRest?_eq entry l.no_address one_line, version]
  rfl

end Line

/-! ## The lines of a file -/

theorem relevant_eq_nil (blank : ∀ c ∈ cs, Text.isBlank c = true) : relevant cs = [] := by
  have front : Text.before [';'] (Text.before [' ', '#'] cs) <+: cs :=
    (Text.isPrefix_before _ _).trans (Text.isPrefix_before _ cs)
  have skipped : (Text.before [';'] (Text.before [' ', '#'] cs)).dropWhile Text.isBlank = [] :=
    List.dropWhile_eq_nil_iff.2 fun c hc => blank c (front.subset hc)
  rw [relevant, Text.trim, Text.trimWhile, skipped]
  rfl

/-- The character at the front of a line counts when it starts no condition and is not blank. -/
theorem mem_head?_relevant {c : Char} (other : c ≠ ';') (visible : Text.isBlank c = false) :
    c ∈ (relevant (c :: cs)).head? := by
  have not_space : ' ' ∉ [c] := by
    rw [List.mem_singleton]
    rintro rfl
    cases visible
  have not_condition : ';' ∉ [c] := by simpa using other.symm
  have counted : relevant (c :: cs) =
      [c] ++ Text.trimEndWhile Text.isBlank (Text.before [';'] (Text.before [' ', '#'] cs)) := by
    have first : ∀ d ∈ ([c] ++ Text.before [';'] (Text.before [' ', '#'] cs)).head?,
        Text.isBlank d = false := by
      rintro d ⟨⟩
      exact visible
    have alone : ∀ d ∈ [c].getLast?, Text.isBlank d = false := by
      rintro d ⟨⟩
      exact visible
    show Text.trim (Text.before [';'] (Text.before [' ', '#'] ([c] ++ cs))) = _
    rw [Text.before_append_of_not_mem not_space, Text.before_append_of_not_mem not_condition,
      Text.trim, Text.trimWhile, Text.dropWhile_eq_self_of_head first,
      Text.trimEndWhile_append_of_stop alone]
  rw [counted]
  rfl

/-- Each line of a file declares its dependency, or none. -/
theorem FileLine.parse?_text (l : FileLine) : parse? (String.ofList l.text) = l.dependency? := by
  have passed_over {c : Char} (cs : List Char) (entry : c = '#' ∨ c = '-') :
      parse? (String.ofList (c :: cs)) = none := by
    have first : c ∈ (relevant (c :: cs)).head? := by
      rcases entry with rfl | rfl <;> exact mem_head?_relevant (by decide) (by decide)
    unfold parse?
    rw [String.toList_ofList]
    cases counted : relevant (c :: cs) with
    | nil => rfl
    | cons d ds =>
      rw [counted] at first
      obtain rfl : d = c := Option.some.inj first
      exact if_pos entry
  cases l with
  | requirement l => exact l.parse?_text
  | blank g =>
    show parse? (String.ofList g.text) = none
    rw [parse?, String.toList_ofList, relevant_eq_nil g.blank]
  | comment cs => exact passed_over cs (.inl rfl)
  | option cs => exact passed_over cs (.inr rfl)

/-- Every line that is put together from the parts of a requirement declares its dependency. So a
file declares the dependencies of these lines in their order, whatever blank lines, comments and
options stand between them. -/
theorem parseLines_exact :
    (∀ l : Line, parse? (String.ofList l.text) = some l.dependency) ∧
    ∀ ls : List FileLine, parseLines (ls.map fun l => String.ofList l.text) =
      ls.filterMap FileLine.dependency? := by
  refine ⟨Line.parse?_text, fun ls => ?_⟩
  rw [parseLines, List.filterMap_map]
  apply List.filterMap_congr
  intro l _
  rw [Function.comp_apply, l.parse?_text]

/-- A line with all parts, in which the signs of conditions, comments and addresses stand where they
are none. -/
def crowdedLine : Line where
  lead := .spaces 1
  name := {
    text := "zope.interface".toList
    starts := ⟨'z', rfl, by decide⟩
    inner := List.all_iff_forall_prop.1 (by decide) }
  afterName := .spaces 1
  extras := some {
    inner := "#docs, [test".toList
    not_closed := by decide
    plain := ⟨by decide, Text.occursIn_iff.not.1 (by decide), Text.occursIn_iff.not.1 (by decide)⟩ }
  afterExtras := .spaces 0
  written := some <| .inParentheses (.spaces 1) {
      text := ">=5 ,(!=6).0".toList
      starts := ⟨'>', rfl, by decide⟩
      ends := by
        intro c hc
        obtain rfl : '0' = c := Option.some.inj hc
        decide
      plain := ⟨by decide, Text.occursIn_iff.not.1 (by decide), Text.occursIn_iff.not.1 (by decide)⟩
      one_line := by decide } (.spaces 1)
  afterWritten := .spaces 2
  condition := some " os == 'a' #; or".toList
  comment := some "at https://b".toList

/-- A file with this line, and with a line of each other kind. -/
def crowdedFile : List FileLine :=
  [.comment " base ; a".toList, .requirement crowdedLine,
    .blank (Text.Gap.spaces 1).toBlanks, .option "r other.txt #".toList]

theorem parseLines_exact_crowdedFile :
    parseLines ["# base ; a",
      " zope.interface [#docs, [test]( >=5 ,(!=6).0 )  ; os == 'a' #; or #at https://b", " ",
      "-r other.txt #"] = [⟨"zope.interface", some ">=5 ,(!=6).0"⟩] :=
  have written : (crowdedFile.map fun l => String.ofList l.text) = ["# base ; a",
      " zope.interface [#docs, [test]( >=5 ,(!=6).0 )  ; os == 'a' #; or #at https://b", " ",
      "-r other.txt #"] := rfl
  calc parseLines _ = parseLines (crowdedFile.map fun l => String.ofList l.text) := by rw [written]
    _ = crowdedFile.filterMap FileLine.dependency? := parseLines_exact.2 crowdedFile
    _ = [⟨"zope.interface", some ">=5 ,(!=6).0"⟩] := rfl

end CodeGraph.Requirement
