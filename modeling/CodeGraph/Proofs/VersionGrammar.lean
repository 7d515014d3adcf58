import CodeGraph.Proofs.MajorConflicts
import CodeGraph.Proofs.TextParts
import Mathlib.Data.Nat.Digits.Defs

/-!
# The form of a version constraint

A constraint names a major version exactly when it is an operator or none, the letter of a version
or none, and a number, with blanks between them as one likes, and whatever else does not make the
number longer. No operator is taken for a shorter one that it begins with, and no cut between
constraints falls before the end of the number.

Main definitions:

- `Version.Spelling`: a constraint of this form, in its parts;
- `Version.Spelling.number`: the number of its digits in the decimal system.

Main statements:

- `Version.Spelling.leadingDigits_eq`: the digits of a constraint of this form are found;
- `Version.exists_spelling`: a constraint in which digits are found has this form;
- `Version.major?_exact`: which constraints name which major versions.
-/
namespace CodeGraph.Version

/-- The operators of version constraints. -/
def IsOperator (op : List Char) : Prop :=
  op ∈ ["~>", "^", "~=", ">=", "<=", "==", "!=", "~", "=", ">", "<"].map String.toList

instance (op : List Char) : Decidable (IsOperator op) := inferInstanceAs (Decidable (op ∈ _))

/-- A constraint with a major version, in its parts. -/
structure Spelling where
  front : List Char
  operator : List Char
  middle : List Char
  letter : List Char
  back : List Char
  digits : List Char
  rest : List Char
  front_blank : ∀ c ∈ front, Text.isBlank c = true
  operator_known : operator = [] ∨ IsOperator operator
  middle_blank : ∀ c ∈ middle, Text.isBlank c = true
  letter_known : letter = [] ∨ letter = ['v'] ∨ letter = ['V']
  back_blank : ∀ c ∈ back, Text.isBlank c = true
  digits_ne_nil : digits ≠ []
  digits_digit : ∀ c ∈ digits, Text.isDigit c = true
  /-- What follows does not make the number longer. -/
  rest_stop : ∀ c ∈ rest.head?, Text.isDigit c = false

namespace Spelling

/-- The parts of a constraint after its operator, up to the end of its number. -/
def body (s : Spelling) : List Char := s.middle ++ (s.letter ++ (s.back ++ s.digits))

/-- The constraint. -/
def text (s : Spelling) : List Char := s.front ++ (s.operator ++ (s.body ++ s.rest))

/-- The number of the major version in the decimal system. -/
def number (s : Spelling) : Nat :=
  Nat.ofDigits 10 (s.digits.reverse.map fun c => (Text.digitValue? c).getD 0)

end Spelling

/-! ## Reading a number -/

/-- A run of digits is read as a number of the decimal system. -/
theorem digitsValue_eq_ofDigits (cs : List Char) :
    Text.digitsValue cs =
      Nat.ofDigits 10 (cs.reverse.map fun c => (Text.digitValue? c).getD 0) := by
  induction cs using List.reverseRecOn with
  | nil => rfl
  | append_singleton cs c ih =>
    have step : Text.digitsValue (cs ++ [c]) =
        10 * Text.digitsValue cs + (Text.digitValue? c).getD 0 := by
      simp [Text.digitsValue]
    rw [step, ih, List.reverse_append, List.reverse_singleton, List.singleton_append, List.map_cons,
      Nat.ofDigits_cons, Nat.add_comm]

/-! ## Kinds of characters -/

/-- A character that may stand after an operator and before the end of the number. -/
def Follows (c : Char) : Prop :=
  Text.isBlank c = true ∨ c = 'v' ∨ c = 'V' ∨ Text.isDigit c = true

/-- The characters of operators, and those that end a constraint. -/
def marks : List Char := ['~', '^', '=', '>', '<', '!', ',', '|']

theorem Follows.not_mem_marks {c : Char} (h : Follows c) : c ∉ marks := by
  have marked : ∀ d ∈ marks,
      Text.isBlank d = false ∧ d ≠ 'v' ∧ d ≠ 'V' ∧ Text.isDigit d = false :=
    List.all_iff_forall_prop.1 (by decide)
  intro hc
  obtain ⟨blank, small, large, digit⟩ := marked c hc
  rcases h with h | h | h | h
  · rw [blank] at h
    cases h
  · exact small h
  · exact large h
  · rw [digit] at h
    cases h

theorem follows_of_mem_body {s : Spelling} {c : Char} (hc : c ∈ s.body) : Follows c := by
  unfold Spelling.body at hc
  rw [List.mem_append, List.mem_append, List.mem_append] at hc
  rcases hc with hc | hc | hc | hc
  · exact .inl (s.middle_blank c hc)
  · rcases s.letter_known with none | small | large
    · rw [none] at hc
      cases hc
    · rw [small] at hc
      exact .inr (.inl (List.mem_singleton.1 hc))
    · rw [large] at hc
      exact .inr (.inr (.inl (List.mem_singleton.1 hc)))
  · exact .inl (s.back_blank c hc)
  · exact .inr (.inr (.inr (s.digits_digit c hc)))

/-! ## Operators -/

theorem isOperator_iff {op : List Char} : IsOperator op ↔ ∃ o ∈ operators, o.toList = op := by
  unfold IsOperator operators
  exact List.mem_map

theorem IsOperator.exists_mark {op : List Char} (known : IsOperator op) :
    ∃ c ∈ marks, op.head? = some c := by
  obtain ⟨o, ho, rfl⟩ := isOperator_iff.1 known
  have marked : ∀ o ∈ operators, o.toList.head?.any (· ∈ marks) = true := by decide
  obtain ⟨c, first, mark⟩ := (Option.any_eq_true _ _).1 (marked o ho)
  exact ⟨c, of_decide_eq_true mark, first⟩

/-- An operator is dropped as a whole from a text that does not go on with a character of
operators. -/
theorem dropOperator_append {op cs : List Char} (known : IsOperator op)
    (stop : ∀ c ∈ cs.head?, c ∉ marks) : dropOperator (op ++ cs) = cs := by
  obtain ⟨o, ho, rfl⟩ := isOperator_iff.1 known
  cases cs with
  | nil =>
    have alone : ∀ o ∈ operators, dropOperator (o.toList ++ []) = [] := by decide
    exact alone o ho
  | cons c cs =>
    -- only these two characters make an operator longer
    have greater : '>' ≠ c := fun same => stop c rfl (by rw [← same]; decide)
    have equals : '=' ≠ c := fun same => stop c rfl (by rw [← same]; decide)
    simp only [operators, List.mem_cons, List.not_mem_nil, or_false] at ho
    rcases ho with rfl | rfl | rfl | rfl | rfl | rfl | rfl | rfl | rfl | rfl | rfl <;>
      simp [dropOperator, operators, Text.dropPrefix?, greater, equals]

/-- Nothing is dropped from a text that starts with no character of operators. -/
theorem dropOperator_eq_self {cs : List Char} (stop : ∀ c ∈ cs.head?, c ∉ marks) :
    dropOperator cs = cs := by
  have none_found : (operators.findSome? fun op => Text.dropPrefix? op.toList cs) = none := by
    rw [List.findSome?_eq_none_iff]
    intro op hop
    obtain ⟨c, hc, first⟩ := IsOperator.exists_mark (isOperator_iff.2 ⟨op, hop, rfl⟩)
    cases dropped : Text.dropPrefix? op.toList cs with
    | none => rfl
    | some rest =>
      have front : op.toList <+: cs := ⟨rest, (Text.dropPrefix?_eq_some_iff.1 dropped).symm⟩
      exact absurd hc (stop c (Text.mem_head?_of_isPrefix front first))
  rw [dropOperator, none_found, Option.getD_none]

/-- What is dropped is an operator, if anything. -/
theorem exists_operator (cs : List Char) :
    ∃ op, (op = [] ∨ IsOperator op) ∧ op ++ dropOperator cs = cs := by
  unfold dropOperator
  cases found : operators.findSome? fun op => Text.dropPrefix? op.toList cs with
  | none => exact ⟨[], .inl rfl, rfl⟩
  | some rest =>
    obtain ⟨op, hop, dropped⟩ := List.exists_of_findSome?_eq_some found
    exact ⟨op.toList, .inr (isOperator_iff.2 ⟨op, hop, rfl⟩),
      (Text.dropPrefix?_eq_some_iff.1 dropped).symm⟩

theorem exists_letter (cs : List Char) :
    ∃ letter, (letter = [] ∨ letter = ['v'] ∨ letter = ['V']) ∧ letter ++ dropLetter cs = cs := by
  unfold dropLetter
  split
  · exact ⟨['v'], .inr (.inl rfl), rfl⟩
  · exact ⟨['V'], .inr (.inr rfl), rfl⟩
  · exact ⟨[], .inl rfl, rfl⟩

/-! ## From the form to the digits -/

/-- A cut between constraints falls behind what has none of the characters that end one. -/
theorem firstConstraint_append {cs rest : List Char} (comma : ',' ∉ cs) (bar : '|' ∉ cs) :
    firstConstraint (cs ++ rest) = cs ++ firstConstraint rest := by
  show Text.before ['|', '|'] (Text.before [','] (cs ++ rest)) = _
  rw [Text.before_append_of_not_mem comma, Text.before_append_of_not_mem bar]
  rfl

namespace Spelling

variable (s : Spelling)

theorem digit_of_mem_head? {rest : List Char} {c : Char} (hc : c ∈ (s.digits ++ rest).head?) :
    Text.isDigit c = true := by
  obtain ⟨d, ds, same⟩ := List.exists_cons_of_ne_nil s.digits_ne_nil
  have first : d ∈ s.digits := by simp [same]
  rw [same] at hc
  obtain rfl : d = c := by simpa using hc
  exact s.digits_digit d first

/-- Blanks are skipped up to the number. -/
theorem skipBlanks_digits (rest : List Char) {blanks : List Char}
    (blank : ∀ c ∈ blanks, Text.isBlank c = true) :
    Text.skipBlanks (blanks ++ (s.digits ++ rest)) = s.digits ++ rest :=
  Text.dropWhile_append_of_stop blank fun _ hc =>
    Text.not_isBlank_of_isDigit (s.digit_of_mem_head? hc)

/-- Blanks are skipped up to the letter, or up to the number when there is no letter. -/
theorem skipBlanks_cases (rest : List Char) {blanks : List Char}
    (blank : ∀ c ∈ blanks, Text.isBlank c = true) :
    Text.skipBlanks (blanks ++ (s.letter ++ (s.back ++ (s.digits ++ rest)))) = s.digits ++ rest ∨
    ∃ letter, (letter = 'v' ∨ letter = 'V') ∧
      Text.skipBlanks (blanks ++ (s.letter ++ (s.back ++ (s.digits ++ rest)))) =
        letter :: (s.back ++ (s.digits ++ rest)) := by
  have found (letter : Char) (visible : Text.isBlank letter = false) (cs : List Char) :
      Text.skipBlanks (blanks ++ letter :: cs) = letter :: cs := by
    apply Text.dropWhile_append_of_stop blank
    intro c hc
    obtain rfl : letter = c := by simpa using hc
    exact visible
  rcases s.letter_known with none | small | large
  · left
    have both : ∀ c ∈ blanks ++ s.back, Text.isBlank c = true := by
      intro c hc
      exact (List.mem_append.1 hc).elim (blank c) (s.back_blank c)
    rw [none, List.nil_append, ← List.append_assoc]
    exact s.skipBlanks_digits rest both
  · right
    refine ⟨'v', .inl rfl, ?_⟩
    rw [small, List.singleton_append, found 'v' (by decide)]
  · right
    refine ⟨'V', .inr rfl, ?_⟩
    rw [large, List.singleton_append, found 'V' (by decide)]

theorem dropLetter_digits (rest : List Char) :
    dropLetter (s.digits ++ rest) = s.digits ++ rest := by
  unfold dropLetter
  split
  · next first =>
    have front : 'v' ∈ (s.digits ++ rest).head? := by
      rw [first]
      rfl
    exact absurd (s.digit_of_mem_head? front) (by decide)
  · next first =>
    have front : 'V' ∈ (s.digits ++ rest).head? := by
      rw [first]
      rfl
    exact absurd (s.digit_of_mem_head? front) (by decide)
  · rfl

/-- The letter in front of the number is dropped, with the blanks on both sides of it. -/
theorem skipBlanks_dropLetter (rest : List Char) {blanks : List Char}
    (blank : ∀ c ∈ blanks, Text.isBlank c = true) :
    Text.skipBlanks (dropLetter (Text.skipBlanks
      (blanks ++ (s.letter ++ (s.back ++ (s.digits ++ rest)))))) = s.digits ++ rest := by
  rcases s.skipBlanks_cases rest blank with skipped | ⟨letter, rfl | rfl, skipped⟩
  · rw [skipped, dropLetter_digits]
    have no_blanks : ∀ c ∈ ([] : List Char), Text.isBlank c = true := by simp
    exact s.skipBlanks_digits rest no_blanks
  · rw [skipped]
    exact s.skipBlanks_digits rest s.back_blank
  · rw [skipped]
    exact s.skipBlanks_digits rest s.back_blank

/-- Without an operator, nothing is taken for one. -/
theorem dropOperator_skipBlanks (rest : List Char) {blanks : List Char}
    (blank : ∀ c ∈ blanks, Text.isBlank c = true) :
    dropOperator (Text.skipBlanks (blanks ++ (s.letter ++ (s.back ++ (s.digits ++ rest))))) =
      Text.skipBlanks (blanks ++ (s.letter ++ (s.back ++ (s.digits ++ rest)))) := by
  apply dropOperator_eq_self
  intro c hc
  rcases s.skipBlanks_cases rest blank with skipped | ⟨letter, known, skipped⟩
  · rw [skipped] at hc
    exact Follows.not_mem_marks (.inr (.inr (.inr (s.digit_of_mem_head? hc))))
  · rw [skipped] at hc
    obtain rfl : letter = c := by simpa using hc
    exact Follows.not_mem_marks (known.elim (.inr ∘ .inl) (.inr ∘ .inr ∘ .inl))

theorem not_mem_marks_of_mem_head? {rest : List Char} {c : Char}
    (hc : c ∈ (s.body ++ rest).head?) : c ∉ marks := by
  have some_body : s.body ≠ [] := by simp [body, s.digits_ne_nil]
  obtain ⟨d, ds, same⟩ := List.exists_cons_of_ne_nil some_body
  have first : d ∈ s.body := by simp [same]
  rw [same] at hc
  obtain rfl : d = c := by simpa using hc
  exact (follows_of_mem_body first).not_mem_marks

/-- Everything in front of the number is stripped. -/
theorem stripOperator_eq (rest : List Char) :
    stripOperator (s.front ++ (s.operator ++ (s.body ++ rest))) = s.digits ++ rest := by
  have parts : s.body ++ rest = s.middle ++ (s.letter ++ (s.back ++ (s.digits ++ rest))) := by
    simp [body]
  unfold stripOperator
  rcases s.operator_known with none | known
  · -- without an operator, all blanks up to the letter are skipped at once
    have blank : ∀ c ∈ s.front ++ s.middle, Text.isBlank c = true := by
      intro c hc
      exact (List.mem_append.1 hc).elim (s.front_blank c) (s.middle_blank c)
    have again (cs : List Char) : Text.skipBlanks (Text.skipBlanks cs) = Text.skipBlanks cs :=
      Text.dropWhile_eq_self_of_head fun _ => Text.eq_false_of_mem_head?_dropWhile
    rw [none, List.nil_append, parts, ← List.append_assoc, s.dropOperator_skipBlanks rest blank,
      again, s.skipBlanks_dropLetter rest blank]
  · have visible : ∀ c ∈ (s.operator ++ (s.body ++ rest)).head?, Text.isBlank c = false := by
      have marked : ∀ c ∈ marks, Text.isBlank c = false := List.all_iff_forall_prop.1 (by decide)
      obtain ⟨d, hd, first⟩ := known.exists_mark
      intro c hc
      rw [List.head?_append, first, Option.some_or] at hc
      exact marked c (Option.some.inj hc ▸ hd)
    have skipped : Text.skipBlanks (s.front ++ (s.operator ++ (s.body ++ rest))) =
        s.operator ++ (s.body ++ rest) := Text.dropWhile_append_of_stop s.front_blank visible
    rw [skipped, dropOperator_append known fun c hc => s.not_mem_marks_of_mem_head? hc, parts]
    exact s.skipBlanks_dropLetter rest s.middle_blank

/-- No character that ends a constraint stands in front of the end of the number. -/
theorem not_mem_of_ends {c : Char} (ends : c = ',' ∨ c = '|') :
    c ∉ s.front ++ (s.operator ++ s.body) := by
  have marked : c ∈ marks := by rcases ends with rfl | rfl <;> decide
  rw [List.mem_append, List.mem_append]
  rintro (hc | hc | hc)
  · exact Follows.not_mem_marks (.inl (s.front_blank c hc)) marked
  · rcases s.operator_known with none | known
    · rw [none] at hc
      cases hc
    · obtain ⟨o, ho, same⟩ := isOperator_iff.1 known
      have no_end : ∀ o ∈ operators, ',' ∉ o.toList ∧ '|' ∉ o.toList := by decide
      rw [← same] at hc
      rcases ends with rfl | rfl
      · exact (no_end o ho).1 hc
      · exact (no_end o ho).2 hc
  · exact (follows_of_mem_body hc).not_mem_marks marked

/-- The digits of a constraint of the right form are found. -/
theorem leadingDigits_eq {constraint : String} (written : s.text = constraint.toList) :
    leadingDigits constraint = s.digits := by
  have whole : constraint.toList = (s.front ++ (s.operator ++ s.body)) ++ s.rest := by
    rw [← written, text]
    simp
  have stop : ∀ c ∈ (firstConstraint s.rest).head?, Text.isDigit c = false := fun c hc =>
    s.rest_stop c (Text.mem_head?_of_isPrefix (isPrefix_firstConstraint s.rest) hc)
  have cut : firstConstraint constraint.toList =
      s.front ++ (s.operator ++ (s.body ++ firstConstraint s.rest)) := by
    rw [whole, firstConstraint_append (s.not_mem_of_ends (.inl rfl))
      (s.not_mem_of_ends (.inr rfl))]
    simp
  rw [leadingDigits, cut, stripOperator_eq]
  exact Text.takeWhile_append_of_stop s.digits_digit stop

end Spelling

/-! ## From the digits to the form -/

/-- What follows the first constraint does not make a number longer. -/
theorem exists_later (cs : List Char) :
    ∃ later, firstConstraint cs ++ later = cs ∧ ∀ c ∈ later.head?, Text.isDigit c = false := by
  have stop {d : Char} {sep rest : List Char} (other : Text.isDigit d = false)
      (starts : (d :: sep) <+: rest) : ∀ c ∈ rest.head?, Text.isDigit c = false := by
    intro c hc
    have first : d ∈ rest.head? := Text.mem_head?_of_isPrefix starts rfl
    obtain rfl : d = c := Option.some.inj (first.symm.trans hc)
    exact other
  refine ⟨Text.fromFirst ['|', '|'] (Text.before [','] cs) ++ Text.fromFirst [','] cs, ?_, ?_⟩
  · show Text.before ['|', '|'] (Text.before [','] cs) ++ _ = cs
    rw [← List.append_assoc, Text.before_append_rest, Text.before_append_rest]
  · rcases Text.fromFirst_cases ['|', '|'] (Text.before [','] cs) with none | bars
    · rw [none, List.nil_append]
      rcases Text.fromFirst_cases [','] cs with nothing | comma
      · rw [nothing]
        simp
      · exact stop (by decide) comma
    · exact stop (by decide) (bars.trans (List.prefix_append _ _))

/-- A constraint in which digits are found has the form of one with a major version. -/
theorem exists_spelling {constraint : String} (found : leadingDigits constraint ≠ []) :
    ∃ s : Spelling, s.text = constraint.toList ∧ s.digits = leadingDigits constraint := by
  have blanks (cs : List Char) : cs.takeWhile Text.isBlank ++ Text.skipBlanks cs = cs :=
    List.takeWhile_append_dropWhile
  have blank (cs : List Char) : ∀ c ∈ cs.takeWhile Text.isBlank, Text.isBlank c = true :=
    fun c hc => List.mem_takeWhile_imp hc
  obtain ⟨later, whole, stop⟩ := exists_later constraint.toList
  let first := firstConstraint constraint.toList
  obtain ⟨operator, operator_known, afterOperator⟩ := exists_operator (Text.skipBlanks first)
  let signed := dropOperator (Text.skipBlanks first)
  obtain ⟨letter, letter_known, afterLetter⟩ := exists_letter (Text.skipBlanks signed)
  let lettered := dropLetter (Text.skipBlanks signed)
  let rest := (stripOperator first).dropWhile Text.isDigit
  have digits : leadingDigits constraint ++ rest = stripOperator first :=
    List.takeWhile_append_dropWhile
  refine ⟨{
    front := first.takeWhile Text.isBlank
    operator := operator
    middle := signed.takeWhile Text.isBlank
    letter := letter
    back := lettered.takeWhile Text.isBlank
    digits := leadingDigits constraint
    rest := rest ++ later
    front_blank := blank first
    operator_known := operator_known
    middle_blank := blank signed
    letter_known := letter_known
    back_blank := blank lettered
    digits_ne_nil := found
    digits_digit := fun c hc => List.mem_takeWhile_imp hc
    rest_stop := ?_ }, ?_, rfl⟩
  · intro c hc
    rw [List.head?_append] at hc
    cases next : rest.head? with
    | none =>
      rw [next, Option.none_or] at hc
      exact stop c hc
    | some d =>
      rw [next, Option.some_or] at hc
      obtain rfl := Option.some.inj hc
      exact Text.eq_false_of_mem_head?_dropWhile next
  · calc first.takeWhile Text.isBlank ++ (operator ++ ((signed.takeWhile Text.isBlank ++
          (letter ++ (lettered.takeWhile Text.isBlank ++ leadingDigits constraint))) ++
            (rest ++ later)))
        = first.takeWhile Text.isBlank ++ (operator ++ (signed.takeWhile Text.isBlank ++
            (letter ++ (lettered.takeWhile Text.isBlank ++
              (leadingDigits constraint ++ rest))))) ++ later := by simp
      _ = first ++ later := by
          have step : lettered.takeWhile Text.isBlank ++ (leadingDigits constraint ++ rest) =
              lettered := by
            rw [digits]
            exact blanks lettered
          rw [step, afterLetter, blanks signed, afterOperator, blanks first]
      _ = constraint.toList := whole

/-- The major versions that constraints name, as long as they have no run of digits that is too
long. A constraint names a number exactly when it has the right form with the digits of that number,
and it names none exactly when it has not the right form. -/
theorem major?_exact {constraint : String} (few : FewDigits constraint) :
    (∀ n, major? constraint = .ok (some n) ↔
      ∃ s : Spelling, s.text = constraint.toList ∧ s.number = n) ∧
    (major? constraint = .ok none ↔ ¬ ∃ s : Spelling, s.text = constraint.toList) := by
  have formed : leadingDigits constraint ≠ [] ↔ ∃ s : Spelling, s.text = constraint.toList := by
    constructor
    · intro found
      obtain ⟨s, written, -⟩ := exists_spelling found
      exact ⟨s, written⟩
    · rintro ⟨s, written⟩
      rw [s.leadingDigits_eq written]
      exact s.digits_ne_nil
  have numbered (s : Spelling) (written : s.text = constraint.toList) :
      Text.digitsValue (leadingDigits constraint) = s.number := by
    rw [s.leadingDigits_eq written, digitsValue_eq_ofDigits]
    rfl
  have short : ¬ maxDigits < (leadingDigits constraint).length :=
    Nat.not_lt.2 few.length_leadingDigits
  rw [major?_eq, if_neg short, ← formed]
  by_cases found : leadingDigits constraint = []
  · have nothing : ¬ ∃ s : Spelling, s.text = constraint.toList := fun written =>
      formed.2 written found
    simp only [found, List.isEmpty_nil, if_true]
    refine ⟨fun n => ⟨nofun, ?_⟩, by simp⟩
    rintro ⟨s, written, -⟩
    exact absurd ⟨s, written⟩ nothing
  · rw [if_neg (by simpa using found)]
    refine ⟨fun n => ?_, by simp [found]⟩
    rw [Except.ok.injEq, Option.some.injEq]
    constructor
    · rintro rfl
      obtain ⟨s, written⟩ := formed.1 found
      exact ⟨s, written, (numbered s written).symm⟩
    · rintro ⟨s, written, rfl⟩
      exact numbered s written

/-- A constraint with all parts, whose number mixes the digits of two scripts. -/
def mixedDigits : Spelling where
  front := [' ']
  operator := ['~', '>']
  middle := ['\t']
  letter := ['v']
  back := [' ']
  digits := ['\u0663', '1', '2']
  rest := ".4, <9 || 2".toList
  front_blank := List.all_iff_forall_prop.1 (by decide)
  operator_known := .inr (by decide)
  middle_blank := List.all_iff_forall_prop.1 (by decide)
  letter_known := .inr (.inl rfl)
  back_blank := List.all_iff_forall_prop.1 (by decide)
  digits_ne_nil := by decide
  digits_digit := List.all_iff_forall_prop.1 (by decide)
  rest_stop := by
    intro c hc
    obtain rfl : '.' = c := Option.some.inj hc
    decide

/-- The number is found behind the operator and the letter. A text that starts with the two
characters of an operator in the wrong order has not the right form. -/
theorem major?_exact_mixedDigits :
    FewDigits " ~>\tv \u066312.4, <9 || 2" ∧
    major? " ~>\tv \u066312.4, <9 || 2" = .ok (some 312) ∧
    FewDigits "=> 1" ∧ ¬ ∃ s : Spelling, s.text = "=> 1".toList := by
  have few : FewDigits " ~>\tv \u066312.4, <9 || 2" := fewDigits_of_length_le (by decide)
  have few' : FewDigits "=> 1" := fewDigits_of_length_le (by decide)
  have written : mixedDigits.text = " ~>\tv \u066312.4, <9 || 2".toList := by decide
  refine ⟨few, ((major?_exact few).1 312).2 ⟨mixedDigits, written, by decide⟩, few', ?_⟩
  exact (major?_exact few').2.1 (by decide)

end CodeGraph.Version
