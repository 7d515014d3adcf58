import CodeGraph.Manifest.MixProject
import CodeGraph.Proofs.TextParts
import Mathlib.Data.Option.Basic

/-!
# Parts of a project file

The readers of a project file look for the entry with the name of the application and for the head
of the function that lists the dependencies. What they find has the form that a grammar of the two
describes. In the body of that function, they drop comments, but nothing of quoted texts, and look
for tuples in what is left.

Main definitions:

- `Atom`, `Entry`, `Head`: the grammar of entries and heads;
- `StartsEnd`: where a body ends;
- `Quoted`: quoted texts;
- `Kept`: a text without comments;
- `devOnly?`: the options that restrict a dependency.

Main statements:

- `entryName?_eq_some_iff`, `head?_eq_some_iff`, `quoted?_eq_some_iff`: the readers follow the
  grammar;
- `bodyFrom?_append`: a body goes on with a line that does not end it;
- `Quoted.kept`, `stripComments_comment`: what is kept and what is dropped with the comments;
- `tuples_append_of_not_mem`, `tuples_of_some`: the tuples of a text, one after the other.
-/
namespace CodeGraph.MixProject

variable {cs ds rest w : List Char}

/-! ## Words -/

theorem not_isBlank_of_isWord {c : Char} (word : Text.isWord c = true) : Text.isBlank c = false :=
  Text.not_isBlank_of_forall_blankCodes Text.isWord (by decide +kernel) word

/-- What a comment says behind its number sign. -/
structure Comment where
  text : List Char
  one_line : '\n' ∉ text

/-- The word of an atom. -/
structure Atom where
  text : List Char
  full : text ≠ []
  word : ∀ c ∈ text, Text.isWord c = true

theorem Atom.not_mem (a : Atom) {c : Char} (other : Text.isWord c = false) : c ∉ a.text := by
  intro hc
  have word := a.word c hc
  rw [other] at word
  cases word

theorem forall_mem_head?_of_startsWord (stop : Text.startsWord cs = false) :
    ∀ c ∈ cs.head?, Text.isWord c = false := by
  cases cs with
  | nil => simp
  | cons c cs =>
    rintro d ⟨⟩
    exact stop

theorem startsWord_dropWhile (cs : List Char) :
    Text.startsWord (cs.dropWhile Text.isWord) = false := by
  cases left : cs.dropWhile Text.isWord with
  | nil => rfl
  | cons c rest => exact Text.eq_false_of_mem_head?_dropWhile (by rw [left]; rfl)

theorem word?_eq_some_iff : word? cs = some (w, rest) ↔
    ∃ a : Atom, a.text = w ∧ cs = a.text ++ rest ∧ Text.startsWord rest = false := by
  unfold word?
  constructor
  · intro read
    split at read
    · cases read
    · next full =>
      obtain ⟨rfl, rfl⟩ := Prod.mk.inj (Option.some.inj read)
      exact ⟨⟨cs.takeWhile Text.isWord, full, fun _ => List.mem_takeWhile_imp⟩, rfl,
        List.takeWhile_append_dropWhile.symm, startsWord_dropWhile cs⟩
  · rintro ⟨a, rfl, rfl, stop⟩
    have stop' := forall_mem_head?_of_startsWord stop
    rw [Text.takeWhile_append_of_stop a.word stop', Text.dropWhile_append_of_stop a.word stop']
    split
    · next empty => exact absurd empty a.full
    · rfl

theorem wholeWord?_eq_some_iff {word : String} :
    wholeWord? word cs = some rest ↔
      cs = word.toList ++ rest ∧ Text.startsWord rest = false := by
  simp [wholeWord?, Option.filter_eq_some_iff, Text.dropPrefix?_eq_some_iff]

theorem atom?_eq_some_iff : atom? cs = some (w, rest) ↔
    ∃ (g : Text.Blanks) (a : Atom), a.text = w ∧ cs = g.text ++ ':' :: (a.text ++ rest) ∧
      Text.startsWord rest = false := by
  constructor
  · intro read
    obtain ⟨g, whole⟩ := Text.exists_blanks cs
    unfold atom? at read
    split at read
    · next ds colon =>
      obtain ⟨a, named, rfl, stop⟩ := word?_eq_some_iff.1 read
      exact ⟨g, a, named, by rw [← colon, ← whole], stop⟩
    · cases read
  · rintro ⟨g, a, rfl, rfl, stop⟩
    have skipped : Text.skipBlanks (g.text ++ ':' :: (a.text ++ rest)) = ':' :: (a.text ++ rest) :=
      g.skipBlanks_append (by rintro c ⟨⟩; decide)
    rw [atom?, skipped]
    exact word?_eq_some_iff.2 ⟨a, rfl, rfl, stop⟩

/-! ## Entries -/

/-- The name of the application, if its entry starts a text. -/
def entryName? (cs : List Char) : Option String := do
  let rest ← Text.dropPrefix? "app:".toList cs
  let (name, _) ← atom? rest
  return String.ofList name

theorem appName?_eq (cs : List Char) : appName? cs = Text.firstMatch entryName? cs := rfl

/-- The entry with the name of the application. -/
structure Entry where
  gap : Text.Blanks
  name : Atom

def Entry.text (e : Entry) : List Char := "app:".toList ++ (e.gap.text ++ ':' :: e.name.text)

/-- A name is found exactly where an entry ends with it. -/
theorem entryName?_eq_some_iff {name : String} : entryName? cs = some name ↔
    ∃ (e : Entry) (rest : List Char), cs = e.text ++ rest ∧ Text.startsWord rest = false ∧
      String.ofList e.name.text = name := by
  constructor
  · intro read
    obtain ⟨ds, dropped, read⟩ := Option.bind_eq_some_iff.1 read
    obtain ⟨⟨w, rest⟩, named, made⟩ := Option.bind_eq_some_iff.1 read
    obtain ⟨g, a, rfl, rfl, stop⟩ := atom?_eq_some_iff.1 named
    refine ⟨⟨g, a⟩, rest, ?_, stop, Option.some.inj made⟩
    rw [Text.dropPrefix?_eq_some_iff.1 dropped]
    simp [Entry.text]
  · rintro ⟨e, rest, rfl, stop, rfl⟩
    have dropped : Text.dropPrefix? "app:".toList (e.text ++ rest) =
        some (e.gap.text ++ ':' :: (e.name.text ++ rest)) :=
      Text.dropPrefix?_eq_some_iff.2 (by simp [Entry.text])
    have named : atom? (e.gap.text ++ ':' :: (e.name.text ++ rest)) = some (e.name.text, rest) :=
      atom?_eq_some_iff.2 ⟨e.gap, e.name, rfl, rfl, stop⟩
    rw [entryName?, dropped, Option.bind_eq_bind, Option.bind_some, named]
    rfl

theorem entryName?_of_not_isPrefix (absent : ¬ "app:".toList <+: cs) : entryName? cs = none := by
  rw [Option.eq_none_iff_forall_ne_some]
  intro name found
  obtain ⟨e, rest, rfl, -, -⟩ := entryName?_eq_some_iff.1 found
  exact absent ((List.prefix_append _ _).trans (List.prefix_append e.text rest))

/-! ## Heads -/

/-- An empty pair of parentheses, given the blanks inside it and behind it, or none. -/
def parenthesesText : Option (Text.Blanks × Text.Blanks) → List Char
  | none => []
  | some (inside, behind) => '(' :: (inside.text ++ ')' :: behind.text)

theorem mem_parenthesesText {q : Option (Text.Blanks × Text.Blanks)} {c : Char}
    (hc : c ∈ parenthesesText q) :
    Text.isBlank c = true ∨ c ∈ ['(', ')'] := by
  cases q with
  | none => cases hc
  | some q =>
    simp only [parenthesesText, List.mem_cons, List.mem_append] at hc
    rcases hc with rfl | inside | rfl | behind
    · simp
    · exact .inl (q.1.blank c inside)
    · simp
    · exact .inl (q.2.blank c behind)

theorem mem_head?_parenthesesText {q : Option (Text.Blanks × Text.Blanks)} {c : Char}
    (hc : c ∈ (parenthesesText q ++ ("do".toList ++ ds)).head?) : c = 'd' ∨ c = '(' := by
  cases q with
  | none => exact .inl (Option.some.inj hc).symm
  | some q => exact .inr (Option.some.inj hc).symm

/-- Parentheses are skipped, and the blanks behind them. -/
theorem skipParentheses_append (q : Option (Text.Blanks × Text.Blanks))
    (first : ∀ c ∈ ds.head?, Text.isBlank c = false ∧ c ≠ '(') :
    Text.skipBlanks (skipParentheses (parenthesesText q ++ ds)) = ds := by
  cases q with
  | none =>
    have unopened : skipParentheses ds = ds := by
      unfold skipParentheses
      split
      · exact absurd rfl (first '(' rfl).2
      · rfl
    rw [parenthesesText, List.nil_append, unopened]
    exact Text.dropWhile_eq_self_of_head fun c hc => (first c hc).1
  | some q =>
    have inside : Text.skipBlanks (q.1.text ++ ')' :: (q.2.text ++ ds)) = ')' :: (q.2.text ++ ds) :=
      q.1.skipBlanks_append (by rintro c ⟨⟩; decide)
    rw [parenthesesText, List.cons_append, List.append_assoc, List.cons_append, skipParentheses,
      inside]
    exact q.2.skipBlanks_append fun c hc => (first c hc).1

theorem exists_parentheses (first : ∀ c ∈ cs.head?, Text.isBlank c = false) :
    ∃ q, cs = parenthesesText q ++ Text.skipBlanks (skipParentheses cs) := by
  unfold skipParentheses
  split
  · next ds =>
    split
    · next es closed =>
      obtain ⟨inside, whole⟩ := Text.exists_blanks ds
      obtain ⟨behind, whole'⟩ := Text.exists_blanks es
      have opened : ds = inside.text ++ ')' :: (behind.text ++ Text.skipBlanks es) := by
        rw [← whole', ← closed]
        exact whole
      exact ⟨some (inside, behind), by rw [opened]; simp [parenthesesText]⟩
    · refine ⟨none, ?_⟩
      rw [Text.skipBlanks, Text.dropWhile_eq_self_of_head first]
      rfl
  · exact ⟨none, (Text.dropWhile_eq_self_of_head first).symm⟩

/-- The head of the function that lists the dependencies: its keyword, its name, an empty pair of
parentheses perhaps, and the word that opens its body. -/
structure Head where
  isPrivate : Bool
  gap : Text.Blanks
  apart : gap.text ≠ []
  afterName : Text.Blanks
  parentheses : Option (Text.Blanks × Text.Blanks)

namespace Head

variable (h : Head)

/-- What follows the first three letters. -/
def tail : List Char :=
  (if h.isPrivate then ['p'] else []) ++ (h.gap.text ++ ("deps".toList ++ (h.afterName.text ++
    (parenthesesText h.parentheses ++ "do".toList))))

def text : List Char := "def".toList ++ h.tail

/-- Behind its first letters, a head holds blanks, parentheses and the letters of a few words. -/
theorem mem_tail {c : Char} (hc : c ∈ h.tail) :
    Text.isBlank c = true ∨ c ∈ ['(', ')', 'd', 'e', 'o', 'p', 's'] := by
  simp only [tail, List.mem_append] at hc
  rcases hc with p | gap | name | after | parentheses | last
  · split at p
    · obtain rfl := List.mem_singleton.1 p
      simp
    · cases p
  · exact .inl (h.gap.blank c gap)
  · have letters : ∀ d ∈ "deps".toList, d ∈ ['(', ')', 'd', 'e', 'o', 'p', 's'] :=
      List.all_iff_forall_prop.1 (by decide)
    exact .inr (letters c name)
  · exact .inl (h.afterName.blank c after)
  · exact (mem_parenthesesText parentheses).imp_right
      (List.mem_append_left ['d', 'e', 'o', 'p', 's'])
  · have letters : ∀ d ∈ "do".toList, d ∈ ['(', ')', 'd', 'e', 'o', 'p', 's'] :=
      List.all_iff_forall_prop.1 (by decide)
    exact .inr (letters c last)

theorem getLast?_text : h.text.getLast? = some 'o' := by
  have last : h.text = ("def".toList ++ ((if h.isPrivate then ['p'] else []) ++ (h.gap.text ++
      ("deps".toList ++ (h.afterName.text ++ (parenthesesText h.parentheses ++ ['d'])))))) ++
        ['o'] := by simp [text, tail]
  rw [last, List.getLast?_concat]

end Head

/-- The letter of a private function is skipped. -/
theorem exists_private (cs : List Char) :
    ∃ b : Bool, cs = (if b then ['p'] else []) ++ (Text.dropPrefix? ['p'] cs).getD cs := by
  cases dropped : Text.dropPrefix? ['p'] cs with
  | none => exact ⟨false, rfl⟩
  | some ds => exact ⟨true, Text.dropPrefix?_eq_some_iff.1 dropped⟩

namespace Head

/-- A head can be read off what the reader finds. -/
theorem exists_of_head? (read : head? cs = some rest) :
    ∃ h : Head, cs = h.text ++ rest ∧ Text.startsWord rest = false := by
  obtain ⟨ds, keyword, read⟩ := Option.bind_eq_some_iff.1 read
  obtain ⟨_, apart, read⟩ := Option.bind_eq_some_iff.1 read
  obtain ⟨es, name, read⟩ := Option.bind_eq_some_iff.1 read
  obtain ⟨b, private_whole⟩ := exists_private ds
  obtain ⟨gap, gap_whole⟩ := Text.exists_blanks ((Text.dropPrefix? ['p'] ds).getD ds)
  obtain ⟨after, after_whole⟩ := Text.exists_blanks es
  have visible : ∀ c ∈ (Text.skipBlanks es).head?, Text.isBlank c = false :=
    fun c => Text.eq_false_of_mem_head?_dropWhile
  obtain ⟨q, parentheses_whole⟩ := exists_parentheses visible
  obtain ⟨word, stop⟩ := wholeWord?_eq_some_iff.1 read
  have named := Text.dropPrefix?_eq_some_iff.1 name
  refine ⟨⟨b, gap, fun empty => ?_, after, q⟩, ?_, stop⟩
  · have blank := (Option.guard_eq_some' _).1 apart
    rw [gap_whole, empty, List.nil_append, named] at blank
    cases blank
  · calc cs = "def".toList ++ ds := Text.dropPrefix?_eq_some_iff.1 keyword
      _ = "def".toList ++ ((if b then ['p'] else []) ++ (gap.text ++ ("deps".toList ++ es))) := by
        rw [← named, ← gap_whole, ← private_whole]
      _ = "def".toList ++ ((if b then ['p'] else []) ++ (gap.text ++ ("deps".toList ++
          (after.text ++ (parenthesesText q ++ ("do".toList ++ rest)))))) := by
        rw [← word, ← parentheses_whole, ← after_whole]
      _ = Head.text ⟨b, gap, _, after, q⟩ ++ rest := by simp [text, tail]

/-- The blank that sets the name apart is no letter. -/
theorem drop_private (h : Head) (cs : List Char) :
    (Text.dropPrefix? ['p'] ((if h.isPrivate then ['p'] else []) ++ (h.gap.text ++ cs))).getD
      ((if h.isPrivate then ['p'] else []) ++ (h.gap.text ++ cs)) = h.gap.text ++ cs := by
  split
  · rfl
  · cases spaced : h.gap.text with
    | nil => exact absurd spaced h.apart
    | cons c gap =>
      have other : 'p' ≠ c := by
        rintro rfl
        exact h.gap.not_mem (c := 'p') (by decide) (by simp [spaced])
      simp [Text.dropPrefix?, other]

theorem any_isBlank_head?_gap (h : Head) (cs : List Char) :
    (h.gap.text ++ cs).head?.any Text.isBlank = true := by
  cases spaced : h.gap.text with
  | nil => exact absurd spaced h.apart
  | cons c gap => exact h.gap.blank c (by simp [spaced])

/-- A head that ends with a whole word is read. -/
theorem head?_text_append (h : Head) (stop : Text.startsWord rest = false) :
    head? (h.text ++ rest) = some rest := by
  let last := parenthesesText h.parentheses ++ ("do".toList ++ rest)
  let named := "deps".toList ++ (h.afterName.text ++ last)
  have keyword : Text.dropPrefix? "def".toList (h.text ++ rest) =
      some ((if h.isPrivate then ['p'] else []) ++ (h.gap.text ++ named)) :=
    Text.dropPrefix?_eq_some_iff.2 (by simp [text, tail, named, last])
  have spaced : guard ((h.gap.text ++ named).head?.any Text.isBlank) = some () :=
    (Option.guard_eq_some' _).2 (h.any_isBlank_head?_gap named)
  have skipped : Text.skipBlanks (h.gap.text ++ named) = named :=
    h.gap.skipBlanks_append (by rintro c ⟨⟩; decide)
  have name : Text.dropPrefix? "deps".toList named = some (h.afterName.text ++ last) :=
    Text.dropPrefix?_eq_some_iff.2 rfl
  have visible : ∀ c ∈ last.head?, Text.isBlank c = false := by
    intro c hc
    obtain rfl | rfl := mem_head?_parenthesesText hc <;> decide
  have opened : Text.skipBlanks (skipParentheses last) = "do".toList ++ rest :=
    skipParentheses_append h.parentheses (by rintro c ⟨⟩; decide)
  have word : wholeWord? "do" ("do".toList ++ rest) = some rest :=
    wholeWord?_eq_some_iff.2 ⟨rfl, stop⟩
  rw [head?, keyword, Option.bind_eq_bind, Option.bind_some, h.drop_private]
  refine Option.bind_eq_some_iff.2 ⟨(), spaced, ?_⟩
  rw [skipped]
  refine Option.bind_eq_some_iff.2 ⟨_, name, ?_⟩
  rw [h.afterName.skipBlanks_append visible, opened, word]

end Head

/-- A head is found exactly where one ends with a whole word. -/
theorem head?_eq_some_iff : head? cs = some rest ↔
    ∃ h : Head, cs = h.text ++ rest ∧ Text.startsWord rest = false := by
  constructor
  · exact Head.exists_of_head?
  · rintro ⟨h, rfl, stop⟩
    exact h.head?_text_append stop

theorem head?_of_not_isPrefix (absent : ¬ "def".toList <+: cs) : head? cs = none := by
  rw [Option.eq_none_iff_forall_ne_some]
  intro rest found
  obtain ⟨h, rfl, -⟩ := head?_eq_some_iff.1 found
  exact absent ((List.prefix_append _ _).trans (List.prefix_append h.text rest))

/-! ## Bodies -/

/-- Behind blanks, the word that ends a body comes next. -/
def StartsEnd (cs : List Char) : Prop := (wholeWord? "end" (Text.skipBlanks cs)).isSome = true

theorem not_startsEnd_of_head (other : ∀ c ∈ (Text.skipBlanks cs).head?, c ≠ 'e') :
    ¬ StartsEnd cs := by
  intro ended
  obtain ⟨rest, read⟩ := Option.isSome_iff_exists.1 ended
  have first : Text.skipBlanks cs = 'e' :: ("nd".toList ++ rest) :=
    (wholeWord?_eq_some_iff.1 read).1
  exact other 'e' (by rw [first]; rfl) rfl

/-- Blanks before the end of a body do not count. -/
theorem startsEnd_append_iff (blank : ∀ c ∈ cs, Text.isBlank c = true) :
    StartsEnd (cs ++ ds) ↔ StartsEnd ds := by
  rw [StartsEnd, StartsEnd, Text.skipBlanks_append_of_blank blank]

theorem bodyFrom?_of_startsEnd (ended : StartsEnd cs) : bodyFrom? true cs = some [] := by
  have word : (wholeWord? "end" (Text.skipBlanks cs)).isSome = true := ended
  rw [bodyFrom?.eq_def, Bool.true_and, if_pos word]

theorem bodyFrom?_cons {atLineStart : Bool} {c : Char}
    (goes_on : atLineStart = true → ¬ StartsEnd (c :: cs)) :
    bodyFrom? atLineStart (c :: cs) = (bodyFrom? (c == '\n') cs).map (c :: ·) := by
  have not_ended :
      ¬ (atLineStart && (wholeWord? "end" (Text.skipBlanks (c :: cs))).isSome) = true := by
    rw [Bool.and_eq_true]
    exact fun ended => goes_on ended.1 ended.2
  rw [bodyFrom?, if_neg not_ended]

/-- A body goes on with a line that does not end it. -/
theorem bodyFrom?_append (one_line : '\n' ∉ cs) {atLineStart : Bool}
    (goes_on : atLineStart = true → ¬ StartsEnd (cs ++ '\n' :: rest)) :
    bodyFrom? atLineStart (cs ++ '\n' :: rest) =
      (bodyFrom? true rest).map fun body => cs ++ '\n' :: body := by
  induction cs generalizing atLineStart with
  | nil => exact bodyFrom?_cons goes_on
  | cons c cs ih =>
    obtain ⟨other, later⟩ := List.ne_and_not_mem_of_not_mem_cons one_line
    have inner : (c == '\n') = false := beq_eq_false_iff_ne.2 other.symm
    have behind : bodyFrom? false (cs ++ '\n' :: rest) =
        (bodyFrom? true rest).map fun body => cs ++ '\n' :: body := ih later nofun
    rw [List.cons_append] at goes_on ⊢
    rw [bodyFrom?_cons goes_on, inner, behind, Option.map_map]
    rfl

/-! ## Quoted texts -/

variable {q : List Char}

/-- A quoted text behind its opening quote: characters, alone or behind a backslash, and the closing
quote. -/
inductive Quoted : List Char → Prop
  | close : Quoted ['"']
  | escape {c : Char} {q : List Char} (one_line : c ≠ '\n') (rest : Quoted q) :
      Quoted ('\\' :: c :: q)
  | plain {c : Char} {q : List Char} (plain : c ∉ ['"', '\\']) (rest : Quoted q) : Quoted (c :: q)

theorem quoted?_cons {c : Char} (plain : c ∉ ['"', '\\']) :
    quoted? (c :: cs) = (quoted? cs).map fun r => (c :: r.1, r.2) := by
  have no_quote : c ≠ '"' := fun same => plain (by simp [same])
  have no_backslash : c ≠ '\\' := fun same => plain (by simp [same])
  rw [quoted?]
  · exact no_quote
  · exact fun same => absurd same no_backslash
  · exact fun _ _ same => absurd same no_backslash

theorem Quoted.quoted?_append (quoted : Quoted q) (rest : List Char) :
    quoted? (q ++ rest) = some (q, rest) := by
  induction quoted with
  | close => rfl
  | escape one_line _ ih => simp [quoted?, one_line, ih]
  | plain plain _ ih => rw [List.cons_append, quoted?_cons plain, ih, Option.map_some]

theorem Quoted.of_quoted? (read : quoted? cs = some (q, rest)) : Quoted q ∧ cs = q ++ rest := by
  fun_induction quoted? cs generalizing q with
  | case1 => cases read
  | case2 cs =>
    cases read
    exact ⟨.close, rfl⟩
  | case3 => cases read
  | case4 => cases read
  | case5 c cs one_line ih =>
    obtain ⟨⟨q, rest⟩, later, same⟩ := Option.map_eq_some_iff.1 read
    cases same
    obtain ⟨quoted, rfl⟩ := ih later
    exact ⟨.escape one_line quoted, rfl⟩
  | case6 c cs no_quote last_backslash no_backslash ih =>
    obtain ⟨⟨q, rest⟩, later, same⟩ := Option.map_eq_some_iff.1 read
    cases same
    obtain ⟨quoted, whole⟩ := ih later
    have plain : c ∉ ['"', '\\'] := by
      intro listed
      obtain rfl | ⟨rfl⟩ : c = '"' ∨ c = '\\' := by simpa using listed
      · exact no_quote rfl
      · cases cs with
        | nil => exact last_backslash rfl rfl
        | cons d cs => exact no_backslash d cs rfl rfl
    exact ⟨.plain plain quoted, by rw [whole, List.cons_append]⟩

theorem quoted_of_forall (plain : ∀ c ∈ cs, c ∉ ['"', '\\']) : Quoted (cs ++ ['"']) := by
  induction cs with
  | nil => exact .close
  | cons c cs ih =>
    exact .plain (plain c List.mem_cons_self) (ih fun d hd => plain d (List.mem_cons_of_mem c hd))

/-- A quoted text ends with its first quote that stands behind no backslash. -/
theorem quoted?_eq_some_iff : quoted? cs = some (q, rest) ↔ Quoted q ∧ cs = q ++ rest := by
  constructor
  · exact Quoted.of_quoted?
  · rintro ⟨quoted, rfl⟩
    exact quoted.quoted?_append rest

/-! ## Comments -/

theorem stripComments_cons {c : Char} (plain : c ∉ ['"', '#']) :
    stripComments (c :: cs) = c :: stripComments cs := by
  have no_quote : c ≠ '"' := fun same => plain (by simp [same])
  have no_sign : c ≠ '#' := fun same => plain (by simp [same])
  simp [stripComments, stripFrom, no_quote, no_sign]

theorem stripFrom_length_append (q cs : List Char) :
    stripFrom q.length false (q ++ cs) = q ++ stripComments cs := by
  induction q with
  | nil => rfl
  | cons c q ih => rw [List.length_cons, List.cons_append, stripFrom, ih, List.cons_append]

/-- Number signs in a quoted text start no comment. -/
theorem Quoted.stripComments_append (quoted : Quoted q) (cs : List Char) :
    stripComments ('"' :: (q ++ cs)) = '"' :: (q ++ stripComments cs) := by
  have read := quoted.quoted?_append cs
  rw [← stripFrom_length_append]
  simp [stripComments, stripFrom, read]

theorem stripFrom_true_append {c : List Char} (one_line : '\n' ∉ c) (cs : List Char) :
    stripFrom 0 true (c ++ '\n' :: cs) = '\n' :: stripComments cs := by
  induction c with
  | nil => rfl
  | cons d c ih =>
    obtain ⟨other, later⟩ := List.ne_and_not_mem_of_not_mem_cons one_line
    have rest := ih later
    rw [List.cons_append, stripFrom]
    simp [other.symm, rest]

/-- A comment is dropped up to the end of its line. -/
theorem stripComments_comment {c : List Char} (one_line : '\n' ∉ c) (cs : List Char) :
    stripComments ('#' :: (c ++ '\n' :: cs)) = '\n' :: stripComments cs := by
  rw [stripComments, stripFrom]
  simp [stripFrom_true_append one_line]

/-- A text that the search for comments leaves as it is, whatever comes behind it. -/
def Kept (cs : List Char) : Prop := ∀ ds, stripComments (cs ++ ds) = cs ++ stripComments ds

theorem Kept.append (first : Kept cs) (second : Kept ds) : Kept (cs ++ ds) := by
  intro es
  rw [List.append_assoc, first, second, List.append_assoc]

theorem kept_of_forall (plain : ∀ c ∈ cs, c ∉ ['"', '#']) : Kept cs := by
  intro ds
  induction cs with
  | nil => rfl
  | cons c cs ih =>
    rw [List.cons_append, stripComments_cons (plain c List.mem_cons_self),
      ih fun d hd => plain d (List.mem_cons_of_mem c hd), List.cons_append]

theorem kept_of_blank (blank : ∀ c ∈ cs, Text.isBlank c = true) : Kept cs := by
  have visible : ∀ c ∈ ['"', '#'], Text.isBlank c = false := List.all_iff_forall_prop.1 (by decide)
  exact kept_of_forall (Text.forall_not_mem_of_run blank visible)

theorem Quoted.kept (quoted : Quoted q) : Kept ('"' :: q) := quoted.stripComments_append

/-! ## Tuples -/

theorem tuplesFrom_length_append (q cs : List Char) :
    tuplesFrom q.length (q ++ cs) = tuples cs := by
  induction q with
  | nil => rfl
  | cons c q ih => rw [List.length_cons, List.cons_append, tuplesFrom, ih]

theorem tuples_cons {c : Char} (other : c ≠ '\x7b') : tuples (c :: cs) = tuples cs := by
  simp [tuples, tuplesFrom, other]

/-- No tuple starts in a text without opening braces. -/
theorem tuples_append_of_not_mem (absent : '\x7b' ∉ cs) : tuples (cs ++ ds) = tuples ds := by
  induction cs with
  | nil => rfl
  | cons c cs ih =>
    obtain ⟨other, later⟩ := List.ne_and_not_mem_of_not_mem_cons absent
    rw [List.cons_append, tuples_cons other.symm, ih later]

/-- Options without braces end with the first closing one. -/
theorem options?_append (plain : ∀ c ∈ cs, c ∉ ['\x7b', '\x7d']) (rest : List Char) :
    options? false (cs ++ '\x7d' :: rest) = some (cs, rest) := by
  induction cs with
  | nil => rfl
  | cons c cs ih =>
    have here := plain c List.mem_cons_self
    have no_opening : c ≠ '\x7b' := fun same => here (by simp [same])
    have no_closing : c ≠ '\x7d' := fun same => here (by simp [same])
    have later := ih fun d hd => plain d (List.mem_cons_of_mem c hd)
    simp [options?, no_opening, no_closing, later]

/-- The search for tuples goes on behind a tuple. -/
theorem tuples_of_some {t : List Char × List Char} (read : tuple? (q ++ rest) = some (t, rest)) :
    tuples ('\x7b' :: (q ++ rest)) = t :: tuples rest := by
  have taken : (q ++ rest).length - rest.length = q.length := by simp
  rw [← tuplesFrom_length_append q rest, ← taken]
  simp [tuples, tuplesFrom, read]

/-! ## Environments -/

/-- Whether options restrict a dependency where a text starts. -/
def devOnly? (cs : List Char) : Option Unit := do
  let rest ← Text.dropPrefix? "only:".toList cs
  let rest := Text.skipBlanks rest
  guard (startsDevAtom rest || (rest.head? == some '[' && listsDevAtom (rest.drop 1)))

theorem isDevOnly_eq (options : List Char) :
    isDevOnly options = (Text.firstMatch devOnly? options).isSome := rfl

theorem devOnly?_of_not_isPrefix (absent : ¬ "only:".toList <+: cs) : devOnly? cs = none := by
  have none_dropped : Text.dropPrefix? "only:".toList cs = none :=
    Option.eq_none_iff_forall_ne_some.2 fun rest dropped =>
      absent ⟨rest, (Text.dropPrefix?_eq_some_iff.1 dropped).symm⟩
  rw [devOnly?, none_dropped]
  rfl

theorem startsDevAtom_cons {c : Char} (other : c ≠ ':') : startsDevAtom (c :: cs) = false := by
  simp [startsDevAtom, wholeWord?, Text.dropPrefix?, other.symm]

theorem listsDevAtom_append (plain : ∀ c ∈ cs, c ∉ [':', ']']) :
    listsDevAtom (cs ++ ds) = listsDevAtom ds := by
  induction cs with
  | nil => rfl
  | cons c cs ih =>
    have here := plain c List.mem_cons_self
    have no_colon : c ≠ ':' := fun same => here (by simp [same])
    have no_bracket : c ≠ ']' := fun same => here (by simp [same])
    rw [List.cons_append, listsDevAtom, startsDevAtom_cons no_colon,
      ih fun d hd => plain d (List.mem_cons_of_mem c hd)]
    simp [no_bracket]

end CodeGraph.MixProject
