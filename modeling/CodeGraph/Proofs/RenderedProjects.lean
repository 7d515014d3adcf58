import CodeGraph.Proofs.ProjectParts

/-!
# Rendered projects

A project file that is put together from the name of its application and from lines that each
declare a dependency is read back. Each dependency is found once and in the order of the lines, with
its version. It counts as needed for development exactly when its environments include that of
development or that of tests. Comments may stand behind each line and on lines of their own,
whatever they say.

Main definitions:

- `Declaration`, `Line`, `Project`: the grammar of such a file.

Main statements:

- `Declaration.isDevOnly_options`: the environments of a declaration;
- `Project.block?_text`, `Project.tuples_body`: the dependencies are found where they are listed;
- `read?_text`: what is read from the file.
-/
namespace CodeGraph.MixProject

variable {cs ds rest : List Char}

/-! ## The grammar -/

/-- A version constraint without its quotes. -/
structure Constraint where
  text : List Char
  plain : ∀ c ∈ text, c ∉ ['"', '\\', '\x7b', '\x7d', ':', '\n']

/-- The environments that a dependency is restricted to: a single one or a list. -/
inductive Environments where
  | single (a : Atom)
  | listed (as : List Atom)

/-- A dependency with its version and its environments, if it has them. -/
structure Declaration where
  name : Atom
  version : Option Constraint
  only : Option Environments

/-- A line of the list: a declaration perhaps, with a comma or without, and a comment perhaps. -/
structure Line where
  lead : Text.Gap
  declared : Option (Declaration × Bool)
  trail : Text.Gap
  comment : Option Comment

/-- Atoms with commas between them. -/
def atomsText : List Atom → List Char
  | [] => []
  | [a] => ':' :: a.text
  | a :: as => ':' :: (a.text ++ (", ".toList ++ atomsText as))

namespace Environments

def names : Environments → List Atom
  | single a => [a]
  | listed as => as

def text : Environments → List Char
  | single a => ':' :: a.text
  | listed as => '[' :: (atomsText as ++ [']'])

end Environments

/-- Whether an atom names an environment of development. -/
def Atom.isDev (a : Atom) : Bool := a.text == "dev".toList || a.text == "test".toList

namespace Declaration

variable (d : Declaration)

/-- The version, or the option that a dependency without a version has instead. -/
def versionText : List Char :=
  match d.version with
  | some v => '"' :: (v.text ++ ['"'])
  | none => "in_umbrella: true".toList

def onlyText : List Char :=
  match d.only with
  | some e => ", only: ".toList ++ e.text
  | none => []

def options : List Char := ' ' :: (d.versionText ++ d.onlyText)

def text : List Char := '\x7b' :: ':' :: (d.name.text ++ ',' :: (d.options ++ ['\x7d']))

def dependency : Dependency :=
  ⟨String.ofList d.name.text, d.version.map fun v => String.ofList v.text⟩

def isDev : Bool := d.only.any fun e => e.names.any Atom.isDev

end Declaration

namespace Line

variable (l : Line)

def declaredText : List Char :=
  match l.declared with
  | some (d, comma) => d.text ++ if comma then [','] else []
  | none => []

def commentText : List Char :=
  match l.comment with
  | some c => '#' :: c.text
  | none => []

/-- A line without its end. -/
def content : List Char := l.lead.text ++ (l.declaredText ++ (l.trail.text ++ l.commentText))

def text : List Char := l.content ++ ['\n']

end Line

def linesText (ls : List Line) : List Char := ls.flatMap Line.text

/-- The declarations of lines, in their order. -/
def declarations (ls : List Line) : List Declaration :=
  ls.filterMap fun l => l.declared.map Prod.fst

/-- A project file. The entry with the name comes before the head of the function that lists the
dependencies, and neither of them comes earlier. -/
structure Project where
  front : List Char
  entry : Entry
  middle : List Char
  head : Head
  listLead : Text.Gap
  lines : List Line
  listEnd : Text.Gap
  bodyEnd : Text.Gap
  back : List Char
  isModule : "defmodule".toList <:+: front
  first_entry : ¬ "app:".toList <:+: front
  name_ends : ∃ c ∈ middle.head?, Text.isWord c = false
  first_head : Text.firstMatch head? (front ++ (entry.text ++ middle)) = none

namespace Project

variable (p : Project)

def start : List Char := p.front ++ (p.entry.text ++ p.middle)

/-- What stands between the head of the function and its end. -/
def body : List Char :=
  '\n' :: (p.listLead.text ++ '[' :: '\n' :: (linesText p.lines ++ (p.listEnd.text ++ [']', '\n'])))

/-- The end of the function and what follows it. -/
def ending : List Char := p.bodyEnd.text ++ ("end\n".toList ++ p.back)

def text : List Char := p.start ++ (p.head.text ++ (p.body ++ p.ending))

end Project

/-! ## Environments -/

theorem firstMatch_devOnly?_of_not_isInfix (absent : ¬ "only:".toList <:+: cs) :
    Text.firstMatch devOnly? cs = none := by
  rw [← Option.not_isSome_iff_eq_none, Text.isSome_firstMatch_iff]
  rintro ⟨s, back, found⟩
  have here : ¬ "only:".toList <+: s := fun front => absent (front.isInfix.trans back.isInfix)
  rw [devOnly?_of_not_isPrefix here] at found
  cases found

/-- The environments count where they are first given. -/
theorem isDevOnly_append (first : ¬ "only:".toList <:+: cs)
    (last : ¬ "only:".toList <:+: ' ' :: ds) :
    isDevOnly (cs ++ ("only: ".toList ++ ds)) = (devOnly? ("only: ".toList ++ ds)).isSome := by
  have passed (s : List Char) (full : s ≠ []) (back : s <:+ cs) :
      devOnly? (s ++ ("only: ".toList ++ ds)) = none := by
    apply devOnly?_of_not_isPrefix
    cases s with
    | nil => exact absurd rfl full
    | cons c s =>
      have here : ¬ "only:".toList <+: c :: s := fun front =>
        first (front.isInfix.trans back.isInfix)
      exact Text.not_isPrefix_append here (by rintro d ⟨⟩; decide)
  have later : ¬ "only:".toList <:+: "nly:".toList ++ ' ' :: ds :=
    Text.not_isInfix_append (by decide) last (by rintro d ⟨⟩; decide)
  rw [isDevOnly_eq, Text.firstMatch_append_of_none passed]
  show (Text.firstMatch devOnly? ('o' :: ("nly:".toList ++ ' ' :: ds))).isSome =
    (devOnly? ('o' :: ("nly:".toList ++ ' ' :: ds))).isSome
  rw [Text.firstMatch, firstMatch_devOnly?_of_not_isInfix later]
  cases devOnly? ('o' :: ("nly:".toList ++ ' ' :: ds)) <;> rfl

/-- A word is read behind a colon when it is the word of the atom there. -/
theorem isSome_wholeWord?_atom (a : Atom) {word : String} {letters : List Char}
    (spelled : word.toList = ':' :: letters) (inner : ∀ c ∈ letters, Text.isWord c = true)
    (stop : Text.startsWord rest = false) :
    (wholeWord? word (':' :: (a.text ++ rest))).isSome = (a.text == letters) := by
  have run := Text.takeWhile_append_of_stop a.word (forall_mem_head?_of_startsWord stop)
  rw [Bool.eq_iff_iff, beq_iff_eq, Option.isSome_iff_exists]
  constructor
  · rintro ⟨rest', read⟩
    obtain ⟨whole, stop'⟩ := wholeWord?_eq_some_iff.1 read
    rw [spelled, List.cons_append, List.cons_inj_right] at whole
    rw [← run, whole]
    exact Text.takeWhile_append_of_stop inner (forall_mem_head?_of_startsWord stop')
  · rintro rfl
    exact ⟨rest, wholeWord?_eq_some_iff.2 ⟨by rw [spelled, List.cons_append], stop⟩⟩

theorem startsDevAtom_atom (a : Atom) (stop : Text.startsWord rest = false) :
    startsDevAtom (':' :: (a.text ++ rest)) = a.isDev := by
  have letters : ∀ c ∈ "dev".toList ++ "test".toList, Text.isWord c = true :=
    List.all_iff_forall_prop.1 (by decide)
  have dev : (wholeWord? ":dev" (':' :: (a.text ++ rest))).isSome = (a.text == "dev".toList) :=
    isSome_wholeWord?_atom a rfl (fun c hc => letters c (List.mem_append_left _ hc)) stop
  have test : (wholeWord? ":test" (':' :: (a.text ++ rest))).isSome = (a.text == "test".toList) :=
    isSome_wholeWord?_atom a rfl (fun c hc => letters c (List.mem_append_right _ hc)) stop
  rw [startsDevAtom, dev, test, Atom.isDev]

/-- Behind an atom, a list goes on. -/
theorem listsDevAtom_atom (a : Atom) (stop : Text.startsWord rest = false) :
    listsDevAtom (':' :: (a.text ++ rest)) = (a.isDev || listsDevAtom rest) := by
  have marks : ∀ c ∈ [':', ']'], Text.isWord c = false := List.all_iff_forall_prop.1 (by decide)
  have plain := Text.forall_not_mem_of_run a.word marks
  rw [listsDevAtom, startsDevAtom_atom a stop, listsDevAtom_append plain]
  rfl

theorem listsDevAtom_atomsText (as : List Atom) :
    listsDevAtom (atomsText as ++ [']']) = as.any Atom.isDev := by
  induction as with
  | nil => rfl
  | cons a as ih =>
    cases as with
    | nil =>
      rw [atomsText, List.cons_append, listsDevAtom_atom a (by decide)]
      rfl
    | cons b bs =>
      have separated : listsDevAtom (", ".toList ++ (atomsText (b :: bs) ++ [']'])) =
          listsDevAtom (atomsText (b :: bs) ++ [']']) :=
        listsDevAtom_append (by simp)
      have whole : atomsText (a :: b :: bs) ++ [']'] =
          ':' :: (a.text ++ (", ".toList ++ (atomsText (b :: bs) ++ [']']))) := by simp [atomsText]
      rw [whole, listsDevAtom_atom a (by rfl), separated, ih]
      rfl

/-! ## Declarations -/

/-- What stands in a declaration besides words and its version. -/
def marks : List Char := [':', ',', ' ', '[', ']']

/-- What stands neither in words nor among the marks. -/
def delimiters : List Char := ['"', '#', '\x7b', '\x7d', '\n']

theorem not_mem_delimiters {c : Char} (marked : Text.isWord c = true ∨ c ∈ marks) :
    c ∉ delimiters := by
  have none_word : ∀ d ∈ delimiters, Text.isWord d = false := List.all_iff_forall_prop.1 (by decide)
  have none_mark : ∀ d ∈ delimiters, d ∉ marks := List.all_iff_forall_prop.1 (by decide)
  intro listed
  rcases marked with word | mark
  · rw [none_word c listed] at word
    cases word
  · exact none_mark c listed mark

theorem marked_of_mem_atomsText {as : List Atom} {c : Char} (hc : c ∈ atomsText as) :
    Text.isWord c = true ∨ c ∈ marks := by
  induction as with
  | nil => cases hc
  | cons a as ih =>
    have inner (word : c ∈ a.text) : Text.isWord c = true ∨ c ∈ marks := .inl (a.word c word)
    cases as with
    | nil =>
      rcases List.mem_cons.1 hc with rfl | word
      · exact .inr (by decide)
      · exact inner word
    | cons b bs =>
      have separators : ∀ d ∈ ", ".toList, d ∈ marks := List.all_iff_forall_prop.1 (by decide)
      rw [atomsText, List.mem_cons, List.mem_append, List.mem_append] at hc
      rcases hc with rfl | word | separator | later
      · exact .inr (by decide)
      · exact inner word
      · exact .inr (separators c separator)
      · exact ih later
      · nofun

/-- In atoms with commas between them, colons stand behind no letter. -/
theorem not_isInfix_atomsText (as : List Atom) : ¬ ['y', ':'] <:+: atomsText as := by
  induction as with
  | nil => decide
  | cons a as ih =>
    have colon : ':' ∉ a.text := a.not_mem (by decide)
    have absent : ¬ ['y', ':'] <:+: a.text := fun inside => colon (inside.subset (by simp))
    cases as with
    | nil => exact Text.not_isInfix_cons (by decide) absent
    | cons b bs =>
      have later : ¬ ['y', ':'] <:+: ", ".toList ++ atomsText (b :: bs) :=
        Text.not_isInfix_cons (by decide) (Text.not_isInfix_cons (by decide) ih)
      have border : ∀ c ∈ (", ".toList ++ atomsText (b :: bs)).head?, c ∉ [':'] := by
        rintro c ⟨⟩
        decide
      exact Text.not_isInfix_cons (by decide) (Text.not_isInfix_append absent later border)

namespace Environments

variable (e : Environments)

/-- The mark of environments occurs in none. -/
theorem not_isInfix_text : ¬ "only:".toList <:+: ' ' :: e.text := by
  have shorter : ['y', ':'] <:+: "only:".toList := ⟨"onl".toList, [], rfl⟩
  have absent : ¬ ['y', ':'] <:+: e.text := by
    cases e with
    | single a => exact not_isInfix_atomsText [a]
    | listed as =>
      have border : ∀ c ∈ [']'].head?, c ∉ [':'] := by
        rintro c ⟨⟩
        decide
      exact Text.not_isInfix_cons (by decide)
        (Text.not_isInfix_append (not_isInfix_atomsText as) (by decide) border)
  exact fun inside => Text.not_isInfix_cons (by decide) absent (shorter.trans inside)

theorem marked_of_mem_text {c : Char} (hc : c ∈ e.text) : Text.isWord c = true ∨ c ∈ marks := by
  cases e with
  | single a =>
    have listed : c ∈ atomsText [a] := hc
    exact marked_of_mem_atomsText listed
  | listed as =>
    rw [text, List.mem_cons, List.mem_append, List.mem_singleton] at hc
    rcases hc with rfl | inner | rfl
    · exact .inr (by decide)
    · exact marked_of_mem_atomsText inner
    · exact .inr (by decide)

theorem isSome_devOnly?_text : (devOnly? ("only: ".toList ++ e.text)).isSome =
    e.names.any Atom.isDev := by
  have dropped :
      Text.dropPrefix? "only:".toList ("only: ".toList ++ e.text) = some (' ' :: e.text) :=
    Text.dropPrefix?_eq_some_iff.2 rfl
  have skipped : Text.skipBlanks (' ' :: e.text) = e.text := by
    cases e <;> rfl
  have named :
      (startsDevAtom e.text || (e.text.head? == some '[' && listsDevAtom (e.text.drop 1))) =
        e.names.any Atom.isDev := by
    cases e with
    | single a =>
      have here : startsDevAtom (':' :: (a.text ++ [])) = a.isDev := startsDevAtom_atom a rfl
      rw [List.append_nil] at here
      simp [text, names, here]
    | listed as =>
      have here : startsDevAtom ('[' :: (atomsText as ++ [']'])) = false :=
        startsDevAtom_cons (by decide)
      simp [text, names, here, listsDevAtom_atomsText]
  rw [devOnly?, dropped, Option.bind_eq_bind, Option.bind_some, skipped]
  dsimp only
  rw [named]
  cases e.names.any Atom.isDev <;> rfl

end Environments

namespace Declaration

variable (d : Declaration)

theorem not_isInfix_versionText : ¬ "only:".toList <:+: ' ' :: d.versionText := by
  unfold versionText
  cases d.version with
  | none => exact Text.occursIn_iff.not.1 (by decide)
  | some v =>
    intro inside
    have colon : ':' ∈ ' ' :: '"' :: (v.text ++ ['"']) := inside.subset (by decide)
    have listed : ':' ∈ v.text := by simpa using colon
    exact v.plain ':' listed (by decide)

theorem marked_of_mem_onlyText {c : Char} (hc : c ∈ d.onlyText) :
    Text.isWord c = true ∨ c ∈ marks := by
  unfold onlyText at hc
  split at hc
  · next e _ =>
    have fixed : ∀ b ∈ ", only: ".toList, Text.isWord b = true ∨ b ∈ marks :=
      List.all_iff_forall_prop.1 (by decide)
    exact (List.mem_append.1 hc).elim (fixed c) e.marked_of_mem_text
  · cases hc

/-- A declaration counts as needed for development when its environments say so. -/
theorem isDevOnly_options : isDevOnly d.options = d.isDev := by
  have absent := d.not_isInfix_versionText
  unfold options onlyText isDev
  cases d.only with
  | none =>
    rw [List.append_nil, isDevOnly_eq, firstMatch_devOnly?_of_not_isInfix absent]
    rfl
  | some e =>
    have border : ∀ c ∈ [',', ' '].head?, c ∉ "nly:".toList := by
      rintro c ⟨⟩
      decide
    have absent' : ¬ "only:".toList <:+: (' ' :: d.versionText) ++ [',', ' '] :=
      Text.not_isInfix_append absent (by decide) border
    have whole : ' ' :: (d.versionText ++ (", only: ".toList ++ e.text)) =
        ((' ' :: d.versionText) ++ [',', ' ']) ++ ("only: ".toList ++ e.text) := by simp
    rw [whole, isDevOnly_append absent' e.not_isInfix_text, e.isSome_devOnly?_text]
    rfl

theorem mem_head?_versionText {c : Char} (hc : c ∈ (d.versionText ++ rest).head?) :
    c = '"' ∨ c = 'i' := by
  unfold versionText at hc
  cases version : d.version with
  | none =>
    rw [version] at hc
    exact .inr (Option.some.inj hc).symm
  | some v =>
    rw [version] at hc
    exact .inl (Option.some.inj hc).symm

theorem version?_options : version? d.options = d.version.map fun v => String.ofList v.text := by
  have visible : ∀ c ∈ (d.versionText ++ d.onlyText).head?, Text.isBlank c = false := by
    intro c hc
    obtain rfl | rfl := d.mem_head?_versionText hc <;> decide
  have skipped : Text.skipBlanks d.options = d.versionText ++ d.onlyText :=
    Text.dropWhile_eq_self_of_head visible
  unfold version?
  rw [skipped]
  unfold versionText
  cases d.version with
  | none => rfl
  | some v =>
    have inner : ∀ c ∈ v.text, (c != '"') = true := by
      intro c hc
      rw [bne_iff_ne]
      rintro rfl
      exact v.plain '"' hc (by decide)
    have taken : (v.text ++ '"' :: d.onlyText).takeWhile (· != '"') = v.text :=
      Text.takeWhile_append_of_stop inner (by rintro c ⟨⟩; rfl)
    simp [taken]

theorem plain_of_mem_versionText {c : Char} (hc : c ∈ d.versionText) :
    c ∉ ['\x7b', '\x7d', '\n'] := by
  unfold versionText at hc
  split at hc
  · next v _ =>
    rw [List.mem_cons, List.mem_append, List.mem_singleton] at hc
    intro listed
    rcases hc with rfl | inner | rfl
    · exact absurd listed (by decide)
    · have special : ∀ b ∈ ['\x7b', '\x7d', '\n'], b ∈ ['"', '\\', '\x7b', '\x7d', ':', '\n'] :=
        List.all_iff_forall_prop.1 (by decide)
      exact v.plain c inner (special c listed)
    · exact absurd listed (by decide)
  · have fixed : ∀ b ∈ "in_umbrella: true".toList, b ∉ ['\x7b', '\x7d', '\n'] :=
      List.all_iff_forall_prop.1 (by decide)
    exact fixed c hc

theorem plain_of_mem_options {c : Char} (hc : c ∈ d.options) : c ∉ ['\x7b', '\x7d', '\n'] := by
  rw [options, List.mem_cons, List.mem_append] at hc
  rcases hc with rfl | version | only
  · decide
  · exact d.plain_of_mem_versionText version
  · exact fun listed => not_mem_delimiters (d.marked_of_mem_onlyText only)
      (List.mem_append_right ['"', '#'] listed)

/-- The options of a declaration end with it. -/
theorem tuple?_append (rest : List Char) :
    tuple? (':' :: (d.name.text ++ ',' :: (d.options ++ '\x7d' :: rest))) =
      some ((d.name.text, d.options), rest) := by
  have named : atom? (':' :: (d.name.text ++ ',' :: (d.options ++ '\x7d' :: rest))) =
      some (d.name.text, ',' :: (d.options ++ '\x7d' :: rest)) :=
    atom?_eq_some_iff.2 ⟨⟨[], by simp⟩, d.name, rfl, rfl, rfl⟩
  have skipped (ds : List Char) : Text.skipBlanks (',' :: ds) = ',' :: ds := rfl
  have plain : ∀ c ∈ d.options, c ∉ ['\x7b', '\x7d'] := fun c hc listed =>
    d.plain_of_mem_options hc (List.mem_append_left ['\n'] listed)
  rw [tuple?, named, Option.bind_eq_bind, Option.bind_some]
  simp only [skipped, options?_append plain, Option.map_some]

theorem one_line : '\n' ∉ d.text := by
  have name : '\n' ∉ d.name.text := d.name.not_mem (by decide)
  have options : '\n' ∉ d.options := fun hc => d.plain_of_mem_options hc (by decide)
  simp [text, name, options]

theorem kept_versionText : Kept d.versionText := by
  unfold versionText
  split
  · next v _ =>
    have inner : ∀ c ∈ v.text, c ∉ ['"', '\\'] := fun c hc listed =>
      v.plain c hc (List.mem_append_left ['\x7b', '\x7d', ':', '\n'] listed)
    exact (quoted_of_forall inner).kept
  · exact kept_of_forall (List.all_iff_forall_prop.1 (by decide))

theorem kept_text : Kept d.text := by
  have kept_of_marked {cs : List Char} (marked : ∀ c ∈ cs, Text.isWord c = true ∨ c ∈ marks) :
      Kept cs :=
    kept_of_forall fun c hc listed =>
      not_mem_delimiters (marked c hc) (List.mem_append_left ['\x7b', '\x7d', '\n'] listed)
  have opened : Kept ['\x7b', ':'] := kept_of_forall (List.all_iff_forall_prop.1 (by decide))
  have comma : Kept [',', ' '] := kept_of_forall (List.all_iff_forall_prop.1 (by decide))
  have closed : Kept ['\x7d'] := kept_of_forall (List.all_iff_forall_prop.1 (by decide))
  have name : Kept d.name.text := kept_of_marked fun c hc => .inl (d.name.word c hc)
  have only : Kept d.onlyText := kept_of_marked fun c => d.marked_of_mem_onlyText
  have whole : d.text = ['\x7b', ':'] ++ (d.name.text ++ ([',', ' '] ++ (d.versionText ++
      (d.onlyText ++ ['\x7d'])))) := by simp [text, options]
  rw [whole]
  exact opened.append (name.append (comma.append (d.kept_versionText.append (only.append closed))))

/-- The tuple that is read from a declaration. -/
def tuple : List Char × List Char := (d.name.text, d.options)

theorem tuples_append (rest : List Char) : tuples (d.text ++ rest) = d.tuple :: tuples rest := by
  have whole (ds : List Char) : ':' :: (d.name.text ++ ',' :: (d.options ++ '\x7d' :: ds)) =
      (':' :: (d.name.text ++ ',' :: (d.options ++ ['\x7d']))) ++ ds := by simp
  have read := d.tuple?_append rest
  rw [whole] at read
  exact tuples_of_some read

end Declaration

/-! ## Lines -/

namespace Line

variable (l : Line)

/-- What is left of a line without its comment. -/
def kept : List Char := l.lead.text ++ (l.declaredText ++ (l.trail.text ++ ['\n']))

theorem one_line : '\n' ∉ l.content := by
  have declared : '\n' ∉ l.declaredText := by
    unfold declaredText
    split
    · next d comma _ =>
      refine List.not_mem_append d.one_line ?_
      cases comma <;> decide
    · exact List.not_mem_nil
  have comment : '\n' ∉ l.commentText := by
    unfold commentText
    split
    · next c _ => exact List.not_mem_cons_of_ne_of_not_mem (by decide) c.one_line
    · exact List.not_mem_nil
  exact List.not_mem_append l.lead.one_line
    (List.not_mem_append declared (List.not_mem_append l.trail.one_line comment))

/-- A comment is dropped, and nothing else of its line. -/
theorem stripComments_append (rest : List Char) :
    stripComments (l.text ++ rest) = l.kept ++ stripComments rest := by
  have declared : Kept l.declaredText := by
    unfold declaredText
    split
    · next d comma _ =>
      refine d.kept_text.append (kept_of_forall ?_)
      cases comma <;> exact List.all_iff_forall_prop.1 (by decide)
    · exact kept_of_forall nofun
  have comment : stripComments (l.commentText ++ '\n' :: rest) = '\n' :: stripComments rest := by
    unfold commentText
    split
    · next c _ => exact stripComments_comment c.one_line rest
    · exact stripComments_cons (by decide)
  calc stripComments (l.text ++ rest)
      = stripComments (l.lead.text ++ (l.declaredText ++ (l.trail.text ++
          (l.commentText ++ '\n' :: rest)))) := by simp [text, content]
    _ = l.lead.text ++ (l.declaredText ++ (l.trail.text ++ '\n' :: stripComments rest)) := by
      rw [kept_of_blank l.lead.blank, declared, kept_of_blank l.trail.blank, comment]
    _ = l.kept ++ stripComments rest := by simp [kept]

/-- A line lists the tuple of its declaration. -/
theorem tuples_append (rest : List Char) :
    tuples (l.kept ++ rest) = (l.declared.map fun d => d.1.tuple).toList ++ tuples rest := by
  have opening (g : Text.Gap) : '\x7b' ∉ g.text := g.not_mem (by decide)
  have end_of_line : tuples (l.trail.text ++ '\n' :: rest) = tuples rest := by
    rw [tuples_append_of_not_mem (opening l.trail), tuples_cons (by decide)]
  have whole :
      l.kept ++ rest = l.lead.text ++ (l.declaredText ++ (l.trail.text ++ '\n' :: rest)) := by
    simp [kept]
  rw [whole, tuples_append_of_not_mem (opening l.lead)]
  unfold declaredText
  cases l.declared with
  | none => exact end_of_line
  | some d =>
    have comma : '\x7b' ∉ (if d.2 then [','] else []) := by cases d.2 <;> decide
    rw [List.append_assoc, d.1.tuples_append, tuples_append_of_not_mem comma, end_of_line]
    rfl

/-- A line does not end the body. -/
theorem not_startsEnd (goes_on : ¬ StartsEnd rest) : ¬ StartsEnd (l.text ++ rest) := by
  have whole : l.text ++ rest =
      l.lead.text ++ (l.declaredText ++ (l.trail.text ++ (l.commentText ++ '\n' :: rest))) := by
    simp [text, content]
  rw [whole, startsEnd_append_iff l.lead.blank]
  unfold declaredText
  cases l.declared with
  | some d => exact not_startsEnd_of_head (by rintro c ⟨⟩; decide)
  | none =>
    rw [List.nil_append, startsEnd_append_iff l.trail.blank]
    unfold commentText
    cases l.comment with
    | some c => exact not_startsEnd_of_head (by rintro c ⟨⟩; decide)
    | none =>
      have line_end : ∀ c ∈ ['\n'], Text.isBlank c = true := List.all_iff_forall_prop.1 (by decide)
      exact mt (startsEnd_append_iff line_end).1 goes_on

end Line

theorem not_startsEnd_linesText (ls : List Line) (goes_on : ¬ StartsEnd rest) :
    ¬ StartsEnd (linesText ls ++ rest) := by
  induction ls with
  | nil => exact goes_on
  | cons l ls ih =>
    rw [linesText, List.flatMap_cons, List.append_assoc]
    exact l.not_startsEnd ih

theorem bodyFrom?_linesText (ls : List Line) (goes_on : ¬ StartsEnd rest) :
    bodyFrom? true (linesText ls ++ rest) = (bodyFrom? true rest).map (linesText ls ++ ·) := by
  induction ls with
  | nil => simp [linesText]
  | cons l ls ih =>
    have here := l.not_startsEnd (not_startsEnd_linesText ls goes_on)
    have whole (ds : List Char) : linesText (l :: ls) ++ ds =
        l.content ++ '\n' :: (linesText ls ++ ds) := by simp [linesText, Line.text]
    have here' : ¬ StartsEnd (l.content ++ '\n' :: (linesText ls ++ rest)) := by
      simpa [Line.text] using here
    rw [whole, bodyFrom?_append l.one_line fun _ => here', ih, Option.map_map]
    simp only [whole]
    rfl

theorem stripComments_linesText (ls : List Line) (rest : List Char) :
    stripComments (linesText ls ++ rest) = ls.flatMap Line.kept ++ stripComments rest := by
  induction ls with
  | nil => rfl
  | cons l ls ih =>
    rw [linesText, List.flatMap_cons, List.append_assoc, l.stripComments_append, ← linesText, ih,
      List.flatMap_cons, List.append_assoc]

theorem tuples_kept (ls : List Line) (rest : List Char) :
    tuples (ls.flatMap Line.kept ++ rest) =
      (declarations ls).map Declaration.tuple ++ tuples rest := by
  induction ls with
  | nil => rfl
  | cons l ls ih =>
    rw [List.flatMap_cons, List.append_assoc, l.tuples_append, ih]
    unfold declarations
    rw [List.filterMap_cons]
    cases l.declared <;> rfl

/-! ## Files -/

/-- The third letter of a head comes only once, and its last letter is none of the first three. So
no head reaches into another one. -/
theorem head?_append_head {s : List Char} (full : s ≠ []) (absent : head? s = none) (h : Head) :
    head? (s ++ (h.text ++ rest)) = none := by
  rw [Option.eq_none_iff_forall_ne_some]
  intro rest' found
  obtain ⟨h', whole, stop⟩ := head?_eq_some_iff.1 found
  rcases List.append_eq_append_iff.1 whole with ⟨z, longer, same⟩ | ⟨z, inside, behind⟩
  · have ends := h'.getLast?_text
    rw [longer] at ends
    match z, same with
    | [], same =>
      rw [List.nil_append] at same
      rw [← same] at stop
      cases stop
    | [a], same =>
      obtain rfl : 'd' = a := (List.cons.inj same).1
      simp at ends
    | [a, b], same =>
      obtain rfl : 'e' = b := (List.cons.inj (List.cons.inj same).2).1
      simp at ends
    | a :: b :: c :: z, same =>
      obtain rfl : 'd' = a := (List.cons.inj same).1
      obtain rfl : 'f' = c := (List.cons.inj (List.cons.inj (List.cons.inj same).2).2).1
      match s, full, longer with
      | [x], _, longer => cases (List.cons.inj (List.cons.inj longer).2).1
      | [x, y], _, longer => cases (List.cons.inj (List.cons.inj (List.cons.inj longer).2).2).1
      | x :: y :: w :: s, _, longer =>
        have tail : h'.tail = s ++ 'd' :: b :: 'f' :: z :=
          (List.cons.inj (List.cons.inj (List.cons.inj longer).2).2).2
        have listed : 'f' ∈ h'.tail := by simp [tail]
        exact absurd (h'.mem_tail listed) (by decide)
  · have stop' : Text.startsWord z = false := by
      cases z with
      | nil =>
        rw [behind] at stop
        cases stop
      | cons c z =>
        rw [behind] at stop
        exact stop
    rw [inside, h'.head?_text_append stop'] at absent
    cases absent

namespace Project

variable (p : Project)

theorem appName?_text : appName? p.text = some (String.ofList p.entry.name.text) := by
  let behind := p.middle ++ (p.head.text ++ (p.body ++ p.ending))
  have whole : p.text = p.front ++ (p.entry.text ++ behind) := by simp [text, start, behind]
  have stop : Text.startsWord behind = false := by
    obtain ⟨c, first, other⟩ := p.name_ends
    obtain ⟨cs, middle⟩ := List.head?_eq_some_iff.1 first
    rw [show behind = c :: (cs ++ (p.head.text ++ (p.body ++ p.ending))) by simp [behind, middle]]
    exact other
  have here : entryName? (p.entry.text ++ behind) = some (String.ofList p.entry.name.text) :=
    entryName?_eq_some_iff.2 ⟨p.entry, behind, rfl, stop, rfl⟩
  have passed (s : List Char) (full : s ≠ []) (back : s <:+ p.front) :
      entryName? (s ++ (p.entry.text ++ behind)) = none := by
    apply entryName?_of_not_isPrefix
    cases s with
    | nil => exact absurd rfl full
    | cons c s =>
      have absent : ¬ "app:".toList <+: c :: s := fun front =>
        p.first_entry (front.isInfix.trans back.isInfix)
      exact Text.not_isPrefix_append absent (by rintro d ⟨⟩; decide)
  rw [appName?_eq, whole, Text.firstMatch_append_of_none passed, Text.firstMatch_of_some here]

/-- The body is the text between the head and the line with the word that ends it. -/
theorem bodyFrom?_body : bodyFrom? false (p.body ++ p.ending) = some p.body := by
  have whole : p.body ++ p.ending = '\n' :: ((p.listLead.text ++ ['[']) ++ '\n' ::
      (linesText p.lines ++ ((p.listEnd.text ++ [']']) ++ '\n' :: p.ending))) := by
    simp [body]
  have ended : bodyFrom? true p.ending = some [] := by
    apply bodyFrom?_of_startsEnd
    rw [ending, startsEnd_append_iff p.bodyEnd.blank]
    rfl
  have opening : ¬ StartsEnd ((p.listLead.text ++ ['[']) ++ '\n' ::
      (linesText p.lines ++ ((p.listEnd.text ++ [']']) ++ '\n' :: p.ending))) := by
    rw [List.append_assoc, startsEnd_append_iff p.listLead.blank]
    exact not_startsEnd_of_head (by rintro c ⟨⟩; decide)
  have closing : ¬ StartsEnd ((p.listEnd.text ++ [']']) ++ '\n' :: p.ending) := by
    rw [List.append_assoc, startsEnd_append_iff p.listEnd.blank]
    exact not_startsEnd_of_head (by rintro c ⟨⟩; decide)
  have opening_line : '\n' ∉ p.listLead.text ++ ['['] :=
    List.not_mem_append p.listLead.one_line (by decide)
  have closing_line : '\n' ∉ p.listEnd.text ++ [']'] :=
    List.not_mem_append p.listEnd.one_line (by decide)
  have first (cs : List Char) :
      bodyFrom? false ('\n' :: cs) = (bodyFrom? true cs).map ('\n' :: ·) := rfl
  rw [whole, first, bodyFrom?_append opening_line fun _ => opening,
    bodyFrom?_linesText p.lines closing, bodyFrom?_append closing_line fun _ => closing, ended]
  simp [body]

theorem block?_text : block? p.text = some p.body := by
  have here : (head? (p.head.text ++ (p.body ++ p.ending))).bind (bodyFrom? false) =
      some p.body := by
    rw [p.head.head?_text_append rfl]
    exact p.bodyFrom?_body
  have passed (s : List Char) (full : s ≠ []) (back : s <:+ p.start) :
      (head? (s ++ (p.head.text ++ (p.body ++ p.ending)))).bind (bodyFrom? false) = none := by
    have absent : head? s = none := by
      rw [← Option.not_isSome_iff_eq_none]
      intro found
      have earlier := Text.isSome_firstMatch_iff.2 ⟨s, back, found⟩
      rw [start, p.first_head] at earlier
      cases earlier
    rw [head?_append_head full absent p.head]
    rfl
  rw [block?, text, Text.firstMatch_append_of_none passed, Text.firstMatch_of_some here]

/-- Each declaration is listed once, in the order of the lines. -/
theorem tuples_body :
    tuples (stripComments p.body) = (declarations p.lines).map Declaration.tuple := by
  have opening : Kept ('\n' :: (p.listLead.text ++ ['[', '\n'])) := by
    have first : Kept ['\n'] := kept_of_forall (List.all_iff_forall_prop.1 (by decide))
    have last : Kept ['[', '\n'] := kept_of_forall (List.all_iff_forall_prop.1 (by decide))
    exact first.append ((kept_of_blank p.listLead.blank).append last)
  have closing : stripComments (p.listEnd.text ++ [']', '\n']) = p.listEnd.text ++ [']', '\n'] := by
    rw [kept_of_blank p.listEnd.blank]
    rfl
  have no_brace (g : Text.Gap) : '\x7b' ∉ g.text := g.not_mem (by decide)
  have before : '\x7b' ∉ '\n' :: (p.listLead.text ++ ['[', '\n']) := by simp [no_brace]
  have whole : p.body = ('\n' :: (p.listLead.text ++ ['[', '\n'])) ++
      (linesText p.lines ++ (p.listEnd.text ++ [']', '\n'])) := by simp [body]
  rw [whole, opening, stripComments_linesText, closing, tuples_append_of_not_mem before,
    tuples_kept, tuples_append_of_not_mem (no_brace p.listEnd)]
  exact List.append_nil _

end Project

/-- A project file is read back. -/
theorem read?_text (p : Project) (directory : String) :
    read? directory p.text = some {
      name := String.ofList p.entry.name.text
      dependencies := ((declarations p.lines).filter fun d => !d.isDev).map Declaration.dependency
      devDependencies :=
        ((declarations p.lines).filter Declaration.isDev).map Declaration.dependency
      language := .text Language.elixir.name } := by
  have isModule : Text.occursIn "defmodule".toList p.text = true := by
    have inside : p.front <:+: p.text := ⟨[], _, by simp [Project.text, Project.start]; rfl⟩
    exact Text.occursIn_iff.2 (p.isModule.trans inside)
  have isDev : (fun t : List Char × List Char => isDevOnly t.2) ∘ Declaration.tuple =
      Declaration.isDev := funext fun d => d.isDevOnly_options
  have declared : dependency ∘ Declaration.tuple = Declaration.dependency := by
    funext d
    rw [Function.comp_apply, dependency, Declaration.tuple, d.version?_options,
      Declaration.dependency]
  rw [read?, if_pos isModule, p.block?_text, p.appName?_text]
  simp only [Option.map_some, Option.getD_some, p.tuples_body, List.partition_eq_filter_filter,
    List.filter_map, List.map_map, Function.comp_assoc, isDev, declared]
  rfl

/-- A file with comments that imitate tuples and texts, and with a number sign in a version. -/
def shopFile : Project where
  front := "defmodule Shop.MixProject do\n  def project do\n    [".toList
  entry := {
    gap := (Text.Gap.spaces 1).toBlanks
    name := ⟨"shop".toList, by decide, List.all_iff_forall_prop.1 (by decide)⟩ }
  middle := ", deps: deps()]\n  end\n\n  ".toList
  head := {
    isPrivate := true
    gap := (Text.Gap.spaces 1).toBlanks
    apart := by decide
    afterName := (Text.Gap.spaces 1).toBlanks
    parentheses := none }
  listLead := .spaces 4
  lines := [
    { lead := .spaces 6
      declared := some (⟨⟨"tag".toList, by decide, List.all_iff_forall_prop.1 (by decide)⟩,
        some ⟨"~> 1.0 #1".toList, List.all_iff_forall_prop.1 (by decide)⟩, none⟩, true)
      trail := .spaces 1
      comment := some ⟨" 5\"".toList, by decide⟩ },
    { lead := .spaces 6
      declared := none
      trail := .spaces 0
      comment := some ⟨"\x7b:old, \"~> 0.3\"\x7d".toList, by decide⟩ },
    { lead := .spaces 6
      declared := some (⟨⟨"stub".toList, by decide, List.all_iff_forall_prop.1 (by decide)⟩, none,
        some (.listed [⟨"dev".toList, by decide, List.all_iff_forall_prop.1 (by decide)⟩])⟩, false)
      trail := .spaces 0
      comment := none }]
  listEnd := .spaces 4
  bodyEnd := .spaces 2
  back := "end\n".toList
  isModule := by decide
  first_entry := Text.occursIn_iff.not.1 (by decide)
  name_ends := ⟨',', rfl, by decide⟩
  first_head := by decide +kernel

/-- The file has the form of a project file, and its comments declare nothing. -/
theorem read?_text_shopFile :
    "defmodule".toList <:+: shopFile.front ∧ ¬ "app:".toList <:+: shopFile.front ∧
    (∃ c ∈ shopFile.middle.head?, Text.isWord c = false) ∧
    Text.firstMatch head? shopFile.start = none ∧
    read? "repo" shopFile.text = some {
      name := "shop"
      dependencies := [⟨"tag", some "~> 1.0 #1"⟩]
      devDependencies := [⟨"stub", none⟩]
      language := .text "elixir" } :=
  ⟨shopFile.isModule, shopFile.first_entry, shopFile.name_ends, shopFile.first_head,
    read?_text shopFile "repo"⟩

end CodeGraph.MixProject
