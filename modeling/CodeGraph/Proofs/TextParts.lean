import CodeGraph.Text.Blank
import CodeGraph.Text.Digit
import CodeGraph.Text.Split
import Mathlib.Data.Bool.AllAny
import Mathlib.Data.List.TakeWhile

/-!
# Texts made of parts

A reader takes a text apart that was put together from parts. It finds the parts again where no cut
falls inside a part or across the border of two parts.

Main definitions:

- `Blanks`, `Gap`: what stands between parts.

Main statements:

- `dropWhile_eq_self_of_head`, `takeWhile_append_of_stop`: a run of characters of one kind ends
  where a part of another kind starts;
- `trimWhile_append`, `dropWhile_trimEndWhile`: a part is left when all around it is trimmed;
- `before_append_of_not_mem`, `before_append_of_not_isInfix`, `fromFirst_cases`: a cut before a
  separator;
- `not_isInfix_append`: what occurs in no part does not occur across a border either;
- `firstMatch_append_of_none`, `firstMatch_append`: a search passes over a part in which nothing is
  found;
- `not_isBlank_of_isDigit`, `not_isBlank_of_isAlphanum`: blanks are neither digits nor letters.
-/
namespace CodeGraph.Text

variable {p : Char → Bool} {cs ds : List Char}

/-! ## Runs of characters -/

/-- A text starts as its beginning does. -/
theorem mem_head?_of_isPrefix (front : cs <+: ds) {c : Char} (hc : c ∈ cs.head?) :
    c ∈ ds.head? := by
  obtain ⟨rest, rfl⟩ := front
  cases cs with
  | nil => cases hc
  | cons d cs => exact hc

/-- What the first characters of two parts are, the first character of the whole is. -/
theorem forall_mem_head?_append {P : Char → Prop} (first : ∀ c ∈ cs.head?, P c)
    (second : ∀ c ∈ ds.head?, P c) : ∀ c ∈ (cs ++ ds).head?, P c := by
  cases cs with
  | nil => exact second
  | cons c cs => exact first

/-- What the last characters of two parts are, the last character of the whole is. -/
theorem forall_mem_getLast?_append {P : Char → Prop} (first : ∀ c ∈ cs.getLast?, P c)
    (second : ∀ c ∈ ds.getLast?, P c) : ∀ c ∈ (cs ++ ds).getLast?, P c := by
  rw [← List.head?_reverse, List.reverse_append]
  rw [← List.head?_reverse] at first second
  exact forall_mem_head?_append second first

/-- Characters of another kind do not stand in a run. -/
theorem forall_not_mem_of_run {marks : List Char} (run : ∀ c ∈ cs, p c = true)
    (other : ∀ c ∈ marks, p c = false) : ∀ c ∈ cs, c ∉ marks := by
  intro c hc listed
  have kind := run c hc
  rw [other c listed] at kind
  cases kind

/-- Nothing is dropped from a text that starts with a character of another kind. -/
theorem dropWhile_eq_self_of_head (stop : ∀ c ∈ cs.head?, p c = false) : cs.dropWhile p = cs := by
  cases cs with
  | nil => rfl
  | cons c cs => exact List.dropWhile_cons_of_neg (by simp [stop c rfl])

/-- A run ends where the text goes on with a character of another kind. -/
theorem takeWhile_append_of_stop (run : ∀ c ∈ cs, p c = true) (stop : ∀ c ∈ ds.head?, p c = false) :
    (cs ++ ds).takeWhile p = cs := by
  rw [List.takeWhile_append_of_pos run]
  cases ds with
  | nil => simp
  | cons d ds => rw [List.takeWhile_cons_of_neg (by simp [stop d rfl]), List.append_nil]

theorem dropWhile_append_of_stop (run : ∀ c ∈ cs, p c = true) (stop : ∀ c ∈ ds.head?, p c = false) :
    (cs ++ ds).dropWhile p = ds := by
  rw [List.dropWhile_append_of_pos run, dropWhile_eq_self_of_head stop]

/-- A run does not go on into a text that starts with a character of another kind. -/
theorem takeWhile_append_of_head (stop : ∀ c ∈ ds.head?, p c = false) :
    (cs ++ ds).takeWhile p = cs.takeWhile p := by
  induction cs with
  | nil => exact takeWhile_append_of_stop (by simp) stop
  | cons c cs ih => rw [List.cons_append, List.takeWhile_cons, List.takeWhile_cons, ih]

theorem dropWhile_append_of_head (stop : ∀ c ∈ ds.head?, p c = false) :
    (cs ++ ds).dropWhile p = cs.dropWhile p ++ ds := by
  induction cs with
  | nil => exact dropWhile_eq_self_of_head stop
  | cons c cs ih =>
    rw [List.cons_append, List.dropWhile_cons, List.dropWhile_cons, ih]
    split <;> rfl

theorem dropWhile_ne_nil (full : cs ≠ []) (stop : ∀ c ∈ cs.getLast?, p c = false) :
    cs.dropWhile p ≠ [] := by
  intro gone
  have last := List.getLast?_eq_some_getLast full
  have run := List.dropWhile_eq_nil_iff.1 gone _ (List.getLast_mem full)
  rw [stop _ last] at run
  cases run

/-- A run ends before the last character when that is of another kind. -/
theorem dropWhile_append_of_last (full : cs ≠ []) (stop : ∀ c ∈ cs.getLast?, p c = false) :
    (cs ++ ds).dropWhile p = cs.dropWhile p ++ ds := by
  have left : ¬ (cs.dropWhile p).isEmpty = true := by simpa using dropWhile_ne_nil full stop
  rw [List.dropWhile_append, if_neg left]

theorem takeWhile_append_of_last (full : cs ≠ []) (stop : ∀ c ∈ cs.getLast?, p c = false) :
    (cs ++ ds).takeWhile p = cs.takeWhile p := by
  have whole : (cs ++ ds).takeWhile p ++ (cs.dropWhile p ++ ds) =
      cs.takeWhile p ++ (cs.dropWhile p ++ ds) := by
    rw [← dropWhile_append_of_last full stop, List.takeWhile_append_dropWhile,
      dropWhile_append_of_last full stop, ← List.append_assoc, List.takeWhile_append_dropWhile]
  exact List.append_cancel_right whole

/-- A run ends at a character of another kind. -/
theorem takeWhile_append_of_mem {c : Char} (listed : c ∈ cs) (other : p c = false) :
    (cs ++ ds).takeWhile p = cs.takeWhile p := by
  induction cs with
  | nil => cases listed
  | cons d cs ih =>
    rw [List.cons_append, List.takeWhile_cons, List.takeWhile_cons]
    rcases List.mem_cons.1 listed with rfl | later
    · simp [other]
    · rw [ih later]

/-- What is left after a run starts with a character of another kind. -/
theorem eq_false_of_mem_head?_dropWhile {c : Char} (hc : c ∈ (cs.dropWhile p).head?) :
    p c = false := by
  have kept := List.head?_dropWhile_not p cs
  rw [Option.mem_def.1 hc] at kept
  simpa using kept

/-! ## Trimming -/

/-- Nothing is trimmed up to a character of another kind. -/
theorem trimEndWhile_append_of_stop (stop : ∀ c ∈ cs.getLast?, p c = false) :
    trimEndWhile p (cs ++ ds) = cs ++ trimEndWhile p ds := by
  have kept : cs.reverse.dropWhile p = cs.reverse := by
    apply dropWhile_eq_self_of_head
    rwa [List.head?_reverse]
  unfold trimEndWhile
  rw [List.reverse_append, List.dropWhile_append]
  split
  · next gone =>
    rw [List.isEmpty_iff.1 gone, kept, List.reverse_reverse]
    simp
  · rw [List.reverse_append, List.reverse_reverse]

theorem trimEndWhile_eq_self (stop : ∀ c ∈ cs.getLast?, p c = false) : trimEndWhile p cs = cs := by
  have whole : trimEndWhile p (cs ++ []) = cs ++ [] := trimEndWhile_append_of_stop stop
  rwa [List.append_nil] at whole

theorem trimEndWhile_isPrefix (p : Char → Bool) (cs : List Char) : trimEndWhile p cs <+: cs := by
  have back : cs.reverse.dropWhile p <:+ cs.reverse := List.dropWhile_suffix p
  exact List.reverse_suffix.1 (by simpa [trimEndWhile] using back)

section Around

variable {front back : List Char} (front_run : ∀ c ∈ front, p c = true)
  (back_run : ∀ c ∈ back, p c = true) (head_stop : ∀ c ∈ cs.head?, p c = false)
  (last_stop : ∀ c ∈ cs.getLast?, p c = false)
include front_run back_run head_stop last_stop

/-- A part is left when what is trimmed stands on both sides of it. -/
theorem trimWhile_append : trimWhile p (front ++ (cs ++ back)) = cs := by
  cases cs with
  | nil =>
    have all : ∀ c ∈ front ++ back, p c = true := fun c hc =>
      (List.mem_append.1 hc).elim (front_run c) (back_run c)
    rw [trimWhile, List.nil_append, List.dropWhile_eq_nil_iff.2 all]
    rfl
  | cons c cs =>
    have skipped : (front ++ ((c :: cs) ++ back)).dropWhile p = (c :: cs) ++ back :=
      dropWhile_append_of_stop front_run head_stop
    rw [trimWhile, skipped, trimEndWhile_append back_run, trimEndWhile_eq_self last_stop]

/-- Whichever end is trimmed first, the part is left. -/
theorem dropWhile_trimEndWhile : (trimEndWhile p (front ++ (cs ++ back))).dropWhile p = cs := by
  have front_left : (front ++ cs).dropWhile p = cs := dropWhile_append_of_stop front_run head_stop
  rw [← List.append_assoc, trimEndWhile_append back_run]
  cases cs with
  | nil =>
    have all : ∀ c ∈ trimEndWhile p (front ++ []), p c = true := by
      intro c hc
      rw [List.append_nil] at hc
      exact front_run c ((trimEndWhile_isPrefix p front).subset hc)
    exact List.dropWhile_eq_nil_iff.2 all
  | cons c cs =>
    rw [trimEndWhile_eq_self (by simpa using last_stop), front_left]

end Around

theorem trimWhile_append_run (run : ∀ c ∈ ds, p c = true) :
    trimWhile p (cs ++ ds) = trimWhile p cs := by
  unfold trimWhile
  rw [List.dropWhile_append]
  split
  · next gone => rw [List.dropWhile_eq_nil_iff.2 run, List.isEmpty_iff.1 gone]
  · exact trimEndWhile_append run

/-- What is trimmed off a text stands on both sides of what is left. -/
theorem exists_trimWhile (p : Char → Bool) (cs : List Char) :
    ∃ front back, cs = front ++ (trimWhile p cs ++ back) ∧ (∀ c ∈ front, p c = true) ∧
      ∀ c ∈ back, p c = true := by
  have rest :
      trimWhile p cs ++ ((cs.dropWhile p).reverse.takeWhile p).reverse = cs.dropWhile p := by
    rw [trimWhile, trimEndWhile, ← List.reverse_append, List.takeWhile_append_dropWhile,
      List.reverse_reverse]
  refine ⟨cs.takeWhile p, ((cs.dropWhile p).reverse.takeWhile p).reverse, ?_, ?_, ?_⟩
  · rw [rest, List.takeWhile_append_dropWhile]
  · exact fun c hc => List.mem_takeWhile_imp hc
  · exact fun c hc => List.mem_takeWhile_imp (List.mem_reverse.1 hc)

theorem trimWhile_isInfix (p : Char → Bool) (cs : List Char) : trimWhile p cs <:+: cs := by
  obtain ⟨front, back, whole, -, -⟩ := exists_trimWhile p cs
  exact ⟨front, back, by rw [List.append_assoc, ← whole]⟩

/-- A character of another kind is not trimmed off. -/
theorem mem_trimWhile {c : Char} (listed : c ∈ cs) (other : p c = false) : c ∈ trimWhile p cs := by
  obtain ⟨front, back, whole, front_run, back_run⟩ := exists_trimWhile p cs
  rw [whole, List.mem_append, List.mem_append] at listed
  rcases listed with listed | listed | listed
  · simp [front_run c listed] at other
  · exact listed
  · simp [back_run c listed] at other

theorem eq_false_of_mem_getLast?_trimWhile {c : Char} (hc : c ∈ (trimWhile p cs).getLast?) :
    p c = false := by
  rw [trimWhile, trimEndWhile, List.getLast?_reverse] at hc
  exact eq_false_of_mem_head?_dropWhile hc

theorem eq_false_of_mem_head?_trimWhile {c : Char} (hc : c ∈ (trimWhile p cs).head?) :
    p c = false :=
  eq_false_of_mem_head?_dropWhile (mem_head?_of_isPrefix (trimEndWhile_isPrefix p _) hc)

theorem trimWhile_eq_self (head_stop : ∀ c ∈ cs.head?, p c = false)
    (last_stop : ∀ c ∈ cs.getLast?, p c = false) : trimWhile p cs = cs := by
  rw [trimWhile, dropWhile_eq_self_of_head head_stop, trimEndWhile_eq_self last_stop]

/-! ## Cuts -/

/-- A cut before a separator leaves a beginning. -/
theorem isPrefix_before (sep cs : List Char) : before sep cs <+: cs :=
  ⟨fromFirst sep cs, before_append_rest sep cs⟩

/-- A part without the first character of a separator stays whole. -/
theorem before_append_of_not_mem {c : Char} {sep : List Char} (absent : c ∉ cs) :
    before (c :: sep) (cs ++ ds) = cs ++ before (c :: sep) ds := by
  induction cs with
  | nil => rfl
  | cons d cs ih =>
    obtain ⟨other, later⟩ := List.ne_and_not_mem_of_not_mem_cons absent
    rw [List.cons_append, before, startsWith, dropPrefix?, if_neg other, ih later]
    rfl

/-- What follows the first place of a separator does not change the cut. -/
theorem before_append_of_mem {c : Char} (listed : c ∈ cs) :
    before [c] (cs ++ ds) = before [c] cs := by
  induction cs with
  | nil => cases listed
  | cons d cs ih =>
    by_cases found : c = d
    · simp [before, startsWith, dropPrefix?, found]
    · have later : c ∈ cs := (List.mem_cons.1 listed).resolve_left found
      simp [before, startsWith, dropPrefix?, found, ih later]

/-- A text without the first character of a separator is not cut. -/
theorem before_eq_self {c : Char} {sep : List Char} (absent : c ∉ cs) :
    before (c :: sep) cs = cs := by
  have whole : before (c :: sep) (cs ++ []) = cs ++ [] := before_append_of_not_mem absent
  rwa [List.append_nil] at whole

/-- A separator does not stand across a border when what follows starts with none of its later
characters. -/
theorem not_isPrefix_append {c d : Char} {sep : List Char} (absent : ¬ (c :: sep) <+: (d :: cs))
    (border : ∀ e ∈ ds.head?, e ∉ sep) : ¬ (c :: sep) <+: (d :: cs) ++ ds := by
  intro across
  rcases List.prefix_or_prefix_of_prefix across (List.prefix_append _ ds) with inside | ⟨rest, same⟩
  · exact absent inside
  · rw [← same, List.prefix_append_right_inj] at across
    cases rest with
    | nil => exact absent ⟨[], by simpa using same.symm⟩
    | cons e rest =>
      have first : e ∈ ds.head? := mem_head?_of_isPrefix across rfl
      have later : cs ++ e :: rest = sep := (List.cons.inj same).2
      exact border e first (by simp [← later])

theorem not_isInfix_cons {c d : Char} {sep : List Char} (other : c ≠ d)
    (absent : ¬ (c :: sep) <:+: cs) : ¬ (c :: sep) <:+: d :: cs := by
  rw [List.infix_cons_iff, List.cons_prefix_cons]
  exact fun found => found.elim (fun first => other first.1) absent

/-- What occurs in neither of two parts does not occur across their border. -/
theorem not_isInfix_append {c : Char} {sep : List Char} (first : ¬ (c :: sep) <:+: cs)
    (second : ¬ (c :: sep) <:+: ds) (border : ∀ e ∈ ds.head?, e ∉ sep) :
    ¬ (c :: sep) <:+: cs ++ ds := by
  induction cs with
  | nil => exact second
  | cons d cs ih =>
    rw [List.infix_cons_iff, not_or] at first
    rw [List.cons_append, List.infix_cons_iff, not_or]
    exact ⟨not_isPrefix_append first.1 border, ih first.2⟩

theorem startsWith_iff {ps : List Char} : startsWith ps cs = true ↔ ps <+: cs := by
  rw [startsWith, Option.isSome_iff_exists]
  constructor
  · rintro ⟨rest, dropped⟩
    exact ⟨rest, (dropPrefix?_eq_some_iff.1 dropped).symm⟩
  · rintro ⟨rest, same⟩
    exact ⟨rest, dropPrefix?_eq_some_iff.2 same.symm⟩

/-- A beginning does not reach into a text that starts with none of its characters. -/
theorem dropPrefix?_append {ps : List Char} (stop : ∀ c ∈ ds.head?, c ∉ ps) :
    dropPrefix? ps (cs ++ ds) = (dropPrefix? ps cs).map (· ++ ds) := by
  induction ps generalizing cs with
  | nil => rfl
  | cons p ps ih =>
    cases cs with
    | nil =>
      cases ds with
      | nil => rfl
      | cons d ds =>
        have other : p ≠ d := fun same => stop d rfl (by simp [same])
        exact if_neg other
    | cons c cs =>
      rw [List.cons_append, dropPrefix?, dropPrefix?]
      split
      · exact ih fun c hc listed => stop c hc (List.mem_cons_of_mem p listed)
      · rfl

theorem occursIn_iff {sub : List Char} : occursIn sub cs = true ↔ sub <:+: cs := by
  induction cs with
  | nil => simp [occursIn]
  | cons c cs ih => rw [occursIn, Bool.or_eq_true, startsWith_iff, ih, List.infix_cons_iff]

/-- A part without a separator stays whole when what follows starts with none of the separator's
later characters. -/
theorem before_append_of_not_isInfix {c : Char} {sep : List Char} (absent : ¬ (c :: sep) <:+: cs)
    (border : ∀ e ∈ ds.head?, e ∉ sep) :
    before (c :: sep) (cs ++ ds) = cs ++ before (c :: sep) ds := by
  induction cs with
  | nil => rfl
  | cons d cs ih =>
    rw [List.infix_cons_iff, not_or] at absent
    have other : ¬ startsWith (c :: sep) (d :: (cs ++ ds)) = true :=
      mt startsWith_iff.1 (not_isPrefix_append absent.1 border)
    rw [List.cons_append, before, if_neg other, ih absent.2]
    rfl

/-- What a cut before a separator leaves out starts with the separator. -/
theorem fromFirst_cases (sep cs : List Char) :
    fromFirst sep cs = [] ∨ sep <+: fromFirst sep cs := by
  induction cs with
  | nil => exact .inl rfl
  | cons c cs ih =>
    unfold fromFirst
    split
    · next found =>
      obtain ⟨rest, dropped⟩ := Option.isSome_iff_exists.1 found
      exact .inr ⟨rest, (dropPrefix?_eq_some_iff.1 dropped).symm⟩
    · exact ih

/-! ## Searches -/

section Search

variable {α : Type} {test : List Char → Option α}

theorem firstMatch_of_some {a : α} (found : test cs = some a) : firstMatch test cs = some a := by
  cases cs <;> simp only [firstMatch, found]

/-- A search passes over a part in which nothing is found. -/
theorem firstMatch_append_of_none
    (nothing : ∀ s, s ≠ [] → s <:+ cs → test (s ++ ds) = none) :
    firstMatch test (cs ++ ds) = firstMatch test ds := by
  induction cs with
  | nil => rfl
  | cons c cs ih =>
    have here : test (c :: (cs ++ ds)) = none := nothing (c :: cs) (by simp) List.suffix_rfl
    have later := ih fun s full back => nothing s full (back.trans (List.suffix_cons c cs))
    rw [List.cons_append, firstMatch, here, later]

/-- A search ends alike in two texts that go on differently when all that starts in their common
part is judged alike. -/
theorem firstMatch_append_congr {es : List Char}
    (front : ∀ s, s ≠ [] → s <:+ cs → test (s ++ ds) = test (s ++ es))
    (back : firstMatch test ds = firstMatch test es) :
    firstMatch test (cs ++ ds) = firstMatch test (cs ++ es) := by
  induction cs with
  | nil => exact back
  | cons c cs ih =>
    have here : test (c :: (cs ++ ds)) = test (c :: (cs ++ es)) :=
      front (c :: cs) (by simp) List.suffix_rfl
    have later := ih fun s full inner => front s full (inner.trans (List.suffix_cons c cs))
    rw [List.cons_append, List.cons_append, firstMatch, firstMatch, here, later]

/-- What follows a part is searched when nothing is found in it. -/
theorem firstMatch_append (empty : test [] = none)
    (same : ∀ s, s ≠ [] → s <:+ cs → test (s ++ ds) = test s) :
    firstMatch test (cs ++ ds) = (firstMatch test cs).orElse fun _ => firstMatch test ds := by
  induction cs with
  | nil => rw [firstMatch, empty, List.nil_append, Option.orElse_none]
  | cons c cs ih =>
    have here : test (c :: (cs ++ ds)) = test (c :: cs) := same (c :: cs) (by simp) List.suffix_rfl
    have later := ih fun s full back => same s full (back.trans (List.suffix_cons c cs))
    rw [List.cons_append, firstMatch, firstMatch, here, later]
    cases test (c :: cs) <;> rfl

/-- A search finds something when there is something to find. -/
theorem isSome_firstMatch_iff :
    (firstMatch test cs).isSome = true ↔ ∃ s, s <:+ cs ∧ (test s).isSome = true := by
  induction cs with
  | nil => simp [firstMatch]
  | cons c cs ih =>
    have split : (∃ s, s <:+ c :: cs ∧ (test s).isSome = true) ↔
        (test (c :: cs)).isSome = true ∨ ∃ s, s <:+ cs ∧ (test s).isSome = true := by
      simp only [List.suffix_cons_iff, or_and_right, exists_or, exists_eq_left]
    rw [split, ← ih, firstMatch]
    cases test (c :: cs) <;> simp

end Search

/-! ## Blanks -/

/-- Blanks, line ends among them, or none. -/
structure Blanks where
  text : List Char
  blank : ∀ c ∈ text, isBlank c = true

/-- Blanks in a line, or none. -/
structure Gap extends Blanks where
  one_line : '\n' ∉ text

theorem isBlank_of_mem_spaces (n : Nat) : ∀ c ∈ List.replicate n ' ', isBlank c = true := by
  intro c hc
  rw [List.eq_of_mem_replicate hc]
  decide

theorem line_end_not_mem_spaces (n : Nat) : '\n' ∉ List.replicate n ' ' := by
  intro hc
  exact absurd (List.eq_of_mem_replicate hc) (by decide)

/-- A run of spaces. -/
def Gap.spaces (n : Nat) : Gap where
  text := List.replicate n ' '
  blank := isBlank_of_mem_spaces n
  one_line := line_end_not_mem_spaces n

theorem not_mem_of_blank (blank : ∀ c ∈ cs, isBlank c = true) {c : Char}
    (visible : isBlank c = false) : c ∉ cs := by
  intro hc
  rw [blank c hc] at visible
  cases visible

theorem skipBlanks_append_of_blank (blank : ∀ c ∈ cs, isBlank c = true) (ds : List Char) :
    skipBlanks (cs ++ ds) = skipBlanks ds :=
  List.dropWhile_append_of_pos blank

theorem exists_blanks (cs : List Char) : ∃ g : Blanks, cs = g.text ++ skipBlanks cs :=
  ⟨⟨cs.takeWhile isBlank, fun _ => List.mem_takeWhile_imp⟩,
    List.takeWhile_append_dropWhile.symm⟩

theorem Blanks.skipBlanks_append (g : Blanks) (stop : ∀ c ∈ cs.head?, isBlank c = false) :
    skipBlanks (g.text ++ cs) = cs :=
  dropWhile_append_of_stop g.blank stop

theorem Blanks.not_mem (g : Blanks) {c : Char} (visible : isBlank c = false) : c ∉ g.text :=
  not_mem_of_blank g.blank visible

/-! ## Kinds of characters -/

/-- The code points of blanks. -/
def blankCodes : List Nat :=
  List.range' 9 5 ++ List.range' 0x1c 5 ++ [0x85, 0xa0, 0x1680] ++ List.range' 0x2000 11 ++
    [0x2028, 0x2029, 0x202f, 0x205f, 0x3000]

theorem toNat_mem_blankCodes {c : Char} (blank : isBlank c = true) : c.toNat ∈ blankCodes := by
  unfold isBlank at blank
  unfold blankCodes
  simp only [Bool.or_eq_true, Bool.and_eq_true, decide_eq_true_eq, beq_iff_eq] at blank
  simp only [List.mem_append, List.mem_range'_1, List.mem_cons, List.not_mem_nil, or_false]
  omega

/-- A character of a kind that no blank belongs to is not blank. -/
theorem not_isBlank_of_forall_blankCodes (p : Char → Bool)
    (none_blank : ∀ n ∈ blankCodes, p (Char.ofNat n) = false) {c : Char} (hc : p c = true) :
    isBlank c = false := by
  by_contra blank
  have code := none_blank c.toNat (toNat_mem_blankCodes (by simpa using blank))
  rw [Char.ofNat_toNat, hc] at code
  cases code

/-- No letter of ASCII is blank. -/
theorem not_isBlank_of_isAlphanum {c : Char} (h : c.isAlphanum = true) : isBlank c = false :=
  not_isBlank_of_forall_blankCodes Char.isAlphanum (by decide) h

/-- No digit is blank. -/
theorem not_isBlank_of_isDigit {c : Char} (digit : isDigit c = true) : isBlank c = false :=
  not_isBlank_of_forall_blankCodes isDigit (by decide) digit

end CodeGraph.Text
