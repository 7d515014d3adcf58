import CodeGraph.Proofs.ProjectParts
import Mathlib.Data.List.Forall2

/-!
# Line ends in project files

The readers of a project file look at one line after the other. What they find in a text that ends a
line does not depend on what comes behind that text, up to what is still open there: the body of a
function, the options of a tuple, or blanks that they skip. So blanks that are added behind a line
change nothing, unless they stand in a version.

Main definitions:

- `EndsLine`: a text that ends a line;
- `opensVersion`: a tuple that ends in its version;
- `Alike`: tuples that declare the same.

Main statements:

- `EndsLine.entryName?_append`, `EndsLine.head?_append`: entries and heads before a line end;
- `EndsLine.bodyFrom?_append_of_none`, `EndsLine.bodyFrom?_append_of_startsEnd`: bodies that are
  open at a line end;
- `EndsLine.opening?_append`, `options?_append_cases`: tuples that are open there;
- `forall₂_tuples`: the tuples of texts that differ behind a line;
- `forall₂_alike`: what blanks behind a line change.
-/
namespace CodeGraph.MixProject

variable {cs ds rest : List Char}

/-- A text ends a line. -/
def EndsLine (cs : List Char) : Prop := cs.getLast? = some '\n'

/-! ## What ends before a line does -/

theorem EndsLine.ne_nil (ends : EndsLine cs) : cs ≠ [] := by
  rintro rfl
  cases ends

/-- What is left of a line after some of its characters ends it. -/
theorem EndsLine.of_append (ends : EndsLine (cs ++ ds)) (last : ∀ c ∈ cs.getLast?, c ≠ '\n') :
    EndsLine ds := by
  cases ds with
  | nil =>
    rw [List.append_nil] at ends
    exact absurd rfl (last _ ends)
  | cons d ds =>
    rw [EndsLine, List.getLast?_append_of_ne_nil _ (List.cons_ne_nil d ds)] at ends
    exact ends

theorem EndsLine.of_suffix (ends : EndsLine cs) (full : ds ≠ []) (back : ds <:+ cs) :
    EndsLine ds := by
  obtain ⟨front, rfl⟩ := back
  rwa [EndsLine, List.getLast?_append_of_ne_nil _ full] at ends

/-- What is left behind some lines is empty or ends a line too. -/
theorem eq_nil_or_endsLine_of_suffix (ends : cs = [] ∨ EndsLine cs) (back : ds <:+ cs) :
    ds = [] ∨ EndsLine ds := by
  rcases ends with rfl | ends
  · exact .inl (List.suffix_nil.1 back)
  · by_cases full : ds = []
    · exact .inl full
    · exact .inr (ends.of_suffix full back)

theorem EndsLine.cons (ends : EndsLine cs) (c : Char) : EndsLine (c :: cs) := by
  rwa [EndsLine, List.getLast?_cons_of_ne_nil ends.ne_nil]

theorem EndsLine.tail {c : Char} (ends : EndsLine (c :: cs)) (other : c ≠ '\n') : EndsLine cs :=
  EndsLine.of_suffix ends (by
    rintro rfl
    exact other (Option.some.inj ends)) (List.suffix_cons c cs)

theorem startsWord_append (full : cs ≠ []) (ds : List Char) :
    Text.startsWord (cs ++ ds) = Text.startsWord cs := by
  cases cs with
  | nil => exact absurd rfl full
  | cons c cs => rfl

/-- A part without line ends that starts in a text that ends a line is there as a whole. -/
theorem EndsLine.dropPrefix?_append (ends : EndsLine cs) {ps : List Char} (one_line : '\n' ∉ ps)
    (ds : List Char) : Text.dropPrefix? ps (cs ++ ds) = (Text.dropPrefix? ps cs).map (· ++ ds) := by
  induction ps generalizing cs with
  | nil => rfl
  | cons p ps ih =>
    cases cs with
    | nil => exact absurd rfl ends.ne_nil
    | cons c cs =>
      obtain ⟨other, later⟩ := List.ne_and_not_mem_of_not_mem_cons one_line
      rw [List.cons_append, Text.dropPrefix?, Text.dropPrefix?]
      split
      · next same => exact ih (ends.tail (same ▸ other.symm)) later
      · rfl

theorem EndsLine.wholeWord?_append (ends : EndsLine cs) {word : String}
    (one_line : '\n' ∉ word.toList) (ds : List Char) :
    wholeWord? word (cs ++ ds) = (wholeWord? word cs).map (· ++ ds) := by
  unfold wholeWord?
  rw [ends.dropPrefix?_append one_line]
  cases dropped : Text.dropPrefix? word.toList cs with
  | none => rfl
  | some rest =>
    rw [Text.dropPrefix?_eq_some_iff.1 dropped] at ends
    have left := (ends.of_append fun c hc same => one_line (same ▸ List.mem_of_getLast? hc)).ne_nil
    simp only [Option.map_some, Option.filter_some, startsWord_append left]
    split <;> rfl

/-! ## Entries and heads before a place -/

/-- A part that does not end a line is complete before a place between two lines or goes on
there. -/
theorem EndsLine.cases_of_append (ends : EndsLine cs) {part : List Char}
    (last : ∀ c ∈ part.getLast?, c ≠ '\n') (whole : cs ++ ds = part ++ rest) :
    (∃ left, EndsLine left ∧ cs = part ++ left ∧ rest = left ++ ds) ∨
      ∃ more, more ≠ [] ∧ part = cs ++ more ∧ ds = more ++ rest := by
  rcases List.append_eq_append_iff.1 whole with ⟨more, longer, behind⟩ | ⟨left, inside, behind⟩
  · by_cases none_left : more = []
    · rw [none_left, List.append_nil] at longer
      rw [longer] at last
      exact absurd rfl (last _ ends)
    · exact .inr ⟨more, none_left, longer, behind⟩
  · rw [inside] at ends
    exact .inl ⟨left, ends.of_append last, inside, behind⟩

theorem Entry.not_isBlank_last (e : Entry) : ∀ c ∈ e.text.getLast?, Text.isBlank c = false := by
  have whole : e.text = ("app:".toList ++ (e.gap.text ++ [':'])) ++ e.name.text := by
    simp [Entry.text]
  intro c hc
  rw [whole, List.getLast?_append_of_ne_nil _ e.name.full] at hc
  exact not_isBlank_of_isWord (e.name.word c (List.mem_of_getLast? hc))

theorem Entry.sign_not_mem (e : Entry) : '#' ∉ e.text := by
  have gap : '#' ∉ e.gap.text := e.gap.not_mem (by decide)
  have name : '#' ∉ e.name.text := e.name.not_mem (by decide)
  simp [Entry.text, gap, name]

theorem Head.not_isBlank_last (h : Head) : ∀ c ∈ h.text.getLast?, Text.isBlank c = false := by
  intro c hc
  obtain rfl : 'o' = c := Option.some.inj (h.getLast?_text.symm.trans hc)
  decide

theorem Head.sign_not_mem (h : Head) : '#' ∉ h.text := by
  have tail : '#' ∉ h.tail := fun listed => absurd (h.mem_tail listed) (by decide)
  simp [Head.text, tail]

/-- Only white space is skipped at the end of a line. -/
theorem ne_of_not_isBlank {c : Char} (visible : Text.isBlank c = false) : c ≠ '\n' := by
  rintro rfl
  cases visible

theorem not_startsEnd_of_blank (blank : ∀ c ∈ cs, Text.isBlank c = true) : ¬ StartsEnd cs := by
  have skipped : Text.skipBlanks cs = [] := List.dropWhile_eq_nil_iff.2 blank
  rw [StartsEnd, skipped]
  exact Bool.false_ne_true

theorem bodyFrom?_of_blank (blank : ∀ c ∈ cs, Text.isBlank c = true) (atLineStart : Bool) :
    bodyFrom? atLineStart cs = none := by
  induction cs generalizing atLineStart with
  | nil =>
    cases atLineStart <;> rfl
  | cons c cs ih =>
    rw [bodyFrom?_cons fun _ => not_startsEnd_of_blank blank,
      ih fun d hd => blank d (List.mem_cons_of_mem c hd), Option.map_none]

namespace EndsLine

variable {s : List Char} (ends : EndsLine s)
include ends

theorem entryName?_append_of_some {name : String} (found : entryName? s = some name)
    (ds : List Char) : entryName? (s ++ ds) = some name := by
  obtain ⟨e, left, rfl, stop, same⟩ := entryName?_eq_some_iff.1 found
  have left_ends := ends.of_append fun c hc => ne_of_not_isBlank (e.not_isBlank_last c hc)
  refine entryName?_eq_some_iff.2 ⟨e, left ++ ds, List.append_assoc _ _ _, ?_, same⟩
  rw [startsWord_append left_ends.ne_nil, stop]

theorem head?_append_of_some {b : List Char} (found : head? s = some b) (ds : List Char) :
    EndsLine b ∧ head? (s ++ ds) = some (b ++ ds) := by
  obtain ⟨h, rfl, stop⟩ := head?_eq_some_iff.1 found
  have left_ends := ends.of_append fun c hc => ne_of_not_isBlank (h.not_isBlank_last c hc)
  refine ⟨left_ends, head?_eq_some_iff.2 ⟨h, List.append_assoc _ _ _, ?_⟩⟩
  rw [startsWord_append left_ends.ne_nil, stop]

theorem entryName?_append (ds : List Char)
    (apart : (entryName? (s ++ ds)).isSome = true → (entryName? s).isSome = true) :
    entryName? (s ++ ds) = entryName? s := by
  cases found : entryName? s with
  | some name => exact ends.entryName?_append_of_some found ds
  | none =>
    rw [found] at apart
    exact Option.not_isSome_iff_eq_none.1 fun later => by cases apart later

theorem head?_append (ds : List Char)
    (apart : (head? (s ++ ds)).isSome = true → (head? s).isSome = true) :
    head? (s ++ ds) = (head? s).map (· ++ ds) := by
  cases found : head? s with
  | some b => exact (ends.head?_append_of_some found ds).2
  | none =>
    rw [found] at apart
    exact Option.not_isSome_iff_eq_none.1 fun later => by cases apart later

/-! ## Bodies before a place -/

theorem skipBlanks_append : (∀ c ∈ s, Text.isBlank c = true) ∨
    EndsLine (Text.skipBlanks s) ∧ ∀ ds, Text.skipBlanks (s ++ ds) = Text.skipBlanks s ++ ds := by
  by_cases gone : Text.skipBlanks s = []
  · exact .inl (List.dropWhile_eq_nil_iff.1 gone)
  · refine .inr ⟨ends.of_suffix gone (List.dropWhile_suffix _), fun ds => ?_⟩
    have left : ¬ (s.dropWhile Text.isBlank).isEmpty = true := fun empty =>
      gone (List.isEmpty_iff.1 empty)
    rw [Text.skipBlanks, List.dropWhile_append, if_neg left]
    rfl

theorem startsEnd_append_iff (ds : List Char) :
    StartsEnd (s ++ ds) ↔ StartsEnd s ∨ (∀ c ∈ s, Text.isBlank c = true) ∧ StartsEnd ds := by
  rcases ends.skipBlanks_append with blank | ⟨left, skipped⟩
  · have no_end : ¬ StartsEnd s := not_startsEnd_of_blank blank
    rw [MixProject.startsEnd_append_iff blank]
    exact ⟨fun later => .inr ⟨blank, later⟩, fun found => found.elim (absurd · no_end) And.right⟩
  · have visible : ¬ ∀ c ∈ s, Text.isBlank c = true := fun blank =>
      left.ne_nil (List.dropWhile_eq_nil_iff.2 blank)
    rw [StartsEnd, StartsEnd, skipped, left.wholeWord?_append (by decide), Option.isSome_map]
    simp [visible]

theorem bodyFrom?_append_of_some {atLineStart : Bool} {body : List Char}
    (found : bodyFrom? atLineStart s = some body) (ds : List Char) :
    bodyFrom? atLineStart (s ++ ds) = some body := by
  induction s generalizing atLineStart body with
  | nil => exact absurd rfl ends.ne_nil
  | cons c cs ih =>
    by_cases ended : atLineStart = true ∧ StartsEnd (c :: cs)
    · obtain ⟨rfl, here⟩ := ended
      rw [bodyFrom?_of_startsEnd here] at found
      rw [bodyFrom?_of_startsEnd ((ends.startsEnd_append_iff ds).2 (.inl here)), found]
    · have goes_on (start : atLineStart = true) : ¬ StartsEnd (c :: cs) := fun here =>
        ended ⟨start, here⟩
      rw [bodyFrom?_cons goes_on] at found
      obtain ⟨body, later, rfl⟩ := Option.map_eq_some_iff.1 found
      have visible : ¬ ∀ d ∈ cs, Text.isBlank d = true := by
        intro blank
        rw [bodyFrom?_of_blank blank] at later
        cases later
      have full : cs ≠ [] := by
        rintro rfl
        exact visible nofun
      have goes_on' (start : atLineStart = true) : ¬ StartsEnd (c :: cs ++ ds) := by
        rw [ends.startsEnd_append_iff ds]
        rintro (here | ⟨blank, -⟩)
        · exact goes_on start here
        · exact visible fun d hd => blank d (List.mem_cons_of_mem c hd)
      rw [List.cons_append] at goes_on' ⊢
      rw [bodyFrom?_cons goes_on', ih (ends.of_suffix full (List.suffix_cons c cs)) later,
        Option.map_some]

omit ends in
/-- No body that goes on ends on the line that starts it. -/
theorem not_startsEnd_of_open {atLineStart : Bool} (open_end : bodyFrom? atLineStart s = none) :
    atLineStart = true → ¬ StartsEnd s := by
  rintro rfl here
  rw [bodyFrom?_of_startsEnd here] at open_end
  cases open_end

/-- A body that is open at the end of a line goes on there. -/
theorem bodyFrom?_append_of_none {atLineStart : Bool} (open_end : bodyFrom? atLineStart s = none)
    (goes_on : ¬ StartsEnd ds) :
    bodyFrom? atLineStart (s ++ ds) = (bodyFrom? true ds).map (s ++ ·) := by
  induction s generalizing atLineStart with
  | nil => exact absurd rfl ends.ne_nil
  | cons c cs ih =>
    have here := not_startsEnd_of_open open_end
    have here' (start : atLineStart = true) : ¬ StartsEnd (c :: cs ++ ds) := by
      rw [ends.startsEnd_append_iff ds]
      exact fun found => found.elim (here start) fun behind => goes_on behind.2
    rw [bodyFrom?_cons here, Option.map_eq_none_iff] at open_end
    rw [List.cons_append] at here' ⊢
    rw [bodyFrom?_cons here']
    by_cases last : cs = []
    · subst last
      obtain rfl : c = '\n' := Option.some.inj ends
      rfl
    · rw [ih (ends.of_suffix last (List.suffix_cons c cs)) open_end, Option.map_map]
      rfl

/-- A body ends before the blank lines in front of its end. -/
theorem bodyFrom?_append_of_startsEnd {atLineStart : Bool}
    (open_end : bodyFrom? atLineStart s = none) (ended : StartsEnd ds) :
    ∃ body gap : List Char, (body = [] ∧ atLineStart = true ∨ EndsLine body) ∧ s = body ++ gap ∧
      (∀ c ∈ gap, Text.isBlank c = true) ∧ bodyFrom? atLineStart (s ++ ds) = some body := by
  induction s generalizing atLineStart with
  | nil => exact absurd rfl ends.ne_nil
  | cons c cs ih =>
    have here := not_startsEnd_of_open open_end
    rw [bodyFrom?_cons here, Option.map_eq_none_iff] at open_end
    by_cases blank : atLineStart = true ∧ ∀ d ∈ c :: cs, Text.isBlank d = true
    · obtain ⟨rfl, blank⟩ := blank
      have found := (ends.startsEnd_append_iff ds).2 (.inr ⟨blank, ended⟩)
      exact ⟨[], c :: cs, .inl ⟨rfl, rfl⟩, rfl, blank, bodyFrom?_of_startsEnd found⟩
    · have here' (start : atLineStart = true) : ¬ StartsEnd (c :: cs ++ ds) := by
        rw [ends.startsEnd_append_iff ds]
        exact fun found => found.elim (here start) fun behind => blank ⟨start, behind.1⟩
      rw [List.cons_append] at here' ⊢
      rw [bodyFrom?_cons here']
      by_cases last : cs = []
      · subst last
        obtain rfl : c = '\n' := Option.some.inj ends
        have found : bodyFrom? true ds = some [] := bodyFrom?_of_startsEnd ended
        exact ⟨['\n'], [], .inr rfl, rfl, nofun, congrArg (Option.map ('\n' :: ·)) found⟩
      · obtain ⟨body, gap, body_ends, rfl, gap_blank, found⟩ :=
          ih (ends.of_suffix last (List.suffix_cons c cs)) open_end
        refine ⟨c :: body, gap, .inr ?_, rfl, gap_blank, by rw [found, Option.map_some]⟩
        rcases body_ends with ⟨rfl, line_end⟩ | body_ends
        · rw [beq_iff_eq.1 line_end]
          rfl
        · exact body_ends.cons c

end EndsLine

/-! ## Tuples before a place -/

/-- The name of a tuple behind its opening brace, and what follows its first comma. -/
def opening? (cs : List Char) : Option (List Char × List Char) := do
  let (name, rest) ← atom? cs
  let options ← Text.dropPrefix? [','] (Text.skipBlanks rest)
  return (name, options)

/-- Whether options start with a version that has no closing quote. -/
def leavesVersionOpen (options : List Char) : Bool :=
  match Text.skipBlanks options with
  | '"' :: cs => !cs.contains '"'
  | _ => false

/-- Whether a text starts with a tuple that ends in its version. -/
def opensVersion : List Char → Bool
  | '\x7b' :: cs => (opening? cs).any fun d => leavesVersionOpen d.2
  | _ => false

namespace EndsLine

variable {s : List Char} (ends : EndsLine s)
include ends

theorem word?_append (ds : List Char) :
    word? (s ++ ds) = (word? s).map fun r => (r.1, r.2 ++ ds) := by
  have stop : ∀ c ∈ s.getLast?, Text.isWord c = false := by
    intro c hc
    obtain rfl : '\n' = c := Option.some.inj (ends.symm.trans hc)
    decide
  unfold word?
  rw [Text.takeWhile_append_of_last ends.ne_nil stop,
    Text.dropWhile_append_of_last ends.ne_nil stop]
  split <;> rfl

/-- An atom is complete at the end of a line, unless only blanks come before that. -/
theorem atom?_append (visible : ¬ ∀ c ∈ s, Text.isBlank c = true) (ds : List Char) :
    atom? (s ++ ds) = (atom? s).map fun r => (r.1, r.2 ++ ds) := by
  obtain ⟨left_ends, skipped⟩ := ends.skipBlanks_append.resolve_left visible
  unfold atom?
  rw [skipped]
  cases left : Text.skipBlanks s with
  | nil => exact absurd left left_ends.ne_nil
  | cons c cs =>
    rw [left] at left_ends
    by_cases colon : c = ':'
    · subst colon
      exact (left_ends.tail (by decide)).word?_append ds
    · rw [List.cons_append]
      simp [colon]

theorem of_atom? {name : List Char} (read : atom? s = some (name, rest)) : EndsLine rest := by
  obtain ⟨g, a, rfl, rfl, -⟩ := atom?_eq_some_iff.1 read
  have whole : g.text ++ ':' :: (a.text ++ rest) = (g.text ++ ':' :: a.text) ++ rest := by simp
  rw [whole] at ends
  refine ends.of_append fun c hc => ?_
  rw [List.getLast?_append_of_ne_nil _ (List.cons_ne_nil ':' a.text),
    List.getLast?_cons_of_ne_nil a.full] at hc
  exact ne_of_not_isBlank (not_isBlank_of_isWord (a.word c (List.mem_of_getLast? hc)))

end EndsLine

theorem opening?_skipBlanks (cs : List Char) : opening? (Text.skipBlanks cs) = opening? cs := by
  have once : Text.skipBlanks (Text.skipBlanks cs) = Text.skipBlanks cs :=
    Text.dropWhile_eq_self_of_head fun c => Text.eq_false_of_mem_head?_dropWhile
  have atoms : atom? (Text.skipBlanks cs) = atom? cs := by rw [atom?, atom?, once]
  rw [opening?, opening?, atoms]

/-- What opens a tuple is complete at the end of a line, or blanks there do not count. -/
theorem EndsLine.opening?_append {s : List Char} (ends : EndsLine s) :
    (∃ name options, EndsLine options ∧ ∀ ds, opening? (s ++ ds) = some (name, options ++ ds)) ∨
      ∃ found : List Char → Option (List Char × List Char),
        ∀ ds, opening? (s ++ ds) = found (Text.skipBlanks ds) := by
  by_cases blank : ∀ c ∈ s, Text.isBlank c = true
  · refine .inr ⟨opening?, fun ds => ?_⟩
    rw [← opening?_skipBlanks, Text.skipBlanks_append_of_blank blank]
  · cases read : atom? s with
    | none =>
      refine .inr ⟨fun _ => none, fun ds => ?_⟩
      rw [opening?, ends.atom?_append blank, read]
      rfl
    | some r =>
      obtain ⟨name, rest⟩ := r
      have rest_ends := ends.of_atom? read
      have opened (ds : List Char) : opening? (s ++ ds) =
          (Text.dropPrefix? [','] (Text.skipBlanks (rest ++ ds))).map fun options =>
            (name, options) := by
        rw [opening?, ends.atom?_append blank, read]
        exact (Option.map_eq_bind ..).symm
      rcases rest_ends.skipBlanks_append with rest_blank | ⟨left_ends, skipped⟩
      · refine .inr ⟨fun ds => (Text.dropPrefix? [','] ds).map fun options => (name, options),
          fun ds => ?_⟩
        rw [opened, Text.skipBlanks_append_of_blank rest_blank]
      · cases dropped : Text.dropPrefix? [','] (Text.skipBlanks rest) with
        | none =>
          refine .inr ⟨fun _ => none, fun ds => ?_⟩
          rw [opened, skipped, left_ends.dropPrefix?_append (by decide), dropped]
          rfl
        | some options =>
          refine .inl ⟨name, options, ?_, fun ds => ?_⟩
          · rw [Text.dropPrefix?_eq_some_iff.1 dropped] at left_ends
            exact left_ends.tail (by decide)
          · rw [opened, skipped, left_ends.dropPrefix?_append (by decide), dropped]
            rfl

/-- Options are complete where a text ends, or they go on there. -/
theorem options?_append_cases (inner : Bool) (cs : List Char) :
    (∃ options rest, rest <:+ cs ∧ ∀ ds, options? inner (cs ++ ds) = some (options, rest ++ ds)) ∨
    (∀ ds, options? inner (cs ++ ds) = none) ∨
    ∃ inner', ∀ ds, options? inner (cs ++ ds) =
      (options? inner' ds).map fun r => (cs ++ r.1, r.2) := by
  induction cs generalizing inner with
  | nil => exact .inr (.inr ⟨inner, fun ds => by simp⟩)
  | cons c cs ih =>
    -- a character that does not end the options belongs to them
    have goes_on (next : Bool) (step : ∀ ds, options? inner (c :: (cs ++ ds)) =
        (options? next (cs ++ ds)).map fun r => (c :: r.1, r.2)) :
        (∃ options rest, rest <:+ c :: cs ∧
          ∀ ds, options? inner (c :: (cs ++ ds)) = some (options, rest ++ ds)) ∨
        (∀ ds, options? inner (c :: (cs ++ ds)) = none) ∨
        ∃ inner', ∀ ds, options? inner (c :: (cs ++ ds)) =
          (options? inner' ds).map fun r => (c :: cs ++ r.1, r.2) := by
      rcases ih next with ⟨options, rest, back, found⟩ | nothing | ⟨inner', open_end⟩
      · refine .inl ⟨c :: options, rest, back.trans (List.suffix_cons c cs), fun ds => ?_⟩
        rw [step, found, Option.map_some]
      · exact .inr (.inl fun ds => by rw [step, nothing, Option.map_none])
      · refine .inr (.inr ⟨inner', fun ds => ?_⟩)
        rw [step, open_end, Option.map_map]
        rfl
    by_cases closing : c = '\x7d'
    · subst closing
      cases inner with
      | true => exact goes_on false fun ds => rfl
      | false => exact .inl ⟨[], cs, List.suffix_cons _ cs, fun ds => rfl⟩
    · by_cases opening : c = '\x7b'
      · subst opening
        cases inner with
        | true => exact .inr (.inl fun ds => rfl)
        | false => exact goes_on true fun ds => rfl
      · exact goes_on inner fun ds => by rw [options?, if_neg closing, if_neg opening]

theorem options?_append_of_blank (blank : ∀ c ∈ cs, Text.isBlank c = true) (inner : Bool)
    (ds : List Char) :
    options? inner (cs ++ ds) = (options? inner ds).map fun r => (cs ++ r.1, r.2) := by
  induction cs with
  | nil => simp
  | cons c cs ih =>
    have no_opening : c ≠ '\x7b' := by
      rintro rfl
      exact absurd (blank _ List.mem_cons_self) (by decide)
    have no_closing : c ≠ '\x7d' := by
      rintro rfl
      exact absurd (blank _ List.mem_cons_self) (by decide)
    rw [List.cons_append, options?, if_neg no_closing, if_neg no_opening,
      ih fun d hd => blank d (List.mem_cons_of_mem c hd), Option.map_map]
    rfl

theorem tuple?_eq (cs : List Char) : tuple? cs =
    (opening? cs).bind fun d => (options? false d.2).map fun r => ((d.1, r.1), r.2) := by
  unfold tuple? opening?
  cases atom? cs with
  | none => rfl
  | some r =>
    obtain ⟨name, rest⟩ := r
    simp only [Option.bind_eq_bind, Option.bind_some]
    cases Text.skipBlanks rest with
    | nil => rfl
    | cons c ds =>
      by_cases comma : c = ','
      · subst comma
        rfl
      · have other : ',' ≠ c := fun same => comma same.symm
        simp [comma, Text.dropPrefix?, other]

theorem isSuffix_of_opening? {name : List Char} (read : opening? cs = some (name, rest)) :
    rest <:+ cs := by
  obtain ⟨⟨w, left⟩, named, read⟩ := Option.bind_eq_some_iff.1 read
  obtain ⟨options, dropped, same⟩ := Option.bind_eq_some_iff.1 read
  cases same
  obtain ⟨g, a, -, rfl, -⟩ := atom?_eq_some_iff.1 named
  have behind_comma : rest <:+ Text.skipBlanks left :=
    ⟨[','], (Text.dropPrefix?_eq_some_iff.1 dropped).symm⟩
  have behind_name : left <:+ g.text ++ ':' :: (a.text ++ left) :=
    ⟨g.text ++ ':' :: a.text, by simp⟩
  exact (behind_comma.trans (List.dropWhile_suffix _)).trans behind_name

theorem isSuffix_of_options? {inner : Bool} {options : List Char}
    (read : options? inner cs = some (options, rest)) : rest <:+ cs := by
  rcases options?_append_cases inner cs with ⟨o, left, back, found⟩ | nothing | ⟨inner', open_end⟩
  · have here := found []
    rw [List.append_nil, List.append_nil, read] at here
    cases here
    exact back
  · have here := nothing []
    rw [List.append_nil, read] at here
    cases here
  · have here := open_end []
    rw [List.append_nil, read] at here
    cases here

theorem isSuffix_of_tuple? {t : List Char × List Char} (read : tuple? cs = some (t, rest)) :
    rest <:+ cs := by
  rw [tuple?_eq] at read
  obtain ⟨d, opened, read⟩ := Option.bind_eq_some_iff.1 read
  obtain ⟨r, ended, same⟩ := Option.map_eq_some_iff.1 read
  cases same
  exact (isSuffix_of_options? ended).trans (isSuffix_of_opening? opened)

theorem tuples_of_none (nothing : tuple? cs = none) : tuples ('\x7b' :: cs) = tuples cs := by
  simp [tuples, tuplesFrom, nothing]

theorem tuples_of_tuple? {t : List Char × List Char} (read : tuple? cs = some (t, rest)) :
    tuples ('\x7b' :: cs) = t :: tuples rest := by
  obtain ⟨q, rfl⟩ := isSuffix_of_tuple? read
  exact tuples_of_some read

section Around

variable {R : List Char × List Char → List Char × List Char → Prop} (refl : ∀ t, R t t)
  (blanks : Text.skipBlanks ds = Text.skipBlanks rest)
  (behind : List.Forall₂ R (tuples ds) (tuples rest))
include refl blanks

/-- A tuple that starts before a place is the same in both texts, or it goes on there. -/
theorem forall₂_tuples_brace (ends : EndsLine cs)
    (later : ∀ u, u <:+ cs → List.Forall₂ R (tuples (u ++ ds)) (tuples (u ++ rest)))
    (around : ∀ name options inner, EndsLine options →
      (∀ es, opening? (cs ++ es) = some (name, options ++ es)) → Option.Rel
        (fun r r' => R (name, options ++ r.1) (name, options ++ r'.1) ∧ r.2 = r'.2)
        (options? inner ds) (options? inner rest)) :
    List.Forall₂ R (tuples ('\x7b' :: (cs ++ ds))) (tuples ('\x7b' :: (cs ++ rest))) := by
  have same_rest (u : List Char) : List.Forall₂ R (tuples u) (tuples u) :=
    List.forall₂_same.2 fun t _ => refl t
  rcases ends.opening?_append with ⟨name, options, options_ends, opened⟩ | ⟨found, opened⟩
  · have back : options <:+ cs := by
      have here := opened []
      rw [List.append_nil, List.append_nil] at here
      exact isSuffix_of_opening? here
    have read (es : List Char) : tuple? (cs ++ es) =
        (options? false (options ++ es)).map fun r => ((name, r.1), r.2) := by
      rw [tuple?_eq, opened, Option.bind_some]
    rcases options?_append_cases false options with
      ⟨o, left, inside, found⟩ | nothing | ⟨inner, open_end⟩
    · have read' (es : List Char) : tuple? (cs ++ es) = some ((name, o), left ++ es) := by
        rw [read, found, Option.map_some]
      rw [tuples_of_tuple? (read' ds), tuples_of_tuple? (read' rest)]
      exact .cons (refl (name, o)) (later left (inside.trans back))
    · have read' (es : List Char) : tuple? (cs ++ es) = none := by
        rw [read, nothing, Option.map_none]
      rw [tuples_of_none (read' ds), tuples_of_none (read' rest)]
      exact later cs List.suffix_rfl
    · have alike := around name options inner options_ends opened
      have read' (es : List Char) : tuple? (cs ++ es) =
          (options? inner es).map fun r => ((name, options ++ r.1), r.2) := by
        rw [read, open_end, Option.map_map]
        rfl
      have first := read' ds
      have second := read' rest
      generalize options? inner ds = r at alike first
      generalize options? inner rest = r' at alike second
      cases alike with
      | none =>
        rw [tuples_of_none first, tuples_of_none second]
        exact later cs List.suffix_rfl
      | some alike =>
        rw [tuples_of_tuple? first, tuples_of_tuple? second, alike.2]
        exact .cons alike.1 (same_rest _)
  · have same : tuple? (cs ++ ds) = tuple? (cs ++ rest) := by
      rw [tuple?_eq, tuple?_eq, opened, opened, blanks]
    cases read : tuple? (cs ++ rest) with
    | none =>
      rw [tuples_of_none (same.trans read), tuples_of_none read]
      exact later cs List.suffix_rfl
    | some r =>
      rw [tuples_of_tuple? (same.trans read), tuples_of_tuple? read]
      exact .cons (refl r.1) (same_rest r.2)

include behind

/-- The tuples of two texts that differ behind a line, when they differ in nothing but blanks there
and in the options of the tuple around them. -/
theorem forall₂_tuples (ends : cs = [] ∨ EndsLine cs)
    (around : ∀ t name options inner, '\x7b' :: t <:+ cs → EndsLine options →
      (∀ es, opening? (t ++ es) = some (name, options ++ es)) → Option.Rel
        (fun r r' => R (name, options ++ r.1) (name, options ++ r'.1) ∧ r.2 = r'.2)
        (options? inner ds) (options? inner rest)) :
    List.Forall₂ R (tuples (cs ++ ds)) (tuples (cs ++ rest)) := by
  induction h : cs.length using Nat.strong_induction_on generalizing cs with
  | _ n ih =>
  cases cs with
  | nil => exact behind
  | cons c cs =>
    -- what is left to search is a shorter text that ends a line too
    have later (u : List Char) (back : u <:+ cs) :
        List.Forall₂ R (tuples (u ++ ds)) (tuples (u ++ rest)) := by
      have back' : u <:+ c :: cs := back.trans (List.suffix_cons c cs)
      have u_ends := eq_nil_or_endsLine_of_suffix ends back'
      have shorter : u.length < n := by
        rw [← h, List.length_cons]
        exact Nat.lt_succ_of_le back.length_le
      exact ih u.length shorter u_ends (fun t name options inner inside =>
        around t name options inner (inside.trans back')) rfl
    rw [List.cons_append, List.cons_append]
    by_cases opening : c = '\x7b'
    · subst opening
      have cs_ends := (ends.resolve_left (List.cons_ne_nil _ cs)).tail (by decide)
      exact forall₂_tuples_brace refl blanks cs_ends later fun name options inner =>
        around cs name options inner List.suffix_rfl
    · rw [tuples_cons opening, tuples_cons opening]
      exact later cs List.suffix_rfl

end Around

/-- Blanks at the end of a text add no tuple. -/
theorem tuples_append_of_blank (ends : cs = [] ∨ EndsLine cs)
    (blank : ∀ c ∈ ds, Text.isBlank c = true) : tuples (cs ++ ds) = tuples cs := by
  have none_behind : tuples (ds ++ []) = tuples [] :=
    tuples_append_of_not_mem (Text.not_mem_of_blank blank (by decide))
  rw [List.append_nil] at none_behind
  have blanks : Text.skipBlanks ds = Text.skipBlanks [] := List.dropWhile_eq_nil_iff.2 blank
  have same : List.Forall₂ (· = ·) (tuples (cs ++ ds)) (tuples (cs ++ [])) := by
    refine forall₂_tuples (fun _ => rfl) blanks ?_ ends fun t name options inner _ _ _ => ?_
    · rw [none_behind]
      exact List.forall₂_same.2 fun _ _ => rfl
    · have open_end := options?_append_of_blank blank inner []
      rw [List.append_nil] at open_end
      rw [open_end]
      exact .none
  rw [List.forall₂_eq_eq_eq, List.append_nil] at same
  exact same

theorem EndsLine.startsDevAtom_append (ends : EndsLine cs) (ds : List Char) :
    startsDevAtom (cs ++ ds) = startsDevAtom cs := by
  rw [startsDevAtom, startsDevAtom, ends.wholeWord?_append (by decide),
    ends.wholeWord?_append (by decide), Option.isSome_map, Option.isSome_map]

/-- Two tuples that declare the same dependency for the same purpose. -/
def Alike (t t' : List Char × List Char) : Prop :=
  dependency t = dependency t' ∧ isDevOnly t.2 = isDevOnly t'.2

theorem map_filter_of_alike (test : Bool → Bool) {ts ts' : List (List Char × List Char)}
    (alike : List.Forall₂ Alike ts ts') :
    (ts.filter fun t => test (isDevOnly t.2)).map dependency =
      (ts'.filter fun t => test (isDevOnly t.2)).map dependency := by
  induction alike with
  | nil => rfl
  | cons same _ ih =>
    rw [List.filter_cons, List.filter_cons, same.2]
    split
    · rw [List.map_cons, List.map_cons, same.1, ih]
    · exact ih

theorem Alike.refl (t : List Char × List Char) : Alike t t := ⟨rfl, rfl⟩

/-- Two bodies whose tuples declare the same, one after the other. -/
def AlikeBodies (body body' : List Char) : Prop :=
  List.Forall₂ Alike (tuples (stripComments body)) (tuples (stripComments body'))

theorem AlikeBodies.refl (body : List Char) : AlikeBodies body body :=
  List.forall₂_same.2 fun t _ => .refl t

section Widened

variable {gap : List Char} (blank : ∀ c ∈ gap, Text.isBlank c = true)
include blank

/-- Blanks behind a line do not change the version before them. -/
theorem version?_append_gap (ends : EndsLine cs) (closed : leavesVersionOpen cs = false) :
    version? (cs ++ (gap ++ ds)) = version? (cs ++ ds) := by
  unfold version?
  rcases ends.skipBlanks_append with cs_blank | ⟨left_ends, skipped⟩
  · rw [Text.skipBlanks_append_of_blank cs_blank, Text.skipBlanks_append_of_blank cs_blank,
      Text.skipBlanks_append_of_blank blank]
  · rw [skipped, skipped]
    unfold leavesVersionOpen at closed
    cases left : Text.skipBlanks cs with
    | nil => exact absurd left left_ends.ne_nil
    | cons c t =>
      by_cases quote : c = '"'
      · subst quote
        have listed : '"' ∈ t := by simpa [left] using closed
        have taken (es : List Char) :
            (t ++ es).takeWhile (· != '"') = t.takeWhile (· != '"') :=
          Text.takeWhile_append_of_mem listed rfl
        have listed' (es : List Char) : '"' ∈ t ++ es := List.mem_append_left es listed
        simp only [List.cons_append, taken, if_pos (listed' _)]
      · simp [quote]

theorem listsDevAtom_append_gap (ends : cs = [] ∨ EndsLine cs) :
    listsDevAtom (cs ++ (gap ++ ds)) = listsDevAtom (cs ++ ds) := by
  induction cs with
  | nil =>
    have visible : ∀ c ∈ [':', ']'], Text.isBlank c = false :=
      List.all_iff_forall_prop.1 (by decide)
    exact listsDevAtom_append (Text.forall_not_mem_of_run blank visible)
  | cons c cs ih =>
    have ends' := ends.resolve_left (List.cons_ne_nil c cs)
    have cs_ends := eq_nil_or_endsLine_of_suffix ends (List.suffix_cons c cs)
    have starts (es : List Char) : startsDevAtom (c :: (cs ++ es)) = startsDevAtom (c :: cs) :=
      ends'.startsDevAtom_append es
    rw [List.cons_append, List.cons_append, listsDevAtom, listsDevAtom, starts, starts, ih cs_ends]

theorem devOnly?_append_gap (ends : EndsLine cs) :
    devOnly? (cs ++ (gap ++ ds)) = devOnly? (cs ++ ds) := by
  unfold devOnly?
  rw [ends.dropPrefix?_append (by decide), ends.dropPrefix?_append (by decide)]
  cases dropped : Text.dropPrefix? "only:".toList cs with
  | none => rfl
  | some rest =>
    rw [Text.dropPrefix?_eq_some_iff.1 dropped] at ends
    have rest_ends : EndsLine rest := ends.of_append (by rintro c ⟨⟩; decide)
    simp only [Option.map_some, Option.bind_eq_bind, Option.bind_some]
    rcases rest_ends.skipBlanks_append with rest_blank | ⟨left_ends, skipped⟩
    · rw [Text.skipBlanks_append_of_blank rest_blank, Text.skipBlanks_append_of_blank rest_blank,
        Text.skipBlanks_append_of_blank blank]
    · rw [skipped, skipped]
      cases left : Text.skipBlanks rest with
      | nil => exact absurd left left_ends.ne_nil
      | cons c t =>
        rw [left] at left_ends
        have starts (es : List Char) : startsDevAtom (c :: (t ++ es)) = startsDevAtom (c :: t) :=
          left_ends.startsDevAtom_append es
        simp only [List.cons_append, starts, List.head?_cons, List.drop_succ_cons, List.drop_zero]
        by_cases bracket : c = '['
        · have t_ends : EndsLine t := left_ends.tail (by rw [bracket]; decide)
          rw [listsDevAtom_append_gap blank (.inr t_ends)]
        · simp [bracket]

theorem isDevOnly_append_gap (ends : EndsLine cs) :
    isDevOnly (cs ++ (gap ++ ds)) = isDevOnly (cs ++ ds) := by
  have passed (s : List Char) (full : s ≠ []) (back : s <:+ gap) : devOnly? (s ++ ds) = none := by
    apply devOnly?_of_not_isPrefix
    intro front
    cases s with
    | nil => exact full rfl
    | cons c s =>
      obtain rfl := (List.cons_prefix_cons.1 front).1
      exact Text.not_mem_of_blank blank (by decide) (back.subset List.mem_cons_self)
  rw [isDevOnly_eq, isDevOnly_eq]
  congr 1
  have behind := Text.firstMatch_append_of_none passed
  refine Text.firstMatch_append_congr (fun s full back => ?_) behind
  exact devOnly?_append_gap blank (ends.of_suffix full back)

/-- Blanks behind a line change no tuple, unless they stand in a version. -/
theorem forall₂_alike (ends : EndsLine cs)
    (closed : ∀ t, t <:+ cs → opensVersion t = false) (ds : List Char) :
    List.Forall₂ Alike (tuples (cs ++ ds)) (tuples (cs ++ (gap ++ ds))) := by
  have none_inside : tuples (gap ++ ds) = tuples ds :=
    tuples_append_of_not_mem (Text.not_mem_of_blank blank (by decide))
  refine forall₂_tuples .refl (Text.skipBlanks_append_of_blank blank ds).symm ?_ (.inr ends) ?_
  · rw [none_inside]
    exact List.forall₂_same.2 fun t _ => .refl t
  · intro t name options inner inside options_ends opened
    have version_closed : leavesVersionOpen options = false := by
      have here := opened []
      rw [List.append_nil, List.append_nil] at here
      simpa [opensVersion, here] using closed _ inside
    rw [options?_append_of_blank blank]
    cases options? inner ds with
    | none => exact .none
    | some r =>
      refine .some ⟨⟨?_, ?_⟩, rfl⟩
      · rw [dependency, dependency, version?_append_gap blank options_ends version_closed]
      · exact (isDevOnly_append_gap blank options_ends).symm

end Widened

end CodeGraph.MixProject
