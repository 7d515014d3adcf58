import CodeGraph.Proofs.LineEnds
import Mathlib.Data.List.Infix

/-!
# Comments on lines of their own

A line with nothing but a comment does not count in a project file where it stands outside of quoted
texts, as long as it neither parts nor starts what the readers look for. They search the whole text,
comments and all, for the entry with the name of the application and for the head of the function
that lists the dependencies. So a comment in front of them that reads like one of them is taken for
it.

Main definitions:

- `Remark`: the line of a comment;
- `Closed`: a text that leaves nothing open at its end;
- `Point`: a place in a file where a line of a comment may stand.

Main statements:

- `Closed.stripComments_append`, `Remark.stripComments_append`: the comments of a text are dropped
  piece by piece;
- `Point.appName?_insert`, `Point.rel_block?_insert`: the name and the list of dependencies around
  a comment;
- `read?_insert`: when a comment does not count;
- `commentedName_counts`: when it does.
-/
namespace CodeGraph.MixProject

variable {cs ds rest : List Char}

/-! ## Lines of comments -/

/-- A line with nothing but a comment. -/
structure Remark where
  gap : Text.Gap
  comment : Comment

def Remark.text (r : Remark) : List Char := r.gap.text ++ '#' :: (r.comment.text ++ ['\n'])

/-- A text that leaves no quoted text and no comment open. -/
inductive Closed : List Char → Prop
  | nil : Closed []
  | plain {c : Char} {cs : List Char} (plain : c ∉ ['"', '#']) (rest : Closed cs) : Closed (c :: cs)
  | quoted {q cs : List Char} (quoted : Quoted q) (rest : Closed cs) : Closed ('"' :: (q ++ cs))
  | comment {c cs : List Char} (one_line : '\n' ∉ c) (rest : Closed cs) :
      Closed ('#' :: (c ++ '\n' :: cs))

/-- What starts before a place is complete there. -/
def Apart {α : Type} (test : List Char → Option α) (before after : List Char) : Prop :=
  ∀ s, s ≠ [] → s <:+ before → (test (s ++ after)).isSome = true → (test s).isSome = true

/-- A place between two lines of a file, outside of quoted texts. -/
structure Point where
  before : List Char
  after : List Char
  isModule : "defmodule".toList <:+: before ++ after
  line_start : before = [] ∨ EndsLine before
  -- no entry and no head reaches across the place
  entry_apart : Apart entryName? before after
  head_apart : Apart head? before after
  -- where a list of dependencies is open at the place, no quoted text in it is, and no version of
  -- what reads like a tuple inside of one
  closed : ∀ s b, s <:+ before → head? s = some b → bodyFrom? false b = none → Closed b
  no_version : ∀ s b, s <:+ before → head? s = some b → bodyFrom? false b = none →
    ∀ t, t <:+ stripComments b → opensVersion t = false

namespace Point

variable (p : Point)

/-- The name of the application is given before the place. -/
def Named : Prop := ∃ s, s <:+ p.before ∧ (entryName? s).isSome = true

/-- The function that lists the dependencies starts before the place. -/
def Listed : Prop :=
  ∃ s b, s <:+ p.before ∧ head? s = some b ∧ (bodyFrom? false (b ++ p.after)).isSome = true

/-- No entry with a name starts in a comment at the place. -/
def EntryFree (c : Comment) : Prop :=
  ∀ s, s ≠ [] → s <:+ c.text → entryName? (s ++ '\n' :: p.after) = none

/-- No head of the function starts in a comment at the place. -/
def HeadFree (c : Comment) : Prop :=
  ∀ s, s ≠ [] → s <:+ c.text → head? (s ++ '\n' :: p.after) = none

end Point

/-! ## Searches -/

section Search

variable {α β : Type} {test : List Char → Option α} {R : α → α → Prop}

/-- Two texts with the same front are searched alike when all that starts in the front is, and what
comes behind it if nothing is found there. -/
theorem rel_firstMatch_append
    (front : ∀ s, s ≠ [] → s <:+ cs → Option.Rel R (test (s ++ ds)) (test (s ++ rest)))
    (back : (∀ s, s ≠ [] → s <:+ cs → test (s ++ ds) = none) →
      Option.Rel R (Text.firstMatch test ds) (Text.firstMatch test rest)) :
    Option.Rel R (Text.firstMatch test (cs ++ ds)) (Text.firstMatch test (cs ++ rest)) := by
  induction cs with
  | nil => exact back fun s full inner => absurd (List.suffix_nil.1 inner) full
  | cons c cs ih =>
    have here := front (c :: cs) (by simp) List.suffix_rfl
    have later := ih fun s full inner => front s full (inner.trans (List.suffix_cons c cs))
    rw [List.cons_append, List.cons_append] at here ⊢
    rw [Text.firstMatch, Text.firstMatch]
    generalize found : test (c :: (cs ++ ds)) = a at here ⊢
    generalize test (c :: (cs ++ rest)) = b at here ⊢
    cases here with
    | some alike => exact .some alike
    | none =>
      refine later fun nothing => back fun s full inner => ?_
      rcases List.suffix_cons_iff.1 inner with rfl | inner
      · exact found
      · exact nothing s full inner

end Search

/-! ## Parts before a comment -/

/-- No part without number signs that ends with a visible character goes on in a comment. -/
theorem Remark.not_append (r : Remark) {more : List Char} (full : more ≠ []) (no_sign : '#' ∉ more)
    (last : ∀ c ∈ more.getLast?, Text.isBlank c = false) : r.text ++ ds ≠ more ++ rest := by
  have visible : ¬ more ⊆ r.gap.text := by
    intro inside
    have final := List.getLast?_eq_some_getLast full
    have blank := r.gap.blank _ (inside (List.getLast_mem full))
    rw [last _ final] at blank
    cases blank
  intro whole
  rw [Remark.text, List.append_assoc] at whole
  rcases List.append_eq_append_iff.1 whole with ⟨behind, longer, same⟩ | ⟨left, inside, -⟩
  · cases behind with
    | nil => exact visible (by simp [longer])
    | cons c behind =>
      obtain rfl := (List.cons.inj same).1
      exact no_sign (by simp [longer])
  · exact visible (by simp [inside])

namespace EndsLine

variable {s : List Char} (ends : EndsLine s)
include ends

/-- No part without number signs reaches into a comment. -/
theorem exists_left_of_remark {part : List Char} (no_sign : '#' ∉ part)
    (last : ∀ c ∈ part.getLast?, Text.isBlank c = false) (r : Remark)
    (whole : s ++ (r.text ++ ds) = part ++ rest) :
    ∃ left, EndsLine left ∧ s = part ++ left ∧ rest = left ++ (r.text ++ ds) := by
  have last' c hc := ne_of_not_isBlank (last c hc)
  refine (ends.cases_of_append last' whole).resolve_right ?_
  rintro ⟨more, full, longer, same⟩
  have more_last : ∀ c ∈ more.getLast?, Text.isBlank c = false := by
    rwa [longer, List.getLast?_append_of_ne_nil _ full] at last
  exact r.not_append full (fun listed => no_sign (by simp [longer, listed])) more_last same

theorem isSome_entryName?_of_remark (r : Remark) (ds : List Char)
    (found : (entryName? (s ++ (r.text ++ ds))).isSome = true) : (entryName? s).isSome = true := by
  obtain ⟨name, found⟩ := Option.isSome_iff_exists.1 found
  obtain ⟨e, rest, whole, stop, same⟩ := entryName?_eq_some_iff.1 found
  obtain ⟨left, left_ends, inside, rfl⟩ :=
    ends.exists_left_of_remark e.sign_not_mem e.not_isBlank_last r whole
  rw [startsWord_append left_ends.ne_nil] at stop
  exact Option.isSome_of_eq_some (entryName?_eq_some_iff.2 ⟨e, left, inside, stop, same⟩)

theorem isSome_head?_of_remark (r : Remark) (ds : List Char)
    (found : (head? (s ++ (r.text ++ ds))).isSome = true) : (head? s).isSome = true := by
  obtain ⟨b, found⟩ := Option.isSome_iff_exists.1 found
  obtain ⟨h, whole, stop⟩ := head?_eq_some_iff.1 found
  obtain ⟨left, left_ends, inside, rfl⟩ :=
    ends.exists_left_of_remark h.sign_not_mem h.not_isBlank_last r whole
  rw [startsWord_append left_ends.ne_nil] at stop
  exact Option.isSome_of_eq_some (head?_eq_some_iff.2 ⟨h, inside, stop⟩)

end EndsLine

/-! ## Comments before a place -/

theorem closed_append (plain : ∀ c ∈ cs, c ∉ ['"', '#']) (closed : Closed ds) :
    Closed (cs ++ ds) := by
  induction cs with
  | nil => exact closed
  | cons c cs ih =>
    exact .plain (plain c List.mem_cons_self) (ih fun d hd => plain d (List.mem_cons_of_mem c hd))

/-- Comments are dropped from each of two texts on its own, when the first leaves nothing open. -/
theorem Closed.stripComments_append (closed : Closed cs) (ds : List Char) :
    stripComments (cs ++ ds) = stripComments cs ++ stripComments ds := by
  induction closed with
  | nil => rfl
  | plain plain _ ih =>
    rw [List.cons_append, stripComments_cons plain, stripComments_cons plain, ih, List.cons_append]
  | quoted quoted _ ih =>
    rw [List.cons_append, List.append_assoc, quoted.stripComments_append,
      quoted.stripComments_append, ih, List.cons_append, List.append_assoc]
  | comment one_line _ ih =>
    rw [List.cons_append, List.append_assoc, List.cons_append, stripComments_comment one_line,
      stripComments_comment one_line, ih, List.cons_append]

theorem Quoted.getLast?_eq {q : List Char} (quoted : Quoted q) : q.getLast? = some '"' := by
  induction quoted with
  | close => rfl
  | escape _ _ ih => rw [List.getLast?_cons_cons, List.getLast?_cons, ih]; rfl
  | plain _ _ ih => rw [List.getLast?_cons, ih]; rfl

/-- A quoted text does not reach into a text without quotes. -/
theorem quoted?_append_of_not_mem (no_quote : '"' ∉ ds) :
    quoted? (cs ++ ds) = (quoted? cs).map fun r => (r.1, r.2 ++ ds) := by
  cases found : quoted? cs with
  | some r =>
    obtain ⟨quoted, whole⟩ := quoted?_eq_some_iff.1 found
    rw [whole, List.append_assoc]
    exact quoted.quoted?_append (r.2 ++ ds)
  | none =>
    rw [Option.map_none, Option.eq_none_iff_forall_ne_some]
    rintro ⟨q, rest⟩ read
    obtain ⟨quoted, whole⟩ := quoted?_eq_some_iff.1 read
    rcases List.append_eq_append_iff.1 whole with ⟨more, longer, behind⟩ | ⟨left, inside, -⟩
    · by_cases none_left : more = []
      · rw [none_left, List.append_nil] at longer
        have read' := quoted.quoted?_append []
        rw [longer, List.append_nil, found] at read'
        cases read'
      · have last := quoted.getLast?_eq
        rw [longer, List.getLast?_append_of_ne_nil _ none_left] at last
        have listed : '"' ∈ more ++ rest := List.mem_append_left _ (List.mem_of_getLast? last)
        exact absurd (behind ▸ listed) no_quote
    · rw [inside, quoted.quoted?_append] at found
      cases found

/-- Each character is kept or dropped, whatever comes behind its text. Line ends are kept. -/
theorem stripFrom_cons_cases (no_quote : '"' ∉ ds) (n : Nat) (inComment : Bool) (c : Char)
    (cs : List Char) : ∃ m inComment',
      (stripFrom n inComment (c :: cs) = c :: stripFrom m inComment' cs ∧
        stripFrom n inComment (c :: (cs ++ ds)) = c :: stripFrom m inComment' (cs ++ ds)) ∨
      (c ≠ '\n' ∧ stripFrom n inComment (c :: cs) = stripFrom m inComment' cs ∧
        stripFrom n inComment (c :: (cs ++ ds)) = stripFrom m inComment' (cs ++ ds)) := by
  cases n with
  | succ n => exact ⟨n, false, .inl ⟨rfl, rfl⟩⟩
  | zero =>
    cases inComment with
    | true =>
      by_cases line_end : c = '\n'
      · exact ⟨0, false, .inl ⟨by simp [stripFrom, line_end], by simp [stripFrom, line_end]⟩⟩
      · exact ⟨0, true, .inr ⟨line_end, by simp [stripFrom, line_end],
          by simp [stripFrom, line_end]⟩⟩
    | false =>
      by_cases sign : c = '#'
      · refine ⟨0, true, .inr ⟨?_, by simp [stripFrom, sign], by simp [stripFrom, sign]⟩⟩
        rw [sign]
        decide
      · by_cases quote : c = '"'
        · have same : quoted? (cs ++ ds) = (quoted? cs).map fun r => (r.1, r.2 ++ ds) :=
            quoted?_append_of_not_mem no_quote
          refine ⟨((quoted? cs).map fun r => r.1.length).getD 0, false, .inl ⟨?_, ?_⟩⟩
          · simp [stripFrom, quote]
          · simp [stripFrom, quote, same, Option.map_map, Function.comp_def]
        · exact ⟨0, false, .inl ⟨by simp [stripFrom, sign, quote],
            by simp [stripFrom, sign, quote]⟩⟩

theorem stripFrom_sublist (n : Nat) (inComment : Bool) (cs : List Char) :
    (stripFrom n inComment cs).Sublist cs := by
  induction cs generalizing n inComment with
  | nil => exact List.Sublist.refl []
  | cons c cs ih =>
    obtain ⟨m, inComment', ⟨kept, -⟩ | ⟨-, dropped, -⟩⟩ :=
      stripFrom_cons_cases (List.not_mem_nil : '"' ∉ []) n inComment c cs
    · rw [kept]
      exact (ih m inComment').cons_cons c
    · rw [dropped]
      exact (ih m inComment').cons c

/-- Blanks at the end of a text come after what is left of it without its comments. -/
theorem exists_stripFrom_append (blank : ∀ c ∈ ds, Text.isBlank c = true) (n : Nat)
    (inComment : Bool) (cs : List Char) : ∃ gap, (∀ c ∈ gap, Text.isBlank c = true) ∧
      stripFrom n inComment (cs ++ ds) = stripFrom n inComment cs ++ gap := by
  have no_quote : '"' ∉ ds := fun listed => absurd (blank '"' listed) (by decide)
  induction cs generalizing n inComment with
  | nil =>
    exact ⟨stripFrom n inComment ds, fun c hc => blank c ((stripFrom_sublist _ _ _).subset hc), rfl⟩
  | cons c cs ih =>
    obtain ⟨m, inComment', ⟨kept, kept'⟩ | ⟨-, dropped, dropped'⟩⟩ :=
      stripFrom_cons_cases no_quote n inComment c cs
    · obtain ⟨gap, gap_blank, same⟩ := ih m inComment'
      exact ⟨gap, gap_blank, by rw [List.cons_append, kept, kept', same, List.cons_append]⟩
    · obtain ⟨gap, gap_blank, same⟩ := ih m inComment'
      exact ⟨gap, gap_blank, by rw [List.cons_append, dropped, dropped', same]⟩

theorem EndsLine.stripFrom (ends : EndsLine cs) (n : Nat) (inComment : Bool) :
    EndsLine (stripFrom n inComment cs) := by
  induction cs generalizing n inComment with
  | nil => exact absurd rfl ends.ne_nil
  | cons c cs ih =>
    obtain ⟨m, inComment', ⟨kept, -⟩ | ⟨other, dropped, -⟩⟩ :=
      stripFrom_cons_cases (List.not_mem_nil : '"' ∉ []) n inComment c cs
    · rw [kept]
      by_cases last : cs = []
      · subst last
        exact ends
      · exact (ih (ends.of_suffix last (List.suffix_cons c cs)) m inComment').cons c
    · rw [dropped]
      exact ih (ends.tail other) m inComment'

/-- What is left of the line of a comment: blanks. -/
def Remark.left (r : Remark) : List Char := r.gap.text ++ ['\n']

theorem Remark.isBlank_of_mem_left (r : Remark) : ∀ c ∈ r.left, Text.isBlank c = true := by
  intro c hc
  rcases List.mem_append.1 hc with gap | line_end
  · exact r.gap.blank c gap
  · rw [List.mem_singleton.1 line_end]
    decide

theorem Remark.stripComments_append (r : Remark) (ds : List Char) :
    stripComments (r.text ++ ds) = r.left ++ stripComments ds := by
  have whole : r.text ++ ds = r.gap.text ++ ('#' :: (r.comment.text ++ '\n' :: ds)) := by
    simp [Remark.text]
  rw [whole, kept_of_blank r.gap.blank, stripComments_comment r.comment.one_line, left,
    List.append_assoc]
  rfl

/-! ## Files around a comment -/

/-- A body goes on with the line of a comment. -/
theorem Remark.bodyFrom?_append (r : Remark) (ds : List Char) :
    ¬ StartsEnd (r.text ++ ds) ∧
      bodyFrom? true (r.text ++ ds) = (bodyFrom? true ds).map (r.text ++ ·) := by
  have whole (es : List Char) :
      r.text ++ es = (r.gap.text ++ '#' :: r.comment.text) ++ '\n' :: es := by simp [Remark.text]
  have goes_on : ¬ StartsEnd (r.text ++ ds) := by
    rw [whole, List.append_assoc, startsEnd_append_iff r.gap.blank]
    exact not_startsEnd_of_head (by rintro c ⟨⟩; decide)
  have one_line : '\n' ∉ r.gap.text ++ '#' :: r.comment.text :=
    List.not_mem_append r.gap.one_line
      (List.not_mem_cons_of_ne_of_not_mem (by decide) r.comment.one_line)
  refine ⟨goes_on, ?_⟩
  rw [whole] at goes_on ⊢
  rw [MixProject.bodyFrom?_append one_line fun _ => goes_on]
  simp only [whole]

section Search

variable {α : Type} {test : List Char → Option α} (r : Remark)
  (visible : ∀ c s, Text.isBlank c = true ∨ c = '#' → test (c :: s) = none)
include visible

/-- Comments are searched as if they were none. -/
theorem Remark.firstMatch_append : Text.firstMatch test (r.text ++ ds) =
    Text.firstMatch test (r.comment.text ++ '\n' :: ds) := by
  have whole : r.text ++ ds = (r.gap.text ++ ['#']) ++ (r.comment.text ++ '\n' :: ds) := by
    simp [Remark.text]
  rw [whole, Text.firstMatch_append_of_none]
  intro s full back
  cases s with
  | nil => exact absurd rfl full
  | cons c s =>
    rcases List.mem_append.1 (back.subset List.mem_cons_self) with gap | sign
    · exact visible c _ (.inl (r.gap.blank c gap))
    · exact visible c _ (.inr (List.mem_singleton.1 sign))

/-- A search that finds nothing in a comment goes on behind it. -/
theorem Remark.firstMatch_append_of_free
    (free : ∀ s, s ≠ [] → s <:+ r.comment.text → test (s ++ '\n' :: ds) = none) :
    Text.firstMatch test (r.text ++ ds) = Text.firstMatch test ds := by
  have line_end : test ('\n' :: ds) = none := visible '\n' ds (.inl (by decide))
  rw [r.firstMatch_append visible, Text.firstMatch_append_of_none free, Text.firstMatch, line_end]

end Search

theorem entryName?_of_blank_or_sign {c : Char} (other : Text.isBlank c = true ∨ c = '#')
    (s : List Char) : entryName? (c :: s) = none := by
  apply entryName?_of_not_isPrefix
  rintro ⟨t, same⟩
  obtain rfl := (List.cons.inj same).1
  revert other
  decide

theorem head?_of_blank_or_sign {c : Char} (other : Text.isBlank c = true ∨ c = '#')
    (s : List Char) : head? (c :: s) = none := by
  apply head?_of_not_isPrefix
  rintro ⟨t, same⟩
  obtain rfl := (List.cons.inj same).1
  revert other
  decide

/-- A comment changes no tuple of a body that goes on behind it. -/
theorem Remark.alikeBodies_append (r : Remark) (ends : EndsLine cs) (closed : Closed cs)
    (no_version : ∀ t, t <:+ stripComments cs → opensVersion t = false) (ds : List Char) :
    AlikeBodies (cs ++ ds) (cs ++ (r.text ++ ds)) := by
  rw [AlikeBodies, closed.stripComments_append, closed.stripComments_append, r.stripComments_append]
  exact forall₂_alike r.isBlank_of_mem_left (ends.stripFrom 0 false) no_version _

/-- A comment changes no tuple of a body whose end follows it. -/
theorem Remark.alikeBodies_last (r : Remark) (ends : EndsLine cs)
    (blank : ∀ c ∈ ds, Text.isBlank c = true) (closed : Closed (cs ++ ds)) :
    AlikeBodies cs ((cs ++ ds) ++ r.text) := by
  obtain ⟨gap, gap_blank, same⟩ := exists_stripFrom_append blank 0 false cs
  have whole : stripComments ((cs ++ ds) ++ (r.text ++ [])) =
      stripComments cs ++ (gap ++ r.left) := by
    rw [closed.stripComments_append, r.stripComments_append, stripComments, same]
    simp [stripComments, stripFrom]
  have behind : ∀ c ∈ gap ++ r.left, Text.isBlank c = true := fun c hc =>
    (List.mem_append.1 hc).elim (gap_blank c) (r.isBlank_of_mem_left c)
  have none_added := tuples_append_of_blank (.inr (ends.stripFrom 0 false)) behind
  rw [List.append_nil] at whole
  rw [AlikeBodies, whole, stripComments, none_added]
  exact AlikeBodies.refl cs

/-- A comment changes no tuple in the body around it. -/
theorem Remark.rel_bodyFrom? (r : Remark) (ends : EndsLine cs)
    (closed : bodyFrom? false cs = none → Closed cs)
    (no_version : bodyFrom? false cs = none →
      ∀ t, t <:+ stripComments cs → opensVersion t = false) (ds : List Char) :
    Option.Rel AlikeBodies
      (bodyFrom? false (cs ++ ds)) (bodyFrom? false (cs ++ (r.text ++ ds))) := by
  cases found : bodyFrom? false cs with
  | some body =>
    rw [ends.bodyFrom?_append_of_some found, ends.bodyFrom?_append_of_some found]
    exact .some (.refl body)
  | none =>
    obtain ⟨goes_on, passed⟩ := r.bodyFrom?_append ds
    rw [ends.bodyFrom?_append_of_none found goes_on, passed]
    by_cases ended : StartsEnd ds
    · obtain ⟨body, gap, body_ends, rfl, blank, here⟩ :=
        ends.bodyFrom?_append_of_startsEnd found ended
      have body_ends' := body_ends.resolve_left fun start => Bool.false_ne_true start.2
      have last := r.alikeBodies_last body_ends' blank (closed found)
      rw [← List.append_nil r.text] at last
      rw [here, bodyFrom?_of_startsEnd ended]
      exact .some last
    · rw [ends.bodyFrom?_append_of_none found ended]
      cases bodyFrom? true ds with
      | none => exact .none
      | some rest => exact .some (r.alikeBodies_append ends (closed found) (no_version found) rest)

namespace Point

variable (p : Point) (r : Remark)

theorem endsLine_of_suffix {s : List Char} (full : s ≠ []) (back : s <:+ p.before) :
    EndsLine s :=
  (eq_nil_or_endsLine_of_suffix p.line_start back).resolve_left full

theorem appName?_append : appName? (p.before ++ p.after) =
    (appName? p.before).orElse fun _ => appName? p.after :=
  Text.firstMatch_append rfl fun s full back =>
    (p.endsLine_of_suffix full back).entryName?_append p.after (p.entry_apart s full back)

/-- A name in a comment counts as if it stood in none. -/
theorem appName?_append_remark : appName? (p.before ++ (r.text ++ p.after)) =
    (appName? p.before).orElse fun _ => appName? (r.comment.text ++ '\n' :: p.after) := by
  have here (s : List Char) (full : s ≠ []) (back : s <:+ p.before) :
      entryName? (s ++ (r.text ++ p.after)) = entryName? s := by
    have ends := p.endsLine_of_suffix full back
    exact ends.entryName?_append _ (ends.isSome_entryName?_of_remark r p.after)
  rw [appName?_eq, Text.firstMatch_append rfl here,
    r.firstMatch_append fun c s other => entryName?_of_blank_or_sign other s]
  rfl

/-- The name stays when no other one is given by the comment. -/
theorem appName?_insert (entry : p.Named ∨ p.EntryFree r.comment) :
    appName? (p.before ++ (r.text ++ p.after)) = appName? (p.before ++ p.after) := by
  rw [p.appName?_append_remark, p.appName?_append]
  rcases entry with ⟨s, back, found⟩ | free
  · have named : (appName? p.before).isSome = true := Text.isSome_firstMatch_iff.2 ⟨s, back, found⟩
    obtain ⟨name, first⟩ := Option.isSome_iff_exists.1 named
    rw [first]
    rfl
  · have visible (c : Char) (s : List Char) (other : Text.isBlank c = true ∨ c = '#') :=
      entryName?_of_blank_or_sign other s
    rw [appName?_eq (r.comment.text ++ _), ← r.firstMatch_append visible,
      r.firstMatch_append_of_free visible free, ← appName?_eq]

/-- The tuples stay when no other list starts in the comment. -/
theorem rel_block?_insert (head : p.Listed ∨ p.HeadFree r.comment) :
    Option.Rel AlikeBodies
      (block? (p.before ++ p.after)) (block? (p.before ++ (r.text ++ p.after))) := by
  refine rel_firstMatch_append (fun s full back => ?_) fun nothing => ?_
  · have ends := p.endsLine_of_suffix full back
    rw [ends.head?_append p.after (p.head_apart s full back),
      ends.head?_append _ (ends.isSome_head?_of_remark r p.after)]
    cases found : head? s with
    | none => exact .none
    | some b =>
      have b_ends := (ends.head?_append_of_some found []).1
      exact r.rel_bodyFrom? b_ends (p.closed s b back found) (p.no_version s b back found) p.after
  · rcases head with ⟨s, b, back, found, ended⟩ | free
    · have full : s ≠ [] := by
        rintro rfl
        cases found
      have ends := p.endsLine_of_suffix full back
      have missed := nothing s full back
      rw [(ends.head?_append_of_some found p.after).2, Option.bind_some] at missed
      rw [missed] at ended
      cases ended
    · have passed : Text.firstMatch (fun ds => (head? ds).bind (bodyFrom? false))
          (r.text ++ p.after) =
          Text.firstMatch (fun ds => (head? ds).bind (bodyFrom? false)) p.after := by
        refine r.firstMatch_append_of_free (fun c s other => ?_) fun s full back => ?_
        · rw [head?_of_blank_or_sign other]
          rfl
        · rw [free s full back]
          rfl
      rw [passed]
      cases Text.firstMatch (fun ds => (head? ds).bind (bodyFrom? false)) p.after with
      | none => exact .none
      | some body => exact .some (.refl body)

theorem isModule_insert :
    Text.occursIn "defmodule".toList (p.before ++ (r.text ++ p.after)) = true := by
  rw [Text.occursIn_iff]
  have kept {cs : List Char} (inside : cs <:+: p.before ∨ cs <:+: p.after) :
      cs <:+: p.before ++ (r.text ++ p.after) := by
    rcases inside with before | after
    · exact before.trans (List.prefix_append _ _).isInfix
    · exact after.trans ((List.suffix_append _ _).trans (List.suffix_append _ _)).isInfix
  refine kept ?_
  rcases List.infix_append_iff.1 p.isModule with before | after | ⟨l, l', same, back, front⟩
  · exact .inl before
  · exact .inr after
  · by_cases full : l = []
    · rw [full, List.nil_append] at same
      exact .inr (same ▸ front.isInfix)
    · have line_end := List.mem_of_getLast? (p.endsLine_of_suffix full back)
      have listed : '\n' ∈ "defmodule".toList := by simp [same, line_end]
      exact absurd listed (by decide)

end Point

/-- Two files with the same name and with lists that declare the same are read alike. -/
theorem read?_congr (isModule : Text.occursIn "defmodule".toList cs = true)
    (isModule' : Text.occursIn "defmodule".toList ds = true) (name : appName? cs = appName? ds)
    (blocks : Option.Rel AlikeBodies (block? cs) (block? ds)) (directory : String) :
    read? directory cs = read? directory ds := by
  have alike : List.Forall₂ Alike
      (((block? cs).map fun body => tuples (stripComments body)).getD [])
      (((block? ds).map fun body => tuples (stripComments body)).getD []) := by
    generalize block? cs = found at blocks ⊢
    generalize block? ds = found' at blocks ⊢
    cases blocks with
    | none => exact .nil
    | some bodies => exact bodies
  have needed := map_filter_of_alike not alike
  have dev := map_filter_of_alike id alike
  rw [read?, read?, if_pos isModule, if_pos isModule', name]
  simp only [List.partition_eq_filter_filter]
  congr 2

/-- The line of a comment does not count at a place between two lines, outside of quoted texts, when
what it might be taken for is given before it. Elsewhere it does not count when no entry with a name
and no head of the function starts in it. -/
theorem read?_insert (p : Point) (r : Remark) (entry : p.Named ∨ p.EntryFree r.comment)
    (head : p.Listed ∨ p.HeadFree r.comment) (directory : String) :
    read? directory (p.before ++ (r.text ++ p.after)) = read? directory (p.before ++ p.after) := by
  symm
  exact read?_congr (Text.occursIn_iff.2 p.isModule) (p.isModule_insert r)
    (p.appName?_insert r entry).symm (p.rel_block?_insert r head) directory

/-- The start of a file, up to the list of its dependencies. -/
def shopStart : List Char :=
  "defmodule Shop do\n  def project do\n    [app: :shop]\n  end\n\n  defp deps do".toList

/-- The first lines of the list. -/
def shopList : List Char := "\n    [\n      \x7b:tag, \"~> 1.0\"\x7d,\n".toList

/-- The rest of the file. -/
def shopRest : List Char :=
  "      \x7b:stub, \"1\", only: :test\x7d\n    ]\n  end\nend\n".toList

/-- The only head stands before the list, which has no quoted text open at its end. -/
theorem shopList_outside {s b : List Char} (back : s <:+ shopStart ++ shopList)
    (found : head? s = some b) :
    Closed b ∧ ∀ t, t <:+ stripComments b → opensVersion t = false := by
  have heads : ∀ s ∈ (shopStart ++ shopList).tails, head? s = none ∨ head? s = some shopList := by
    decide +kernel
  have closed : Closed shopList := by
    have plain : ∀ c ∈ "\n    [\n      \x7b:tag, ".toList, c ∉ ['"', '#'] :=
      List.all_iff_forall_prop.1 (by decide)
    have plain' : ∀ c ∈ "\x7d,\n".toList, c ∉ ['"', '#'] := List.all_iff_forall_prop.1 (by decide)
    have inner : ∀ c ∈ "~> 1.0".toList, c ∉ ['"', '\\'] := List.all_iff_forall_prop.1 (by decide)
    have version : Quoted ("~> 1.0".toList ++ ['"']) := quoted_of_forall inner
    exact closed_append plain (.quoted version (closed_append plain' .nil))
  have no_version : ∀ t ∈ (stripComments shopList).tails, opensVersion t = false := by
    decide +kernel
  rcases heads s ((List.mem_tails _ _).2 back) with nothing | here
  · rw [nothing] at found
    cases found
  · obtain rfl : shopList = b := Option.some.inj (here.symm.trans found)
    exact ⟨closed, fun t inside => no_version t ((List.mem_tails _ _).2 inside)⟩

/-- A place between two dependencies. -/
def shopPoint : Point where
  before := shopStart ++ shopList
  after := shopRest
  isModule := Text.occursIn_iff.1 (by decide +kernel)
  line_start := .inr (by unfold EndsLine; decide +kernel)
  entry_apart s full back found := by
    have apart : ∀ s ∈ (shopStart ++ shopList).tails, s ≠ [] →
        (entryName? (s ++ shopRest)).isSome = true → (entryName? s).isSome = true := by
      decide +kernel
    exact apart s ((List.mem_tails _ _).2 back) full found
  head_apart s full back found := by
    have apart : ∀ s ∈ (shopStart ++ shopList).tails, s ≠ [] →
        (head? (s ++ shopRest)).isSome = true → (head? s).isSome = true := by
      decide +kernel
    exact apart s ((List.mem_tails _ _).2 back) full found
  closed s b back found _ := (shopList_outside back found).1
  no_version s b back found _ := (shopList_outside back found).2

/-- A comment that reads like all that the readers look for. -/
def misleading : Remark where
  gap := .spaces 6
  comment := ⟨" app: :old def deps do \x7b:old, \"~> 0.3\"\x7d \"".toList, by decide +kernel⟩

theorem read?_insert_misleading : shopPoint.Named ∧ shopPoint.Listed ∧
    read? "" (shopPoint.before ++ (misleading.text ++ shopPoint.after)) =
      read? "" (shopPoint.before ++ shopPoint.after) := by
  have named : shopPoint.Named :=
    ⟨(shopStart ++ shopList).drop 40, List.drop_suffix _ _, by decide +kernel⟩
  have listed : shopPoint.Listed :=
    ⟨(shopStart ++ shopList).drop 61, shopList, List.drop_suffix _ _, by decide +kernel,
      by decide +kernel⟩
  exact ⟨named, listed, read?_insert shopPoint misleading (.inl named) (.inl listed) ""⟩

/-- A comment that gives a name. -/
def oldName : Remark where
  gap := .spaces 2
  comment := ⟨" was app: :old".toList, by decide⟩

/-- A name in a comment counts when it comes before that of the application. -/
theorem commentedName_counts :
    (read? "" "defmodule Shop do\n  # was app: :old\n  [app: :shop]\nend\n".toList).map
      Manifest.name = some "old" ∧
    (read? "" "defmodule Shop do\n  [app: :shop]\nend\n".toList).map Manifest.name = some "shop" ∧
    ¬ ∀ (before after : List Char) (r : Remark) (directory : String),
      "defmodule".toList <+: before → EndsLine before → Closed before →
        read? directory (before ++ (r.text ++ after)) = read? directory (before ++ after) := by
  have commented :
      (read? "" "defmodule Shop do\n  # was app: :old\n  [app: :shop]\nend\n".toList).map
        Manifest.name = some "old" := by decide +kernel
  have plain : (read? "" "defmodule Shop do\n  [app: :shop]\nend\n".toList).map Manifest.name =
      some "shop" := by decide +kernel
  refine ⟨commented, plain, fun ignored => ?_⟩
  have unquoted : ∀ c ∈ "defmodule Shop do\n".toList, c ∉ ['"', '#'] :=
    List.all_iff_forall_prop.1 (by decide)
  have same := ignored "defmodule Shop do\n".toList "  [app: :shop]\nend\n".toList oldName ""
    ⟨" Shop do\n".toList, rfl⟩ rfl (closed_append unquoted .nil)
  have names : some "old" = some "shop" :=
    commented.symm.trans ((congrArg (Option.map Manifest.name) same).trans plain)
  exact absurd names (by decide)

end CodeGraph.MixProject
