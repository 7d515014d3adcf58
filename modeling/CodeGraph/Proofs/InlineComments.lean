import CodeGraph.Proofs.RequirementLines
import Mathlib.Data.Option.Basic

/-!
# Comments behind requirements

A comment is cut off where a space stands before its number sign. Behind any other blank the number
sign and what follows it belong to the line: they count as part of a constraint, and the fragment of
an address may come from them. Such a comment leaves only those lines alone whose end does not
matter.

Main definitions:

- `Requirement.Settled`: a line whose end does not matter;
- `Requirement.shown`: what is left of a comment that is not cut off.

Main statements:

- `Requirement.relevant_append_comment`: a comment behind a space does not count;
- `Requirement.exists_relevant_eq`: a comment behind another blank does;
- `Requirement.comment_dropped_iff`: which lines declare the same whatever comment follows.
-/
namespace CodeGraph.Requirement

variable {cs ds name : List Char} {r w c e : List Char}

/-! ## What a line declares -/

/-- A line declares what its relevant part declares. -/
theorem parse?_congr (same : relevant cs = relevant ds) :
    parse? (String.ofList cs) = parse? (String.ofList ds) := by
  unfold parse?
  simp only [String.toList_ofList, same]

theorem parse?_of_skipped (skipped : ∀ c ∈ (relevant cs).head?, c = '#' ∨ c = '-') :
    parse? (String.ofList cs) = none := by
  unfold parse?
  rw [String.toList_ofList]
  cases counted : relevant cs with
  | nil => rfl
  | cons d ds =>
    rw [counted] at skipped
    exact if_pos (skipped d rfl)

section Entry

variable (full : relevant cs ≠ []) (entry : ∀ c ∈ (relevant cs).head?, ¬ (c = '#' ∨ c = '-'))
include full entry

/-- An address declares the name before its at sign, or the one in its fragment. -/
theorem parse?_of_address (address : Text.occursIn [':', '/', '/'] (relevant cs) = true) :
    parse? (String.ofList cs) = ((referenceName? (relevant cs)).orElse fun _ =>
      fragmentName? (relevant cs)).map fun name => ⟨String.ofList name, none⟩ := by
  unfold parse?
  rw [String.toList_ofList]
  cases counted : relevant cs with
  | nil => exact absurd counted full
  | cons d ds =>
    rw [counted] at entry address
    have scheme : Text.occursIn "://".toList (d :: ds) = true := address
    simp only [if_neg (entry d rfl), if_pos scheme]

theorem parse?_of_nameless (no_address : Text.occursIn [':', '/', '/'] (relevant cs) = false)
    (nameless : nameAndRest? (relevant cs) = none) : parse? (String.ofList cs) = none := by
  unfold parse?
  rw [String.toList_ofList]
  cases counted : relevant cs with
  | nil => exact absurd counted full
  | cons d ds =>
    rw [counted] at entry no_address nameless
    have no_scheme : ¬ Text.occursIn "://".toList (d :: ds) = true := by simpa using no_address
    simp only [if_neg (entry d rfl), if_neg no_scheme, nameless]

end Entry

/-! ## Comments that are cut off -/

/-- No comment starts in a text without number signs. -/
theorem before_comment_eq_self (no_sign : '#' ∉ cs) : Text.before [' ', '#'] cs = cs := by
  have whole : Text.before [' ', '#'] (cs ++ []) = cs ++ Text.before [' ', '#'] [] :=
    Text.before_append_of_not_isInfix (fun inside => no_sign (inside.subset (by simp))) (by simp)
  rwa [Text.before, List.append_nil] at whole

theorem relevant_eq_trim (no_sign : '#' ∉ r) (no_condition : ';' ∉ r) :
    relevant r = Text.trim r := by
  rw [relevant, before_comment_eq_self no_sign, Text.before_eq_self no_condition]

/-- A comment behind a space does not count, and neither do the blanks before it. -/
theorem relevant_append_comment (no_sign : '#' ∉ r) (g : Text.Gap)
    (space : g.text.getLast? = some ' ') (c : List Char) :
    relevant (r ++ (g.text ++ '#' :: c)) = relevant r := by
  obtain ⟨v, hv⟩ := List.getLast?_eq_some_iff.1 space
  have blank : ∀ c ∈ v, Text.isBlank c = true := fun c hc => g.blank c (by simp [hv, hc])
  have absent {d : Char} (visible : Text.isBlank d = false) : d ∉ v := fun hd =>
    g.not_mem visible (by simp [hv, hd])
  have no_sign' : '#' ∉ r ++ v := List.not_mem_append no_sign (absent (by decide))
  have cut : Text.before [' ', '#'] ((r ++ v) ++ ' ' :: '#' :: c) = r ++ v := by
    rw [Text.before_append_of_not_isInfix (fun inside => no_sign' (inside.subset (by simp)))
      (by simp)]
    exact List.append_nil _
  have whole : r ++ (g.text ++ '#' :: c) = (r ++ v) ++ ' ' :: '#' :: c := by simp [hv]
  rw [relevant, relevant, whole, cut, before_comment_eq_self no_sign]
  by_cases condition : ';' ∈ r
  · rw [Text.before_append_of_mem condition]
  · have no_condition : ';' ∉ r ++ v := List.not_mem_append condition (absent (by decide))
    rw [Text.before_eq_self condition, Text.before_eq_self no_condition]
    exact Text.trimWhile_append_run blank

/-! ## Comments that are not cut off -/

/-- What is left of a comment that is not cut off. -/
def shown (c : List Char) : List Char :=
  Text.trimEndWhile Text.isBlank (Text.before [';'] (Text.before [' ', '#'] c))

section Kept

variable (no_sign : '#' ∉ r) (g : Text.Gap) (tab : ∀ c ∈ g.text.getLast?, c ≠ ' ')
  (full : g.text ≠ [])
include no_sign tab full

theorem before_comment_of_tab (c : List Char) :
    Text.before [' ', '#'] (r ++ (g.text ++ '#' :: c)) =
      r ++ (g.text ++ '#' :: Text.before [' ', '#'] c) := by
  obtain ⟨v, d, hv⟩ := (List.eq_nil_or_concat' g.text).resolve_left full
  have other : d ≠ ' ' := tab d (by simp [hv])
  have no_sign' : '#' ∉ r ++ v := by
    refine List.not_mem_append no_sign fun listed => ?_
    exact g.not_mem (c := '#') (by decide) (by simp [hv, listed])
  have visible : '#' ≠ d := by
    rintro rfl
    exact g.not_mem (c := '#') (by decide) (by simp [hv])
  have whole (cs : List Char) : r ++ (g.text ++ '#' :: cs) = (r ++ v) ++ ([d, '#'] ++ cs) := by
    simp [hv]
  have border : ∀ e ∈ ([d, '#'] ++ c).head?, e ∉ ['#'] := by
    rintro e ⟨⟩
    simpa using visible.symm
  rw [whole, whole,
    Text.before_append_of_not_isInfix (fun inside => no_sign' (inside.subset (by simp))) border,
    Text.before_append_of_not_mem (by simpa using other.symm)]

/-- A condition hides the comment behind it. -/
theorem relevant_of_condition (condition : ';' ∈ r) (c : List Char) :
    relevant (r ++ (g.text ++ '#' :: c)) = relevant r := by
  rw [relevant, relevant, before_comment_of_tab no_sign g tab full, before_comment_eq_self no_sign,
    Text.before_append_of_mem condition]

/-- Without a condition, the comment belongs to what counts. -/
theorem relevant_of_tab (no_condition : ';' ∉ r) (c : List Char) :
    relevant (r ++ (g.text ++ '#' :: c)) = Text.skipBlanks (r ++ g.text) ++ '#' :: shown c := by
  have no_condition' : ';' ∉ r ++ (g.text ++ ['#']) :=
    List.not_mem_append no_condition (List.not_mem_append (g.not_mem (by decide)) (by decide))
  have whole (cs : List Char) : r ++ (g.text ++ '#' :: cs) = (r ++ (g.text ++ ['#'])) ++ cs := by
    simp
  have skipped (cs : List Char) : Text.skipBlanks (r ++ (g.text ++ '#' :: cs)) =
      (Text.skipBlanks (r ++ g.text) ++ ['#']) ++ cs := by
    rw [Text.skipBlanks, ← List.append_assoc, List.dropWhile_append]
    split
    · next gone =>
      rw [Text.skipBlanks, List.isEmpty_iff.1 gone]
      rfl
    · simp [Text.skipBlanks]
  rw [relevant, before_comment_of_tab no_sign g tab full, whole,
    Text.before_append_of_not_mem no_condition', ← whole]
  show Text.trimEndWhile Text.isBlank (Text.skipBlanks _) = _
  rw [skipped, Text.trimEndWhile_append_of_stop (by simp; decide), shown, List.append_assoc]
  rfl

end Kept

/-! ## Names before a comment -/

theorem name?_append (stop : ∀ c ∈ ds.head?, isNameChar c = false) :
    name? (cs ++ ds) = (name? cs).map fun q => (q.1, q.2 ++ ds) := by
  have first : (cs ++ ds).head?.any startsName = cs.head?.any startsName := by
    cases cs with
    | nil =>
      cases ds with
      | nil => rfl
      | cons d ds =>
        have other : isNameChar d = false := stop d rfl
        simp only [isNameChar, Bool.or_eq_false_iff] at other
        simpa [startsName] using other.1.1.1
    | cons c cs => rfl
  unfold name?
  rw [first, Text.takeWhile_append_of_head stop, Text.dropWhile_append_of_head stop]
  split <;> rfl

theorem isSuffix_of_name? {rest : List Char} (named : name? cs = some (name, rest)) :
    rest <:+ cs := by
  unfold name? at named
  split at named
  · cases named
    exact List.dropWhile_suffix _
  · cases named

/-- The name that a text starts with leaves an opening bracket behind it without a closing one. -/
def LeavesOpen (cs name : List Char) : Prop :=
  ∃ rest inner, name? cs = some (name, rest) ∧ Text.skipBlanks rest = '[' :: inner ∧ ']' ∉ inner

theorem skipExtras_isSuffix (cs : List Char) : skipExtras cs <:+ cs := by
  unfold skipExtras
  split
  · next ds =>
    split
    · next left =>
      have back := List.dropWhile_suffix (l := ds) (· != ']')
      rw [left] at back
      exact (List.suffix_cons _ _).trans (back.trans (List.suffix_cons _ _))
    · exact List.suffix_rfl
  · exact List.suffix_rfl

theorem skipExtras_of_unclosed (unclosed : ']' ∉ cs) : skipExtras ('[' :: cs) = '[' :: cs := by
  have gone : cs.dropWhile (· != ']') = [] :=
    List.dropWhile_eq_nil_iff.2 fun c hc => bne_iff_ne.2 fun same => unclosed (same ▸ hc)
  rw [skipExtras, gone]

/-- Extras are found before what follows them, unless they end only there. -/
theorem skipExtras_append (full : cs ≠ [])
    (closed : ∀ inner, cs = '[' :: inner → ']' ∈ inner ∨ ']' ∉ ds) :
    skipExtras (cs ++ ds) = skipExtras cs ++ ds := by
  cases cs with
  | nil => exact absurd rfl full
  | cons c inner =>
    by_cases bracket : c = '['
    · subst bracket
      by_cases listed : ']' ∈ inner
      · rw [List.cons_append, skipExtras, skipExtras, List.dropWhile_append]
        cases left : inner.dropWhile (· != ']') with
        | nil => simpa using List.dropWhile_eq_nil_iff.1 left ']' listed
        | cons d es => rfl
      · have absent := (closed inner rfl).resolve_left listed
        rw [List.cons_append, skipExtras_of_unclosed (List.not_mem_append listed absent),
          skipExtras_of_unclosed listed]
        rfl
    · have other : ∀ d ∈ (c :: (inner ++ ds)).head?, d ≠ '[' := by
        rintro d ⟨⟩
        exact bracket
      rw [List.cons_append, skipExtras_eq_self other, skipExtras_eq_self (by simpa using other)]
      rfl

section Tail

variable (g : Text.Gap) (full : g.text ≠ []) (e : List Char)

/-- A comment, with the blanks before it. -/
theorem skipBlanks_comment : Text.skipBlanks (g.text ++ '#' :: e) = '#' :: e :=
  g.skipBlanks_append (by rintro c ⟨⟩; decide)

include full in
theorem isNameChar_of_mem_head?_comment :
    ∀ c ∈ (g.text ++ '#' :: e).head?, isNameChar c = false := by
  intro c hc
  rw [List.head?_append_of_ne_nil _ full] at hc
  exact isNameChar_of_isBlank (g.blank c (List.mem_of_mem_head? hc))

/-- Blanks are skipped up to the comment, if nothing else comes before it. -/
theorem skipBlanks_append_comment (last : ∀ c ∈ cs.getLast?, Text.isBlank c = false) :
    Text.skipBlanks (cs ++ (g.text ++ '#' :: e)) =
      if cs = [] then '#' :: e else Text.skipBlanks cs ++ (g.text ++ '#' :: e) := by
  split
  · next none_left => rw [none_left, List.nil_append, skipBlanks_comment g]
  · next some_left => exact Text.dropWhile_append_of_last some_left last

theorem last_of_isSuffix (back : ds <:+ cs) (last : ∀ c ∈ cs.getLast?, Text.isBlank c = false) :
    ∀ c ∈ ds.getLast?, Text.isBlank c = false := by
  obtain ⟨front, rfl⟩ := back
  intro c hc
  exact last c (by rw [List.getLast?_append, hc]; rfl)

/-- Extras behind a name, and the blanks around them, are skipped up to the comment. -/
theorem skip_append_comment (last : ∀ c ∈ cs.getLast?, Text.isBlank c = false)
    (closed : ∀ inner, Text.skipBlanks cs = '[' :: inner → ']' ∈ inner ∨ ']' ∉ e) :
    Text.skipBlanks (skipExtras (Text.skipBlanks (cs ++ (g.text ++ '#' :: e)))) =
      if Text.skipBlanks (skipExtras (Text.skipBlanks cs)) = [] then '#' :: e
      else Text.skipBlanks (skipExtras (Text.skipBlanks cs)) ++ (g.text ++ '#' :: e) := by
  by_cases at_end : cs = []
  · subst at_end
    rw [List.nil_append, skipBlanks_comment g]
    rfl
  · have left : Text.skipBlanks cs ≠ [] := Text.dropWhile_ne_nil at_end last
    have closed' (inner : List Char) (opened : Text.skipBlanks cs = '[' :: inner) :
        ']' ∈ inner ∨ ']' ∉ g.text ++ '#' :: e :=
      (closed inner opened).imp_right fun absent =>
        List.not_mem_append (g.not_mem (by decide)) (by simpa using absent)
    have back : skipExtras (Text.skipBlanks cs) <:+ cs :=
      (skipExtras_isSuffix _).trans (List.dropWhile_suffix Text.isBlank)
    have last' := last_of_isSuffix back last
    rw [skipBlanks_append_comment g e last, if_neg at_end, skipExtras_append left closed',
      skipBlanks_append_comment g e last']
    by_cases none_left : skipExtras (Text.skipBlanks cs) = []
    · rw [if_pos none_left, none_left]
      rfl
    · have some_left : Text.skipBlanks (skipExtras (Text.skipBlanks cs)) ≠ [] :=
        Text.dropWhile_ne_nil none_left last'
      rw [if_neg none_left, if_neg some_left]

end Tail

theorem referenceName?_eq_some_iff : referenceName? cs = some name ↔
    ∃ rest, nameAndRest? cs = some (name, rest) ∧ rest.head? = some '@' := by
  constructor
  · intro referred
    obtain ⟨⟨found, rest⟩, named, referred⟩ := Option.bind_eq_some_iff.1 referred
    obtain ⟨_, sign, same⟩ := Option.bind_eq_some_iff.1 referred
    obtain rfl : found = name := Option.some.inj same
    exact ⟨rest, named, beq_iff_eq.1 ((Option.guard_eq_some' _).1 sign)⟩
  · rintro ⟨rest, named, sign⟩
    refine Option.bind_eq_some_iff.2 ⟨(name, rest), named, Option.bind_eq_some_iff.2 ⟨(), ?_, rfl⟩⟩
    exact (Option.guard_eq_some' _).2 (beq_iff_eq.2 sign)

/-- A text with a visible character at both ends. -/
structure Core (cs : List Char) : Prop where
  full : cs ≠ []
  first : ∀ c ∈ cs.head?, Text.isBlank c = false
  last : ∀ c ∈ cs.getLast?, Text.isBlank c = false

namespace Core

variable {core rest : List Char} (h : Core core) (g : Text.Gap) (full : g.text ≠ []) (e : List Char)
include h

theorem nameAndRest?_eq : nameAndRest? core =
    (name? core).map fun q => (q.1, Text.skipBlanks (skipExtras (Text.skipBlanks q.2))) := by
  rw [nameAndRest?, Text.skipBlanks, Text.dropWhile_eq_self_of_head h.first]

theorem first_append : ∀ c ∈ (core ++ ds).head?, Text.isBlank c = false := by
  rw [List.head?_append_of_ne_nil _ h.full]
  exact h.first

include full

theorem nameAndRest?_append (e : List Char) : nameAndRest? (core ++ (g.text ++ '#' :: e)) =
    (name? core).map fun q => (q.1,
      Text.skipBlanks (skipExtras (Text.skipBlanks (q.2 ++ (g.text ++ '#' :: e))))) := by
  rw [nameAndRest?, Text.skipBlanks, Text.dropWhile_eq_self_of_head h.first_append,
    name?_append (isNameChar_of_mem_head?_comment g full e), Option.map_map]
  rfl

/-- The name before a comment and what stands between the two. -/
theorem nameAndRest?_append_comment (found : nameAndRest? core = some (name, rest))
    (closed : LeavesOpen core name → ']' ∉ e) :
    nameAndRest? (core ++ (g.text ++ '#' :: e)) =
      some (name, if rest = [] then '#' :: e else rest ++ (g.text ++ '#' :: e)) := by
  rw [h.nameAndRest?_eq] at found
  obtain ⟨⟨name', behind⟩, named, same⟩ := Option.map_eq_some_iff.1 found
  obtain ⟨rfl, rfl⟩ := Prod.mk.inj same
  have closed' (inner : List Char) (opened : Text.skipBlanks behind = '[' :: inner) :
      ']' ∈ inner ∨ ']' ∉ e := by
    by_cases listed : ']' ∈ inner
    · exact .inl listed
    · exact .inr (closed ⟨behind, inner, named, opened, listed⟩)
  have last := last_of_isSuffix (isSuffix_of_name? named) h.last
  rw [h.nameAndRest?_append g full, named, Option.map_some, skip_append_comment g e last closed']

/-- Extras that are left open may end in the comment. -/
theorem nameAndRest?_of_leavesOpen (opened : LeavesOpen core name) :
    nameAndRest? (core ++ (g.text ++ '#' :: [']', '@'])) = some (name, ['@']) := by
  obtain ⟨behind, inner, named, bracket, unclosed⟩ := opened
  have bracketed : behind ≠ [] := by
    rintro rfl
    cases bracket
  have last := last_of_isSuffix (isSuffix_of_name? named) h.last
  have closing : (inner ++ (g.text ++ ['#', ']', '@'])).dropWhile (· != ']') = [']', '@'] := by
    have whole :
        inner ++ (g.text ++ ['#', ']', '@']) = (inner ++ (g.text ++ ['#'])) ++ [']', '@'] := by simp
    have absent : ']' ∉ inner ++ (g.text ++ ['#']) :=
      List.not_mem_append unclosed (List.not_mem_append (g.not_mem (by decide)) (by decide))
    rw [whole]
    exact Text.dropWhile_append_of_stop
      (fun c hc => bne_iff_ne.2 fun same => absent (same ▸ hc)) (by rintro c ⟨⟩; rfl)
  rw [h.nameAndRest?_append g full, named, Option.map_some, skipBlanks_append_comment g _ last,
    if_neg bracketed, bracket, List.cons_append, skipExtras, closing]
  rfl

omit full in
/-- A bracket that is left open stands behind the name. -/
theorem head?_of_leavesOpen (split : nameAndRest? core = some (name, rest))
    (opened : LeavesOpen core name) : rest.head? = some '[' := by
  obtain ⟨behind, inner, named, bracket, unclosed⟩ := opened
  rw [h.nameAndRest?_eq, named, Option.map_some, bracket, skipExtras_of_unclosed unclosed] at split
  obtain ⟨-, rfl⟩ := Prod.mk.inj (Option.some.inj split)
  rfl

/-- The name before an at sign is the same with a comment behind it. -/
theorem referenceName?_append_comment (found : referenceName? core = some name) :
    referenceName? (core ++ (g.text ++ '#' :: e)) = some name := by
  obtain ⟨rest, split, sign⟩ := referenceName?_eq_some_iff.1 found
  have closed (opened : LeavesOpen core name) : ']' ∉ e := by
    have bracket := h.head?_of_leavesOpen split opened
    rw [sign] at bracket
    cases bracket
  have nonempty : rest ≠ [] := by
    rintro rfl
    cases sign
  rw [referenceName?_eq_some_iff, h.nameAndRest?_append_comment g full e split closed,
    if_neg nonempty]
  exact ⟨_, rfl, by rw [List.head?_append_of_ne_nil _ nonempty, sign]⟩

/-- A comment lets a name stand before an at sign only if it closes a bracket. -/
theorem referenceName?_of_append_comment
    (found : referenceName? (core ++ (g.text ++ '#' :: e)) = some name) :
    referenceName? core = some name ∨ LeavesOpen core name := by
  by_cases opened : LeavesOpen core name
  · exact .inr opened
  left
  obtain ⟨tail, split', sign⟩ := referenceName?_eq_some_iff.1 found
  have named : ∃ behind, name? core = some (name, behind) := by
    rw [h.nameAndRest?_append g full] at split'
    obtain ⟨⟨_, behind⟩, named, same⟩ := Option.map_eq_some_iff.1 split'
    obtain ⟨rfl, -⟩ := Prod.mk.inj same
    exact ⟨behind, named⟩
  obtain ⟨behind, named⟩ := named
  have split := h.nameAndRest?_eq
  rw [named, Option.map_some] at split
  rw [h.nameAndRest?_append_comment g full e split fun opened' => absurd opened' opened] at split'
  obtain ⟨-, rfl⟩ := Prod.mk.inj (Option.some.inj split')
  refine referenceName?_eq_some_iff.2 ⟨_, split, ?_⟩
  split at sign
  · cases sign
  · next nonempty => rwa [List.head?_append_of_ne_nil _ nonempty] at sign

end Core

/-- Names in the fragment of an address are looked for in the comment when there are none
before it. -/
theorem fragmentName?_append_comment (cs : List Char) (g : Text.Gap) (full : g.text ≠ [])
    (e : List Char) : fragmentName? (cs ++ (g.text ++ '#' :: e)) =
      (fragmentName? cs).orElse fun _ => fragmentName? (g.text ++ '#' :: e) := by
  refine Text.firstMatch_append rfl fun s nonempty _ => ?_
  have stop : ∀ c ∈ (g.text ++ '#' :: e).head?, c ∈ g.text := by
    intro c hc
    rw [List.head?_append_of_ne_nil _ full] at hc
    exact List.mem_of_mem_head? hc
  cases s with
  | nil => exact absurd rfl nonempty
  | cons c s =>
    have visible : ∀ c ∈ "egg=".toList, Text.isBlank c = false :=
      List.all_iff_forall_prop.1 (by decide)
    have sign : Text.dropPrefix? "egg=".toList (s ++ (g.text ++ '#' :: e)) =
        (Text.dropPrefix? "egg=".toList s).map (· ++ (g.text ++ '#' :: e)) :=
      Text.dropPrefix?_append fun c hc listed => g.not_mem (visible c listed) (stop c hc)
    simp only [List.cons_append, sign]
    cases Text.dropPrefix? "egg=".toList s with
    | none => rfl
    | some rest =>
      have named : name? (rest ++ (g.text ++ '#' :: e)) =
          (name? rest).map fun q => (q.1, q.2 ++ (g.text ++ '#' :: e)) :=
        name?_append (isNameChar_of_mem_head?_comment g full e)
      cases found : name? rest with
      | none => simp [named, found]
      | some q => simp [named, found]

/-! ## Lines whose end does not matter -/

/-- A line declares the same whatever stands behind it when it has a condition, when it is blank or
an option, or when it is an address that is named and leaves no bracket open (but for one behind the
same name). -/
inductive Settled (r : List Char) : Prop
  | condition (listed : ';' ∈ r)
  | skipped (entry : ∀ c ∈ (relevant r).head?, c = '-')
  | address (name : List Char) (scheme : Text.occursIn [':', '/', '/'] (relevant r) = true)
      (named : parse? (String.ofList r) = some ⟨String.ofList name, none⟩)
      (closed : ∀ opened, LeavesOpen (relevant r) opened → opened = name)

section Line

variable (no_sign : '#' ∉ r) (no_condition : ';' ∉ r) (g : Text.Gap)
  (tab : ∀ c ∈ g.text.getLast?, c ≠ ' ') (full : g.text ≠ [])

include no_sign no_condition in
theorem core_relevant (nonempty : relevant r ≠ []) : Core (relevant r) := by
  rw [relevant_eq_trim no_sign no_condition] at nonempty ⊢
  exact ⟨nonempty, fun c => Text.eq_false_of_mem_head?_trimWhile,
    fun c => Text.eq_false_of_mem_getLast?_trimWhile⟩

include no_sign no_condition tab full

/-- A comment stands behind what counts without it, and behind blanks. -/
theorem exists_relevant_eq (one_line : '\n' ∉ r) (nonempty : relevant r ≠ []) :
    ∃ gap : Text.Gap, gap.text ≠ [] ∧
      ∀ c, relevant (r ++ (g.text ++ '#' :: c)) = relevant r ++ (gap.text ++ '#' :: shown c) := by
  have core := core_relevant no_sign no_condition nonempty
  obtain ⟨front, back, whole, front_blank, back_blank⟩ := Text.exists_trimWhile Text.isBlank r
  change r = front ++ (Text.trim r ++ back) at whole
  rw [← relevant_eq_trim no_sign no_condition] at whole
  have one_line' : '\n' ∉ back := fun listed => one_line (by rw [whole]; simp [listed])
  refine ⟨⟨⟨back ++ g.text, fun c hc => (List.mem_append.1 hc).elim (back_blank c) (g.blank c)⟩,
    List.not_mem_append one_line' g.one_line⟩, by simp [full], fun c => ?_⟩
  have skipped : Text.skipBlanks (r ++ g.text) = relevant r ++ (back ++ g.text) := by
    conv_lhs => rw [whole, List.append_assoc, List.append_assoc]
    exact Text.dropWhile_append_of_stop front_blank core.first_append
  rw [relevant_of_tab no_sign g tab full no_condition, skipped, List.append_assoc]

/-- A comment behind blanks is a line without content. -/
theorem parse?_of_blank (nothing : relevant r = []) (c : List Char) :
    parse? (String.ofList (r ++ (g.text ++ '#' :: c))) = none := by
  apply parse?_of_skipped
  have blank : ∀ d ∈ r ++ g.text, Text.isBlank d = true := by
    rw [relevant_eq_trim no_sign no_condition] at nothing
    obtain ⟨front, back, whole, front_blank, back_blank⟩ := Text.exists_trimWhile Text.isBlank r
    rw [show Text.trimWhile Text.isBlank r = [] from nothing] at whole
    intro d hd
    simp only [whole, List.nil_append, List.mem_append, or_assoc] at hd
    exact hd.elim (front_blank d) fun hd => hd.elim (back_blank d) (g.blank d)
  rw [relevant_of_tab no_sign g tab full no_condition, Text.skipBlanks,
    List.dropWhile_eq_nil_iff.2 blank]
  rintro d ⟨⟩
  exact .inl rfl

end Line

theorem isSuffix_of_nameAndRest? {rest : List Char} (split : nameAndRest? cs = some (name, rest)) :
    rest <:+ cs := by
  obtain ⟨⟨name', behind⟩, named, same⟩ := Option.map_eq_some_iff.1 split
  obtain ⟨-, rfl⟩ := Prod.mk.inj same
  have blanks (cs : List Char) : Text.skipBlanks cs <:+ cs := List.dropWhile_suffix _
  exact ((blanks _).trans (skipExtras_isSuffix _)).trans
    ((blanks _).trans ((isSuffix_of_name? named).trans (blanks cs)))

theorem constraintOf_isInfix (cs : List Char) : constraintOf cs <:+: cs :=
  (Text.trimWhile_isInfix _ _).trans
    ((Text.trimWhile_isInfix _ _).trans (Text.trimWhile_isInfix _ cs))

theorem sign_mem_constraintOf (sign : '#' ∈ cs) : '#' ∈ constraintOf cs :=
  Text.mem_trimWhile (Text.mem_trimWhile (Text.mem_trimWhile sign (by decide)) rfl) (by decide)

/-- A line that declares something starts with what a declaration starts with. -/
theorem entry_of_parse? {d : Dependency} (declared : parse? (String.ofList cs) = some d) :
    relevant cs ≠ [] ∧ ∀ c ∈ (relevant cs).head?, ¬ (c = '#' ∨ c = '-') := by
  have entered : ¬ ∀ c ∈ (relevant cs).head?, c = '#' ∨ c = '-' := fun skipped => by
    rw [parse?_of_skipped skipped] at declared
    cases declared
  cases counted : relevant cs with
  | nil => exact absurd (by simp [counted]) entered
  | cons c cs => simpa [counted] using entered

section Counted

variable {core : List Char} (h : Core core) (entry : ∀ c ∈ core.head?, ¬ (c = '#' ∨ c = '-'))
  (gap : Text.Gap) (full : gap.text ≠ []) (counted : relevant cs = core ++ (gap.text ++ '#' :: e))
include h entry counted

theorem entry_of_counted : relevant cs ≠ [] ∧ ∀ c ∈ (relevant cs).head?, ¬ (c = '#' ∨ c = '-') := by
  rw [counted]
  refine ⟨by simp, ?_⟩
  rwa [List.head?_append_of_ne_nil _ h.full]

include full

/-- A line with an address is named by its comment, if not before. -/
theorem isSome_parse?_of_counted (scheme : [':', '/', '/'] <:+: relevant cs)
    (named : (fragmentName? (gap.text ++ '#' :: e)).isSome = true) :
    (parse? (String.ofList cs)).isSome = true := by
  obtain ⟨nonempty, entry'⟩ := entry_of_counted h entry gap counted
  rw [parse?_of_address nonempty entry' (Text.occursIn_iff.2 scheme), Option.isSome_map, counted,
    fragmentName?_append_comment core gap full e]
  cases referenceName? (core ++ (gap.text ++ '#' :: e)) with
  | some n => rfl
  | none =>
    cases fragmentName? core with
    | some n => rfl
    | none => exact named

/-- A comment of its number sign alone becomes part of a constraint. -/
theorem exists_parse?_of_counted {rest : List Char} (bare : e = [])
    (no_address : ¬ [':', '/', '/'] <:+: core) (one_line : '\n' ∉ core)
    (split : nameAndRest? core = some (name, rest)) :
    ∃ v, '#' ∈ v ∧ parse? (String.ofList cs) =
      some ⟨String.ofList name, some (String.ofList v)⟩ := by
  subst bare
  obtain ⟨-, entry'⟩ := entry_of_counted h entry gap counted
  have split' := h.nameAndRest?_append_comment gap full [] split fun _ => by simp
  have tail_of_gap : ∀ c ∈ gap.text ++ ['#'], Text.isBlank c = true ∨ c = '#' := fun c hc =>
    (List.mem_append.1 hc).imp (gap.blank c) List.mem_singleton.1
  have no_address' : Text.occursIn [':', '/', '/'] (relevant cs) = false := by
    have no_colon : ':' ∉ gap.text ++ ['#'] :=
      List.not_mem_append (gap.not_mem (by decide)) (by decide)
    have border : ∀ c ∈ (gap.text ++ ['#']).head?, c ∉ ['/', '/'] := by
      intro c hc listed
      obtain rfl : c = '/' := by simpa using listed
      rcases tail_of_gap '/' (List.mem_of_mem_head? hc) with blank | sign
      · cases blank
      · cases sign
    rw [counted, Bool.eq_false_iff, Ne, Text.occursIn_iff]
    exact Text.not_isInfix_append no_address
      (fun inside => no_colon (inside.subset (by simp))) border
  obtain ⟨rest', split', sign, one_line'⟩ :
      ∃ rest', nameAndRest? (relevant cs) = some (name, rest') ∧ '#' ∈ rest' ∧ '\n' ∉ rest' := by
    refine ⟨_, counted ▸ split', ?_, ?_⟩
    · split <;> simp
    · have line_end : '\n' ∉ gap.text ++ ['#'] := List.not_mem_append gap.one_line (by decide)
      split
      · decide
      · exact List.not_mem_append
          (fun listed => one_line ((isSuffix_of_nameAndRest? split).subset listed)) line_end
  refine ⟨constraintOf rest', sign_mem_constraintOf sign, ?_⟩
  have some_left : ¬ (constraintOf rest').isEmpty = true := by
    rw [List.isEmpty_iff]
    exact List.ne_nil_of_mem (sign_mem_constraintOf sign)
  rw [parse?_of_nameAndRest? split' entry' no_address' one_line', if_neg some_left]

end Counted

section Tab

variable (no_sign : '#' ∉ r) (one_line : '\n' ∉ r) (g : Text.Gap)
  (tab : ∀ c ∈ g.text.getLast?, c ≠ ' ') (full : g.text ≠ [])
include no_sign one_line tab full

/-- An address keeps its name whatever comment stands behind it. -/
theorem parse?_of_named_address (no_condition : ';' ∉ r)
    (scheme : Text.occursIn [':', '/', '/'] (relevant r) = true)
    (named : parse? (String.ofList r) = some ⟨String.ofList name, none⟩)
    (closed : ∀ opened, LeavesOpen (relevant r) opened → opened = name) (c : List Char) :
    parse? (String.ofList (r ++ (g.text ++ '#' :: c))) = some ⟨String.ofList name, none⟩ := by
  obtain ⟨nonempty, entry⟩ := entry_of_parse? named
  have core := core_relevant no_sign no_condition nonempty
  obtain ⟨gap, gap_full, counted⟩ :=
    exists_relevant_eq no_sign no_condition g tab full one_line nonempty
  obtain ⟨nonempty', entry'⟩ := entry_of_counted core entry gap (counted c)
  have scheme' : Text.occursIn [':', '/', '/'] (relevant (r ++ (g.text ++ '#' :: c))) = true := by
    rw [Text.occursIn_iff] at scheme ⊢
    rw [counted]
    exact scheme.trans (List.prefix_append _ _).isInfix
  have found : ((referenceName? (relevant r)).orElse fun _ => fragmentName? (relevant r)) =
      some name := by
    rw [parse?_of_address nonempty entry scheme] at named
    obtain ⟨n, found, same⟩ := Option.map_eq_some_iff.1 named
    rw [found, String.ofList_inj.1 (Dependency.mk.inj same).1]
  rw [parse?_of_address nonempty' entry' scheme', counted]
  have found' : ((referenceName? (relevant r ++ (gap.text ++ '#' :: shown c))).orElse fun _ =>
      fragmentName? (relevant r ++ (gap.text ++ '#' :: shown c))) = some name := by
    cases reference' : referenceName? (relevant r ++ (gap.text ++ '#' :: shown c)) with
    | some n =>
      rcases core.referenceName?_of_append_comment gap gap_full _ reference' with before | opened
      · rw [before] at found
        exact found
      · exact congrArg some (closed n opened)
    | none =>
      cases reference : referenceName? (relevant r) with
      | some n =>
        rw [core.referenceName?_append_comment gap gap_full _ reference] at reference'
        cases reference'
      | none =>
        have fragment : fragmentName? (relevant r) = some name := by rwa [reference] at found
        show fragmentName? _ = _
        rw [fragmentName?_append_comment _ gap gap_full, fragment]
        rfl
  rw [found']
  rfl

/-- A comment behind a tab does not matter to a settled line. -/
theorem parse?_of_settled (settled : Settled r) (c : List Char) :
    parse? (String.ofList (r ++ (g.text ++ '#' :: c))) = parse? (String.ofList r) := by
  by_cases condition : ';' ∈ r
  · exact parse?_congr (relevant_of_condition no_sign g tab full condition c)
  cases settled with
  | condition listed => exact absurd listed condition
  | skipped entry =>
    rw [parse?_of_skipped fun c hc => .inr (entry c hc)]
    by_cases nothing : relevant r = []
    · exact parse?_of_blank no_sign condition g tab full nothing c
    · obtain ⟨gap, -, counted⟩ := exists_relevant_eq no_sign condition g tab full one_line nothing
      apply parse?_of_skipped
      rw [counted, List.head?_append_of_ne_nil _ nothing]
      exact fun c hc => .inr (entry c hc)
  | address name scheme named closed =>
    rw [parse?_of_named_address no_sign one_line g tab full condition scheme named closed, named]

omit tab full in
omit one_line g in
theorem relevant_isInfix (no_condition : ';' ∉ r) : relevant r <:+: r := by
  rw [relevant_eq_trim no_sign no_condition]
  exact Text.trimWhile_isInfix _ r

section Changed

variable (same : ∀ c, '\n' ∉ c →
    parse? (String.ofList (r ++ (g.text ++ '#' :: c))) = parse? (String.ofList r))
  (no_condition : ';' ∉ r) (nonempty : relevant r ≠ [])
  (entry : ∀ c ∈ (relevant r).head?, ¬ (c = '#' ∨ c = '-'))
include same no_condition nonempty entry

/-- A comment can name an address that has no name, and rename one that leaves a bracket open. -/
theorem settled_of_address (scheme : Text.occursIn [':', '/', '/'] (relevant r) = true) :
    Settled r := by
  have core := core_relevant no_sign no_condition nonempty
  obtain ⟨gap, gap_full, counted⟩ :=
    exists_relevant_eq no_sign no_condition g tab full one_line nonempty
  have scheme' (c : List Char) : [':', '/', '/'] <:+: relevant (r ++ (g.text ++ '#' :: c)) := by
    rw [counted]
    exact (Text.occursIn_iff.1 scheme).trans (List.prefix_append _ _).isInfix
  cases declared : parse? (String.ofList r) with
  | none =>
    have named : (fragmentName? (gap.text ++ '#' :: shown "egg=x".toList)).isSome = true :=
      Text.isSome_firstMatch_iff.2 ⟨_, List.suffix_append _ _, by decide⟩
    have found := isSome_parse?_of_counted core entry gap gap_full (counted "egg=x".toList)
      (scheme' _) named
    rw [same _ (by decide), declared] at found
    cases found
  | some d =>
    have named := declared
    rw [parse?_of_address nonempty entry scheme] at named
    obtain ⟨name, -, rfl⟩ := Option.map_eq_some_iff.1 named
    refine .address name scheme declared fun opened bracket => ?_
    have reference : referenceName? (relevant (r ++ (g.text ++ '#' :: [']', '@']))) =
        some opened := by
      rw [counted]
      exact referenceName?_eq_some_iff.2
        ⟨['@'], core.nameAndRest?_of_leavesOpen gap gap_full bracket, rfl⟩
    obtain ⟨nonempty', entry'⟩ := entry_of_counted core entry gap (counted [']', '@'])
    have renamed := same [']', '@'] (by decide)
    rw [parse?_of_address nonempty' entry' (Text.occursIn_iff.2 (scheme' _)), reference,
      declared] at renamed
    exact String.ofList_inj.1 (Dependency.mk.inj (Option.some.inj renamed)).1

/-- A comment makes an address of a line without a name, and is taken for a constraint behind a
name. -/
theorem occursIn_of_forall : Text.occursIn [':', '/', '/'] (relevant r) = true := by
  by_contra no_address
  have core := core_relevant no_sign no_condition nonempty
  obtain ⟨gap, gap_full, counted⟩ :=
    exists_relevant_eq no_sign no_condition g tab full one_line nonempty
  have no_address' : Text.occursIn [':', '/', '/'] (relevant r) = false := by simpa using no_address
  cases split : nameAndRest? (relevant r) with
  | none =>
    have left : shown "egg=x ://".toList = "egg=x ://".toList := by decide
    have scheme : [':', '/', '/'] <:+: relevant (r ++ (g.text ++ '#' :: "egg=x ://".toList)) := by
      rw [counted, left]
      exact ⟨relevant r ++ (gap.text ++ "#egg=x ".toList), [], by simp⟩
    have named : (fragmentName? (gap.text ++ '#' :: shown "egg=x ://".toList)).isSome = true :=
      Text.isSome_firstMatch_iff.2 ⟨_, List.suffix_append _ _, by decide⟩
    have found := isSome_parse?_of_counted core entry gap gap_full (counted "egg=x ://".toList)
      scheme named
    rw [same _ (by decide), parse?_of_nameless nonempty entry no_address' split] at found
    cases found
  | some q =>
    obtain ⟨name, rest⟩ := q
    have inside := relevant_isInfix no_sign no_condition
    have one_line' : '\n' ∉ relevant r := fun listed => one_line (inside.subset listed)
    have back := isSuffix_of_nameAndRest? split
    obtain ⟨v, sign, declared⟩ := exists_parse?_of_counted core entry gap gap_full (counted []) rfl
      (mt Text.occursIn_iff.2 no_address) one_line' split
    rw [same [] (by simp), parse?_of_nameAndRest? split entry no_address'
      fun listed => one_line' (back.subset listed)] at declared
    have version := (Dependency.mk.inj (Option.some.inj declared)).2
    split at version
    · cases version
    · have constraint : constraintOf rest = v := String.ofList_inj.1 (Option.some.inj version)
      rw [← constraint] at sign
      exact no_sign (inside.subset (back.subset ((constraintOf_isInfix rest).subset sign)))

end Changed

/-- A line that is not settled is changed by some comment behind a tab. -/
theorem settled_of_forall (same : ∀ c, '\n' ∉ c →
    parse? (String.ofList (r ++ (g.text ++ '#' :: c))) = parse? (String.ofList r)) :
    Settled r := by
  by_cases condition : ';' ∈ r
  · exact .condition condition
  by_cases skipped : ∀ c ∈ (relevant r).head?, c = '-'
  · exact .skipped skipped
  have nonempty : relevant r ≠ [] := by
    intro nothing
    exact skipped (by simp [nothing])
  have entry : ∀ c ∈ (relevant r).head?, ¬ (c = '#' ∨ c = '-') := by
    rintro c hc (rfl | rfl)
    · exact no_sign ((relevant_isInfix no_sign condition).subset (List.mem_of_mem_head? hc))
    · exact skipped fun d hd => Option.mem_unique hd hc
  have scheme := occursIn_of_forall no_sign one_line g tab full same condition nonempty entry
  exact settled_of_address no_sign one_line g tab full same condition nonempty entry scheme

end Tab

/-- A requirement declares the same with and without a comment behind it, whatever the comment says,
exactly when the comment stands behind a space or the line does not care for its end. -/
theorem comment_dropped_iff (no_sign : '#' ∉ r) (one_line : '\n' ∉ r) (g : Text.Gap)
    (full : g.text ≠ []) :
    (∀ c, '\n' ∉ c → parse? (String.ofList (r ++ (g.text ++ '#' :: c))) =
      parse? (String.ofList r)) ↔ g.text.getLast? = some ' ' ∨ Settled r := by
  by_cases space : g.text.getLast? = some ' '
  · simp only [space, true_or, iff_true]
    exact fun c _ => parse?_congr (relevant_append_comment no_sign g space c)
  · have tab : ∀ c ∈ g.text.getLast?, c ≠ ' ' := fun c hc same => space (same ▸ hc)
    simp only [space, false_or]
    exact ⟨settled_of_forall no_sign one_line g tab full,
      fun settled c _ => parse?_of_settled no_sign one_line g tab full settled c⟩

theorem isBlank_of_mem_tab : ∀ c ∈ ['\t'], Text.isBlank c = true :=
  List.all_iff_forall_prop.1 (by decide)

/-- A single tab. -/
def oneTab : Text.Gap where
  text := ['\t']
  blank := isBlank_of_mem_tab
  one_line := by decide

/-- Behind a tab, the comment of a plain requirement is read as its constraint. -/
theorem tabbedComment_counts :
    parse? "flask\t# web" = some ⟨"flask", some "# web"⟩ ∧ parse? "flask" = some ⟨"flask", none⟩ ∧
    ¬ ∀ (r c : List Char) (g : Text.Gap), '#' ∉ r → '\n' ∉ r → '\n' ∉ c → g.text ≠ [] →
      parse? (String.ofList (r ++ (g.text ++ '#' :: c))) = parse? (String.ofList r) := by
  have kept : parse? "flask\t# web" = some ⟨"flask", some "# web"⟩ := by decide
  have plain : parse? "flask" = some ⟨"flask", none⟩ := by decide
  refine ⟨kept, plain, fun dropped => ?_⟩
  have same := dropped "flask".toList " web".toList oneTab (by decide) (by decide) (by decide)
    (by decide)
  have kept' : parse? (String.ofList ("flask".toList ++ (oneTab.text ++ '#' :: " web".toList))) =
      some ⟨"flask", some "# web"⟩ := kept
  rw [kept', show parse? (String.ofList "flask".toList) = some ⟨"flask", none⟩ from plain] at same
  cases same

/-- A reference to an address keeps its name before any comment. -/
theorem comment_dropped_iff_reference :
    '#' ∉ "web [a] @ https://b".toList ∧ '\n' ∉ "web [a] @ https://b".toList ∧
    oneTab.text ≠ [] ∧ oneTab.text.getLast? ≠ some ' ' ∧
    ∀ c, '\n' ∉ c → parse? (String.ofList ("web [a] @ https://b".toList ++ (['\t'] ++ '#' :: c))) =
      some ⟨"web", none⟩ := by
  have named : parse? (String.ofList "web [a] @ https://b".toList) = some ⟨"web", none⟩ := by decide
  have settled : Settled "web [a] @ https://b".toList := by
    refine .address "web".toList (by decide) named fun opened left => ?_
    obtain ⟨rest, inner, found, bracket, unclosed⟩ := left
    have read : name? (relevant "web [a] @ https://b".toList) =
        some ("web".toList, " [a] @ https://b".toList) := by decide
    obtain ⟨rfl, rfl⟩ := Prod.mk.inj (Option.some.inj (read.symm.trans found))
    have closed : Text.skipBlanks " [a] @ https://b".toList = '[' :: "a] @ https://b".toList := by
      decide
    obtain rfl : "a] @ https://b".toList = inner := (List.cons.inj (closed.symm.trans bracket)).2
    exact absurd (by decide) unclosed
  refine ⟨by decide, by decide, by decide, by decide, ?_⟩
  rw [← named]
  exact (comment_dropped_iff (by decide) (by decide) oneTab (by decide)).2 (.inr settled)

end CodeGraph.Requirement
