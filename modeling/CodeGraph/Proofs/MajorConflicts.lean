import CodeGraph.Proofs.UnparsedVersions
import Mathlib.Data.List.TakeWhile

/-!
# Conflicts of major versions

The conflicts of a portfolio, told from its manifests. A dependency is in conflict exactly when two
constraints on it name different major versions, in whatever manifests they stand and for whatever
use. It is reported once, with all major versions that are asked for, the smallest first, and with
the constraints that name one.

The number of a version is not converted when it has too many digits. Digits of a version are a run
of digits in its text, so nothing is refused as long as no text has such a long run.

Main definitions:

- `Version.FewDigits`: each run of digits in a constraint can be converted;
- `AsksMajor`: a portfolio declares a dependency with a major version.

Main statements:

- `Version.isInfix_leadingDigits`: the digits of a major version stand in the constraint;
- `mem_majorsOf`, `pairwise_lt_majorsOf`: the major versions that are asked for, in order;
- `versionConflicts_exact`: the conflicts of a portfolio.
-/
namespace CodeGraph

/-! ## The digits of a constraint -/

theorem Text.isSuffix_skipBlanks (cs : List Char) : Text.skipBlanks cs <:+ cs :=
  List.dropWhile_suffix _

namespace Version

theorem isSuffix_dropOperator (cs : List Char) : dropOperator cs <:+ cs := by
  unfold dropOperator
  cases found : operators.findSome? fun op => Text.dropPrefix? op.toList cs with
  | none => exact List.suffix_refl cs
  | some rest =>
    obtain ⟨op, -, dropped⟩ := List.exists_of_findSome?_eq_some found
    exact ⟨op.toList, (Text.dropPrefix?_eq_some_iff.1 dropped).symm⟩

theorem isSuffix_dropLetter (cs : List Char) : dropLetter cs <:+ cs := by
  unfold dropLetter
  split
  · exact List.suffix_cons 'v' _
  · exact List.suffix_cons 'V' _
  · exact List.suffix_refl _

theorem isSuffix_stripOperator (cs : List Char) : stripOperator cs <:+ cs :=
  calc stripOperator cs
      <:+ dropLetter (Text.skipBlanks (dropOperator (Text.skipBlanks cs))) :=
        Text.isSuffix_skipBlanks _
    _ <:+ Text.skipBlanks (dropOperator (Text.skipBlanks cs)) := isSuffix_dropLetter _
    _ <:+ dropOperator (Text.skipBlanks cs) := Text.isSuffix_skipBlanks _
    _ <:+ Text.skipBlanks cs := isSuffix_dropOperator _
    _ <:+ cs := Text.isSuffix_skipBlanks cs

theorem isPrefix_firstConstraint (cs : List Char) : firstConstraint cs <+: cs :=
  (Text.isPrefix_before _ _).trans (Text.isPrefix_before _ cs)

/-- The digits of a major version stand next to each other in the constraint. -/
theorem isInfix_leadingDigits (constraint : String) :
    leadingDigits constraint <:+: constraint.toList := by
  have digits : leadingDigits constraint <+: stripOperator (firstConstraint constraint.toList) :=
    List.takeWhile_prefix _
  have first := isPrefix_firstConstraint constraint.toList
  have rest := isSuffix_stripOperator (firstConstraint constraint.toList)
  exact digits.isInfix.trans (rest.isInfix.trans first.isInfix)

/-- No run of digits in a constraint has more of them than can be converted. -/
def FewDigits (constraint : String) : Prop :=
  ∀ run, run <:+: constraint.toList → (∀ c ∈ run, Text.isDigit c = true) → run.length ≤ maxDigits

theorem FewDigits.length_leadingDigits {constraint : String} (h : FewDigits constraint) :
    (leadingDigits constraint).length ≤ maxDigits := by
  apply h _ (isInfix_leadingDigits constraint)
  intro c hc
  exact List.mem_takeWhile_imp hc

/-- A short constraint has no long run of digits. -/
theorem fewDigits_of_length_le {constraint : String}
    (short : constraint.toList.length ≤ maxDigits) : FewDigits constraint :=
  fun _ inside _ => inside.length_le.trans short

end Version

/-! ## The major versions of a dependency -/

variable {ds : List (String × Declaration)} {dependency : String} {n : Nat}

theorem mem_majorsOf :
    n ∈ majorsOf ds dependency ↔ ∃ d, (dependency, d) ∈ ds ∧ d.major? = some n := by
  unfold majorsOf
  rw [List.mem_mergeSort, List.mem_eraseDups, List.mem_filterMap]
  apply exists_congr
  intro d
  simp [List.mem_filter]

theorem nodup_majorsOf (ds : List (String × Declaration)) (dependency : String) :
    (majorsOf ds dependency).Nodup :=
  (List.mergeSort_perm _ _).nodup_iff.2 (nodup_eraseDups _)

/-- The smallest major version comes first, and none comes twice. -/
theorem pairwise_lt_majorsOf (ds : List (String × Declaration)) (dependency : String) :
    (majorsOf ds dependency).Pairwise (· < ·) := by
  have sorted : (majorsOf ds dependency).Pairwise (· ≤ ·) := List.pairwise_mergeSort' (· ≤ ·) _
  apply (sorted.and (nodup_majorsOf ds dependency)).imp
  rintro a b ⟨upTo, distinct⟩
  exact Nat.lt_of_le_of_ne upTo distinct

theorem one_lt_length_majorsOf_iff :
    1 < (majorsOf ds dependency).length ↔
      ∃ a b, a ≠ b ∧ a ∈ majorsOf ds dependency ∧ b ∈ majorsOf ds dependency := by
  rw [← List.toFinset_card_of_nodup (nodup_majorsOf ds dependency), Finset.one_lt_card]
  simp only [List.mem_toFinset]
  tauto

namespace Store

/-- What is reported on a dependency, if several major versions are asked for. -/
theorem conflict?_comparablesOf (ds : List (String × Declaration)) (dependency : String) :
    conflict? dependency (comparablesOf ds dependency) =
      if 1 < (majorsOf ds dependency).length then
        some ⟨dependency, ((ds.filter fun d => d.1 = dependency).map Prod.snd).filter
          fun d => d.major?.isSome, majorsOf ds dependency⟩
      else none := by
  have majors : (comparablesOf ds dependency).map (·.2) =
      ((ds.filter fun d => d.1 = dependency).map Prod.snd).filterMap Declaration.major? := by
    simp [comparablesOf, List.map_filterMap, Function.comp_def]
  have compared : (comparablesOf ds dependency).map (·.1) =
      ((ds.filter fun d => d.1 = dependency).map Prod.snd).filter fun d => d.major?.isSome := by
    unfold comparablesOf
    rw [List.map_filterMap]
    refine Eq.trans ?_ (congrFun List.filterMap_eq_filter _)
    apply List.filterMap_congr
    intro d _
    cases major : d.major? <;> simp [Option.guard, major]
  unfold conflict?
  rw [majors, compared]
  rfl

/-- The dependencies in conflict, in the order in which they are first declared. -/
theorem map_dependency_conflictsOf (ds : List (String × Declaration)) :
    (conflictsOf ds).map VersionConflict.dependency =
      (Table.group ds).keys.filter fun dependency => 1 < (majorsOf ds dependency).length := by
  unfold conflictsOf
  rw [List.map_filterMap, ← List.filterMap_eq_filter]
  apply List.filterMap_congr
  intro dependency _
  rw [conflict?_comparablesOf]
  by_cases several : 1 < (majorsOf ds dependency).length <;> simp [Option.guard, several]

theorem mem_dependencies_conflictsOf_iff :
    dependency ∈ (conflictsOf ds).map VersionConflict.dependency ↔
      ∃ a b, a ≠ b ∧ a ∈ majorsOf ds dependency ∧ b ∈ majorsOf ds dependency := by
  rw [← one_lt_length_majorsOf_iff, map_dependency_conflictsOf, List.mem_filter,
    Table.mem_keys_group, decide_eq_true_iff, and_iff_right_iff_imp]
  intro several
  -- a dependency that nothing declares has no major versions
  obtain ⟨n, hn⟩ := List.exists_mem_of_length_pos (Nat.zero_lt_of_lt several)
  obtain ⟨d, hd, -⟩ := mem_majorsOf.1 hn
  exact List.mem_map_of_mem hd

/-- The constraints on a dependency stand in one place. -/
theorem filter_dependencyVersions {g : Store} {d : Declaration}
    (declared : (dependency, d) ∈ g.declarations) :
    (g.dependencyVersions.filter fun v => v.dependency = dependency) =
      [⟨dependency, (g.declarations.filter fun d => d.1 = dependency).map Prod.snd⟩] := by
  have listed : (⟨dependency, (g.declarations.filter fun d => d.1 = dependency).map Prod.snd⟩ :
      DependencyVersions) ∈ g.dependencyVersions := by
    rw [dependencyVersions_eq]
    apply List.mem_map_of_mem (f := fun dependency => DependencyVersions.mk dependency _)
    exact Table.mem_keys_group.2 (List.mem_map_of_mem declared)
  have distinct : (g.dependencyVersions.map DependencyVersions.dependency).Nodup := by
    rw [dependencyVersions_eq]
    simpa [Function.comp_def] using Table.nodup_keys' (Table.group g.declarations)
  exact filter_key_eq_singleton DependencyVersions.dependency distinct listed

end Store

/-! ## Portfolios -/

theorem Declaration.major?_eq_some_iff {d : Declaration} :
    d.major? = some n ↔ Version.major? d.version = .ok (some n) := by
  unfold Declaration.major?
  cases Version.major? d.version <;> simp

/-- A dependency is declared with a version that names a major version. -/
def Dependency.AsksMajor (d : Dependency) (n : Nat) : Prop :=
  ∃ v, d.version = some v ∧ v ≠ "" ∧ Version.major? v = .ok (some n)

/-- A manifest of a portfolio, for whatever use, declares a dependency with a major version. -/
def AsksMajor (ms : List Manifest) (dependency : String) (n : Nat) : Prop :=
  ∃ m ∈ ms, ∃ d ∈ m.needs true, d.name = dependency ∧ d.AsksMajor n

/-- The declarations of a repository for one use ask for the major versions of its dependencies. -/
theorem exists_declaredBy_iff {l : List Dependency} {repo : String} {dev : Bool} :
    (∃ c, (dependency, c) ∈ l.filterMap (·.declaredBy repo dev) ∧ c.major? = some n) ↔
      ∃ d ∈ l, d.name = dependency ∧ d.AsksMajor n := by
  constructor
  · rintro ⟨c, hc, major⟩
    obtain ⟨d, hd, declared⟩ := List.mem_filterMap.1 hc
    obtain ⟨v, version, nonempty, same⟩ := Dependency.declaredBy_eq_some_iff.1 declared
    obtain ⟨rfl, rfl⟩ := Prod.mk.inj same
    have parsed := Declaration.major?_eq_some_iff.1 major
    exact ⟨d, hd, rfl, v, version, nonempty, parsed⟩
  · rintro ⟨d, hd, rfl, v, version, nonempty, major⟩
    have parsed : Declaration.major? ⟨repo, v, dev⟩ = some n :=
      Declaration.major?_eq_some_iff.2 major
    have declared : d.declaredBy repo dev = some (d.name, ⟨repo, v, dev⟩) :=
      Dependency.declaredBy_eq_some_iff.2 ⟨v, version, nonempty, rfl⟩
    exact ⟨⟨repo, v, dev⟩, List.mem_filterMap.2 ⟨d, hd, declared⟩, parsed⟩

variable {ms : List Manifest}

theorem mem_majorsOf_portfolioGraph :
    n ∈ majorsOf (portfolioGraph ms).declarations dependency ↔ AsksMajor ms dependency n := by
  have each (m : Manifest) : (∃ c, (dependency, c) ∈ m.declarations ∧ c.major? = some n) ↔
      ∃ d ∈ m.needs true, d.name = dependency ∧ d.AsksMajor n := by
    have both : m.needs true = m.dependencies ++ m.devDependencies := rfl
    unfold Manifest.declarations
    simp only [both, List.mem_append, or_and_right, exists_or, exists_declaredBy_iff]
  unfold AsksMajor
  simp only [mem_majorsOf, (declarations_portfolioGraph_perm ms).mem_iff, List.mem_flatMap, ← each]
  tauto

/-- When no text has a long run of digits, each version can be looked at. -/
theorem readable_of_fewDigits
    (few : ∀ m ∈ ms, ∀ d ∈ m.needs true, ∀ v, d.version = some v → Version.FewDigits v) :
    ∀ c ∈ (portfolioGraph ms).declarations, c.2.Readable := by
  intro c hc
  rw [(declarations_portfolioGraph_perm ms).mem_iff] at hc
  obtain ⟨m, hm, declared⟩ := List.mem_flatMap.1 hc
  have checked {l : List Dependency} {dev : Bool} (sub : l ⊆ m.needs true)
      (listed : c ∈ l.filterMap (·.declaredBy m.name dev)) : c.2.Readable := by
    obtain ⟨d, hd, same⟩ := List.mem_filterMap.1 listed
    obtain ⟨v, version, -, rfl⟩ := Dependency.declaredBy_eq_some_iff.1 same
    apply Declaration.readable_iff.2
    exact (few m hm d (sub hd) v version).length_leadingDigits
  rcases List.mem_append.1 declared with runtime | dev
  · exact checked (List.subset_append_left _ _) runtime
  · exact checked (List.subset_append_right _ _) dev

/-- The conflicts of a portfolio without long runs of digits in its versions. A dependency is
reported exactly when two versions of it are declared that name different major versions, and then
once. Its major versions are those that are declared, in increasing order, and its declarations are
those of its declared versions that name one, in their order. -/
theorem versionConflicts_exact
    (few : ∀ m ∈ ms, ∀ d ∈ m.needs true, ∀ v, d.version = some v → Version.FewDigits v) :
    ∃ found, (portfolioGraph ms).versionConflicts = .ok found ∧
      (∀ dependency, dependency ∈ found.map VersionConflict.dependency ↔
        ∃ a b, a ≠ b ∧ AsksMajor ms dependency a ∧ AsksMajor ms dependency b) ∧
      (found.map VersionConflict.dependency).Nodup ∧
      ∀ c ∈ found, c.majors.Pairwise (· < ·) ∧ 2 ≤ c.majors.length ∧
        (∀ n, n ∈ c.majors ↔ AsksMajor ms c.dependency n) ∧
        ∃ v, ((portfolioGraph ms).dependencyVersions.filter fun v =>
            v.dependency = c.dependency) = [v] ∧
          c.declarations = v.declarations.filter fun d => d.major?.isSome := by
  refine ⟨_, Store.versionConflicts_eq_conflictsOf (readable_of_fewDigits few), ?_, ?_, ?_⟩
  · intro dependency
    simp only [Store.mem_dependencies_conflictsOf_iff, mem_majorsOf_portfolioGraph]
  · rw [Store.map_dependency_conflictsOf]
    exact (Table.nodup_keys' _).filter _
  · intro c hc
    obtain ⟨dependency, reported⟩ := Store.mem_conflictsOf_iff.1 hc
    rw [Store.conflict?_comparablesOf, Option.ite_none_right_eq_some, Option.some.injEq] at reported
    obtain ⟨several, rfl⟩ := reported
    obtain ⟨n, hn⟩ := List.exists_mem_of_length_pos (Nat.zero_lt_of_lt several)
    obtain ⟨d, hd, -⟩ := mem_majorsOf.1 hn
    exact ⟨pairwise_lt_majorsOf _ _, several, fun n => mem_majorsOf_portfolioGraph, _,
      Store.filter_dependencyVersions hd, rfl⟩

/-- Two repositories that need one package, one of them in a version that is a number and in one
that is none. -/
def mixedVersions : List Manifest := [pinnedWeb [⟨"json", some "latest"⟩], pinnedCore]

instance (d : Dependency) (n : Nat) : Decidable (d.AsksMajor n) :=
  decidable_of_iff (∃ v ∈ d.version, v ≠ "" ∧ Version.major? v = .ok (some n)) (by
    simp [Dependency.AsksMajor])

instance (ms : List Manifest) (dependency : String) (n : Nat) :
    Decidable (AsksMajor ms dependency n) :=
  inferInstanceAs (Decidable (∃ m ∈ ms, ∃ d ∈ m.needs true,
    d.name = dependency ∧ d.AsksMajor n))

/-- The package is reported once, with the two numbers that are asked for. The repository that is
needed itself has no version and is not reported. -/
theorem versionConflicts_exact_mixedVersions :
    ∃ found, (portfolioGraph mixedVersions).versionConflicts = .ok found ∧
      (found.map VersionConflict.dependency).count "json" = 1 ∧
      "core" ∉ found.map VersionConflict.dependency ∧
      ∀ c ∈ found, c.dependency = "json" → 1 ∈ c.majors ∧ 2 ∈ c.majors ∧ 3 ∉ c.majors := by
  have short : ∀ m ∈ mixedVersions, ∀ d ∈ m.needs true, ∀ v ∈ d.version,
      v.toList.length ≤ maxDigits := by decide
  have few : ∀ m ∈ mixedVersions, ∀ d ∈ m.needs true, ∀ v, d.version = some v →
      Version.FewDigits v := by
    intro m hm d hd v version
    exact Version.fewDigits_of_length_le (short m hm d hd v version)
  obtain ⟨found, told, reported, once, majors⟩ := versionConflicts_exact few
  have one : AsksMajor mixedVersions "json" 1 := by decide
  have two : AsksMajor mixedVersions "json" 2 := by decide
  have unversioned : ∀ m ∈ mixedVersions, ∀ d ∈ m.needs true, d.name = "core" →
      d.version = none := by decide
  refine ⟨found, told, ?_, ?_, ?_⟩
  · exact List.count_eq_one_of_mem once ((reported "json").2 ⟨1, 2, by decide, one, two⟩)
  · intro listed
    obtain ⟨a, -, -, ⟨m, hm, d, hd, named, v, version, -⟩, -⟩ := (reported "core").1 listed
    cases (unversioned m hm d hd named).symm.trans version
  · intro c hc named
    obtain ⟨-, -, asked, -⟩ := majors c hc
    rw [asked, asked, asked, named]
    exact ⟨one, two, by decide⟩

end CodeGraph
