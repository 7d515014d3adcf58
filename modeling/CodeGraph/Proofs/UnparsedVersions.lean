import CodeGraph.Proofs.DeclaredVersions
import CodeGraph.Proofs.TextParts

/-!
# Versions without a number

A version constraint that names no major version is left out when versions are compared. One more
such constraint in a manifest may bring in an edge, a node, and another order of the dependencies,
but the conflicts are the same. The exception is a constraint that starts with more digits than are
converted to a number. It names no major version either, and a single one of these ends the whole
comparison.

Main definitions:

- `Version.leadingDigits`: the digits of the major version that a constraint names;
- `Manifest.Adds`: one manifest has one dependency more than another.

Main statements:

- `Store.conflictsOf_perm`: conflicts depend on the constraints with a major version alone;
- `versionConflicts_unparsed`: the conflicts after one more constraint without a number.
-/
namespace CodeGraph

/-! ## Major versions -/

namespace Version

/-- The digits that a constraint starts with, without its operator. -/
def leadingDigits (constraint : String) : List Char :=
  (stripOperator (firstConstraint constraint.toList)).takeWhile Text.isDigit

variable {constraint : String}

theorem major?_eq (constraint : String) :
    major? constraint =
      if (leadingDigits constraint).isEmpty then .ok none
      else if maxDigits < (leadingDigits constraint).length then
        .error (.tooManyDigits (leadingDigits constraint).length)
      else .ok (some (Text.digitsValue (leadingDigits constraint))) := rfl

/-- Only too many digits are refused. -/
theorem major?_eq_error_iff {f : Fault} :
    major? constraint = .error f ↔ maxDigits < (leadingDigits constraint).length ∧
      f = .tooManyDigits (leadingDigits constraint).length := by
  rw [major?_eq]
  by_cases many : maxDigits < (leadingDigits constraint).length
  · have some_digits : (leadingDigits constraint).isEmpty = false := by
      rw [List.isEmpty_eq_false_iff_exists_mem]
      exact List.length_pos_iff_exists_mem.1 (Nat.zero_lt_of_lt many)
    simp [some_digits, many, eq_comm]
  · split <;> simp [many]

theorem leadingDigits_replicate (n : Nat) :
    leadingDigits (String.ofList (List.replicate n '1')) = List.replicate n '1' := by
  have absent (c : Char) (other : c ≠ '1') : c ∉ List.replicate n '1' := by
    intro listed
    exact other (List.eq_of_mem_replicate listed)
  have whole : firstConstraint (List.replicate n '1') = List.replicate n '1' := by
    show Text.before ['|', '|'] (Text.before [','] _) = _
    rw [Text.before_eq_self (absent ',' (by decide)), Text.before_eq_self (absent '|' (by decide))]
  have stripped : stripOperator (List.replicate n '1') = List.replicate n '1' := by
    cases n <;> rfl
  unfold leadingDigits
  rw [String.toList_ofList, whole, stripped, List.takeWhile_replicate]
  rfl

end Version

theorem Declaration.major?_eq_none {d : Declaration}
    (h : ∀ k, Version.major? d.version ≠ .ok (some k)) : d.major? = none := by
  unfold Declaration.major?
  cases parsed : Version.major? d.version with
  | error f => rfl
  | ok major =>
    cases major with
    | none => rfl
    | some k => exact absurd parsed (h k)

/-- The version of a declaration can be looked at when it has not too many digits. -/
theorem Declaration.readable_iff {d : Declaration} :
    d.Readable ↔ (Version.leadingDigits d.version).length ≤ maxDigits := by
  unfold Readable
  cases parsed : Version.major? d.version with
  | ok major =>
    have few : ¬ maxDigits < (Version.leadingDigits d.version).length := by
      intro many
      have refused := Version.major?_eq_error_iff.2 ⟨many, rfl⟩
      cases parsed.symm.trans refused
    exact ⟨fun _ => Nat.not_lt.1 few, fun _ => rfl⟩
  | error f =>
    obtain ⟨many, -⟩ := Version.major?_eq_error_iff.1 parsed
    exact ⟨nofun, fun few => absurd few (Nat.not_le.2 many)⟩

/-! ## Conflicts -/

/-- Whether a declaration has a major version, so that it can be compared. -/
def isComparable (d : String × Declaration) : Bool := d.2.major?.isSome

/-- The declarations that can be compared on a dependency, with their major versions. -/
def comparablesOf (ds : List (String × Declaration)) (dependency : String) :
    List (Declaration × Nat) :=
  ((ds.filter fun d => d.1 = dependency).map Prod.snd).filterMap fun d =>
    d.major?.map fun n => (d, n)

theorem comparablesOf_filter (ds : List (String × Declaration)) (dependency : String) :
    comparablesOf (ds.filter isComparable) dependency = comparablesOf ds dependency := by
  have swapped : (ds.filter isComparable).filter (fun d => d.1 = dependency) =
      (ds.filter fun d => d.1 = dependency).filter isComparable := List.filter_comm ..
  unfold comparablesOf
  rw [swapped, List.filterMap_map, List.filterMap_map, List.filterMap_filter]
  apply List.filterMap_congr
  intro d _
  unfold isComparable
  cases major : d.2.major? <;> simp [major]

namespace Store

/-- The conflicts that declarations make. -/
def conflictsOf (ds : List (String × Declaration)) : List VersionConflict :=
  (Table.group ds).keys.filterMap fun dependency =>
    conflict? dependency (comparablesOf ds dependency)

theorem versionConflicts_eq_conflictsOf {g : Store}
    (readable : ∀ d ∈ g.declarations, d.2.Readable) :
    g.versionConflicts = .ok (conflictsOf g.declarations) := by
  rw [versionConflicts_eq readable, dependencyVersions_eq, List.filterMap_map]
  rfl

variable {ds ds' : List (String × Declaration)} {c : VersionConflict} {dependency : String}
  {pairs : List (Declaration × Nat)}

@[simp] theorem conflict?_nil (dependency : String) : conflict? dependency [] = none := by
  simp [conflict?]

theorem dependency_of_conflict? (h : conflict? dependency pairs = some c) :
    c.dependency = dependency := by
  unfold conflict? at h
  simp only [Option.ite_none_right_eq_some, Option.some.injEq] at h
  rw [← h.2]

theorem mem_conflictsOf_iff :
    c ∈ conflictsOf ds ↔
      ∃ dependency, conflict? dependency (comparablesOf ds dependency) = some c := by
  unfold conflictsOf
  rw [List.mem_filterMap]
  constructor
  · rintro ⟨dependency, -, conflict⟩
    exact ⟨dependency, conflict⟩
  · rintro ⟨dependency, conflict⟩
    refine ⟨dependency, ?_, conflict⟩
    rw [Table.mem_keys_group]
    -- nothing is in conflict without a declaration
    by_contra unlisted
    have nothing : (ds.filter fun d => d.1 = dependency) = [] := by
      apply List.filter_eq_nil_iff.2
      intro d hd named
      exact unlisted (of_decide_eq_true named ▸ List.mem_map_of_mem hd)
    have alone : comparablesOf ds dependency = [] := by
      unfold comparablesOf
      rw [nothing]
      rfl
    rw [alone, conflict?_nil] at conflict
    cases conflict

theorem nodup_conflictsOf (ds : List (String × Declaration)) : (conflictsOf ds).Nodup := by
  apply List.Nodup.filterMap
  · intro k k' c conflict conflict'
    rw [← dependency_of_conflict? conflict, ← dependency_of_conflict? conflict']
  · exact Table.nodup_keys' _

/-- Declarations that are the same as far as they can be compared make the same conflicts. -/
theorem conflictsOf_perm (same : ds.filter isComparable = ds'.filter isComparable) :
    (conflictsOf ds).Perm (conflictsOf ds') := by
  apply (List.perm_ext_iff_of_nodup (nodup_conflictsOf ds) (nodup_conflictsOf ds')).2
  intro c
  rw [mem_conflictsOf_iff, mem_conflictsOf_iff]
  apply exists_congr
  intro dependency
  rw [← comparablesOf_filter ds, same, comparablesOf_filter]

/-- When versions cannot be compared, one of them is refused. -/
theorem exists_of_versionConflicts_eq_error {g : Store} {f : Fault}
    (h : g.versionConflicts = .error f) :
    ∃ d ∈ g.declarations, Version.major? d.2.version = .error f := by
  by_contra none_refused
  have fine : ∀ v ∈ g.dependencyVersions, ∀ d ∈ v.declarations,
      Version.major? d.version ≠ .error f := by
    apply (forall_dependencyVersions_iff (p := fun d => Version.major? d.version ≠ .error f)).2
    intro d hd refused
    exact none_refused ⟨d, hd, refused⟩
  rw [versionConflicts_parts, map_eq_error_iff] at h
  obtain ⟨v, hv, failed⟩ := exists_of_mapM_eq_error h
  rw [map_eq_error_iff, comparable_parts, map_eq_error_iff] at failed
  obtain ⟨d, hd, refused⟩ := exists_of_mapM_eq_error failed
  exact fine v hv d hd (map_eq_error_iff.1 refused)

end Store

/-! ## One more dependency -/

/-- A manifest has one dependency more than another one, at any place and of either kind. -/
inductive Manifest.Adds (d : Dependency) : Manifest → Manifest → Prop
  | runtime (name : String) (front back dev : List Dependency) (language : Value) :
    Adds d ⟨name, front ++ back, dev, language⟩ ⟨name, front ++ d :: back, dev, language⟩
  | dev (name : String) (runtime front back : List Dependency) (language : Value) :
    Adds d ⟨name, runtime, front ++ back, language⟩ ⟨name, runtime, front ++ d :: back, language⟩

section Added

variable {m n : Manifest} {d : Dependency}

/-- No major version can be told from a dependency. -/
def Dependency.Unparsed (d : Dependency) : Prop :=
  ∀ v k, d.version = some v → Version.major? v ≠ .ok (some k)

theorem Dependency.declaredBy_eq_some_iff {repo : String} {dev : Bool}
    {c : String × Declaration} :
    d.declaredBy repo dev = some c ↔
      ∃ v, d.version = some v ∧ v ≠ "" ∧ c = (d.name, ⟨repo, v, dev⟩) := by
  unfold declaredBy
  rw [Option.map_eq_some_iff]
  constructor
  · rintro ⟨v, said, rfl⟩
    obtain ⟨version, nonempty⟩ := Option.filter_eq_some_iff.1 said
    exact ⟨v, version, of_decide_eq_true nonempty, rfl⟩
  · rintro ⟨v, version, nonempty, rfl⟩
    exact ⟨v, Option.filter_eq_some_iff.2 ⟨version, decide_eq_true nonempty⟩, rfl⟩

theorem Dependency.Unparsed.isComparable_eq_false (h : d.Unparsed) {repo : String} {dev : Bool}
    {c : String × Declaration} (declared : d.declaredBy repo dev = some c) :
    isComparable c = false := by
  obtain ⟨v, version, -, rfl⟩ := declaredBy_eq_some_iff.1 declared
  have major : Declaration.major? ⟨repo, v, dev⟩ = none := by
    apply Declaration.major?_eq_none
    intro k
    exact h v k version
  unfold isComparable
  rw [major]
  rfl

namespace Manifest.Adds

theorem name_eq (h : m.Adds d n) : n.name = m.name := by
  cases h <;> rfl

/-- The dependencies of a type are the same, or there is one more. -/
theorem ofType_cases (h : m.Adds d n) (type : String) :
    n.ofType type = m.ofType type ∨
      ∃ front back, m.ofType type = front ++ back ∧ n.ofType type = front ++ d :: back := by
  unfold ofType
  cases h with
  | runtime name front back dev language =>
    by_cases own : type = EdgeType.dependsOn
    · right
      refine ⟨front, back, ?_, ?_⟩ <;> rw [if_pos own]
    · left
      rw [if_neg own, if_neg own]
  | dev name runtime front back language =>
    by_cases other : type = EdgeType.dependsOn
    · left
      rw [if_pos other, if_pos other]
    · rw [if_neg other, if_neg other]
      by_cases own : type = EdgeType.devDependsOn
      · right
        refine ⟨front, back, ?_, ?_⟩ <;> rw [if_pos own]
      · left
        rw [if_neg own, if_neg own]

/-- Without a major version, one more dependency declares nothing that can be compared. -/
theorem filter_declarationsOf (h : m.Adds d n) (unparsed : d.Unparsed) (type : String) :
    (n.declarationsOf type).filter isComparable = (m.declarationsOf type).filter isComparable := by
  unfold declarationsOf
  rw [h.name_eq]
  rcases h.ofType_cases type with same | ⟨front, back, before, after⟩
  · rw [same]
  · rw [before, after, List.filterMap_append, List.filterMap_append, List.filterMap_cons]
    cases declared : d.declaredBy m.name (type == EdgeType.devDependsOn) with
    | none => rfl
    | some c => simp [unparsed.isComparable_eq_false declared]

/-- One more declaration, at most. -/
theorem exists_mem_declarations (h : m.Adds d n) : ∃ dev, ∀ c,
    c ∈ n.declarations ↔ c ∈ m.declarations ∨ d.declaredBy m.name dev = some c := by
  have inserted (front back : List Dependency) (repo : String) (dev : Bool)
      (c : String × Declaration) :
      c ∈ (front ++ d :: back).filterMap (·.declaredBy repo dev) ↔
        c ∈ (front ++ back).filterMap (·.declaredBy repo dev) ∨ d.declaredBy repo dev = some c := by
    simp only [List.mem_filterMap, List.mem_append, List.mem_cons, or_and_right, exists_or,
      exists_eq_left]
    rw [← or_assoc, or_right_comm]
  unfold declarations
  simp only [List.mem_append]
  cases h with
  | runtime name front back dev language =>
    refine ⟨false, fun c => ?_⟩
    rw [inserted, or_right_comm]
  | dev name runtime front back language =>
    refine ⟨true, fun c => ?_⟩
    rw [inserted, or_assoc]

end Manifest.Adds

variable {front back : List Manifest} {found : List VersionConflict}

/-- The declarations that can be compared are the same after one more without a major version. -/
theorem filter_declarations_portfolioGraph (added : m.Adds d n) (unparsed : d.Unparsed) :
    (portfolioGraph (front ++ n :: back)).declarations.filter isComparable =
      (portfolioGraph (front ++ m :: back)).declarations.filter isComparable := by
  have names : (front ++ n :: back).map Manifest.name = (front ++ m :: back).map Manifest.name := by
    simp [added.name_eq]
  rw [declarations_portfolioGraph, declarations_portfolioGraph, names, List.filter_flatMap,
    List.filter_flatMap]
  apply List.flatMap_congr
  intro repo _
  rw [List.filter_flatMap, List.filter_flatMap]
  apply List.flatMap_congr
  intro type _
  rw [List.filter_flatMap, List.filter_flatMap, List.filter_append, List.filter_append,
    List.flatMap_append, List.flatMap_append, List.filter_cons, List.filter_cons, added.name_eq]
  split
  · rw [List.flatMap_cons, List.flatMap_cons, added.filter_declarationsOf unparsed]
  · rfl

/-- What is declared was declared before, or comes from the dependency that was added. -/
theorem mem_declarations_of_adds (front back : List Manifest) (added : m.Adds d n) : ∃ dev, ∀ c,
    c ∈ (portfolioGraph (front ++ n :: back)).declarations ↔
      c ∈ (portfolioGraph (front ++ m :: back)).declarations ∨
        d.declaredBy m.name dev = some c := by
  obtain ⟨dev, members⟩ := added.exists_mem_declarations
  refine ⟨dev, fun c => ?_⟩
  rw [(declarations_portfolioGraph_perm _).mem_iff, (declarations_portfolioGraph_perm _).mem_iff,
    List.flatMap_append, List.flatMap_append, List.flatMap_cons, List.flatMap_cons,
    List.mem_append, List.mem_append, List.mem_append, List.mem_append, members]
  tauto

/-- As long as the version can be looked at, the conflicts are the same, in any order. -/
theorem versionConflicts_of_few_digits (added : m.Adds d n) (unparsed : d.Unparsed)
    (few : ∀ v, d.version = some v → (Version.leadingDigits v).length ≤ maxDigits)
    (told : (portfolioGraph (front ++ m :: back)).versionConflicts = .ok found) :
    ∃ found', (portfolioGraph (front ++ n :: back)).versionConflicts = .ok found' ∧
      found'.Perm found := by
  have readable := Store.readable_of_versionConflicts_eq_ok told
  obtain ⟨dev, members⟩ := mem_declarations_of_adds front back added
  have readable' : ∀ c ∈ (portfolioGraph (front ++ n :: back)).declarations, c.2.Readable := by
    intro c hc
    rcases (members c).1 hc with old | new
    · exact readable c old
    · obtain ⟨v, version, -, rfl⟩ := Dependency.declaredBy_eq_some_iff.1 new
      apply Declaration.readable_iff.2
      exact few v version
  refine ⟨_, Store.versionConflicts_eq_conflictsOf readable', ?_⟩
  rw [Store.versionConflicts_eq_conflictsOf readable] at told
  rw [← Except.ok.inj told]
  exact Store.conflictsOf_perm (filter_declarations_portfolioGraph added unparsed)

/-- A version with too many digits ends the comparison of all versions. -/
theorem versionConflicts_of_many_digits (added : m.Adds d n) {v : String}
    (version : d.version = some v) (many : maxDigits < (Version.leadingDigits v).length)
    (told : (portfolioGraph (front ++ m :: back)).versionConflicts = .ok found) :
    (portfolioGraph (front ++ n :: back)).versionConflicts =
      .error (.tooManyDigits (Version.leadingDigits v).length) := by
  have readable := Store.readable_of_versionConflicts_eq_ok told
  obtain ⟨dev, members⟩ := mem_declarations_of_adds front back added
  have nonempty : v ≠ "" := by
    rintro rfl
    exact absurd many (by decide)
  have declared : d.declaredBy m.name dev = some (d.name, ⟨m.name, v, dev⟩) :=
    Dependency.declaredBy_eq_some_iff.2 ⟨v, version, nonempty, rfl⟩
  cases after : (portfolioGraph (front ++ n :: back)).versionConflicts with
  | ok found' =>
    have readable' := Store.readable_of_versionConflicts_eq_ok after
    have few := Declaration.readable_iff.1 (readable' _ ((members _).2 (.inr declared)))
    exact absurd few (Nat.not_le.2 many)
  | error f =>
    obtain ⟨c, hc, failed⟩ := Store.exists_of_versionConflicts_eq_error after
    obtain ⟨digits, same⟩ := Version.major?_eq_error_iff.1 failed
    rcases (members c).1 hc with old | new
    · have few := Declaration.readable_iff.1 (readable c old)
      exact absurd few (Nat.not_le.2 digits)
    · obtain rfl := Option.some.inj (declared.symm.trans new)
      rw [same]

/-- Conflicts of versions after one more dependency, from whose version no major version can be
told. The conflicts are the same, in any order, unless its version starts with more digits than are
converted to a number; then there is no answer. -/
theorem versionConflicts_unparsed (added : m.Adds d n) (unparsed : d.Unparsed)
    (told : (portfolioGraph (front ++ m :: back)).versionConflicts = .ok found) :
    ((∀ v, d.version = some v → (Version.leadingDigits v).length ≤ maxDigits) →
      ∃ found', (portfolioGraph (front ++ n :: back)).versionConflicts = .ok found' ∧
        found'.Perm found) ∧
    ∀ v, d.version = some v → maxDigits < (Version.leadingDigits v).length →
      (portfolioGraph (front ++ n :: back)).versionConflicts =
        .error (.tooManyDigits (Version.leadingDigits v).length) := by
  constructor
  · intro few
    exact versionConflicts_of_few_digits added unparsed few told
  · intro v version many
    exact versionConflicts_of_many_digits added version many told

end Added

/-- A repository that needs another one, and a package for development. -/
def pinnedWeb (extra : List Dependency) : Manifest :=
  ⟨"web", ⟨"core", none⟩ :: extra, [⟨"json", some "1.4"⟩], .null⟩

/-- The other repository, which needs the package in another version. -/
def pinnedCore : Manifest := ⟨"core", [⟨"json", some "~> 2.1"⟩], [], .null⟩

/-- What the two repositories declare. -/
def pinnedDeclarations : List (String × Declaration) :=
  [("json", ⟨"web", "1.4", true⟩), ("json", ⟨"core", "~> 2.1", false⟩)]

/-- The conflict on the package. -/
def pinnedConflict : VersionConflict := ⟨"json", pinnedDeclarations.map Prod.snd, [1, 2]⟩

theorem adds_pinnedWeb (d : Dependency) : (pinnedWeb []).Adds d (pinnedWeb [d]) :=
  .runtime "web" [⟨"core", none⟩] [] [⟨"json", some "1.4"⟩] .null

theorem versionConflicts_pinned :
    (portfolioGraph [pinnedWeb [], pinnedCore]).versionConflicts = .ok [pinnedConflict] := by
  have declared : (portfolioGraph [pinnedWeb [], pinnedCore]).declarations =
      pinnedDeclarations := by decide
  have readable : ∀ c ∈ pinnedDeclarations, c.2.Readable := by decide
  have keys : (Table.group pinnedDeclarations).keys = ["json"] := by decide
  have sorted : ((comparablesOf pinnedDeclarations "json").map (·.2)).eraseDups.mergeSort =
      [1, 2] := List.mergeSort_of_pairwise (by decide)
  have conflict : Store.conflict? "json" (comparablesOf pinnedDeclarations "json") =
      some pinnedConflict := by
    unfold Store.conflict?
    rw [sorted]
    rfl
  rw [← declared] at readable
  rw [Store.versionConflicts_eq_conflictsOf readable, declared, Store.conflictsOf, keys]
  simp only [List.filterMap_cons, List.filterMap_nil, conflict]

/-- A version that is a word is skipped, and the conflict on the same package stays. -/
theorem versionConflicts_unparsed_latest :
    Dependency.Unparsed ⟨"json", some "latest"⟩ ∧
    ∃ found', (portfolioGraph [pinnedWeb [⟨"json", some "latest"⟩], pinnedCore]).versionConflicts =
      .ok found' ∧ found'.Perm [pinnedConflict] := by
  have skipped : Version.major? "latest" = .ok none := by decide
  have unparsed : Dependency.Unparsed ⟨"json", some "latest"⟩ := by
    rintro v k version parsed
    obtain rfl := Option.some.inj version
    cases skipped.symm.trans parsed
  have told : (portfolioGraph ([] ++ pinnedWeb [] :: [pinnedCore])).versionConflicts =
      .ok [pinnedConflict] := versionConflicts_pinned
  obtain ⟨same, -⟩ := versionConflicts_unparsed (adds_pinnedWeb _) unparsed told
  refine ⟨unparsed, same ?_⟩
  intro v version
  obtain rfl := Option.some.inj version
  decide

/-- A package with a version of too many digits. -/
def longVersion : Dependency := ⟨"zlib", some (String.ofList (List.replicate 4301 '1'))⟩

/-- A version of too many digits is no number either, but then the conflict on the other package is
not told. -/
theorem longVersion_ends_comparison :
    longVersion.Unparsed ∧ (pinnedWeb []).Adds longVersion (pinnedWeb [longVersion]) ∧
    (portfolioGraph [pinnedWeb [], pinnedCore]).versionConflicts = .ok [pinnedConflict] ∧
    (portfolioGraph [pinnedWeb [longVersion], pinnedCore]).versionConflicts =
      .error (.tooManyDigits 4301) := by
  have digits := congrArg List.length (Version.leadingDigits_replicate 4301)
  rw [List.length_replicate] at digits
  have many : maxDigits <
      (Version.leadingDigits (String.ofList (List.replicate 4301 '1'))).length := by
    rw [digits]
    decide
  have told : (portfolioGraph ([] ++ pinnedWeb [] :: [pinnedCore])).versionConflicts =
      .ok [pinnedConflict] := versionConflicts_pinned
  have failed := versionConflicts_of_many_digits (adds_pinnedWeb longVersion) rfl many told
  rw [digits] at failed
  refine ⟨?_, adds_pinnedWeb longVersion, versionConflicts_pinned, failed⟩
  rintro v k version parsed
  obtain rfl := Option.some.inj version
  have refused := Version.major?_eq_error_iff.2 ⟨many, rfl⟩
  cases parsed.symm.trans refused

end CodeGraph
