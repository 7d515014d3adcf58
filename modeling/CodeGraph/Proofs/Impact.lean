import CodeGraph.Portfolio.Impact
import CodeGraph.Proofs.PortfolioGraph

/-!
# What an impact lists

A change to a repository or package affects directly the repositories that declare it, and
indirectly those that depend on it through others. Each of them is listed once. The repository
itself is never affected indirectly, but it is listed, and counted, among those that declare it when
its own manifest does so. A portfolio that grows affects more, and is never at a lower risk.

Main definitions:

- `Impact.Lists`: an impact lists what the manifests of a portfolio say;
- `Store.usersOf`: the sources of the edges to a node;
- `RiskLevel.severity`: the order of the levels.

Main statements:

- `impact_of_allDependents`: an impact in terms of users and dependents;
- `exists_impact`: the impact of a node lists what the manifests say;
- `impact_exact`: it lists the dependents of the node, and the node itself if it declares itself;
- `impact_grows`: more manifests affect more.
-/
namespace CodeGraph

/-! ## Levels of risk -/

theorem Number.leInt_natCast (n k : Nat) : (Number.int n).leInt k = decide (n ≤ k) := by
  rw [leInt, compareInt]
  rcases Nat.lt_trichotomy n k with lt | eq | gt
  · simp [Int.compare_eq_lt.2 (Int.ofNat_lt.2 lt), lt.le]
  · simp [eq]
  · simp [Int.compare_eq_gt.2 (Int.ofNat_lt.2 gt), gt]

namespace RiskLevel

/-- How severe a level is. -/
def severity : RiskLevel → Nat
  | low => 0
  | medium => 1
  | high => 2
  | critical => 3

/-- The thresholds are the counts up to which a level goes. -/
theorem ofCount_eq (n : Nat) :
    ofCount n = if n ≤ 1 then low else if n ≤ 3 then medium else if n ≤ 6 then high
      else critical := by
  have one : (Number.int n).leInt 1 = decide (n ≤ 1) := Number.leInt_natCast n 1
  have three : (Number.int n).leInt 3 = decide (n ≤ 3) := Number.leInt_natCast n 3
  have six : (Number.int n).leInt 6 = decide (n ≤ 6) := Number.leInt_natCast n 6
  simp only [ofCount, ofNumber, thresholds, List.find?_cons, List.find?_nil, one, three, six]
  split_ifs with low medium high
  · simp [low]
  · simp [low, medium]
  · simp [low, medium, high]
  · simp [low, medium, high]

theorem severity_ofCount (n : Nat) :
    (ofCount n).severity = if n ≤ 1 then 0 else if n ≤ 3 then 1 else if n ≤ 6 then 2 else 3 := by
  rw [ofCount_eq]
  split_ifs <;> rfl

/-- More affected repositories are no lower risk. -/
theorem severity_ofCount_le {m n : Nat} (h : m ≤ n) :
    (ofCount m).severity ≤ (ofCount n).severity := by
  rw [severity_ofCount, severity_ofCount]
  split_ifs <;> omega

end RiskLevel

/-! ## Impacts and manifests -/

/-- An impact lists, each once, the repositories that declare a node, and the others from which
declared dependencies lead to it. -/
structure Impact.Lists (i : Impact) (ms : List Manifest) (id : String) : Prop where
  repo_eq : i.repo = id
  nodup_direct : i.direct.Nodup
  nodup_indirect : i.indirect.Nodup
  mem_direct_iff : ∀ repo, repo ∈ i.direct ↔ Declares ms true repo id
  mem_indirect_iff : ∀ repo, repo ∈ i.indirect ↔
    repo ≠ id ∧ Relation.TransGen (Declares ms true) repo id ∧ ¬ Declares ms true repo id

section Impacts

variable {ms : List Manifest} {id : String}

/-- The sources of the edges to a node, each once. -/
def Store.usersOf (g : Store) (id : String) : List String :=
  (g.predecessors id (some EdgeType.dependencyLike)).eraseDups

theorem mem_usersOf_iff {repo : String} :
    repo ∈ (portfolioGraph ms).usersOf id ↔ Declares ms true repo id := by
  unfold Store.usersOf
  rw [List.mem_eraseDups, ← mem_predecessors_portfolioGraph_iff]
  rfl

/-- An impact lists all sources of edges directly. Whoever has an edge to a node is a repository, so
none of them is filtered out. -/
theorem impact_of_allDependents {deps : List String}
    (run : (portfolioGraph ms).allDependents id true = .ok deps) :
    (portfolioGraph ms).impact id = .ok ⟨id, (portfolioGraph ms).usersOf id,
      deps.filter fun repo =>
        !((portfolioGraph ms).usersOf id).contains repo && (portfolioGraph ms).isRepo repo⟩ := by
  have traversed : (portfolioGraph ms).transitive id (some EdgeType.dependencyLike) .incoming =
      .ok deps := run
  have repositories :
      ((portfolioGraph ms).predecessors id (some EdgeType.dependencyLike)).filter
        (portfolioGraph ms).isRepo =
      (portfolioGraph ms).predecessors id (some EdgeType.dependencyLike) := by
    apply List.filter_eq_self.2
    intro repo user
    have declared : Declares ms true repo id := mem_predecessors_portfolioGraph_iff.1 user
    exact declared.isRepo
  unfold Store.impact
  dsimp only
  rw [traversed, repositories]
  rfl

/-- A node has an impact, and it lists what the manifests say. -/
theorem exists_impact (hid : id ∈ (portfolioGraph ms).ids) :
    ∃ i, (portfolioGraph ms).impact id = .ok i ∧ i.Lists ms id := by
  obtain ⟨deps, run, distinct, members⟩ := exists_allDependents hid true
  refine ⟨_, impact_of_allDependents run, rfl, nodup_eraseDups _, distinct.filter _,
    fun _ => mem_usersOf_iff, fun repo => ?_⟩
  rw [List.mem_filter, members, Bool.and_eq_true, Bool.not_eq_true', ← Bool.not_eq_true,
    List.contains_iff_mem, mem_usersOf_iff]
  constructor
  · rintro ⟨⟨other, path⟩, indirect, -⟩
    exact ⟨other, path, indirect⟩
  · rintro ⟨other, path, indirect⟩
    exact ⟨⟨other, path⟩, indirect, isRepo_of_transGen path⟩

namespace Impact.Lists

variable {i j : Impact}

theorem disjoint (h : i.Lists ms id) : i.direct.Disjoint i.indirect := by
  intro repo direct indirect
  exact ((h.mem_indirect_iff repo).1 indirect).2.2 ((h.mem_direct_iff repo).1 direct)

theorem nodup_append (h : i.Lists ms id) : (i.direct ++ i.indirect).Nodup :=
  h.nodup_direct.append h.nodup_indirect h.disjoint

theorem mem_append_iff (h : i.Lists ms id) {repo : String} :
    repo ∈ i.direct ++ i.indirect ↔
      Declares ms true repo id ∨ repo ≠ id ∧ Relation.TransGen (Declares ms true) repo id := by
  rw [List.mem_append, h.mem_direct_iff, h.mem_indirect_iff]
  by_cases declared : Declares ms true repo id <;> simp [declared]

/-- Without the node itself, what is affected are the dependents of the node. -/
theorem erase_append_perm (h : i.Lists ms id) {deps : List String} (distinct : deps.Nodup)
    (members : ∀ repo, repo ∈ deps ↔
      repo ≠ id ∧ Relation.TransGen (Declares ms true) repo id) :
    (i.direct.erase id ++ i.indirect).Perm deps := by
  have others : (i.direct.erase id ++ i.indirect).Nodup :=
    (h.nodup_direct.erase id).append h.nodup_indirect fun _ direct =>
      h.disjoint (List.mem_of_mem_erase direct)
  refine (List.perm_ext_iff_of_nodup others distinct).2 fun repo => ?_
  rw [List.mem_append, h.nodup_direct.mem_erase_iff, h.mem_direct_iff, h.mem_indirect_iff, members]
  constructor
  · rintro (⟨other, declared⟩ | ⟨other, path, -⟩)
    · exact ⟨other, .single declared⟩
    · exact ⟨other, path⟩
  · rintro ⟨other, path⟩
    by_cases declared : Declares ms true repo id
    · exact .inl ⟨other, declared⟩
    · exact .inr ⟨other, path, declared⟩

/-- What is affected counts the dependents of the node, and the node itself if it declares
itself. -/
theorem affectedCount_eq (h : i.Lists ms id) {deps : List String}
    (same : (i.direct.erase id ++ i.indirect).Perm deps) :
    i.affectedCount = deps.length + if Declares ms true id id then 1 else 0 := by
  have counted := same.length_eq
  rw [List.length_append] at counted
  by_cases own : Declares ms true id id
  · have listed := (h.mem_direct_iff id).2 own
    have positive := List.length_pos_of_mem listed
    rw [List.length_erase_of_mem listed] at counted
    rw [Impact.affectedCount, if_pos own]
    omega
  · rw [List.erase_of_not_mem (mt (h.mem_direct_iff id).1 own)] at counted
    rw [Impact.affectedCount, if_neg own]
    omega

variable {xs : List Manifest}

/-- More manifests declare more, so more repositories are affected directly. -/
theorem direct_subset (h : i.Lists ms id) (h' : j.Lists (ms ++ xs) id) : i.direct ⊆ j.direct := by
  intro repo direct
  exact (h'.mem_direct_iff repo).2 (((h.mem_direct_iff repo).1 direct).append xs)

/-- More repositories are affected in one way or the other. One that was affected indirectly may be
affected directly now. -/
theorem append_subset (h : i.Lists ms id) (h' : j.Lists (ms ++ xs) id) :
    i.direct ++ i.indirect ⊆ j.direct ++ j.indirect := by
  intro repo affected
  refine h'.mem_append_iff.2 ((h.mem_append_iff.1 affected).imp (·.append xs) ?_)
  rintro ⟨other, path⟩
  exact ⟨other, Relation.TransGen.mono (fun _ _ declared => declared.append xs) _ _ path⟩

theorem affectedCount_le (h : i.Lists ms id) (h' : j.Lists (ms ++ xs) id) :
    i.affectedCount ≤ j.affectedCount := by
  have fewer := (h.nodup_append.subperm (h.append_subset h')).length_le
  rwa [List.length_append, List.length_append] at fewer

end Impact.Lists

/-- What an impact lists, compared with the dependents of a node. The direct and the indirect ones
have no repetitions and nothing in common, the direct ones are the repositories that declare the
node, and the node is not among the indirect ones. Without the node they are the dependents of the
node, in any order. A node that declares itself is listed directly and counted once more; otherwise
the count is the number of dependents. -/
theorem impact_exact (hid : id ∈ (portfolioGraph ms).ids) :
    ∃ i deps, (portfolioGraph ms).impact id = .ok i ∧
      (portfolioGraph ms).allDependents id true = .ok deps ∧
      i.repo = id ∧ i.direct.Nodup ∧ i.indirect.Nodup ∧ i.direct.Disjoint i.indirect ∧
      id ∉ i.indirect ∧ (∀ repo, repo ∈ i.direct ↔ Declares ms true repo id) ∧
      deps.Nodup ∧ (∀ repo, repo ∈ deps ↔
        repo ≠ id ∧ Relation.TransGen (Declares ms true) repo id) ∧
      (i.direct.erase id ++ i.indirect).Perm deps ∧
      i.affectedCount = deps.length + (if Declares ms true id id then 1 else 0) ∧
      (id ∉ i.direct ∧ (i.direct ++ i.indirect).Perm deps ↔ ¬ Declares ms true id id) := by
  obtain ⟨i, run, lists⟩ := exists_impact hid
  obtain ⟨deps, dependents, distinct, members⟩ := exists_allDependents hid true
  have same := lists.erase_append_perm distinct members
  have own : id ∉ i.indirect := fun indirect => ((lists.mem_indirect_iff id).1 indirect).1 rfl
  have whole : id ∉ i.direct ∧ (i.direct ++ i.indirect).Perm deps ↔ ¬ Declares ms true id id := by
    rw [← lists.mem_direct_iff]
    constructor
    · exact And.left
    · intro other
      rw [List.erase_of_not_mem other] at same
      exact ⟨other, same⟩
  exact ⟨i, deps, run, dependents, lists.repo_eq, lists.nodup_direct, lists.nodup_indirect,
    lists.disjoint, own, lists.mem_direct_iff, distinct, members, same,
    lists.affectedCount_eq same, whole⟩

/-- Two repositories that need each other, one of them in both ways, and a third one. -/
def ring : List Manifest :=
  [⟨"core", [⟨"app", none⟩], [], .null⟩, ⟨"app", [⟨"core", none⟩], [⟨"core", none⟩], .null⟩,
    ⟨"tool", [], [⟨"app", none⟩], .null⟩]

/-- A repository on a ring depends on itself through another one, and is not affected. -/
theorem impact_exact_ring :
    ∃ i deps, (portfolioGraph ring).impact "core" = .ok i ∧
      (portfolioGraph ring).allDependents "core" true = .ok deps ∧
      i.direct = ["app"] ∧ i.indirect = ["tool"] ∧ (i.direct ++ i.indirect).Perm deps ∧
      i.affectedCount = deps.length := by
  have node : "core" ∈ (portfolioGraph ring).ids := by decide
  have other : ¬ Declares ring true "core" "core" := by decide
  obtain ⟨i, deps, run, dependents, -, -, -, -, -, -, -, -, -, counted, whole⟩ := impact_exact node
  rw [if_neg other] at counted
  have listed : i = ⟨"core", ["app"], ["tool"]⟩ := Except.ok.inj (run.symm.trans rfl)
  refine ⟨i, deps, run, dependents, ?_, ?_, (whole.2 other).2, counted⟩
  · rw [listed]
  · rw [listed]

/-- A repository that declares itself, and another one that needs it. -/
def selfNeeding : List Manifest :=
  [⟨"core", [⟨"core", none⟩], [], .null⟩, ⟨"app", [⟨"core", none⟩], [], .null⟩]

/-- The repository is not among its dependents, but is affected by itself, which takes the risk to
the next level. -/
theorem selfNeeding_affects_itself :
    ∃ i, (portfolioGraph selfNeeding).impact "core" = .ok i ∧ "core" ∈ i.direct ∧
      (portfolioGraph selfNeeding).allDependents "core" true = .ok ["app"] ∧
      ¬ (i.direct ++ i.indirect).Perm ["app"] ∧
      i.affectedCount = 2 ∧ i.risk = .medium ∧ RiskLevel.ofCount 1 = .low := by
  have run : (portfolioGraph selfNeeding).impact "core" = .ok ⟨"core", ["core", "app"], []⟩ := rfl
  exact ⟨_, run, by decide, rfl, by decide, rfl, by decide, by decide⟩

/-- Everything that a portfolio has as a node stays one in a portfolio with more manifests. -/
theorem mem_ids_portfolioGraph_append (hid : id ∈ (portfolioGraph ms).ids) (xs : List Manifest) :
    id ∈ (portfolioGraph (ms ++ xs)).ids := by
  rw [mem_ids_portfolioGraph_iff] at hid ⊢
  rcases hid with manifest | ⟨repo, declared⟩
  · rw [List.map_append]
    exact .inl (List.mem_append_left _ manifest)
  · exact .inr ⟨repo, declared.append xs⟩

/-- More manifests affect more. Who was affected directly still is, who was affected at all still is
in one way or the other, and neither the count nor the level of risk goes down. -/
theorem impact_grows (hid : id ∈ (portfolioGraph ms).ids) (xs : List Manifest) :
    ∃ i j, (portfolioGraph ms).impact id = .ok i ∧ (portfolioGraph (ms ++ xs)).impact id = .ok j ∧
      (∀ repo ∈ i.direct, repo ∈ j.direct) ∧
      (∀ repo, repo ∈ i.direct ∨ repo ∈ i.indirect → repo ∈ j.direct ∨ repo ∈ j.indirect) ∧
      i.affectedCount ≤ j.affectedCount ∧ i.risk.severity ≤ j.risk.severity := by
  obtain ⟨i, before, lists⟩ := exists_impact hid
  obtain ⟨j, after, lists'⟩ := exists_impact (mem_ids_portfolioGraph_append hid xs)
  have counted := lists.affectedCount_le lists'
  refine ⟨i, j, before, after, fun repo direct => lists.direct_subset lists' direct,
    fun repo affected => ?_, counted, RiskLevel.severity_ofCount_le counted⟩
  exact List.mem_append.1 (lists.append_subset lists' (List.mem_append.2 affected))

/-- A repository that needs a package, and another one that needs the repository. -/
def packageUsers : List Manifest :=
  [⟨"app", [⟨"json", none⟩], [], .null⟩, ⟨"tool", [⟨"app", none⟩], [], .null⟩]

/-- The package becomes a repository, its indirect user declares it, and two more come. -/
def laterUsers : List Manifest :=
  [⟨"json", [], [], .null⟩, ⟨"tool", [], [⟨"json", some "1.0"⟩], .null⟩,
    ⟨"site", [⟨"tool", none⟩], [], .null⟩, ⟨"shop", [⟨"site", none⟩], [], .null⟩]

/-- A repository moves from the indirect to the direct ones, two more are affected, and the risk
rises by a level. -/
theorem impact_grows_packageUsers :
    ∃ i j, (portfolioGraph packageUsers).impact "json" = .ok i ∧
      (portfolioGraph (packageUsers ++ laterUsers)).impact "json" = .ok j ∧
      i = ⟨"json", ["app"], ["tool"]⟩ ∧ j = ⟨"json", ["app", "tool"], ["site", "shop"]⟩ ∧
      (∀ repo ∈ i.direct, repo ∈ j.direct) ∧ i.affectedCount ≤ j.affectedCount ∧
      i.risk.severity < j.risk.severity := by
  have node : "json" ∈ (portfolioGraph packageUsers).ids := by decide
  obtain ⟨i, j, before, after, direct, -, counted, -⟩ := impact_grows node laterUsers
  have fewer : i = ⟨"json", ["app"], ["tool"]⟩ := Except.ok.inj (before.symm.trans rfl)
  have more : j = ⟨"json", ["app", "tool"], ["site", "shop"]⟩ :=
    Except.ok.inj (after.symm.trans rfl)
  refine ⟨i, j, before, after, fewer, more, direct, counted, ?_⟩
  rw [fewer, more]
  decide

end Impacts

end CodeGraph
