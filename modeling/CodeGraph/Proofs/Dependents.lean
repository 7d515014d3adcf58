import CodeGraph.Proofs.PortfolioGraph
import CodeGraph.Proofs.Walks
import Mathlib.Order.Lattice.Nat

/-!
# What depends on a repository or package

The dependents of a name are the manifests from which a chain of declarations leads to it. They are
found in the graph by following edges backward, so those with the shortest chains come first. A
package that is no repository declares nothing and begins no chain, so only manifests are found
although nothing is filtered.

Main definitions:

- `Mentions`: a name is that of a manifest or of something that a manifest declares;
- `DependencyChain`, `shortestChain`: the chains of declarations, and the length of a shortest one.

Main statements:

- `mem_ids_portfolioGraph_iff_mentions`: the nodes are the names that the manifests mention;
- `allDependents_exact`: the dependents of a name, and their order.
-/
namespace CodeGraph

/-- A name is that of a manifest, or of a dependency that a manifest declares in one of the two
ways. -/
def Mentions (ms : List Manifest) (id : String) : Prop :=
  id ∈ ms.map Manifest.name ∨
    ∃ m ∈ ms, id ∈ (m.dependencies ++ m.devDependencies).map Dependency.name

instance (ms : List Manifest) (id : String) : Decidable (Mentions ms id) :=
  inferInstanceAs (Decidable (id ∈ ms.map Manifest.name ∨
    ∃ m ∈ ms, id ∈ (m.dependencies ++ m.devDependencies).map Dependency.name))

/-- A chain of so many declarations leads from a repository to a repository or package. -/
def DependencyChain (ms : List Manifest) (includeDev : Bool) (k : Nat) (repo id : String) : Prop :=
  1 ≤ k ∧ Walk (Declares ms includeDev) k repo id

/-- The length of a shortest chain of declarations. It is zero when there is no chain. -/
noncomputable def shortestChain (ms : List Manifest) (includeDev : Bool) (repo id : String) : Nat :=
  sInf {k | DependencyChain ms includeDev k repo id}

section Chains

variable {ms : List Manifest} {includeDev : Bool} {k : Nat} {repo id u v : String}

/-! ## Chains -/

/-- A chain starts at a manifest. -/
theorem DependencyChain.mem_names (h : DependencyChain ms includeDev k repo id) :
    repo ∈ ms.map Manifest.name := by
  obtain ⟨positive, walk⟩ := h
  cases walk with
  | here repo => omega
  | step declared _ =>
    apply isRepo_portfolioGraph_iff.1
    exact declared.isRepo

/-- Between different names each walk is a chain. -/
theorem dependencyChain_iff (other : repo ≠ id) :
    DependencyChain ms includeDev k repo id ↔ Walk (Declares ms includeDev) k repo id := by
  constructor
  · exact And.right
  · intro walk
    exact ⟨walk.pos other, walk⟩

theorem isLeast_shortestChain (h : DependencyChain ms includeDev k repo id) :
    IsLeast {k | DependencyChain ms includeDev k repo id}
      (shortestChain ms includeDev repo id) := by
  constructor
  · exact Nat.sInf_mem ⟨k, h⟩
  · intro n chain
    exact Nat.sInf_le chain

/-! ## Dependents -/

/-- The nodes are the names that the manifests mention. -/
theorem mem_ids_portfolioGraph_iff_mentions : id ∈ (portfolioGraph ms).ids ↔ Mentions ms id := by
  rw [mem_ids_portfolioGraph_iff]
  unfold Mentions
  apply or_congr_right
  constructor
  · rintro ⟨-, m, hm, -, needed⟩
    exact ⟨m, hm, List.mem_map.2 needed⟩
  · rintro ⟨m, hm, named⟩
    exact ⟨m.name, m, hm, rfl, List.mem_map.1 named⟩

/-- Whoever is no farther away in the graph has no longer chains. -/
theorem shortestChain_le_of_noFarther
    (h : NoFarther ((portfolioGraph ms).adjacent (some (EdgeType.needed includeDev)) .incoming)
      id u v)
    (hu : u ≠ id) (hv : DependencyChain ms includeDev k v id) :
    shortestChain ms includeDev u id ≤ shortestChain ms includeDev v id := by
  unfold NoFarther at h
  rw [follows_portfolioGraph_incoming] at h
  simp only [walk_swap_iff] at h
  have shortest : DependencyChain ms includeDev (shortestChain ms includeDev v id) v id :=
    (isLeast_shortestChain hv).1
  obtain ⟨j, le, walk⟩ := h _ shortest.2
  have chain : DependencyChain ms includeDev j u id := (dependencyChain_iff hu).2 walk
  have least : shortestChain ms includeDev u id ≤ j := (isLeast_shortestChain chain).2 chain
  omega

/-- The dependents of a node, each once, with the shortest chains first. -/
theorem exists_allDependents_ordered (hid : id ∈ (portfolioGraph ms).ids) (includeDev : Bool) :
    ∃ found, (portfolioGraph ms).allDependents id includeDev = .ok found ∧ found.Nodup ∧
      (∀ repo, repo ∈ found ↔ repo ≠ id ∧ ∃ k, DependencyChain ms includeDev k repo id) ∧
      found.Pairwise fun u v =>
        shortestChain ms includeDev u id ≤ shortestChain ms includeDev v id := by
  obtain ⟨m, indexes, -⟩ := (holds_portfolioGraph ms).indexes
  obtain ⟨found, run, distinct, met, nearest⟩ := indexes.exists_transitive hid
    (some (EdgeType.needed includeDev)) .incoming none
  have members (repo : String) :
      repo ∈ found ↔ repo ≠ id ∧ ∃ k, DependencyChain ms includeDev k repo id := by
    rw [met, follows_portfolioGraph_incoming]
    apply and_congr_right
    intro other
    simp only [walk_swap_iff, dependencyChain_iff other]
    simp [WithinDepth]
  refine ⟨found, run, distinct, members, ?_⟩
  apply nearest.imp_of_mem
  intro u v hu hv nearer
  obtain ⟨-, k, chain⟩ := (members v).1 hv
  exact shortestChain_le_of_noFarther nearer ((members u).1 hu).1 chain

/-- What depends on a name. A name that no manifest mentions is not found. For every other name each
manifest of another name from which a chain of declarations leads to it is listed, once and with
the shortest chains first, and nothing else is. -/
theorem allDependents_exact (ms : List Manifest) (id : String) (includeDev : Bool) :
    ((portfolioGraph ms).allDependents id includeDev = .error (.nodeNotFound id) ↔
      ¬ Mentions ms id) ∧
    (Mentions ms id → ∃ found, (portfolioGraph ms).allDependents id includeDev = .ok found ∧
      found.Nodup ∧
      (∀ repo, repo ∈ found ↔ repo ∈ ms.map Manifest.name ∧ repo ≠ id ∧
        ∃ k, DependencyChain ms includeDev k repo id) ∧
      found.Pairwise fun u v =>
        shortestChain ms includeDev u id ≤ shortestChain ms includeDev v id) := by
  rw [← mem_ids_portfolioGraph_iff_mentions]
  by_cases hid : id ∈ (portfolioGraph ms).ids
  · obtain ⟨found, run, distinct, members, ordered⟩ := exists_allDependents_ordered hid includeDev
    constructor
    · rw [run]
      simp [hid]
    · intro _
      refine ⟨found, run, distinct, ?_, ordered⟩
      intro repo
      rw [members]
      constructor
      · rintro ⟨other, k, chain⟩
        exact ⟨chain.mem_names, other, k, chain⟩
      · exact And.right
  · constructor
    · have refused : (portfolioGraph ms).allDependents id includeDev = .error (.nodeNotFound id) :=
        if_neg (mt Store.contains_eq_true_iff.1 hid)
      simp [refused, hid]
    · intro known
      exact absurd known hid

/-- A repository that declares itself and a package, a second one that is declared in two manifests
and needs the first one, which needs it in turn, and a third one. -/
def tangled : List Manifest :=
  [⟨"core", [⟨"core", none⟩, ⟨"json", none⟩], [], .null⟩, ⟨"app", [⟨"core", none⟩], [], .null⟩,
    ⟨"tool", [⟨"app", none⟩], [], .null⟩, ⟨"app", [], [⟨"json", none⟩], .null⟩,
    ⟨"core", [⟨"app", none⟩], [], .null⟩]

/-- All three repositories depend on the package. The one that declares itself is not its own
dependent, and a name that is not mentioned is not found. -/
theorem allDependents_exact_tangled :
    Mentions tangled "json" ∧ ¬ Mentions tangled "toml" ∧
    (∃ k, DependencyChain tangled false k "tool" "json") ∧
    shortestChain tangled false "core" "json" ≤ shortestChain tangled false "tool" "json" ∧
    (∃ found, (portfolioGraph tangled).allDependents "core" false = .ok found ∧ "core" ∉ found) ∧
    (portfolioGraph tangled).allDependents "toml" true = .error (.nodeNotFound "toml") := by
  have mentioned : Mentions tangled "json" := by decide
  have unknown : ¬ Mentions tangled "toml" := by decide
  have repository : Mentions tangled "core" := by decide
  obtain ⟨found, run, -, members, ordered⟩ := (allDependents_exact tangled "json" false).2 mentioned
  have listed : (portfolioGraph tangled).allDependents "json" false =
      .ok ["core", "app", "tool"] := rfl
  obtain rfl := Except.ok.inj (listed.symm.trans run)
  obtain ⟨-, -, chain⟩ := (members "tool").1 (by decide)
  obtain ⟨others, others_run, -, others_members, -⟩ :=
    (allDependents_exact tangled "core" false).2 repository
  refine ⟨mentioned, unknown, chain, ?_, ⟨others, others_run, ?_⟩, ?_⟩
  · exact (List.pairwise_cons.1 ordered).1 "tool" (by decide)
  · intro own
    exact ((others_members "core").1 own).2.1 rfl
  · exact (allDependents_exact tangled "toml" true).1.2 unknown

end Chains

end CodeGraph
