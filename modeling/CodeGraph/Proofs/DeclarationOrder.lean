import CodeGraph.Proofs.Impact
import CodeGraph.Proofs.ShuffledGraphs

/-!
# The order of declaration

The manifests of a portfolio may be listed in any order, as long as no two of them have one name:
the graphs hold the same nodes and edges, and so the analyses find the same. Of two manifests with
one name the later one would give the node.

Main statements:

- `shuffled_portfolioGraph`: the graphs of manifests that are listed in two orders;
- `declarationOrder_irrelevant`: what the analyses find in them.
-/
namespace CodeGraph

variable {ms ns : List Manifest} {id : String}

/-! ## Graphs -/

/-- Under distinct names, a name finds the manifest that has it. -/
theorem find?_name_eq_some_iff (distinct : (ms.map Manifest.name).Nodup) {m : Manifest} :
    (ms.find? fun m => m.name = id) = some m ↔ m ∈ ms ∧ m.name = id := by
  constructor
  · intro found
    exact ⟨List.mem_of_find?_eq_some found, by simpa using List.find?_some found⟩
  · rintro ⟨hm, rfl⟩
    cases found : ms.find? fun n => n.name = m.name with
    | none => exact absurd (decide_eq_true rfl) (List.find?_eq_none.1 found m hm)
    | some n =>
      have named : n.name = m.name := by simpa using List.find?_some found
      exact congrArg some (List.inj_on_of_nodup_map distinct (List.mem_of_find?_eq_some found) hm
        named)

theorem find?_name_of_perm (same : ms.Perm ns) (distinct : (ms.map Manifest.name).Nodup) :
    (ms.find? fun m => m.name = id) = ns.find? fun m => m.name = id := by
  refine Option.ext fun m => ?_
  rw [find?_name_eq_some_iff distinct,
    find?_name_eq_some_iff ((same.map Manifest.name).nodup_iff.1 distinct), same.mem_iff]

theorem dependencyNames_perm (same : ms.Perm ns) :
    (Facts.dependencyNames { manifests := ms }).Perm
      (Facts.dependencyNames { manifests := ns }) :=
  same.flatMap_right _

/-- The graphs of manifests in two orders hold the same nodes and edges. -/
theorem shuffled_portfolioGraph (same : ms.Perm ns) (distinct : (ms.map Manifest.name).Nodup) :
    (portfolioGraph ms).Shuffled (portfolioGraph ns) := by
  -- an id finds the last manifest of its name, which is the only one
  have turned : ms.reverse.Perm ns.reverse :=
    (ms.reverse_perm.trans same).trans ns.reverse_perm.symm
  have distinct' : (ms.reverse.map Manifest.name).Nodup := by
    rwa [List.map_reverse, List.nodup_reverse]
  have nodes : Facts.finalNode? { manifests := ms } = Facts.finalNode? { manifests := ns } := by
    funext id
    rw [Facts.finalNode?_eq, Facts.finalNode?_eq]
    dsimp only
    rw [find?_name_of_perm turned distinct']
    simp only [(dependencyNames_perm same).mem_iff]
    rfl
  have holds := holds_portfolioGraph ms
  rw [nodes] at holds
  exact holds.shuffled (holds_portfolioGraph ns) (same.flatMap_right _)

/-! ## Impacts -/

theorem declares_of_perm (same : ms.Perm ns) (includeDev : Bool) :
    Declares ms includeDev = Declares ns includeDev := by
  funext repo id
  exact propext (exists_congr fun m => by rw [same.mem_iff])

namespace Impact.Lists

variable {i j : Impact}

/-- What an impact lists does not hang on the order of the manifests. -/
theorem of_perm (h : i.Lists ms id) (same : ms.Perm ns) : i.Lists ns id where
  repo_eq := h.repo_eq
  nodup_direct := h.nodup_direct
  nodup_indirect := h.nodup_indirect
  mem_direct_iff := declares_of_perm same true ▸ h.mem_direct_iff
  mem_indirect_iff := declares_of_perm same true ▸ h.mem_indirect_iff

/-- Two lists of what is affected by one node differ only in their order. -/
theorem unique (h : i.Lists ms id) (h' : j.Lists ms id) :
    i.direct.Perm j.direct ∧ i.indirect.Perm j.indirect ∧ i.risk = j.risk := by
  have direct : i.direct.Perm j.direct :=
    (List.perm_ext_iff_of_nodup h.nodup_direct h'.nodup_direct).2 fun repo => by
      rw [h.mem_direct_iff, h'.mem_direct_iff]
  have indirect : i.indirect.Perm j.indirect :=
    (List.perm_ext_iff_of_nodup h.nodup_indirect h'.nodup_indirect).2 fun repo => by
      rw [h.mem_indirect_iff, h'.mem_indirect_iff]
  refine ⟨direct, indirect, ?_⟩
  rw [Impact.risk, Impact.risk, Impact.affectedCount, Impact.affectedCount, direct.length_eq,
    indirect.length_eq]

end Impact.Lists

/-- A node has an impact in both graphs, with the same repositories and the same risk. -/
theorem exists_impact_of_perm (same : ms.Perm ns) (distinct : (ms.map Manifest.name).Nodup)
    (hid : id ∈ (portfolioGraph ms).ids) :
    ∃ i j, (portfolioGraph ms).impact id = .ok i ∧ (portfolioGraph ns).impact id = .ok j ∧
      i.direct.Perm j.direct ∧ i.indirect.Perm j.indirect ∧ i.risk = j.risk := by
  have hid' : id ∈ (portfolioGraph ns).ids :=
    (shuffled_portfolioGraph same distinct).ids_perm.mem_iff.1 hid
  obtain ⟨i, run, lists⟩ := exists_impact hid
  obtain ⟨j, run', lists'⟩ := exists_impact hid'
  exact ⟨i, j, run, run', (lists.of_perm same).unique lists'⟩

/-! ## All analyses -/

/-- Manifests with distinct names may be listed in any order. The graphs have the same nodes and, in
whatever order, the same edges; the upgrade order, or its failure, is the same; so are the counts of
the shared dependencies, the impact of every node, and the dependencies whose constraints are in
conflict with their major versions, if these can be told. -/
theorem declarationOrder_irrelevant (same : ms.Perm ns) (distinct : (ms.map Manifest.name).Nodup) :
    (portfolioGraph ms).Alike (portfolioGraph ns) ∧
    (portfolioGraph ms).upgradeOrder = (portfolioGraph ns).upgradeOrder ∧
    (∀ minCount,
      ((portfolioGraph ms).sharedDependencies minCount).map (fun d => (d.dependency, d.count)) =
        ((portfolioGraph ns).sharedDependencies minCount).map fun d => (d.dependency, d.count)) ∧
    (∀ id ∈ (portfolioGraph ms).ids, ∃ i j,
      (portfolioGraph ms).impact id = .ok i ∧ (portfolioGraph ns).impact id = .ok j ∧
      i.direct.Perm j.direct ∧ i.indirect.Perm j.indirect ∧ i.risk = j.risk) ∧
    (portfolioGraph ms).versionConflicts.isOk = (portfolioGraph ns).versionConflicts.isOk ∧
    ∀ found found', (portfolioGraph ms).versionConflicts = .ok found →
      (portfolioGraph ns).versionConflicts = .ok found' →
      (found.map fun c => (c.dependency, c.majors)).Perm
        (found'.map fun c => (c.dependency, c.majors)) := by
  have shuffled := shuffled_portfolioGraph same distinct
  exact ⟨shuffled.alike, shuffled.upgradeOrder_eq, shuffled.sharedDependencies_eq,
    fun _ hid => exists_impact_of_perm same distinct hid, shuffled.isOk_versionConflicts_eq,
    fun _ _ => shuffled.versionConflicts_perm⟩

/-- Two repositories that use a package in different versions, one of which needs the other one. -/
def packagePair : List Manifest :=
  [⟨"web", [⟨"core", none⟩, ⟨"json", some "2.1"⟩], [], .null⟩,
    ⟨"core", [⟨"json", some "~> 1.0"⟩], [], .null⟩]

/-- It is the same when the repository that is needed comes first. -/
theorem declarationOrder_irrelevant_packagePair :
    packagePair ≠ packagePair.reverse ∧
    (portfolioGraph packagePair).Alike (portfolioGraph packagePair.reverse) ∧
    (portfolioGraph packagePair.reverse).upgradeOrder = .ok ["core", "web"] ∧
    ∃ i j, (portfolioGraph packagePair).impact "json" = .ok i ∧
      (portfolioGraph packagePair.reverse).impact "json" = .ok j ∧
      i.direct = ["web", "core"] ∧ j.direct = ["core", "web"] ∧ i.direct.Perm j.direct ∧
      i.risk = j.risk := by
  have distinct : (packagePair.map Manifest.name).Nodup := by decide
  obtain ⟨alike, order, -, impacts, -⟩ :=
    declarationOrder_irrelevant packagePair.reverse_perm.symm distinct
  obtain ⟨i, j, run, run', direct, -, risk⟩ := impacts "json" (by decide)
  have listed : i = ⟨"json", ["web", "core"], []⟩ := Except.ok.inj (run.symm.trans rfl)
  have listed' : j = ⟨"json", ["core", "web"], []⟩ := Except.ok.inj (run'.symm.trans rfl)
  refine ⟨?_, alike, order.symm.trans rfl, i, j, run, run', ?_, ?_, direct, risk⟩
  · simp [packagePair]
  · rw [listed]
  · rw [listed']

end CodeGraph
