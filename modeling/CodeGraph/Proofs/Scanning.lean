import CodeGraph.Manifest.Scan
import CodeGraph.Proofs.ManifestReading

/-!
# What a scan finds

A scan reads the manifests of the repositories below a directory one after the other. A manifest
that is an error of manifests is skipped, and said so. A manifest with another fault is not: the
scan ends with this fault, and what was read before is lost.

Main definitions:

- `Files.repositories`: the repositories below a directory, in order;
- `Files.readable?`, `Files.skipped?`: what a scan makes of a repository.

Main statements:

- `Files.scanFrom_append`: repositories without a fault are read or skipped, one by one;
- `Files.scan_exact`: the outcome of a scan.
-/
namespace CodeGraph

/-- In a list, either no member has a property, or there is a first one. -/
theorem forall_not_or_exists_first {α : Type} (P : α → Prop) (as : List α) :
    (∀ a ∈ as, ¬ P a) ∨ ∃ pre a post, as = pre ++ a :: post ∧ (∀ b ∈ pre, ¬ P b) ∧ P a := by
  induction as with
  | nil => exact .inl nofun
  | cons a as ih =>
    by_cases here : P a
    · exact .inr ⟨[], a, as, rfl, nofun, here⟩
    · rcases ih with never | ⟨pre, b, post, rfl, before, first⟩
      · exact .inl (List.forall_mem_cons.2 ⟨here, never⟩)
      · exact .inr ⟨a :: pre, b, post, rfl, List.forall_mem_cons.2 ⟨here, before⟩, first⟩

namespace Files

variable {files : Files} {root p : Path}

/-- The repositories right below a directory. -/
def repositories (files : Files) (root : Path) : List Path :=
  (files.entriesOf root).filter files.isRepository

/-- The manifest of a repository, if it can be read. -/
def readable? (files : Files) (p : Path) : Option Manifest := (files.readManifest p).toOption

/-- What is said of a repository whose manifest is an error of manifests. -/
def skipped? (files : Files) (p : Path) : Option Skipped :=
  match files.readManifest p with
  | .error (.manifest e) => some ⟨p.name, e⟩
  | _ => none

/-! ## Repositories -/

theorem mem_entriesOf_iff : p ∈ files.entriesOf root ↔
    ∃ entries, files.locate root = .ok (.directory entries) ∧
      ∃ e ∈ entries, p = root.join e.1 := by
  rw [entriesOf]
  cases files.locate root with
  | error f => simp
  | ok t =>
    cases t with
    | file content => simp
    | directory entries => simp [eq_comm]

/-- The entries of a directory come in the order of their names. -/
theorem pairwise_entriesOf (files : Files) (root : Path) :
    (files.entriesOf root).Pairwise fun p q => p.name ≤ q.name := by
  rw [entriesOf]
  split
  · next entries _ =>
    have sorted : ((entries.map Prod.fst).mergeSort fun a b => a ≤ b).Pairwise
        fun a b => decide (a ≤ b) = true :=
      List.pairwise_mergeSort (fun a b c => by simpa using String.le_trans)
        (fun a b => by simpa using String.le_total a b) _
    refine List.pairwise_map.2 (sorted.imp fun {a b} le => ?_)
    simpa [Path.name, Path.join] using le
  · exact .nil

theorem entriesOf_of_pairwise {entries : List (String × FileTree)}
    (directory : files.locate root = .ok (.directory entries))
    (sorted : (entries.map Prod.fst).Pairwise (· ≤ ·)) :
    files.entriesOf root = (entries.map Prod.fst).map root.join := by
  rw [entriesOf, directory]
  exact congrArg (List.map root.join) (List.mergeSort_of_pairwise (sorted.imp decide_eq_true))

/-! ## A single repository -/

/-- A repository is read, or skipped with its error, or its manifest has a fault. -/
theorem readManifest_cases (files : Files) (p : Path) :
    (∃ m, files.readManifest p = .ok m ∧ files.readable? p = some m ∧ files.skipped? p = none) ∨
    (∃ e, files.readManifest p = .error (.manifest e) ∧ files.readable? p = none ∧
      files.skipped? p = some ⟨p.name, e⟩) ∨
    (files.FaultyManifest p ∧ ∃ f, files.readManifest p = .error (.fault f)) := by
  rw [readable?, skipped?]
  cases read : files.readManifest p with
  | ok m => exact .inl ⟨m, rfl, rfl, rfl⟩
  | error e =>
    rcases files.failsOnly_readManifest p e read with ⟨e, rfl⟩ | ⟨f, rfl⟩
    · exact .inr (.inl ⟨e, rfl, rfl, rfl⟩)
    · exact .inr (.inr ⟨escapes_readManifest_iff.1 ⟨f, read⟩, f, rfl⟩)

/-! ## The run -/

variable {skipped : List Skipped} {done : List Manifest} {ps : List Path}

/-- Repositories without a fault are read or skipped, one by one. -/
theorem scanFrom_append (sound : ∀ p ∈ ps, ¬ files.FaultyManifest p) (qs : List Path) :
    files.scanFrom skipped done (ps ++ qs) =
      files.scanFrom ((ps.filterMap files.skipped?).reverse ++ skipped)
        ((ps.filterMap files.readable?).reverse ++ done) qs := by
  induction ps generalizing skipped done with
  | nil => rfl
  | cons p ps ih =>
    obtain ⟨first, rest⟩ := List.forall_mem_cons.1 sound
    rw [List.cons_append, scanFrom, List.filterMap_cons, List.filterMap_cons]
    rcases files.readManifest_cases p with
      ⟨m, read, some, none⟩ | ⟨e, read, none, some⟩ | ⟨faulty, -⟩
    · simp [read, some, none, ih rest]
    · simp [read, some, none, ih rest]
    · exact absurd faulty first

/-- The scan ends at the first repository whose manifest has a fault. -/
theorem scanFrom_of_faulty (sound : ∀ q ∈ ps, ¬ files.FaultyManifest q)
    (faulty : files.FaultyManifest p) (qs : List Path) :
    ∃ f, files.readManifest p = .error (.fault f) ∧
      files.scanFrom [] [] (ps ++ p :: qs) = ⟨ps.filterMap files.skipped?, .error (.fault f)⟩ := by
  obtain ⟨f, read⟩ := escapes_readManifest_iff.2 faulty
  refine ⟨f, read, ?_⟩
  rw [scanFrom_append sound, scanFrom, read]
  simp

/-! ## The whole scan -/

theorem scan_eq (directory : files.isDirectory root = true) :
    files.scan root = files.scanFrom [] [] (files.repositories root) := by
  rw [scan, if_pos directory]
  rfl

/-- The outcome of a scan of a directory. Its repositories are the entries of the directory that are
directories themselves, are not hidden and have a manifest, in the order of their names; each can be
read, or is an error of manifests, or has a fault. The scan gives manifests exactly when none has a
fault: those that can be read, with a message for each of the others. Else it ends with the fault of
the first repository that has one. -/
theorem scan_exact (directory : files.isDirectory root = true) :
    (∀ p, p ∈ files.repositories root ↔
      (∃ entries, files.locate root = .ok (.directory entries) ∧
        ∃ e ∈ entries, p = root.join e.1) ∧
      files.isDirectory p = true ∧ Text.startsWith ['.'] p.name.toList = false ∧
      ∃ l, files.detectLanguage p = some l) ∧
    (files.repositories root).Pairwise (fun p q => p.name ≤ q.name) ∧
    (∀ p ∈ files.repositories root,
      (∃ m, files.readManifest p = .ok m ∧ files.readable? p = some m ∧
        files.skipped? p = none) ∨
      (∃ e, files.readManifest p = .error (.manifest e) ∧ files.readable? p = none ∧
        files.skipped? p = some ⟨p.name, e⟩) ∨
      (files.FaultyManifest p ∧ ∃ f, files.readManifest p = .error (.fault f))) ∧
    ((∃ ms, (files.scan root).result = .ok ms) ↔
      ∀ p ∈ files.repositories root, ¬ files.FaultyManifest p) ∧
    ((∀ p ∈ files.repositories root, ¬ files.FaultyManifest p) →
      files.scan root = ⟨(files.repositories root).filterMap files.skipped?,
        .ok ((files.repositories root).filterMap files.readable?)⟩) ∧
    ∀ pre p post, files.repositories root = pre ++ p :: post →
      (∀ q ∈ pre, ¬ files.FaultyManifest q) → files.FaultyManifest p →
      ∃ f, files.readManifest p = .error (.fault f) ∧
        files.scan root = ⟨pre.filterMap files.skipped?, .error (.fault f)⟩ := by
  have complete (sound : ∀ p ∈ files.repositories root, ¬ files.FaultyManifest p) :
      files.scan root = ⟨(files.repositories root).filterMap files.skipped?,
        .ok ((files.repositories root).filterMap files.readable?)⟩ := by
    have run : files.scanFrom [] [] (files.repositories root ++ []) = _ :=
      scanFrom_append sound []
    rw [List.append_nil, scanFrom] at run
    rw [scan_eq directory, run]
    simp
  refine ⟨fun p => ?_, (files.pairwise_entriesOf root).filter _,
    fun p _ => files.readManifest_cases p, ⟨?_, fun sound => ?_⟩, complete,
    fun pre p post split sound faulty => ?_⟩
  · rw [repositories, List.mem_filter, mem_entriesOf_iff, isRepository, Bool.and_eq_true,
      Bool.and_eq_true, Bool.not_eq_true', Option.isSome_iff_exists, and_assoc]
  · -- a first fault would have ended the scan without manifests
    rintro ⟨ms, run⟩
    rcases forall_not_or_exists_first files.FaultyManifest (files.repositories root) with
      sound | ⟨pre, p, post, split, sound, faulty⟩
    · exact sound
    · obtain ⟨f, -, ended⟩ := scanFrom_of_faulty sound faulty post
      rw [scan_eq directory, split, ended] at run
      cases run
  · exact ⟨_, congrArg Scan.result (complete sound)⟩
  · rw [scan_eq directory, split]
    exact scanFrom_of_faulty sound faulty post

end Files

/-- A repository with a package file. -/
def packageWith (text : String) : FileTree :=
  .directory [("package.json", .file (text.toList.map fun c => UInt8.ofNat c.toNat))]

/-- A directory with two packages, the second of which ends too early. -/
def unfinishedPackage : Files where
  directory := ⟨"/", []⟩
  children := [("root", .directory [("a", packageWith "\x7b\x7d"), ("b", packageWith "\x7b")])]

theorem repositories_unfinishedPackage :
    unfinishedPackage.repositories ⟨"", ["root"]⟩ =
      [⟨"", ["root", "a"]⟩, ⟨"", ["root", "b"]⟩] := by
  have entries : unfinishedPackage.locate ⟨"", ["root"]⟩ =
      .ok (.directory [("a", packageWith "\x7b\x7d"), ("b", packageWith "\x7b")]) := rfl
  rw [Files.repositories, Files.entriesOf_of_pairwise entries (by decide)]
  rfl

/-- The second package is skipped, and the first one is found. -/
theorem scan_exact_unfinishedPackage :
    ∃ m e, unfinishedPackage.scan ⟨"", ["root"]⟩ = ⟨[⟨"b", e⟩], .ok [m]⟩ ∧ m.name = "a" := by
  have first : ∃ m, unfinishedPackage.readManifest ⟨"", ["root", "a"]⟩ = .ok m ∧ m.name = "a" :=
    ⟨_, rfl, rfl⟩
  have second : ∃ e, unfinishedPackage.readManifest ⟨"", ["root", "b"]⟩ = .error (.manifest e) :=
    ⟨_, rfl⟩
  obtain ⟨m, read, name⟩ := first
  obtain ⟨e, refused⟩ := second
  have directory : unfinishedPackage.isDirectory ⟨"", ["root"]⟩ = true := rfl
  obtain ⟨-, -, -, -, complete, -⟩ := Files.scan_exact directory
  have sound : ∀ p ∈ unfinishedPackage.repositories ⟨"", ["root"]⟩,
      ¬ unfinishedPackage.FaultyManifest p := by
    rw [repositories_unfinishedPackage]
    intro p hp faulty
    obtain ⟨f, failed⟩ := Files.escapes_readManifest_iff.2 faulty
    rcases List.mem_pair.1 hp with rfl | rfl
    · rw [read] at failed
      cases failed
    · rw [refused] at failed
      cases failed
  refine ⟨m, e, ?_, name⟩
  rw [complete sound, repositories_unfinishedPackage]
  simp [Files.skipped?, Files.readable?, read, refused, Except.toOption, Path.name]

/-- A directory with three packages, the second of which gives its dependencies as a list. -/
def listedDependencies : Files where
  directory := ⟨"/", []⟩
  children := [("root", .directory [("a", packageWith "\x7b\x7d"),
    ("b", packageWith "\x7b\"dependencies\": [\"x\"]\x7d"), ("c", packageWith "\x7b\x7d")])]

/-- The second package ends the scan: there is no manifest of the other two, and no message. -/
theorem listedDependencies_ends_scan :
    listedDependencies.isDirectory ⟨"", ["root"]⟩ = true ∧
    (∃ m, listedDependencies.readManifest ⟨"", ["root", "a"]⟩ = .ok m) ∧
    (∃ m, listedDependencies.readManifest ⟨"", ["root", "c"]⟩ = .ok m) ∧
    (∃ e, listedDependencies.scan ⟨"", ["root"]⟩ = ⟨[], .error e⟩ ∧ e.isReported = false) ∧
    ¬ ∃ ms, (listedDependencies.scan ⟨"", ["root"]⟩).result = .ok ms := by
  have repositories : listedDependencies.repositories ⟨"", ["root"]⟩ =
      [⟨"", ["root", "a"]⟩, ⟨"", ["root", "b"]⟩, ⟨"", ["root", "c"]⟩] := by
    have entries : listedDependencies.locate ⟨"", ["root"]⟩ =
        .ok (.directory [("a", packageWith "\x7b\x7d"),
          ("b", packageWith "\x7b\"dependencies\": [\"x\"]\x7d"),
          ("c", packageWith "\x7b\x7d")]) := rfl
    rw [Files.repositories, Files.entriesOf_of_pairwise entries (by decide)]
    -- the kernel evaluates the reader on the text, which `rfl` would unfold step by step
    decide +kernel
  have second : (match listedDependencies.readManifest ⟨"", ["root", "b"]⟩ with
      | .ok _ => true
      | .error e => e.isReported) = false := by decide +kernel
  have first : ∃ m, listedDependencies.readManifest ⟨"", ["root", "a"]⟩ = .ok m := ⟨_, rfl⟩
  have ended : ∃ e, listedDependencies.scan ⟨"", ["root"]⟩ = ⟨[], .error e⟩ ∧
      e.isReported = false := by
    obtain ⟨m, read⟩ := first
    rw [Files.scan_eq rfl, repositories, Files.scanFrom, read]
    dsimp only
    rw [Files.scanFrom]
    cases failed : listedDependencies.readManifest ⟨"", ["root", "b"]⟩ with
    | ok m =>
      rw [failed] at second
      cases second
    | error e =>
      rw [failed] at second
      cases e with
      | manifest e => cases second
      | _ => exact ⟨_, rfl, second⟩
  refine ⟨rfl, first, ⟨_, rfl⟩, ended, ?_⟩
  rintro ⟨ms, run⟩
  obtain ⟨e, failed, -⟩ := ended
  rw [failed] at run
  cases run

end CodeGraph
