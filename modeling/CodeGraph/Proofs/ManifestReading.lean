import CodeGraph.Manifest.Read
import CodeGraph.Proofs.ManifestShape

/-!
# Reading manifests of any content

What reading the manifest of a repository comes to, whatever its files hold. A file that cannot be
read, is no text, or breaks the grammar of its format is an error of manifests; so is a
`package.json` that holds no object. Other faults of a document are passed on as they are: a value
beyond the limits of the reader of the format, and a document of another shape than the manifest is
taken from.

Main definitions:

- `Escapes`: something fails with a fault that is passed on;
- `Files.FaultyManifest`: the manifest of a repository has such a fault.

Main statements:

- `Files.failsOnly_readManifest`: all errors of reading a manifest;
- `Files.escapes_readManifest_iff`: when a fault is passed on.
-/
namespace CodeGraph

/-! ## Faults that are passed on -/

/-- Something fails with a fault of a value, which is no error of its own. -/
def Escapes {α : Type} (x : Except Error α) : Prop := ∃ f, x = .error (.fault f)

section Escapes

variable {α β : Type}

theorem escapes_bind_iff {x : Except Error α} {f : α → Except Error β} :
    Escapes (x >>= f) ↔ Escapes x ∨ ∃ a, x = .ok a ∧ Escapes (f a) := by
  cases x <;> simp [Escapes, bind, Except.bind]

theorem not_escapes_pure {a : α} : ¬ Escapes (pure a : Except Error α) := nofun

theorem escapes_mapError_fault_iff {x : Except Fault α} :
    Escapes (x.mapError Error.fault) ↔ ¬ x.isOk = true := by
  cases x <;> simp [Escapes, Except.mapError, Except.isOk, Except.toBool]

end Escapes

/-- An error of manifests, or a fault of a value. -/
def Error.OfReading (e : Error) : Prop := (∃ m, e = .manifest m) ∨ ∃ f, e = .fault f

/-- A name without a null does not change whether a path has one. -/
theorem Path.hasNull_join (p : Path) {name : String} (plain : '\x00' ∉ name.toList) :
    (p.join name).hasNull = p.hasNull := by
  rw [hasNull, hasNull, Bool.eq_iff_iff, List.contains_iff_mem, List.contains_iff_mem]
  by_cases names : p.names = []
  · have whole : (p.join name).text = p.root ++ name := by
      rw [text, join, names]
      rfl
    rw [whole]
    by_cases root : p.root = "" <;> simp [text, names, root, plain]
  · rw [text_join names]
    simp [plain]

namespace Files

variable {files : Files} {p repo : Path}

/-! ## Files -/

theorem escapes_manifestText_iff : Escapes (files.manifestText p) ↔ p.hasNull = true := by
  rw [manifestText, textOr]
  by_cases null : p.hasNull = true
  · simp [null, Escapes]
  · rw [if_neg null]
    cases files.readText p <;> simp [null, Escapes, Except.mapError]

theorem manifestText_eq_ok_iff {cs : List Char} :
    files.manifestText p = .ok cs ↔ p.hasNull = false ∧ files.readText p = .ok cs := by
  rw [manifestText, textOr]
  by_cases null : p.hasNull = true
  · simp [null]
  · rw [if_neg null]
    cases files.readText p <;> simp [null, Except.mapError]

/-- The tables of a TOML file cannot be taken as they should be: a value is beyond a limit, or the
document is of another shape. -/
def FaultyToml (files : Files) (p : Path) (good : Value → Prop) : Prop :=
  ∃ cs, files.readText p = .ok cs ∧
    ((∃ f, Toml.read cs = .error (.badValue f)) ∨ ∃ v, Toml.read cs = .ok v ∧ ¬ good v)

/-- The object of a JSON file cannot be taken as it should be. -/
def FaultyJson (files : Files) (p : Path) (good : Value → Prop) : Prop :=
  ∃ cs, files.readText p = .ok cs ∧
    ((∃ f, Json.read cs = .error (.badValue f)) ∨
      ∃ entries, Json.read cs = .ok (.object entries) ∧ ¬ good (.object entries))

section Documents

variable {α : Type} {take : Value → Except Error α} {good : Value → Prop}

theorem escapes_tomlTables_iff (named : p.hasNull = false)
    (each : ∀ v, Escapes (take v) ↔ ¬ good v) :
    Escapes (files.tomlTables p >>= take) ↔ files.FaultyToml p good := by
  have text : ¬ Escapes (files.manifestText p) := by simp [escapes_manifestText_iff, named]
  rw [tomlTables, bind_assoc, escapes_bind_iff, or_iff_right text, FaultyToml]
  refine exists_congr fun cs => ?_
  rw [manifestText_eq_ok_iff, and_iff_right named]
  refine and_congr_right fun _ => ?_
  cases Toml.read cs with
  | ok v => simp [each]
  | error f => cases f <;> simp [Escapes, throw, throwThe, MonadExceptOf.throw, bind, Except.bind]

theorem escapes_jsonObject_iff (named : p.hasNull = false)
    (each : ∀ v, Escapes (take v) ↔ ¬ good v) :
    Escapes (files.jsonObject p >>= take) ↔ files.FaultyJson p good := by
  have text : ¬ Escapes (files.manifestText p) := by simp [escapes_manifestText_iff, named]
  rw [jsonObject, bind_assoc, escapes_bind_iff, or_iff_right text, FaultyJson]
  refine exists_congr fun cs => ?_
  rw [manifestText_eq_ok_iff, and_iff_right named]
  refine and_congr_right fun _ => ?_
  cases Json.read cs with
  | ok v =>
    cases v with
    | object entries => simp [each]
    | _ => simp [Escapes, throw, throwThe, MonadExceptOf.throw, bind, Except.bind]
  | error f => cases f <;> simp [Escapes, throw, throwThe, MonadExceptOf.throw, bind, Except.bind]

end Documents

/-! ## Languages -/

/-- The files of a repository whose lines are requirements. -/
def requirementsFiles (files : Files) (repo : Path) : List Path :=
  repo.join "requirements.txt" :: (devRequirementsFiles.map repo.join).filter files.isFile

theorem hasNull_of_mem_requirementsFiles (h : p ∈ files.requirementsFiles repo) :
    p.hasNull = repo.hasNull := by
  have plain : ∀ name ∈ "requirements.txt" :: devRequirementsFiles, '\x00' ∉ name.toList := by
    decide
  rcases List.mem_cons.1 h with rfl | h
  · exact repo.hasNull_join (plain _ List.mem_cons_self)
  · obtain ⟨name, hname, rfl⟩ := List.mem_map.1 (List.mem_of_mem_filter h)
    exact repo.hasNull_join (plain name (List.mem_cons_of_mem _ hname))

theorem not_escapes_requirementsFile (named : p.hasNull = false) :
    ¬ Escapes (files.requirementsFile p) := by
  rw [requirementsFile, escapes_bind_iff, escapes_manifestText_iff, named]
  rintro (null | ⟨cs, -, never⟩)
  · cases null
  · exact not_escapes_pure never

theorem isOk_requirementsFile_iff (named : p.hasNull = false) :
    (files.requirementsFile p).isOk = true ↔ ∃ cs, files.readText p = .ok cs := by
  rw [requirementsFile, isOk_bind_iff]
  simp only [isOk_pure, and_true, manifestText_eq_ok_iff, named, true_and]

/-- Requirements files are read as texts of any kind. A fault that is passed on comes from the
project file beside them, once they are read. -/
theorem escapes_readRequirements_iff (named : repo.hasNull = false) :
    Escapes (files.readRequirements repo) ↔
      (∀ q ∈ files.requirementsFiles repo, ∃ cs, files.readText q = .ok cs) ∧
      files.isFile (repo.join "pyproject.toml") = true ∧
      files.FaultyToml (repo.join "pyproject.toml") Pyproject.Named := by
  have own : ∀ q ∈ files.requirementsFiles repo, q.hasNull = false := fun q hq =>
    (hasNull_of_mem_requirementsFiles hq).trans named
  have project : (repo.join "pyproject.toml").hasNull = false :=
    (repo.hasNull_join (by decide)).trans named
  have main := own _ List.mem_cons_self
  have dev : ∀ q ∈ (devRequirementsFiles.map repo.join).filter files.isFile, q.hasNull = false :=
    fun q hq => own q (List.mem_cons_of_mem _ hq)
  have name (f : Option String → Manifest) (v : Value) :
      Escapes (do
        let name ← (Pyproject.projectName v).mapError Error.fault
        return f name) ↔ ¬ Pyproject.Named v := by
    rw [escapes_bind_iff, escapes_mapError_fault_iff, Pyproject.isOk_projectName_iff]
    exact or_iff_left fun ⟨_, _, never⟩ => not_escapes_pure never
  have lists : ¬ Escapes (((devRequirementsFiles.map repo.join).filter files.isFile).mapM
      files.requirementsFile) := by
    rintro ⟨f, failed⟩
    obtain ⟨q, hq, failed⟩ := exists_of_mapM_eq_error failed
    exact not_escapes_requirementsFile (dev q hq) ⟨f, failed⟩
  -- the name is looked up last, when nothing else can fail
  have last (f : Option String → Manifest) :
      Escapes (if files.isFile (repo.join "pyproject.toml") then do
          let tables ← files.tomlTables (repo.join "pyproject.toml")
          let name ← (Pyproject.projectName tables).mapError Error.fault
          return f name
        else do
          let name ← pure none
          return f name) ↔
        files.isFile (repo.join "pyproject.toml") = true ∧
          files.FaultyToml (repo.join "pyproject.toml") Pyproject.Named := by
    split
    · next beside => rw [escapes_tomlTables_iff project (name f), and_iff_right beside]
    · next absent => exact ⟨fun never => (not_escapes_pure never).elim, fun h => absurd h.1 absent⟩
  rw [readRequirements, escapes_bind_iff, or_iff_right (not_escapes_requirementsFile main)]
  constructor
  · rintro ⟨needed, hneeded, faulty⟩
    rw [escapes_bind_iff, or_iff_right lists] at faulty
    obtain ⟨extra, hextra, faulty⟩ := faulty
    refine ⟨fun q hq => ?_, (last _).1 faulty⟩
    rcases List.mem_cons.1 hq with rfl | hq
    · exact (isOk_requirementsFile_iff main).1 (isOk_iff_exists.2 ⟨needed, hneeded⟩)
    · have all := isOk_mapM_iff.1 (isOk_iff_exists.2 ⟨extra, hextra⟩)
      exact (isOk_requirementsFile_iff (dev q hq)).1 (all q hq)
  · rintro ⟨readable, faulty⟩
    obtain ⟨needed, hneeded⟩ := isOk_iff_exists.1
      ((isOk_requirementsFile_iff main).2 (readable _ List.mem_cons_self))
    obtain ⟨extra, hextra⟩ := isOk_iff_exists.1 (isOk_mapM_iff.2 fun q hq =>
      (isOk_requirementsFile_iff (dev q hq)).2 (readable q (List.mem_cons_of_mem _ hq)))
    exact ⟨needed, hneeded, escapes_bind_iff.2 (.inr ⟨extra, hextra, (last _).2 faulty⟩)⟩

/-- The manifest of a repository in a language has a fault that is passed on. Project files for
Elixir are read as texts of any kind, and so are requirements; beside these, a project file is read
for its name. -/
def FaultyIn (files : Files) (repo : Path) : Language → Prop
  | .elixir => False
  | .python =>
    if files.isFile (repo.join "requirements.txt") then
      (∀ q ∈ files.requirementsFiles repo, ∃ cs, files.readText q = .ok cs) ∧
        files.isFile (repo.join "pyproject.toml") = true ∧
        files.FaultyToml (repo.join "pyproject.toml") Pyproject.Named
    else files.FaultyToml (repo.join "pyproject.toml") Pyproject.WellShaped
  | .javascript => files.FaultyJson (repo.join "package.json") PackageJson.WellShaped

/-- The manifest that is found in a repository has a fault that is passed on, or the path has a
null. -/
def FaultyManifest (files : Files) (repo : Path) : Prop :=
  ∃ l, files.detectLanguage repo = some l ∧ (repo.hasNull = true ∨ files.FaultyIn repo l)

theorem escapes_readManifestAs_of_null (null : repo.hasNull = true) (l : Language) :
    Escapes (files.readManifestAs repo l) := by
  have text {name : String} (plain : '\x00' ∉ name.toList) :
      Escapes (files.manifestText (repo.join name)) :=
    escapes_manifestText_iff.2 ((repo.hasNull_join plain).trans null)
  cases l with
  | elixir => exact escapes_bind_iff.2 (.inl (text (by decide)))
  | javascript =>
    exact escapes_bind_iff.2 (.inl (escapes_bind_iff.2 (.inl (text (by decide)))))
  | python =>
    rw [readManifestAs]
    split
    · exact escapes_bind_iff.2 (.inl (escapes_bind_iff.2 (.inl (text (by decide)))))
    · exact escapes_bind_iff.2 (.inl (escapes_bind_iff.2 (.inl (text (by decide)))))

theorem escapes_readManifestAs_iff (named : repo.hasNull = false) (l : Language) :
    Escapes (files.readManifestAs repo l) ↔ files.FaultyIn repo l := by
  have own {name : String} (plain : '\x00' ∉ name.toList) : (repo.join name).hasNull = false :=
    (repo.hasNull_join plain).trans named
  cases l with
  | elixir =>
    have text : ¬ Escapes (files.manifestText (repo.join "mix.exs")) := by
      simp [escapes_manifestText_iff, own]
    rw [readManifestAs, escapes_bind_iff, or_iff_right text]
    refine iff_of_false ?_ id
    rintro ⟨cs, -, failed⟩
    split at failed <;> exact nomatch failed
  | javascript =>
    refine escapes_jsonObject_iff (own (by decide)) fun v => ?_
    rw [escapes_mapError_fault_iff, PackageJson.isOk_manifest_iff]
  | python =>
    rw [readManifestAs, FaultyIn]
    split
    · exact escapes_readRequirements_iff named
    · refine escapes_tomlTables_iff (own (by decide)) fun v => ?_
      rw [escapes_mapError_fault_iff, Pyproject.isOk_manifest_iff]

/-- Reading the manifest passes a fault on exactly when the manifest has one. -/
theorem escapes_readManifest_iff :
    Escapes (files.readManifest repo) ↔ files.FaultyManifest repo := by
  rw [readManifest, FaultyManifest]
  cases files.detectLanguage repo with
  | none => simp [Escapes]
  | some l =>
    by_cases null : repo.hasNull = true
    · simp [null, escapes_readManifestAs_of_null null l]
    · simp [null, escapes_readManifestAs_iff (Bool.eq_false_iff.2 null) l]

/-! ## All errors -/

theorem failsOnly_manifestText (files : Files) (p : Path) :
    FailsOnly Error.OfReading (files.manifestText p) := by
  rw [manifestText, textOr]
  split
  · exact .error (.inr ⟨_, rfl⟩)
  · cases files.readText p with
    | ok cs => exact .ok cs
    | error f => exact .error (.inl ⟨_, rfl⟩)

theorem failsOnly_mapError_fault {α : Type} (x : Except Fault α) :
    FailsOnly Error.OfReading (x.mapError .fault) := by
  cases x with
  | ok a => exact .ok a
  | error f => exact .error (.inr ⟨f, rfl⟩)

theorem failsOnly_tomlTables (files : Files) (p : Path) :
    FailsOnly Error.OfReading (files.tomlTables p) := by
  refine .bind (files.failsOnly_manifestText p) fun cs _ => ?_
  split
  · exact .ok _
  · exact .error (.inl ⟨_, rfl⟩)
  · exact .error (.inr ⟨_, rfl⟩)

theorem failsOnly_jsonObject (files : Files) (p : Path) :
    FailsOnly Error.OfReading (files.jsonObject p) := by
  refine .bind (files.failsOnly_manifestText p) fun cs _ => ?_
  split
  · exact .ok _
  · exact .error (.inl ⟨_, rfl⟩)
  · exact .error (.inl ⟨_, rfl⟩)
  · exact .error (.inr ⟨_, rfl⟩)

theorem failsOnly_requirementsFile (files : Files) (p : Path) :
    FailsOnly Error.OfReading (files.requirementsFile p) :=
  .bind (files.failsOnly_manifestText p) fun _ _ => .ok _

theorem failsOnly_readRequirements (files : Files) (repo : Path) :
    FailsOnly Error.OfReading (files.readRequirements repo) := by
  refine .bind (files.failsOnly_requirementsFile _) fun _ _ => ?_
  refine .bind (.mapM fun p _ => files.failsOnly_requirementsFile p) fun _ _ => ?_
  dsimp only
  split
  · refine .bind (files.failsOnly_tomlTables _) fun v _ => ?_
    exact .bind (failsOnly_mapError_fault _) fun _ _ => .ok _
  · exact .ok _

theorem failsOnly_readManifestAs (files : Files) (repo : Path) (l : Language) :
    FailsOnly Error.OfReading (files.readManifestAs repo l) := by
  cases l with
  | elixir =>
    refine .bind (files.failsOnly_manifestText _) fun cs _ => ?_
    split
    · exact .ok _
    · exact .error (.inl ⟨_, rfl⟩)
  | javascript =>
    exact .bind (files.failsOnly_jsonObject _) fun v _ => failsOnly_mapError_fault _
  | python =>
    rw [readManifestAs]
    split
    · exact files.failsOnly_readRequirements repo
    · exact .bind (files.failsOnly_tomlTables _) fun v _ => failsOnly_mapError_fault _

/-- The errors of reading a manifest are those of manifests and faults of values. -/
theorem failsOnly_readManifest (files : Files) (repo : Path) :
    FailsOnly Error.OfReading (files.readManifest repo) := by
  rw [readManifest]
  cases files.detectLanguage repo with
  | none => exact .error (.inl ⟨_, rfl⟩)
  | some l => exact files.failsOnly_readManifestAs repo l

end Files

end CodeGraph
