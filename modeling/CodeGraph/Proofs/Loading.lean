import CodeGraph.Command.Run
import CodeGraph.Proofs.DocumentFaults

/-!
# Loading files of JSON

What loading a file of facts or a portfolio file comes to. A file that cannot be opened, that is no
JSON or that has another shape is refused with the error of its loader, which a command reports. A
few faults pass by the loaders: bytes that are not UTF-8, values beyond the limits of the reader of
JSON, and metadata given as a list of which a member is no pair. These end a command without a
report.

Main definitions:

- `Files.readJson`: the value in a file, with the errors of a loader as parameters;
- `Files.HoldsJson`: a file holds a value;
- `Files.PassesBy`, `Files.FactsPassBy`: the faults that are not refused.

Main statements:

- `Files.loadFacts_cases`, `Files.loadPortfolio_cases`: what a loader comes to;
- `Files.loading_exact`: when an error of a loader is reported.
-/
namespace CodeGraph

namespace Files

variable {files : Files} {p : Path} {e : Error}

/-! ## Values -/

/-- The JSON value in a file, where the loader says what errors are made of a file that cannot be
read and of a text that is no JSON. -/
def readJson (files : Files) (p : Path) (unreadable : FileFault → Error)
    (badJson : Json.SyntaxFault → Error) : Except Error Value :=
  if p.hasNull then .error (.fault .nullInPath)
  else
    match files.readText p with
    | .error (.unreadable f) => .error (unreadable f)
    | .error (.undecodable f) => .error (.encoding f)
    | .ok cs =>
      match Json.read cs with
      | .error (.badSyntax f) => .error (badJson f)
      | .error (.badValue f) => .error (.fault f)
      | .ok v => .ok v

theorem readFactsValue_eq (files : Files) (p : Path) :
    files.readFactsValue p =
      files.readJson p (fun f => .facts (.unreadable p f)) fun f => .facts (.badJson p f) := by
  rw [readFactsValue, textOr, readJson]
  by_cases null : p.hasNull = true
  · rw [if_pos null, if_pos null]
  · rw [if_neg null, if_neg null]
    cases files.readText p with
    | error f => cases f <;> rfl
    | ok cs => rfl

theorem readPortfolioValue_eq (files : Files) (p : Path) :
    files.readPortfolioValue p =
      files.readJson p (fun f => .manifest (.unreadable p (.unreadable f)))
        fun f => .manifest (.badJson p f) := by
  rw [readPortfolioValue, textOr, readJson]
  by_cases null : p.hasNull = true
  · rw [if_pos null, if_pos null]
  · rw [if_neg null, if_neg null]
    cases files.readText p with
    | error f => cases f <;> rfl
    | ok cs => rfl

/-- A file holds a JSON value. -/
def HoldsJson (files : Files) (p : Path) (v : Value) : Prop :=
  p.hasNull = false ∧ ∃ cs, files.readText p = .ok cs ∧ Json.read cs = .ok v

/-- The errors of a file that no loader refuses: the path holds a null, the bytes are not UTF-8, or
a value goes beyond a limit of the reader. -/
inductive PassesBy (files : Files) (p : Path) : Error → Prop where
  | nullInPath (null : p.hasNull = true) : PassesBy files p (.fault .nullInPath)
  | encoding {f : Text.Utf8.Fault} (named : p.hasNull = false)
    (bytes : files.readText p = .error (.undecodable f)) : PassesBy files p (.encoding f)
  | limit {cs : List Char} {f : Fault} (named : p.hasNull = false)
    (text : files.readText p = .ok cs) (beyond : Json.read cs = .error (.badValue f)) :
    PassesBy files p (.fault f)

theorem PassesBy.isReported_eq (h : files.PassesBy p e) : e.isReported = false := by
  cases h <;> rfl

/-- The faults of values that pass by are a null in the path and what goes beyond a limit. -/
theorem PassesBy.isLimit {f : Fault} (h : files.PassesBy p (.fault f)) :
    f = .nullInPath ∨ f.IsLimit := by
  cases h with
  | nullInPath null => exact .inl rfl
  | limit named text beyond => exact .inr (Json.isLimit_of_read beyond)

section ReadJson

variable {unreadable : FileFault → Error} {badJson : Json.SyntaxFault → Error}

theorem HoldsJson.readJson_eq {v : Value} (h : files.HoldsJson p v) :
    files.readJson p unreadable badJson = .ok v := by
  obtain ⟨named, cs, text, value⟩ := h
  rw [readJson, named, text]
  simp only [value]
  rfl

theorem PassesBy.readJson_eq (h : files.PassesBy p e) :
    files.readJson p unreadable badJson = .error e := by
  rw [readJson]
  cases h with
  | nullInPath null => rw [if_pos null]
  | encoding named bytes => rw [named, bytes]; rfl
  | limit named text beyond =>
    rw [named, text]
    simp only [beyond]
    rfl

/-- A value is read, or the loader makes an error of the fault, or the fault passes by. -/
theorem readJson_cases (files : Files) (p : Path) :
    (∃ v, files.HoldsJson p v) ∨
    (∃ f, files.readJson p unreadable badJson = .error (unreadable f)) ∨
    (∃ f, files.readJson p unreadable badJson = .error (badJson f)) ∨
    ∃ e, files.PassesBy p e := by
  by_cases null : p.hasNull = true
  · exact .inr (.inr (.inr ⟨_, .nullInPath null⟩))
  · have named : p.hasNull = false := Bool.eq_false_iff.2 null
    rw [readJson, if_neg null]
    cases text : files.readText p with
    | error f =>
      cases f with
      | unreadable f => exact .inr (.inl ⟨f, rfl⟩)
      | undecodable f => exact .inr (.inr (.inr ⟨_, .encoding named text⟩))
    | ok cs =>
      dsimp only
      cases value : Json.read cs with
      | error f =>
        cases f with
        | badSyntax f => exact .inr (.inr (.inl ⟨f, rfl⟩))
        | badValue f => exact .inr (.inr (.inr ⟨_, .limit named text value⟩))
      | ok v => exact .inl ⟨v, named, cs, text, value⟩

end ReadJson

/-! ## Facts and portfolios -/

/-- The errors of a file of facts that are not refused: those of any file, and metadata of a node or
an edge that is a list with a member that is no pair. -/
inductive FactsPassBy (files : Files) (p : Path) : Error → Prop where
  | ofFile {e : Error} (h : files.PassesBy p e) : FactsPassBy files p e
  | unpaired {entries : List (Key × Value)} {f : Fault}
    (holds : files.HoldsJson p (.object entries))
    (fault : Facts.ofValue (.object entries) = .error f) (value : f.isShape = false)
    (odd : Facts.HasUnpaired (.object entries) f) : FactsPassBy files p (.fault f)

theorem FactsPassBy.loadFacts_eq (h : files.FactsPassBy p e) :
    files.loadFacts p = .error e ∧ e.isReported = false := by
  rw [loadFacts, readFactsValue_eq]
  cases h with
  | ofFile h => exact ⟨by rw [h.readJson_eq], h.isReported_eq⟩
  | unpaired holds fault value odd =>
    refine ⟨?_, rfl⟩
    rw [holds.readJson_eq]
    simp only [Facts.read, fault, value]
    rfl

/-- A file of facts gives facts, or is refused with an error of facts, or is at a fault that passes
by. -/
theorem loadFacts_cases (files : Files) (p : Path) :
    (∃ facts, files.loadFacts p = .ok facts) ∨ (∃ f, files.loadFacts p = .error (.facts f)) ∨
      ∃ e, files.FactsPassBy p e := by
  rw [loadFacts, readFactsValue_eq]
  rcases files.readJson_cases p with ⟨v, holds⟩ | ⟨f, refused⟩ | ⟨f, refused⟩ | ⟨e, passes⟩
  · rw [holds.readJson_eq]
    cases v with
    | object entries =>
      dsimp only
      rw [Facts.read]
      cases taken : Facts.ofValue (.object entries) with
      | ok facts => exact .inl ⟨facts, rfl⟩
      | error f =>
        by_cases shape : f.isShape = true
        · exact .inr (.inl ⟨.malformed f, by simp only [shape, if_true]⟩)
        · have odd := (Facts.failsOnly_ofValue _ f taken).resolve_left shape
          exact .inr (.inr ⟨_, .unpaired holds taken (Bool.eq_false_iff.2 shape) odd⟩)
    | _ => exact .inr (.inl ⟨_, rfl⟩)
  · rw [refused]
    exact .inr (.inl ⟨_, rfl⟩)
  · rw [refused]
    exact .inr (.inl ⟨_, rfl⟩)
  · exact .inr (.inr ⟨e, .ofFile passes⟩)

theorem PassesBy.loadPortfolio_eq (h : files.PassesBy p e) :
    files.loadPortfolio p = .error e := by
  rw [loadPortfolio, readPortfolioValue_eq, h.readJson_eq]

/-- A portfolio file gives manifests, or is refused with an error of manifests, or is at a fault
that passes by. -/
theorem loadPortfolio_cases (files : Files) (p : Path) :
    (∃ manifests, files.loadPortfolio p = .ok manifests) ∨
      (∃ f, files.loadPortfolio p = .error (.manifest f)) ∨ ∃ e, files.PassesBy p e := by
  rw [loadPortfolio, readPortfolioValue_eq]
  rcases files.readJson_cases p with ⟨v, holds⟩ | ⟨f, refused⟩ | ⟨f, refused⟩ | ⟨e, passes⟩
  · rw [holds.readJson_eq]
    dsimp only
    cases v.repoList? with
    | none => exact .inr (.inl ⟨_, rfl⟩)
    | some repos =>
      dsimp only
      cases taken : repos.mapM Manifest.ofValue with
      | ok manifests => exact .inl ⟨manifests, rfl⟩
      | error f =>
        have malformed : f.isShape = true :=
          FailsOnly.mapM (fun r _ => Manifest.failsOnly_ofValue r) f taken
        exact .inr (.inl ⟨.malformedRepo p f, by simp only [malformed, if_true]⟩)
  · rw [refused]
    exact .inr (.inl ⟨_, rfl⟩)
  · rw [refused]
    exact .inr (.inl ⟨_, rfl⟩)
  · exact .inr (.inr ⟨e, passes⟩)

end Files

/-! ## Commands -/

variable {files : Files} {p : Path} {e : Error}

/-- A command that cannot load its facts ends with the error. -/
theorem Command.run_of_loadFacts_error {c : Command} {facts : Option Path} {query : GraphQuery}
    (asks : c.query = .ofFacts facts query) (place : facts.getD files.directory.defaultFacts = p)
    (failed : files.loadFacts p = .error e) : c.run files = .ofError e := by
  rw [run, asks]
  simp only [place, Files.loadGraph, failed]

/-- A command that cannot load its portfolio ends with the error. -/
theorem Command.run_of_loadPortfolio_error {c : Command} {query : PortfolioQuery}
    (asks : c.query = .ofPortfolio (some (.file p)) query)
    (failed : files.loadPortfolio p = .error e) : c.run files = .ofError e := by
  rw [run, asks]
  simp only [Files.portfolio, failed]

/-- What loading a file comes to, for facts and for a portfolio: the content, an error of the
loader, or one of the errors that pass by. A command ends with code 1 for any error. It reports an
error of the loader, and none of those that pass by. -/
theorem Files.loading_exact (files : Files) (p : Path) :
    ((∃ facts, files.loadFacts p = .ok facts) ∨ (∃ f, files.loadFacts p = .error (.facts f)) ∨
      ∃ e, files.FactsPassBy p e) ∧
    (∀ e, files.FactsPassBy p e → files.loadFacts p = .error e ∧ e.isReported = false) ∧
    ((∃ manifests, files.loadPortfolio p = .ok manifests) ∨
      (∃ f, files.loadPortfolio p = .error (.manifest f)) ∨ ∃ e, files.PassesBy p e) ∧
    (∀ e, files.PassesBy p e → files.loadPortfolio p = .error e ∧ e.isReported = false) ∧
    (∀ f, files.PassesBy p (.fault f) → f = .nullInPath ∨ f.IsLimit) ∧
    ∀ (c : Command) (e : Error),
      (∃ facts query, c.query = .ofFacts facts query ∧
        facts.getD files.directory.defaultFacts = p ∧ files.loadFacts p = .error e) ∨
      (∃ query, c.query = .ofPortfolio (some (.file p)) query ∧
        files.loadPortfolio p = .error e) →
      c.run files = if e.isReported then .ofReport e.message
        else { exitCode := 1, abort := some (.error e) } := by
  refine ⟨files.loadFacts_cases p, fun e passes => passes.loadFacts_eq, files.loadPortfolio_cases p,
    fun e passes => ⟨passes.loadPortfolio_eq, passes.isReported_eq⟩, fun f => PassesBy.isLimit,
    fun c e => ?_⟩
  rintro (⟨facts, query, asks, place, failed⟩ | ⟨query, asks, failed⟩)
  · exact Command.run_of_loadFacts_error asks place failed
  · exact Command.run_of_loadPortfolio_error asks failed

/-- A file with a byte that starts no character. -/
def strayByte : Files where
  directory := ⟨"/", []⟩
  children := [("stray.json", .file [0x7B, 0xFF, 0x7D])]

/-- A node whose metadata is a list with a text of one character. -/
def unpairedNode : Value :=
  .record [("nodes", .list [.record [("id", .text "f"), ("type", .text "function"),
    ("metadata", .texts ["x"])]])]

/-- The file is refused by neither loader, and a command that asks for it ends without a report. Nor
are the facts with the node refused. -/
theorem strayByte_passes_by :
    strayByte.loadFacts ⟨"", ["stray.json"]⟩ = .error (.encoding ⟨.invalidStart, 0xFF, 1, 1⟩) ∧
    strayByte.loadPortfolio ⟨"", ["stray.json"]⟩ =
      .error (.encoding ⟨.invalidStart, 0xFF, 1, 1⟩) ∧
    ¬ (∃ f, strayByte.loadFacts ⟨"", ["stray.json"]⟩ = .error (.facts f)) ∧
    (Command.run strayByte ⟨.ofFacts (some ⟨"", ["stray.json"]⟩) .stats, false⟩).reported = "" ∧
    (Command.run strayByte ⟨.ofFacts (some ⟨"", ["stray.json"]⟩) .stats, false⟩).abort.isSome ∧
    Facts.read unpairedNode = .error (.fault (.pairLength 0 1)) := by
  have run : strayByte.loadFacts ⟨"", ["stray.json"]⟩ =
      .error (.encoding ⟨.invalidStart, 0xFF, 1, 1⟩) := rfl
  refine ⟨run, rfl, ?_, rfl, rfl, rfl⟩
  rintro ⟨f, refused⟩
  rw [run] at refused
  cases refused

end CodeGraph
