import CodeGraph.Error
import CodeGraph.Manifest.Basic

/-!
# Loading portfolios

A portfolio is kept as JSON in a file: a list of manifests, or an object that holds the list under
`repos`.
-/
namespace CodeGraph

/-- The list of repositories in the value of a portfolio file. -/
def Value.repoList? : Value → Option (List Value)
  | .list items => some items
  | .object entries =>
    match lookup? (.text "repos") entries with
    | some (.list items) => some items
    | _ => none
  | _ => none

namespace Files

/-- What a fault of a portfolio file is. -/
def portfolioTextError (p : Path) : TextFault → Error
  | .unreadable f => .manifest (.unreadable p (.unreadable f))
  | .undecodable f => .encoding f

/-- The JSON value in a portfolio file. -/
def readPortfolioValue (files : Files) (p : Path) : Except Error Value :=
  match files.textOr p (portfolioTextError p) with
  | .error e => .error e
  | .ok cs =>
    match Json.read cs with
    | .error (.badSyntax f) => .error (.manifest (.badJson p f))
    | .error (.badValue f) => .error (.fault f)
    | .ok v => .ok v

/-- The manifests in a portfolio file. -/
def loadPortfolio (files : Files) (p : Path) : Except Error (List Manifest) :=
  match files.readPortfolioValue p with
  | .error e => .error e
  | .ok v =>
    match v.repoList? with
    | none => .error (.manifest (.notARepoList p))
    | some repos =>
      match repos.mapM Manifest.ofValue with
      | .ok manifests => .ok manifests
      | .error f =>
        .error (if f.isShape then .manifest (.malformedRepo p f) else .fault f)

end Files

end CodeGraph
