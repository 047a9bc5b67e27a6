import CallMonitor.Cli.Rows
import CallMonitor.Json.Write
import CallMonitor.Policy.Table

/-!
What a policy says about one call, and how that is shown.
-/

namespace CallMonitor.Cli

open CallMonitor.Policy

structure Evaluation where
  query : Query
  rule : Option Rule
  verdict : Verdict
  rulesLoaded : Nat
  deriving DecidableEq, Repr

namespace Evaluation

def ofState (path : String) (state : PathState) (query : Query) :
    Except PolicyError Evaluation :=
  match Table.load path state with
  | .error error => .error error
  | .ok table =>
      let rule := table.find? query
      let verdict :=
        match rule with
        | none => Verdict.fallback
        | some rule => rule.verdict
      .ok ⟨query, rule, verdict, table.size⟩

def verdictStyle : Verdict → Style
  | .allow => .good
  | .deny => .bad
  | .mock => .notable

def layOut (colours : Bool) (evaluation : Evaluation) : String :=
  let query := evaluation.query
  line "" ++ labelled colours "Method:" query.method ++
    (if query.resources.isEmpty then ""
      else labelled colours "Resources:" (", ".intercalate query.resources)) ++
    labelled colours "Verdict:"
      (paint colours (verdictStyle evaluation.verdict) evaluation.verdict.word) ++
    (match evaluation.rule with
      | some rule => labelled colours "Rule:" rule.summary
      | none => line ("  " ++ paint colours .faint "No matching rule")) ++
    line ""

def document (evaluation : Evaluation) : Json.Document :=
  .object [
    ("method", .text evaluation.query.method),
    ("resources", .list (evaluation.query.resources.map .text)),
    ("rule", match evaluation.rule with
      | none => .null
      | some rule => .text rule.summary),
    ("rules_loaded", .number evaluation.rulesLoaded),
    ("verdict", .text evaluation.verdict.word)]

def shown (format : Format) (colours : Bool) (evaluation : Evaluation) : String :=
  match format with
  | .pretty => evaluation.layOut colours
  | .json => line (evaluation.document.spread 0)
  | .compact =>
      line ("[" ++ evaluation.verdict.word ++ "] " ++ evaluation.query.method ++ " " ++
        " ".intercalate evaluation.query.resources)

end Evaluation

end CallMonitor.Cli
