import ApiModel.CommandLine.Arguments
import ApiModel.Model.Tree
import ApiModel.Modeling.Text
import ApiModel.Yaml.Printer

/-!
# Running the command

A run models the text of the input file and writes the model. It may fail because of what was
reported, but only after the model is written.
-/

namespace ApiModel.CommandLine

inductive RunError
  | inputMissing (path : String)
  | noModel (failure : Failure)
  | errorsReported (count : Nat)
deriving DecidableEq

def RunError.message : RunError → String
  | .inputMissing path => s!"Operation failed: OpenAPI file not found: {Json.quote path}"
  | .noModel failure => failure.message
  | .errorsReported count => s!"Modeling reported {count} error(s)"

/-- What a run writes, and how it ends. -/
structure RunResult where
  written : Option String
  result : Except RunError (List Diagnostic)

/-- The model, with the diagnostics if they are asked for. -/
def reportTree (model : Model) (diagnostics : Option (List Diagnostic)) : Tree :=
  .record ([("codeModel", model.tree)]
    ++ Tree.field? "diagnostics" (fun ds => .list (ds.map Diagnostic.tree)) diagnostics)

def renderTree (t : Tree) : OutputFormat → String
  | .yaml => Yaml.render t
  | .json => t.toJson.pretty

def Arguments.options (args : Arguments) : Options :=
  { separator := args.separator, components := !args.skipComponents }

/-- The text that is written for a model. -/
def Arguments.report (args : Arguments) (model : Model) (diagnostics : List Diagnostic) : String :=
  renderTree (reportTree model (if args.withDiagnostics then some diagnostics else none))
    args.format

/-- A run on the text of the input file, if there is one. -/
def run (args : Arguments) (text : Option String) : RunResult :=
  match text with
  | none => ⟨none, .error (.inputMissing args.input)⟩
  | some text =>
    let outcome := modelText args.options text
    match outcome.result with
    | .error failure => ⟨none, .error (.noModel failure)⟩
    | .ok model =>
      let errors := Diagnostic.errorCount outcome.diagnostics
      ⟨some (args.report model outcome.diagnostics),
        if args.denyErrors && 0 < errors then .error (.errorsReported errors)
        else .ok outcome.diagnostics⟩

end ApiModel.CommandLine
