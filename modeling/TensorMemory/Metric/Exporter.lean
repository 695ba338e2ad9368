import TensorMemory.Configuration.Basic
import TensorMemory.Files
import TensorMemory.Metric.Record

/-!
Exporters of metric records: lines for people on standard output, or one document a line appended to
a file.
-/

namespace TensorMemory

inductive Exporter where
  | console
  | lines (sink : Sink)
  deriving DecidableEq, Repr

namespace Exporter

/-- Opens the exporters that a configuration asks for, the console first. -/
def ofConfiguration (c : Configuration) (files : Files) :
    Except FileError (List Exporter × Files) :=
  let console := if c.consoleMetrics then [.console] else []
  match c.metricsPath with
  | none => .ok (console, files)
  | some path =>
    match files.openAppend path with
    | .error e => .error e
    | .ok (sink, files) => .ok (console ++ [.lines sink], files)

/-- Appends the line of a record. -/
def appendRecord (files : Files) (sink : Sink) (r : Record) : Except FileError Files :=
  files.append sink (r.line ++ "\n")

/-- Appends records up to the first failure, which the others outlive. -/
def appendRecords (files : Files) (sink : Sink) (rs : List Record) : Files :=
  rs.foldl (fun files r => (appendRecord files sink r).toOption.getD files) files

/-- Opens a path anew for each run of records and appends them. -/
def appendRuns (files : Files) (path : NativeText) :
    List (List Record) → Except FileError Files
  | [] => .ok files
  | rs :: runs =>
    match files.openAppend path with
    | .error e => .error e
    | .ok (sink, files) => appendRuns (appendRecords files sink rs) path runs

end Exporter

/-- Splits a text at its line ends. A last line without one counts as a line too. -/
def textLines (s : String) : List String :=
  match (s.splitOn "\n").reverse with
  | "" :: rest => rest.reverse
  | _ => s.splitOn "\n"

end TensorMemory
