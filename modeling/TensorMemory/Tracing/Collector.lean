import TensorMemory.Metric.Exporter
import TensorMemory.Text.Terminal
import TensorMemory.Tracing.Event

/-!
Where events go. A scoped collector takes everything; while there is none, events go to the
subscriber installed for the whole process: logs up to its level are printed, and metric events are
decoded, joined with the innermost span and handed to the exporters. An event that arises while a
scoped collector is still busy with another is lost; the installed subscriber takes it.
-/

namespace TensorMemory

structure Span where
  /-- Spans are numbered from zero in the order in which they are entered. -/
  index : Nat
  name : String
  level : Level
  parent : Option Nat
  /-- Someone was collecting when the span was entered; otherwise nobody knows of it. -/
  known : Bool
  deriving DecidableEq, Repr

/-- What prints logs up to a level and feeds exporters. -/
structure Subscriber where
  level : Level
  exporters : List Exporter
  deriving DecidableEq, Repr

/-- A line on standard output: a log, or a metric record, which is printed with the time. -/
inductive Printed where
  | log (text : String)
  | metric (record : Record)
  deriving DecidableEq

structure Collector where
  /-- A scoped collector is in place. -/
  isScoped : Bool
  installed : Option Subscriber
  /-- Spans entered so far. -/
  entered : Nat
  /-- Open spans, the innermost first. -/
  spans : List Span
  files : Files
  /-- The time that records are stamped with. -/
  now : Instant
  printed : List Printed
  received : List Record
  logged : List Event

namespace Collector

def start (isScoped : Bool) : Collector where
  isScoped
  installed := none
  entered := 0
  spans := []
  files := .empty
  now := ⟨0, 0⟩
  printed := []
  received := []
  logged := []

/-- The innermost span that someone knows of. -/
def current (c : Collector) : Option Span := c.spans.find? (·.known)

def enter (c : Collector) (name : String) (level : Level) : Collector :=
  let span : Span :=
    ⟨c.entered, name, level, c.current.map (·.index), c.isScoped || c.installed.isSome⟩
  { c with entered := c.entered + 1, spans := span :: c.spans }

/-- Leaves the innermost span, if one is open. -/
def leave (c : Collector) : Collector := { c with spans := c.spans.tail }

/-- The metric event with its instant and span. -/
def enrich (c : Collector) (m : MetricEvent) : Record where
  instant := c.now
  spanId := c.current.map (·.index)
  parentSpanId := c.current.bind (·.parent)
  spanName := c.current.map (·.name)
  event := m

/-- The printed line of a log: its level, the open spans that pass the filter from the outermost in,
and the event. Its message is made harmless; its fields are printed as they are. -/
def logLine (c : Collector) (level : Level) (e : Event) : String :=
  let spans := (c.spans.filter fun s => s.known && s.level.passes level).reverse
  let names := String.join (spans.map fun s => s.name ++ ":")
  let shown := { e with message := e.message.map Text.harmless }
  e.level.name ++ " " ++ (if names = "" then "" else names ++ " ") ++ shown.text

/-- Prints an event unless it carries a metric or is too verbose. -/
def printLog (c : Collector) (s : Subscriber) (e : Event) : Collector :=
  if e.target ≠ Event.metricsTarget ∧ e.level.passes s.level then
    { c with printed := c.printed ++ [.log (c.logLine s.level e)] }
  else c

def undecodedMessage : String := "failed to deserialize metric event"

/-- The text of a metric event could not be read. Why is a field of the real log entry; it repeats the
reader's own words, and is left out. -/
def undecoded : Event := ⟨.error, "instrument", some undecodedMessage, []⟩

def unappended (e : FileError) (m : MetricEvent) : Event :=
  ⟨.error, "instrument", some "failed to append metric",
    [("error", .plain e.message), ("metric", .plain m.summary)]⟩

def deliver (c : Collector) (s : Subscriber) (r : Record) : Exporter → Collector
  | .console => { c with printed := c.printed ++ [.metric r] }
  | .lines sink =>
    match Exporter.appendRecord c.files sink r with
    | .ok files => { c with files }
    | .error e => c.printLog s (unappended e r.event)

/-- The metric event that the metrics layer takes from an event: nothing from other targets or
without the field, an error if the text is not that of a metric event. -/
def metricOf (e : Event) : Option (Except Unit MetricEvent) :=
  if e.target = Event.metricsTarget then
    e.metricText?.map fun text =>
      match MetricEvent.decode text with
      | some m => .ok m
      | none => .error ()
  else none

def dispatch (c : Collector) (e : Event) : Collector :=
  if c.isScoped then
    if e.target = Event.metricsTarget then
      match metricOf e with
      | some (.ok m) => { c with received := c.received ++ [c.enrich m] }
      | _ => c
    else { c with logged := c.logged ++ [e] }
  else
    match c.installed with
    | none => c
    | some s =>
      let c := c.printLog s e
      match metricOf e with
      | none => c
      | some (.error ()) => c.printLog s undecoded
      | some (.ok m) => s.exporters.foldl (fun c x => c.deliver s (c.enrich m) x) c

def dispatchAll (c : Collector) (events : List Event) : Collector := events.foldl dispatch c

end Collector

inductive InstallError where
  | metricsFile (error : FileError)
  | alreadyInstalled
  deriving DecidableEq, Repr

namespace InstallError

def message : InstallError → String
  | metricsFile e => "failed to open metrics file: " ++ e.message
  | alreadyInstalled =>
    "global subscriber already installed: a global default trace dispatcher has already been set"

end InstallError

namespace Collector

/-- Opens the exporters and installs the subscriber of a configuration. Files are opened, and so
created, also when there is a subscriber already. -/
def install (c : Collector) (configuration : Configuration) :
    Except InstallError Unit × Collector :=
  match Exporter.ofConfiguration configuration c.files with
  | .error e => (.error (.metricsFile e), c)
  | .ok (exporters, files) =>
    let c := { c with files }
    if c.installed.isSome then (.error .alreadyInstalled, c)
    else
      let c := { c with installed := some ⟨configuration.logLevel, exporters⟩ }
      (.ok (), c.dispatch ⟨.debug, "instrument", some "tracing initialised",
        [("config", .plain configuration.text)]⟩)

end Collector
end TensorMemory
