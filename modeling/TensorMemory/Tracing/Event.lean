import TensorMemory.Metric.Event
import TensorMemory.Text.Quoted
import TensorMemory.Tracing.Level

/-!
Events on the tracing channel: log messages with named fields, and metric events, which travel as
the text of a field under a target of their own.
-/

namespace TensorMemory

/-- The value of a field: text as it is, or a string that logs show in quotes. -/
inductive FieldValue where
  | plain (text : String)
  | quoted (text : String)
  deriving DecidableEq, Repr

namespace FieldValue

def nat (n : Nat) : FieldValue := .plain (Text.decimal n)

def bool (b : Bool) : FieldValue := .plain (if b then "true" else "false")

/-- The text that a reader of the field receives. -/
def raw : FieldValue → String
  | plain text => text
  | quoted text => text

/-- The text that a log shows. -/
def shown : FieldValue → String
  | plain text => text
  | quoted text => Text.quoted text

end FieldValue

structure Event where
  level : Level
  target : String
  message : Option String
  fields : List (String × FieldValue)
  deriving DecidableEq, Repr

namespace Event

/-- A field with its name. -/
def fieldText (f : String × FieldValue) : String := f.1 ++ "=" ++ f.2.shown

/-- The message and the fields, with a blank between any two of them. -/
def body (e : Event) : String := " ".intercalate (e.message.toList ++ e.fields.map fieldText)

/-- The body behind its target. -/
def text (e : Event) : String := e.target ++ ": " ++ e.body

/-- The event as an entry of a journal. A blank stands before every field, so before the first also
where there is no message. A field that is named for an error is left out. -/
def entry (e : Event) : String :=
  let fields := e.fields.filter (·.1 ≠ "error")
  e.level.name ++ " " ++ e.target ++ ": " ++ e.message.getD "" ++
    String.join (fields.map fun f => " " ++ fieldText f)

/-- The target under which metric events travel. -/
def metricsTarget : String := "metrics"

/-- The field that carries a metric event. -/
def metricField : String := "metric"

def ofMetric (m : MetricEvent) : Event :=
  ⟨.info, metricsTarget, none, [(metricField, .plain m.encode)]⟩

/-- The text of the last field that can carry a metric event. -/
def metricText? (e : Event) : Option String :=
  (e.fields.reverse.find? (·.1 = metricField)).map (·.2.raw)

end Event

/-- What tensor code announces: a log event or a metric event. -/
inductive Notice where
  | log (event : Event)
  | metric (event : MetricEvent)
  deriving DecidableEq

namespace Notice

def event : Notice → Event
  | log event => event
  | metric m => .ofMetric m

def metric? : Notice → Option MetricEvent
  | log _ => none
  | metric m => some m

/-- A log event at debug level. -/
def debug (target message : String) (fields : List (String × FieldValue)) : Notice :=
  .log ⟨.debug, target, some message, fields⟩

end Notice

/-- The metric events among the notices, in order. -/
def metricEvents (notices : List Notice) : List MetricEvent := notices.filterMap Notice.metric?

end TensorMemory
