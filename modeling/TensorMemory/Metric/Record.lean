import TensorMemory.Instant
import TensorMemory.Metric.Event

/-!
Records: metric events with the instant and the span they were sent in. A record is exported as a
line for people and as a document of one line for files; `ofLine?` reads the latter back.
-/

namespace TensorMemory

structure Record where
  instant : Instant
  spanId : Option Nat
  parentSpanId : Option Nat
  spanName : Option String
  event : MetricEvent
  deriving DecidableEq

namespace Record

open Json (Value)

def toValue (r : Record) : Value := .record
  [("timestamp", .text r.instant.stamp), ("span_id", .option .nat r.spanId),
    ("parent_span_id", .option .nat r.parentSpanId), ("span_name", .option .text r.spanName),
    ("event", r.event.toValue)]

/-- The document of one line, without its line end. -/
def line (r : Record) : String := r.toValue.render

/-- The line for people without the time. -/
def summary (r : Record) : String := "[" ++ r.spanName.getD "-" ++ "] " ++ r.event.summary

/-- The line for people. -/
def consoleLine (r : Record) : String := "METRIC " ++ r.instant.clock ++ " " ++ r.summary

/-- What a written line says about the span and the event. -/
structure Written where
  spanName : Option String
  spanId : Option Nat
  parentSpanId : Option Nat
  event : MetricEvent
  deriving DecidableEq

def Written.ofLine? (line : String) : Option Written :=
  match Value.parse? line with
  | some (.object members) => do
    let spanName ← Value.unique? members "span_name"
    let spanId ← Value.unique? members "span_id"
    let parentSpanId ← Value.unique? members "parent_span_id"
    let event ← MetricEvent.ofValue? (← Value.unique? members "event")
    return ⟨spanName.string?, spanId.natBelow? UInt64.size,
      parentSpanId.natBelow? UInt64.size, event⟩
  | _ => none

end Record
end TensorMemory
