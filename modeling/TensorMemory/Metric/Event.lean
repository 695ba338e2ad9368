import TensorMemory.Json.Reader

/-!
Metric events and their document form: an object that names the event and holds its data. Reading
takes the two members in either order, or a pair of them, skips names that it does not know, and
refuses anything missing, repeated or out of range.
-/

namespace TensorMemory

/-- What tensors report about themselves. -/
inductive MetricEvent where
  /-- A tensor's resources were created, of which it must free `ownedCount` itself. -/
  | allocated (kind dtype : String) (elements : UInt32) (deviceLocalBytes hostVisibleBytes : UInt64)
      (ownedCount : UInt32)
  /-- A tensor gave up its resources; what it had on loan stays alive. -/
  | released (kind dtype : String) (freedHandles retainedHandles : UInt32)
  /-- A copy or a barrier went into a command buffer. -/
  | recorded (command : String) (commandBuffer bytes : UInt64)
  deriving DecidableEq, Repr

namespace MetricEvent

open Json (Value)

def name : MetricEvent → String
  | allocated .. => "TensorAllocated"
  | released .. => "TensorReleased"
  | recorded .. => "CommandRecorded"

def data : MetricEvent → Value
  | allocated kind dtype elements deviceLocal hostVisible owned => .record
    [("kind", .text kind), ("dtype", .text dtype), ("elements", .nat elements.toNat),
      ("device_local_bytes", .nat deviceLocal.toNat),
      ("host_visible_bytes", .nat hostVisible.toNat), ("owned_handles", .nat owned.toNat)]
  | released kind dtype freed retained => .record
    [("kind", .text kind), ("dtype", .text dtype), ("freed_handles", .nat freed.toNat),
      ("retained_handles", .nat retained.toNat)]
  | recorded command commandBuffer bytes => .record
    [("command", .text command), ("command_buffer", .nat commandBuffer.toNat),
      ("bytes", .nat bytes.toNat)]

def toValue (e : MetricEvent) : Value := .record [("type", .text e.name), ("data", e.data)]

def encode (e : MetricEvent) : String := e.toValue.render

def text? (members : List (Option String × Value)) (name : String) : Option String := do
  (← Value.unique? members name).string?

def word32? (members : List (Option String × Value)) (name : String) : Option UInt32 := do
  return UInt32.ofNat (← (← Value.unique? members name).natBelow? UInt32.size)

def word64? (members : List (Option String × Value)) (name : String) : Option UInt64 := do
  return UInt64.ofNat (← (← Value.unique? members name).natBelow? UInt64.size)

/-- The event of a name from the members of its data. -/
def ofMembers? (members : List (Option String × Value)) : (name : String) → Option MetricEvent
  | "TensorAllocated" => do
    return .allocated (← text? members "kind") (← text? members "dtype")
      (← word32? members "elements") (← word64? members "device_local_bytes")
      (← word64? members "host_visible_bytes") (← word32? members "owned_handles")
  | "TensorReleased" => do
    return .released (← text? members "kind") (← text? members "dtype")
      (← word32? members "freed_handles") (← word32? members "retained_handles")
  | "CommandRecorded" => do
    return .recorded (← text? members "command") (← word64? members "command_buffer")
      (← word64? members "bytes")
  | _ => none

/-- Data is an object all of whose names are texts. -/
def ofData? (name : String) : Value → Option MetricEvent
  | .object members => if members.all (·.1.isSome) then ofMembers? members name else none
  | _ => none

/-- Data that stands before the name of its event is held back until the name is known, and then has
to be sound throughout and nested less deeply than this. -/
def heldDepth : Nat := 127

def ofValue? : Value → Option MetricEvent
  | .object members =>
    if members.all (·.1.isSome) then
      match members.filter (fun m => m.1 = some "type" || m.1 = some "data") with
      | [(some "type", tag), (some "data", data)] => do ofData? (← tag.choice?) data
      | [(some "data", data), (some "type", tag)] =>
        if data.sound && data.depth < heldDepth then do ofData? (← tag.choice?) data else none
      | _ => none
    else none
  | .array [tag, data] => do ofData? (← tag.string?) data
  | _ => none

def decode (text : String) : Option MetricEvent := do ofValue? (← Value.parse? text)

/-- One line about the event. -/
def summary : MetricEvent → String
  | allocated kind dtype elements deviceLocal hostVisible owned =>
    s!"allocated {kind} {dtype}[{elements}] device_local={deviceLocal}B" ++
      s!" host_visible={hostVisible}B owned={owned}"
  | released kind dtype freed retained =>
    s!"released {kind} {dtype} freed={freed} retained={retained}"
  | recorded command commandBuffer bytes =>
    "recorded " ++ command ++ s!" of {bytes}B into " ++ Text.hex commandBuffer.toNat

end MetricEvent
end TensorMemory
