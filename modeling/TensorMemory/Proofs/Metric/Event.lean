import TensorMemory.Metric.Event
import TensorMemory.Proofs.Json.Reader

/-!
The document form of metric events loses nothing: every event is written in full, and reading finds
each member under its name and in its range.
-/

namespace TensorMemory

open Json (Value)

namespace Json.Value

@[simp] theorem complete_text (s : String) : (text s).complete = true := by
  simp [text, complete]

@[simp] theorem complete_nat (n : Nat) : (nat n).complete = true := by
  simp [nat, complete, Number.ofNat]

theorem complete_record (members : List (String × Value)) :
    (record members).complete = members.all (·.2.complete) := by
  simp only [record, complete]
  induction members with
  | nil => rfl
  | cons m ms ih => simp [completeMembers, ih]

theorem natBelow?_nat {n limit : Nat} (h : n < limit) : (nat n).natBelow? limit = some n := by
  simp [nat, natBelow?, Number.natural?, Number.ofNat, h]

end Json.Value

namespace MetricEvent

open Json.Value

theorem complete_data (e : MetricEvent) : e.data.complete = true := by
  cases e <;> simp [data, complete_record]

theorem complete_toValue (e : MetricEvent) : e.toValue.complete = true := by
  simp [toValue, complete_record, complete_data]

section
variable {members : List (Option String × Value)}

theorem text?_eq (name s : String) (h : unique? members name = some (.text s)) :
    text? members name = some s := by
  rw [text?, h]
  rfl

theorem word32?_eq (name : String) (w : UInt32)
    (h : unique? members name = some (.nat w.toNat)) : word32? members name = some w := by
  rw [word32?, h]
  show ((nat w.toNat).natBelow? UInt32.size).bind (fun n => some (UInt32.ofNat n)) = _
  rw [natBelow?_nat w.toNat_lt, Option.bind_some, UInt32.ofNat_toNat]

theorem word64?_eq (name : String) (w : UInt64)
    (h : unique? members name = some (.nat w.toNat)) : word64? members name = some w := by
  rw [word64?, h]
  show ((nat w.toNat).natBelow? UInt64.size).bind (fun n => some (UInt64.ofNat n)) = _
  rw [natBelow?_nat w.toNat_lt, Option.bind_some, UInt64.ofNat_toNat]

end

theorem ofData?_record (name : String) (members : List (String × Value)) :
    ofData? name (record members) = ofMembers? (members.map fun m => (some m.1, m.2)) name :=
  if_pos (by simp)

/-- The data of an event reads back under its name. -/
theorem ofData?_data (e : MetricEvent) : ofData? e.name e.data = some e := by
  cases e with
  | allocated kind dtype elements deviceLocal hostVisible owned =>
    rw [data, ofData?_record, name, ofMembers?, text?_eq "kind" kind, text?_eq "dtype" dtype,
      word32?_eq "elements" elements, word64?_eq "device_local_bytes" deviceLocal,
      word64?_eq "host_visible_bytes" hostVisible, word32?_eq "owned_handles" owned]
    all_goals rfl
  | released kind dtype freed retained =>
    rw [data, ofData?_record, name, ofMembers?, text?_eq "kind" kind, text?_eq "dtype" dtype,
      word32?_eq "freed_handles" freed, word32?_eq "retained_handles" retained]
    all_goals rfl
  | recorded command commandBuffer bytes =>
    rw [data, ofData?_record, name, ofMembers?, text?_eq "command" command,
      word64?_eq "command_buffer" commandBuffer, word64?_eq "bytes" bytes]
    all_goals rfl

theorem ofValue?_toValue (e : MetricEvent) : ofValue? e.toValue = some e := by
  simp [ofValue?, toValue, record, text, Value.choice?, ofData?_data]

theorem decode_encode (e : MetricEvent) : decode e.encode = some e := by
  simp [decode, encode, Value.parse?_render e.complete_toValue, ofValue?_toValue]

end MetricEvent
end TensorMemory
