import TensorMemory.Device.Submission
import TensorMemory.Gateway.Call
import TensorMemory.Gateway.Faults
import TensorMemory.Tracing.Event

/-!
A gateway is a device as tensor code reaches it: every call passes the fault schedule, is written
down, and what the device objects to is announced as a warning.
-/

namespace TensorMemory

structure Gateway where
  device : Device
  faults : Faults
  served : Served
  calls : List Call
  notices : List Notice

namespace Gateway

def ofDevice (device : Device) (faults : Faults := .none) : Gateway :=
  { device, faults, served := {}, calls := [], notices := [] }

def setFaults (g : Gateway) (faults : Faults) : Gateway := { g with faults, served := {} }

def tell (g : Gateway) (n : Notice) : Gateway := { g with notices := g.notices ++ [n] }

def write (g : Gateway) (c : Call) : Gateway := { g with calls := g.calls ++ [c] }

def warning (v : Violation) : Notice :=
  .log ⟨.warn, "vulkanic::emulated", some v.message, []⟩

/-- Puts a device in place of the gateway's, announcing the violations it has on top of the old
one's. -/
def advance (g : Gateway) (d : Device) : Gateway :=
  { g with
    device := d
    notices := g.notices ++ (d.violations.drop g.device.violations.length).map warning }

def createBuffer (g : Gateway) (size : Nat) (usage : Mask) : Except Status Handle × Gateway :=
  let n := g.served.createBuffer
  let g := { g with served.createBuffer := n + 1 }
  match g.faults.createBuffer n with
  | some s => (.error s, g.write (.createBuffer size usage (.error s)))
  | none =>
    let (r, d) := g.device.createBuffer size usage
    (r, (g.advance d).write (.createBuffer size usage r))

def allocate (g : Gateway) (size typeIndex : Nat) : Except Status Handle × Gateway :=
  let n := g.served.allocate
  let g := { g with served.allocate := n + 1 }
  match g.faults.allocate n with
  | some s => (.error s, g.write (.allocate size typeIndex (.error s)))
  | none =>
    let (r, d) := g.device.allocate size typeIndex
    (r, (g.advance d).write (.allocate size typeIndex r))

def requirements (g : Gateway) (buffer : Handle) : Requirements × Gateway :=
  let (r, d) := g.device.requirements buffer
  let r :=
    { r with
      size := g.faults.requiredSize.getD r.size
      typeBits := match g.faults.typeMask with
        | some mask => r.typeBits.inter mask
        | none => r.typeBits }
  (r, (g.advance d).write (.requirements buffer r))

def bind (g : Gateway) (buffer memory : Handle) (offset : Nat) : Except Status Unit × Gateway :=
  let n := g.served.bind
  let g := { g with served.bind := n + 1 }
  match g.faults.bind n with
  | some s => (.error s, g.write (.bind buffer memory offset (.error s)))
  | none =>
    let (r, d) := g.device.bind buffer memory offset
    (r, (g.advance d).write (.bind buffer memory offset r))

/-- A mapping that is made may still come back without an address. -/
def map (g : Gateway) (memory : Handle) (offset size : Nat) :
    Except Status (Option Place) × Gateway :=
  let n := g.served.map
  let g := { g with served.map := n + 1 }
  let finish (r : Except Status (Option Place)) (g : Gateway) :=
    (r, g.write (.map memory offset size (r.map fun _ => ())))
  match g.faults.map n with
  | some (.refused s) => finish (.error s) g
  | some .null =>
    let (r, d) := g.device.map memory offset size
    finish (r.map fun _ => none) (g.advance d)
  | none =>
    let (r, d) := g.device.map memory (offset + g.faults.mapShift) size
    finish (r.map some) (g.advance d)

def unmap (g : Gateway) (memory : Handle) : Gateway :=
  (g.advance (g.device.unmap memory)).write (.unmap memory)

def destroyBuffer (g : Gateway) (buffer : Handle) : Gateway :=
  (g.advance (g.device.destroyBuffer buffer)).write (.destroyBuffer buffer)

def freeMemory (g : Gateway) (memory : Handle) : Gateway :=
  (g.advance (g.device.freeMemory memory)).write (.freeMemory memory)

def addCopy (g : Gateway) (commandBuffer source target : Handle) (regions : List CopyRegion) :
    Gateway :=
  (g.advance (g.device.record commandBuffer (.copy source target regions))).write
    (.copy commandBuffer source target)

def addBarrier (g : Gateway) (commandBuffer : Handle) (sourceStage targetStage : Mask)
    (barriers : List BufferBarrier) : Gateway :=
  (g.advance (g.device.record commandBuffer (.barrier sourceStage targetStage barriers))).write
    (.barrier commandBuffer sourceStage targetStage)

/-- Executes a command buffer and announces its completion. -/
def submit (g : Gateway) (commandBuffer : Handle) : Except AccessError Unit × Gateway :=
  let commands := g.device.recorded commandBuffer
  match g.device.submit commandBuffer with
  | (.error e, d) => (.error e, g.advance d)
  | (.ok (), d) =>
    (.ok (), (g.advance d).tell (.debug "vulkanic::types::emulated" "emulated submit complete"
      [("commands", .nat commands.length)]))

/-- Writes through a mapping. -/
def store (g : Gateway) (place : Place) (chunk : Block) : Gateway :=
  { g with device := g.device.store place chunk }

end Gateway
end TensorMemory
