import TensorMemory.Device.Operations

/-!
The record of the calls that tensor code makes on its device, with the arguments it passed and the
answers it got.
-/

namespace TensorMemory

inductive Call where
  | createBuffer (size : Nat) (usage : Mask) (result : Except Status Handle)
  | allocate (size typeIndex : Nat) (result : Except Status Handle)
  | requirements (buffer : Handle) (result : Requirements)
  | bind (buffer memory : Handle) (offset : Nat) (result : Except Status Unit)
  | map (memory : Handle) (offset size : Nat) (result : Except Status Unit)
  | unmap (memory : Handle)
  | destroyBuffer (buffer : Handle)
  | freeMemory (memory : Handle)
  | copy (commandBuffer source target : Handle)
  | barrier (commandBuffer : Handle) (sourceStage targetStage : Mask)

namespace Call

/-- A handle, or the code of the failure. -/
def handleText : Except Status Handle → String
  | .ok h => Text.decimal h
  | .error s => toString s.code

/-- Zero, or the code of the failure. -/
def doneText : Except Status Unit → String
  | .ok _ => "0"
  | .error s => toString s.code

def text : Call → String
  | createBuffer size usage r => s!"create_buffer({size},{usage.bits})=" ++ handleText r
  | allocate size typeIndex r => s!"allocate({size},{typeIndex})=" ++ handleText r
  | requirements buffer r =>
    s!"requirements({buffer})={r.size},{r.alignment},{r.typeBits.bits}"
  | bind buffer memory offset r => s!"bind({buffer},{memory},{offset})=" ++ doneText r
  | map memory offset size r => s!"map({memory},{offset},{size})=" ++ doneText r
  | unmap memory => s!"unmap({memory})"
  | destroyBuffer buffer => s!"destroy_buffer({buffer})"
  | freeMemory memory => s!"free_memory({memory})"
  | copy commandBuffer source target => s!"copy({commandBuffer},{source},{target})"
  | barrier commandBuffer sourceStage targetStage =>
    s!"barrier({commandBuffer},{sourceStage.bits},{targetStage.bits})"

end Call
end TensorMemory
