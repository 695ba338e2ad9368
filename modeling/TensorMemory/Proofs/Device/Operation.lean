import TensorMemory.Device.Submission
import TensorMemory.Proofs.Table

/-!
All that can be asked of a device, as data, so that a run is a list and a reachable device is the
result of one. What is created and released one by one, buffers and memories, are the assets of a
device; a ledger of them is a list.
-/

namespace TensorMemory

/-- A buffer or a memory, by its handle. -/
inductive Asset where
  | buffer (handle : Handle)
  | memory (handle : Handle)
  deriving DecidableEq, Repr

def Asset.handle : Asset → Handle
  | buffer handle => handle
  | memory handle => handle

namespace Device

inductive Operation where
  | createBuffer (size : Nat) (usage : Mask)
  | allocate (size typeIndex : Nat)
  | requirements (buffer : Handle)
  | bind (buffer memory : Handle) (offset : Nat)
  | map (memory : Handle) (offset size : Nat)
  | unmap (memory : Handle)
  | destroyBuffer (buffer : Handle)
  | freeMemory (memory : Handle)
  | record (commandBuffer : Handle) (command : Command)
  | newCommandBuffer
  | submit (commandBuffer : Handle)
  | write (buffer : Handle) (chunk : Block)
  /-- Bytes that the host writes through a mapping. -/
  | store (place : Place) (chunk : Block)
  | createBound (size : Nat) (usage flags : Mask)
  | limitAllocations (count : Nat)

def perform (d : Device) : Operation → Device
  | .createBuffer size usage => (d.createBuffer size usage).2
  | .allocate size typeIndex => (d.allocate size typeIndex).2
  | .requirements buffer => (d.requirements buffer).2
  | .bind buffer memory offset => (d.bind buffer memory offset).2
  | .map memory offset size => (d.map memory offset size).2
  | .unmap memory => d.unmap memory
  | .destroyBuffer buffer => d.destroyBuffer buffer
  | .freeMemory memory => d.freeMemory memory
  | .record commandBuffer command => d.record commandBuffer command
  | .newCommandBuffer => d.newCommandBuffer.2
  | .submit commandBuffer => (d.submit commandBuffer).2
  | .write buffer chunk => ((d.write buffer chunk).toOption).getD d
  | .store place chunk => d.store place chunk
  | .createBound size usage flags => (d.createBound size usage flags).2
  | .limitAllocations count => d.limitAllocations count

def run (d : Device) (ops : List Operation) : Device := ops.foldl perform d

@[simp] theorem run_nil (d : Device) : d.run [] = d := rfl

@[simp] theorem run_cons (d : Device) (op : Operation) (ops : List Operation) :
    d.run (op :: ops) = (d.perform op).run ops := rfl

theorem run_append (d : Device) (ops ops' : List Operation) :
    d.run (ops ++ ops') = (d.run ops).run ops' := List.foldl_append

/-- The device comes out of a run from its creation. -/
def Reachable (d : Device) : Prop := ∃ types ops, d = (ofTypes types).run ops

/-- The live buffers and the live memories. -/
def assets (d : Device) : List Asset :=
  d.buffers.keys.map .buffer ++ d.memories.keys.map .memory

theorem buffer_mem_assets {d : Device} {h : Handle} :
    .buffer h ∈ d.assets ↔ ∃ b, d.buffers.get? h = some b := by
  simp [assets, Table.mem_keys_iff]

theorem memory_mem_assets {d : Device} {h : Handle} :
    .memory h ∈ d.assets ↔ ∃ m, d.memories.get? h = some m := by
  simp [assets, Table.mem_keys_iff]

theorem hasBuffer_iff {d : Device} {h : Handle} : d.hasBuffer h = true ↔ .buffer h ∈ d.assets :=
  Table.contains_iff.trans buffer_mem_assets.symm

theorem hasMemory_iff {d : Device} {h : Handle} : d.hasMemory h = true ↔ .memory h ∈ d.assets :=
  Table.contains_iff.trans memory_mem_assets.symm

theorem nodup_assets (d : Device) : d.assets.Nodup := by
  apply List.Nodup.append
  · exact d.buffers.distinct.map fun _ _ => Asset.buffer.inj
  · exact d.memories.distinct.map fun _ _ => Asset.memory.inj
  · intro a hb hm
    obtain ⟨h, -, rfl⟩ := List.mem_map.mp hb
    obtain ⟨h', -, heq⟩ := List.mem_map.mp hm
    cases heq

theorem createBuffer_of_pos (d : Device) {size : Nat} (usage : Mask) (h : 0 < size) :
    d.createBuffer size usage = (.ok (d.issued + 1),
      { d with
        issued := d.issued + 1
        buffers := d.buffers.insert (d.issued + 1) ⟨size, usage, none⟩ }) :=
  if_neg (Nat.pos_iff_ne_zero.mp h)

/-- A buffer gets the next handle. -/
theorem createBuffer_ok {d d' : Device} {size : Nat} {usage : Mask} {h : Handle}
    (hc : d.createBuffer size usage = (.ok h, d')) :
    h = d.issued + 1 ∧ d'.issued = d.issued + 1 := by
  unfold createBuffer at hc
  split at hc <;> cases hc
  exact ⟨rfl, rfl⟩

/-- A memory gets the next handle. -/
theorem allocate_ok {d d' : Device} {size typeIndex : Nat} {h : Handle}
    (ha : d.allocate size typeIndex = (.ok h, d')) :
    h = d.issued + 1 ∧ d'.issued = d.issued + 1 := by
  unfold allocate at ha
  split at ha
  · cases ha
  split at ha <;> cases ha
  exact ⟨rfl, rfl⟩

/-- The steps that `createBound` takes, up to the one that fails. -/
theorem createBound_eq_run (d : Device) (size : Nat) (usage flags : Mask) :
    ∃ ops, (d.createBound size usage flags).2 = d.run ops ∧
      ∀ op ∈ ops, (∃ size, op = .createBuffer size usage) ∨ (∃ b, op = .requirements b) ∨
        (∃ size i, op = .allocate size i) ∨ ∃ b m, op = .bind b m 0 := by
  unfold createBound
  split
  · exact ⟨[], rfl, by simp⟩
  · next i _ =>
    split
    · next e d' hc => exact ⟨[.createBuffer size usage], by simp [perform, hc], by simp⟩
    · next b d' hc =>
      cases hr : d'.requirements b with
      | mk needs d'' =>
        dsimp only
        split
        · next e d₃ ha =>
          exact ⟨[.createBuffer size usage, .requirements b, .allocate needs.size i],
            by simp [perform, hc, hr, ha], by simp⟩
        · next m d₃ ha =>
          have hops : ∀ op ∈ [Operation.createBuffer size usage, .requirements b,
              .allocate needs.size i, .bind b m 0],
              (∃ size, op = .createBuffer size usage) ∨ (∃ b, op = .requirements b) ∨
                (∃ size i, op = .allocate size i) ∨ ∃ b m, op = .bind b m 0 := by simp
          split
          · next e d₄ hb => exact ⟨_, by simp [perform, hc, hr, ha, hb], hops⟩
          · next d₄ hb => exact ⟨_, by simp [perform, hc, hr, ha, hb], hops⟩

end Device
end TensorMemory
