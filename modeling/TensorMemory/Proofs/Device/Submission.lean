import TensorMemory.Proofs.Device.Operation

/-!
What executing commands leaves alone. Copies move bytes inside the memories there are, and hazards
are noted; nothing else of the device changes, except that a submission empties its command buffer
(`submit_refilled`).
-/

namespace TensorMemory

/-- All of a memory but its bytes. -/
def Memory.shape (m : Memory) : Nat × Nat × Bool := (m.contents.size, m.typeIndex, m.mapped)

namespace Device

theorem recorded_of_get? {d : Device} {commandBuffer : Handle} {commands : List Command}
    (h : d.commandBuffers.get? commandBuffer = some commands) :
    d.recorded commandBuffer = commands := by
  rw [recorded, h]
  rfl

/-- The devices differ at most in the bytes of their memories and in their hazards. -/
structure Refilled (d d' : Device) : Prop where
  properties : d'.properties = d.properties
  issued : d'.issued = d.issued
  buffers : d'.buffers = d.buffers
  memoryKeys : d'.memories.keys = d.memories.keys
  memories : ∀ h, (d'.memories.get? h).map Memory.shape = (d.memories.get? h).map Memory.shape
  commandBuffers : d'.commandBuffers = d.commandBuffers
  violations : d'.violations = d.violations
  buffersDestroyed : d'.buffersDestroyed = d.buffersDestroyed
  memoriesFreed : d'.memoriesFreed = d.memoriesFreed
  allocationBudget : d'.allocationBudget = d.allocationBudget

namespace Refilled

variable {d d' d'' : Device}

theorem refl (d : Device) : Refilled d d :=
  ⟨rfl, rfl, rfl, rfl, fun _ => rfl, rfl, rfl, rfl, rfl, rfl⟩

theorem trans (h : Refilled d d') (h' : Refilled d' d'') : Refilled d d'' where
  properties := h'.properties.trans h.properties
  issued := h'.issued.trans h.issued
  buffers := h'.buffers.trans h.buffers
  memoryKeys := h'.memoryKeys.trans h.memoryKeys
  memories i := (h'.memories i).trans (h.memories i)
  commandBuffers := h'.commandBuffers.trans h.commandBuffers
  violations := h'.violations.trans h.violations
  buffersDestroyed := h'.buffersDestroyed.trans h.buffersDestroyed
  memoriesFreed := h'.memoriesFreed.trans h.memoriesFreed
  allocationBudget := h'.allocationBudget.trans h.allocationBudget

theorem hazard (d : Device) (hazards : List Hazard) : Refilled d { d with hazards } :=
  ⟨rfl, rfl, rfl, rfl, fun _ => rfl, rfl, rfl, rfl, rfl, rfl⟩

theorem store (d : Device) (place : Place) (chunk : Block) : Refilled d (d.store place chunk) where
  properties := rfl
  issued := rfl
  buffers := rfl
  memoryKeys := Table.keys_modify _ _ _
  memories i := by
    rw [Device.store, Table.get?_modify]
    split
    · rw [Option.map_map]
      rfl
    · rfl
  commandBuffers := rfl
  violations := rfl
  buffersDestroyed := rfl
  memoriesFreed := rfl
  allocationBudget := rfl

/-- A memory is found again in the same shape. -/
theorem memory (h : Refilled d d') {i : Handle} {m' : Memory} (hm : d'.memories.get? i = some m') :
    ∃ m, d.memories.get? i = some m ∧ m.shape = m'.shape := by
  have hs := h.memories i
  rw [hm, Option.map_some] at hs
  exact Option.map_eq_some_iff.mp hs.symm

theorem hasMemory (h : Refilled d d') (i : Handle) : d'.hasMemory i = d.hasMemory i := by
  have hs := congrArg Option.isSome (h.memories i)
  rwa [Option.isSome_map, Option.isSome_map] at hs

/-- The same buffers and the same memories by name: a range is where it was. -/
theorem locate (h : Refilled d d') (buffer : Handle) (required : Mask) (offset size : Nat) :
    d'.locate buffer required offset size = d.locate buffer required offset size := by
  unfold Device.locate
  simp only [h.buffers, h.hasMemory]

end Refilled

theorem copyRegion_refilled {d d' : Device} {source target : Handle} {r : CopyRegion}
    (h : d.copyRegion source target r = .ok d') : Refilled d d' := by
  unfold copyRegion at h
  split at h
  · cases h
  · split at h
    · cases h
    · cases h
      exact .store _ _ _

theorem copyRegions_refilled (d : Device) (source target : Handle) (regions : List CopyRegion) :
    Refilled d (d.copyRegions source target regions).2 := by
  induction regions generalizing d with
  | nil => exact .refl d
  | cons r rest ih =>
    unfold copyRegions
    split
    · exact .refl d
    · next d' h => exact (copyRegion_refilled h).trans (ih d')

theorem execute_refilled (d : Device) (pending : List Handle) (index : Nat)
    (commands : List Command) : Refilled d (d.execute pending index commands).2 := by
  induction commands generalizing d pending index with
  | nil => exact .refl d
  | cons command rest ih =>
    cases command with
    | barrier sourceStage targetStage barriers => exact ih d _ _
    | copy source target regions =>
      unfold execute
      have hz : Refilled d (if source ∈ pending then
          { d with hazards := d.hazards ++ [⟨source, AccessFlags.transferWrite, index⟩] }
        else d) := by
        split
        · exact .hazard d _
        · exact .refl d
      revert hz
      generalize (if source ∈ pending then _ else d) = d₁
      intro hz
      have hc := copyRegions_refilled d₁ source target regions
      cases hr : d₁.copyRegions source target regions with
      | mk r d₂ =>
        rw [hr] at hc
        cases r with
        | error e =>
          dsimp only
          rw [hr]
          exact hz.trans hc
        | ok u =>
          dsimp only
          rw [hr]
          exact (hz.trans hc).trans (ih d₂ _ _)

theorem submit_refilled (d : Device) (commandBuffer : Handle) :
    Refilled { d with commandBuffers := d.commandBuffers.modify commandBuffer fun _ => [] }
      (d.submit commandBuffer).2 := by
  unfold submit
  split
  · next h =>
    have hm : d.commandBuffers.modify commandBuffer (fun _ => []) = d.commandBuffers := by
      apply Table.modify_eq_self
      intro v hv
      rw [h] at hv
      cases hv
    rw [hm]
    exact .refl d
  · exact execute_refilled _ _ _ _

theorem write_refilled (d : Device) (buffer : Handle) (chunk : Block) :
    Refilled d ((d.write buffer chunk).toOption.getD d) := by
  unfold write
  cases d.locate buffer .empty 0 chunk.size with
  | error e => exact .refl d
  | ok place => exact .store _ _ _

end Device
end TensorMemory
