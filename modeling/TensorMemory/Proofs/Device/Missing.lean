import TensorMemory.Proofs.Device.Execution

/-!
Carrying out whole copies some of whose buffers are gone. What is left of the buffers serves the
copies (`Usable`), so that a copy fails for a missing buffer alone (`carry_missing`,
`carry_present`). Commands are then carried out up to the first that misses one
(`carryAll_stops`), or to their end (`carryAll_completes`), and submitting them does no harm
(`harmless`).
-/

namespace TensorMemory.Device

/-- The buffer that a command misses: the source of a copy if it is gone, else its target. -/
def missing? (d : Device) : Command → Option Handle
  | .copy source target _ =>
    if !d.hasBuffer source then some source
    else if !d.hasBuffer target then some target
    else none
  | .barrier _ _ _ => none

/-- If the buffer is there, it can be used for so many bytes, and they lie in a memory that was
given out no later than `last`. -/
def Serves (d : Device) (last buffer : Handle) (required : Mask) (size : Nat) : Prop :=
  d.hasBuffer buffer = true →
    ∃ memory ≤ last, d.locate buffer required 0 size = .ok ⟨memory, 0⟩

/-- The buffers of a copy serve it, those of them that are there. -/
inductive Usable (d : Device) (last : Handle) : Command → Prop
  | barrier (sourceStage targetStage : Mask) (barriers : List BufferBarrier) :
      Usable d last (.barrier sourceStage targetStage barriers)
  | copy {source target : Handle} {size : Nat}
      (readFrom : d.Serves last source UsageFlags.transferSource size)
      (writeTo : d.Serves last target UsageFlags.transferTarget size) :
      Usable d last (.copy source target [⟨0, 0, size⟩])

variable {d d' : Device} {last : Handle} {c : Command} {commands : List Command}

/-! ## One command -/

theorem missing?_eq_none {source target : Handle} {regions : List CopyRegion} :
    d.missing? (.copy source target regions) = none ↔
      d.hasBuffer source = true ∧ d.hasBuffer target = true := by
  rw [missing?]
  cases d.hasBuffer source <;> cases d.hasBuffer target <;> simp

theorem missing?_eq_some {source target buffer : Handle} {regions : List CopyRegion} :
    d.missing? (.copy source target regions) = some buffer ↔
      d.hasBuffer source = false ∧ source = buffer ∨
        d.hasBuffer source = true ∧ d.hasBuffer target = false ∧ target = buffer := by
  rw [missing?]
  cases d.hasBuffer source <;> cases d.hasBuffer target <;> simp

theorem locate_missing {buffer : Handle} (h : d.hasBuffer buffer = false) (required : Mask)
    (offset size : Nat) :
    d.locate buffer required offset size = .error (.unknownBuffer buffer) := by
  rw [locate, Table.contains_eq_false_iff.mp h]

theorem carry_missing (h : d.Usable last c) {buffer : Handle} (hm : d.missing? c = some buffer) :
    d.carry c = (.error (.unknownBuffer buffer), d) := by
  cases h with
  | barrier => cases hm
  | @copy source target size readFrom writeTo =>
    have hregion : d.copyRegion source target ⟨0, 0, size⟩ = .error (.unknownBuffer buffer) := by
      rw [copyRegion]
      rcases missing?_eq_some.mp hm with ⟨hs, rfl⟩ | ⟨hs, ht, rfl⟩
      · rw [locate_missing hs]
      · obtain ⟨memory, -, hread⟩ := readFrom hs
        rw [hread]
        dsimp only
        rw [locate_missing ht]
    rw [carry, copyRegions, hregion]

theorem carry_present (h : d.Usable last c) (hm : d.missing? c = none) :
    ∃ d', d.carry c = (.ok (), d') ∧
      ∀ m, last < m → d'.memories.get? m = d.memories.get? m := by
  cases h with
  | barrier => exact ⟨d, rfl, fun _ _ => rfl⟩
  | @copy source target size readFrom writeTo =>
    obtain ⟨hs, ht⟩ := missing?_eq_none.mp hm
    obtain ⟨memory, -, hread⟩ := readFrom hs
    obtain ⟨memory', hle, hwrite⟩ := writeTo ht
    refine ⟨d.store ⟨memory', 0⟩ (d.load ⟨memory, 0⟩ size), ?_, fun m hlast => ?_⟩
    · rw [carry, copyRegions, copyRegion, hread]
      dsimp only
      rw [hwrite]
      rfl
    · rw [store, Table.get?_modify, if_neg]
      exact Nat.ne_of_gt (Nat.lt_of_le_of_lt hle hlast)

/-! ## Commands in a row -/

theorem Refilled.hasBuffer (h : Refilled d d') (i : Handle) : d'.hasBuffer i = d.hasBuffer i := by
  rw [Device.hasBuffer, Device.hasBuffer, h.buffers]

theorem Refilled.missing? (h : Refilled d d') (c : Command) : d'.missing? c = d.missing? c := by
  cases c <;> simp only [Device.missing?, h.hasBuffer]

theorem Refilled.serves (h : Refilled d d') {buffer : Handle} {required : Mask} {size : Nat}
    (hs : d.Serves last buffer required size) : d'.Serves last buffer required size := by
  rw [Serves, h.hasBuffer, h.locate]
  exact hs

theorem Refilled.usable (h : Refilled d d') (hc : d.Usable last c) : d'.Usable last c := by
  cases hc with
  | barrier => exact .barrier _ _ _
  | copy readFrom writeTo => exact .copy (h.serves readFrom) (h.serves writeTo)

/-- With all their buffers there, commands are all carried out, and no memory given out later is
written to. -/
theorem carryAll_completes (h : ∀ c ∈ commands, d.Usable last c)
    (hm : ∀ c ∈ commands, d.missing? c = none) :
    (d.carryAll commands).1 = .ok () ∧
      ∀ m, last < m → (d.carryAll commands).2.memories.get? m = d.memories.get? m := by
  induction commands generalizing d with
  | nil => exact ⟨rfl, fun _ _ => rfl⟩
  | cons c rest ih =>
    obtain ⟨d₁, hc, hspares⟩ := carry_present (h c (List.mem_cons_self ..))
      (hm c (List.mem_cons_self ..))
    have hr : Refilled d d₁ := by
      have hr := d.carry_refilled c
      rwa [hc] at hr
    obtain ⟨hok, hrest⟩ := ih (fun x hx => hr.usable (h x (List.mem_cons_of_mem _ hx)))
      fun x hx => (hr.missing? x).trans (hm x (List.mem_cons_of_mem _ hx))
    rw [carryAll, hc]
    exact ⟨hok, fun m hlast => (hrest m hlast).trans (hspares m hlast)⟩

/-- The first command that misses a buffer is as far as it goes. -/
theorem carryAll_stops {before after : List Command} {buffer : Handle}
    (hb : ∀ x ∈ before, d.Usable last x) (hc : d.Usable last c)
    (hpresent : ∀ x ∈ before, d.missing? x = none) (hm : d.missing? c = some buffer) :
    d.carryAll (before ++ c :: after) =
      (.error (.unknownBuffer buffer), (d.carryAll before).2) := by
  -- the commands before it move bytes alone, so that it misses the same buffer after them
  have hr := d.carryAll_refilled before
  have hok := (carryAll_completes hb hpresent).1
  rw [carryAll_append]
  rcases hd : d.carryAll before with ⟨e | ⟨⟩, d₁⟩
  · rw [hd] at hok
    cases hok
  · rw [hd] at hr
    dsimp only
    rw [carryAll, carry_missing (hr.usable hc) ((hr.missing? c).trans hm)]

/-- Either no command misses a buffer, or one of them is the first that does. -/
theorem missing_cases (d : Device) (commands : List Command) :
    (∀ c ∈ commands, d.missing? c = none) ∨ ∃ before c after buffer,
      commands = before ++ c :: after ∧ (∀ x ∈ before, d.missing? x = none) ∧
        d.missing? c = some buffer := by
  induction commands with
  | nil => exact .inl (List.forall_mem_nil _)
  | cons c rest ih =>
    cases hc : d.missing? c with
    | some buffer => exact .inr ⟨[], c, rest, buffer, rfl, List.forall_mem_nil _, hc⟩
    | none =>
      rcases ih with hall | ⟨before, c', after, buffer, rfl, hbefore, hm⟩
      · exact .inl (List.forall_mem_cons.mpr ⟨hc, hall⟩)
      · exact .inr ⟨c :: before, c', after, buffer, rfl, List.forall_mem_cons.mpr ⟨hc, hbefore⟩,
          hm⟩

/-! ## Submitting -/

/-- Submitting carries out the commands before the first that misses a buffer, names that buffer,
leaves nothing waiting, and writes to no memory that the older device did not have. -/
structure Harmless (older d : Device) (commandBuffer : Handle) : Prop where
  completes : (∀ c ∈ d.recorded commandBuffer, d.missing? c = none) →
    ∃ hazards, d.submit commandBuffer =
      (.ok (), (d.carryAll (d.recorded commandBuffer)).2.annotate
        (d.commandBuffers.modify commandBuffer fun _ => []) hazards)
  stops : ∀ before c after buffer, d.recorded commandBuffer = before ++ c :: after →
    (∀ x ∈ before, d.missing? x = none) → d.missing? c = some buffer →
      (d.carryAll before).1 = .ok () ∧ ∃ hazards, d.submit commandBuffer =
        (.error (.unknownBuffer buffer), (d.carryAll before).2.annotate
          (d.commandBuffers.modify commandBuffer fun _ => []) hazards)
  emptied : (d.submit commandBuffer).2.commandBuffers.get? commandBuffer = some []
  spared : ∀ m, older.hasMemory m = false →
    (d.submit commandBuffer).2.memories.get? m = d.memories.get? m

theorem harmless {older : Device} {commandBuffer : Handle}
    (h : d.commandBuffers.get? commandBuffer = some commands)
    (hu : ∀ c ∈ commands, d.Usable last c)
    (holder : ∀ m, older.hasMemory m = false → last < m ∨ d.hasMemory m = false) :
    Harmless older d commandBuffer where
  completes hm := by
    rw [recorded_of_get? h] at hm ⊢
    rw [submit_eq h, (carryAll_completes hu hm).1]
    exact ⟨_, rfl⟩
  stops before c after buffer hsplit hbefore hm := by
    rw [recorded_of_get? h] at hsplit
    subst hsplit
    have hu' := List.forall_mem_append.mp hu
    have hc := (List.forall_mem_cons.mp hu'.2).1
    refine ⟨(carryAll_completes hu'.1 hbefore).1, ?_⟩
    rw [submit_eq h, carryAll_stops hu'.1 hc hbefore hm]
    exact ⟨_, rfl⟩
  emptied := by
    rw [(submit_refilled d commandBuffer).commandBuffers, Table.get?_modify, if_pos rfl, h]
    rfl
  spared m hm := by
    rcases holder m hm with hlast | hdead
    · rw [submit_eq h]
      rcases d.missing_cases commands with hall | ⟨before, c, after, buffer, rfl, hbefore, hc⟩
      · exact (carryAll_completes hu hall).2 m hlast
      · have hu' := List.forall_mem_append.mp hu
        rw [carryAll_stops hu'.1 (List.forall_mem_cons.mp hu'.2).1 hbefore hc]
        exact (carryAll_completes hu'.1 hbefore).2 m hlast
    · have hdead' : (d.submit commandBuffer).2.hasMemory m = false :=
        ((submit_refilled d commandBuffer).hasMemory m).trans hdead
      rw [Table.contains_eq_false_iff.mp hdead, Table.contains_eq_false_iff.mp hdead']

end TensorMemory.Device
