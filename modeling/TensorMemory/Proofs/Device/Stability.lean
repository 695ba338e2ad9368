import TensorMemory.Proofs.Device.Frame

/-!
What a run can neither bring back nor move. Handles are never given out again, so what is gone stays
gone (`dead_run`); a buffer that is bound keeps its binding for as long as it lives (`bound_run`);
and what waits in a command buffer changes by recording into it and by submitting it only
(`waiting_perform`).
-/

namespace TensorMemory.Device

/-! ## Assets -/

theorem dead_perform {d : Device} (hd : d.Numbered) (op : Operation) {a : Asset}
    (hle : a.handle ≤ d.issued) (hn : a ∉ d.assets) : a ∉ (d.perform op).assets := by
  by_cases hr : a ∈ op.released
  · exact released_notMem hd hr
  · rw [(frame_perform d op).assets a hle hr]
    exact hn

theorem dead_run {d : Device} (hd : d.Numbered) (ops : List Operation) {a : Asset}
    (hle : a.handle ≤ d.issued) (hn : a ∉ d.assets) : a ∉ (d.run ops).assets := by
  induction ops generalizing d with
  | nil => exact hn
  | cons op ops ih =>
    exact ih (hd.perform op) (Nat.le_trans hle (frame_perform d op).issued)
      (dead_perform hd op hle hn)

/-- Of all operations only binding changes a buffer that it does not release, and that only once. -/
theorem bound_perform {d : Device} (hd : d.Numbered) (op : Operation) {h : Handle} {b : Buffer}
    (hb : d.buffers.get? h = some b) (hbound : b.binding.isSome = true)
    (hlive : .buffer h ∈ (d.perform op).assets) : (d.perform op).buffers.get? h = some b := by
  have hr : .buffer h ∉ op.released := fun hr => released_notMem hd hr hlive
  have hle := (hd.buffers hb).2
  rw [← hb]
  cases op with
  | bind buffer memory offset =>
    dsimp only [perform]
    unfold Device.bind
    split
    · rfl
    split
    · rfl
    next b' hb' =>
    split
    · rfl
    next hfree =>
    split
    · rfl
    · dsimp only
      rw [Table.get?_modify, if_neg]
      rintro rfl
      cases hb.symm.trans hb'
      exact hfree hbound
  | map memory offset size =>
    exact (frame_perform d (.map memory offset size)).buffers h hle (by
      simp [Operation.taken, Operation.disturbed])
  | unmap memory =>
    exact (frame_perform d (.unmap memory)).buffers h hle (by
      simp [Operation.taken, Operation.disturbed])
  | _ => exact (frame_perform d _).buffers h hle hr

theorem bound_run {d : Device} (hd : d.Numbered) (ops : List Operation) {h : Handle} {b : Buffer}
    (hb : d.buffers.get? h = some b) (hbound : b.binding.isSome = true)
    (hlive : .buffer h ∈ (d.run ops).assets) : (d.run ops).buffers.get? h = some b := by
  induction ops generalizing d with
  | nil => exact hb
  | cons op ops ih =>
    have hstill : .buffer h ∈ (d.perform op).assets := by
      by_contra hn
      have hle := Nat.le_trans (hd.buffers hb).2 (frame_perform d op).issued
      exact dead_run (hd.perform op) ops (a := .buffer h) hle hn hlive
    exact ih (hd.perform op) (bound_perform hd op hb hbound hstill) hlive

/-- Mapping a memory does not change how long it is, and nothing else changes a memory but to fill
or to free it. -/
theorem room_perform {d : Device} (hd : d.Numbered) (op : Operation) {h : Handle} {m : Memory}
    (hle : h ≤ d.issued) (hm : (d.perform op).memories.get? h = some m) :
    ∃ m', d.memories.get? h = some m' ∧ m'.contents.size = m.contents.size := by
  have mapped {i : Handle} (b : Bool)
      (hm : (d.memories.modify i fun m => { m with mapped := b }).get? h = some m) :
      ∃ m', d.memories.get? h = some m' ∧ m'.contents.size = m.contents.size := by
    rw [Table.get?_modify] at hm
    split at hm
    · obtain ⟨m', hm', rfl⟩ := Option.map_eq_some_iff.mp hm
      exact ⟨m', hm', rfl⟩
    · exact ⟨m, hm, rfl⟩
  by_cases hn : .memory h ∈ op.disturbed
  · cases op with
    | map memory offset size =>
      dsimp only [perform] at hm
      unfold Device.map at hm
      split at hm
      · exact ⟨m, hm, rfl⟩
      split at hm
      · exact ⟨m, hm, rfl⟩
      dsimp only at hm
      generalize (if size = wholeSize then _ else size) = n at hm
      split at hm
      · exact ⟨m, hm, rfl⟩
      · exact mapped true hm
    | unmap memory =>
      dsimp only [perform] at hm
      unfold Device.unmap at hm
      split at hm
      · exact mapped false hm
      · exact ⟨m, hm, rfl⟩
    | freeMemory memory =>
      exact absurd (memory_mem_assets.mpr ⟨m, hm⟩) (released_notMem hd hn)
    | _ => simp [Operation.disturbed, Operation.released] at hn
  · have hshape := shape_perform d op hle hn
    rw [hm] at hshape
    obtain ⟨m', hm', he⟩ := Option.map_eq_some_iff.mp hshape.symm
    exact ⟨m', hm', congrArg Prod.fst he⟩

theorem room_run {d : Device} (hd : d.Numbered) (ops : List Operation) {h : Handle} {m : Memory}
    (hle : h ≤ d.issued) (hm : (d.run ops).memories.get? h = some m) :
    ∃ m', d.memories.get? h = some m' ∧ m'.contents.size = m.contents.size := by
  induction ops generalizing d with
  | nil => exact ⟨m, hm, rfl⟩
  | cons op ops ih =>
    have hle' := Nat.le_trans hle (frame_perform d op).issued
    obtain ⟨m₁, hm₁, hsize₁⟩ := ih (hd.perform op) hle' hm
    obtain ⟨m₀, hm₀, hsize₀⟩ := room_perform hd op hle hm₁
    exact ⟨m₀, hm₀, hsize₀.trans hsize₁⟩

/-! ## Waiting commands -/

/-- The command buffer that an operation adds to or empties. -/
def Operation.commandBuffer? : Operation → Option Handle
  | record commandBuffer _ => some commandBuffer
  | submit commandBuffer => some commandBuffer
  | _ => none

section CommandBuffers

variable (d : Device)

@[simp] theorem commandBuffers_createBuffer (size : Nat) (usage : Mask) :
    (d.createBuffer size usage).2.commandBuffers = d.commandBuffers := by
  unfold createBuffer
  split <;> rfl

@[simp] theorem commandBuffers_allocate (size typeIndex : Nat) :
    (d.allocate size typeIndex).2.commandBuffers = d.commandBuffers := by
  unfold allocate
  repeat' split
  all_goals rfl

@[simp] theorem commandBuffers_requirements (buffer : Handle) :
    (d.requirements buffer).2.commandBuffers = d.commandBuffers := by
  unfold requirements
  split <;> rfl

@[simp] theorem commandBuffers_bind (buffer memory : Handle) (offset : Nat) :
    (d.bind buffer memory offset).2.commandBuffers = d.commandBuffers := by
  unfold bind
  repeat' split
  all_goals rfl

@[simp] theorem commandBuffers_map (memory : Handle) (offset size : Nat) :
    (d.map memory offset size).2.commandBuffers = d.commandBuffers := by
  unfold map
  split
  · rfl
  split
  · rfl
  next m _ _ =>
  generalize (if size = wholeSize then m.contents.size - offset else size) = n
  dsimp only
  split <;> rfl

@[simp] theorem commandBuffers_unmap (memory : Handle) :
    (d.unmap memory).commandBuffers = d.commandBuffers := by
  unfold unmap
  split <;> rfl

@[simp] theorem commandBuffers_destroyBuffer (buffer : Handle) :
    (d.destroyBuffer buffer).commandBuffers = d.commandBuffers := by
  unfold destroyBuffer
  repeat' split
  all_goals rfl

@[simp] theorem commandBuffers_freeMemory (memory : Handle) :
    (d.freeMemory memory).commandBuffers = d.commandBuffers := by
  unfold freeMemory
  dsimp only
  repeat' split
  all_goals rfl

@[simp] theorem commandBuffers_createBound (size : Nat) (usage flags : Mask) :
    (d.createBound size usage flags).2.commandBuffers = d.commandBuffers := by
  obtain ⟨ops, h, hops⟩ := d.createBound_eq_run size usage flags
  rw [h]
  clear h
  induction ops generalizing d with
  | nil => rfl
  | cons op ops ih =>
    rw [run_cons, ih _ fun o ho => hops o (List.mem_cons_of_mem _ ho)]
    rcases hops op (List.mem_cons_self ..) with ⟨n, rfl⟩ | ⟨b, rfl⟩ | ⟨n, i, rfl⟩ | ⟨b, m, rfl⟩ <;>
      simp [perform]

end CommandBuffers

/-- What waits in another command buffer is left waiting. -/
theorem waiting_perform {d : Device} (hd : d.Numbered) {op : Operation} {commandBuffer : Handle}
    {commands : List Command} (h : d.commandBuffers.get? commandBuffer = some commands)
    (hop : op.commandBuffer? ≠ some commandBuffer) :
    (d.perform op).commandBuffers.get? commandBuffer = some commands := by
  have hother {k : Handle} (hk : commandBuffer ≠ k) (f : List Command → List Command) :
      (d.commandBuffers.modify k f).get? commandBuffer = some commands := by
    rw [Table.get?_modify, if_neg hk, h]
  cases op with
  | record k command =>
    dsimp only [perform]
    unfold Device.record
    split
    · exact hother (fun he => hop (congrArg some he.symm)) _
    · exact h
  | submit k =>
    dsimp only [perform]
    rw [(submit_refilled d k).commandBuffers]
    exact hother (fun he => hop (congrArg some he.symm)) _
  | newCommandBuffer =>
    dsimp only [perform, newCommandBuffer]
    have hle := (hd.commandBuffers h).2
    rw [Table.get?_insert, if_neg (Nat.ne_of_lt (Nat.lt_succ_of_le hle)), h]
  | write buffer chunk =>
    dsimp only [perform]
    rw [(write_refilled d buffer chunk).commandBuffers, h]
  | store place chunk => exact h
  | limitAllocations count => exact h
  | _ => simpa [perform] using h

theorem waiting_run {d : Device} (hd : d.Numbered) {ops : List Operation} {commandBuffer : Handle}
    {commands : List Command} (h : d.commandBuffers.get? commandBuffer = some commands)
    (hops : ∀ op ∈ ops, op.commandBuffer? ≠ some commandBuffer) :
    (d.run ops).commandBuffers.get? commandBuffer = some commands := by
  induction ops generalizing d with
  | nil => exact h
  | cons op ops ih =>
    exact ih (hd.perform op) (waiting_perform hd h (hops op (List.mem_cons_self ..)))
      fun o ho => hops o (List.mem_cons_of_mem _ ho)

end TensorMemory.Device
