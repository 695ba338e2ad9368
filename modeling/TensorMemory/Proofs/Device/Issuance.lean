import TensorMemory.Proofs.Device.Numbering

/-!
The handles that a run gives out, in order. `createBound` makes several calls, so a run is spelled
out into single calls first (`run_expand`); a single call gives out one handle at most. The handles
of a run turn out to be consecutive numbers (`Issues.handles`), and what is live or released is
what was issued.
-/

namespace TensorMemory

/-- A handle given out, by what it names. -/
inductive Issue where
  | buffer (handle : Handle)
  | memory (handle : Handle)
  | commandBuffer (handle : Handle)
  deriving DecidableEq, Repr

namespace Issue

def handle : Issue → Handle
  | buffer handle => handle
  | memory handle => handle
  | commandBuffer handle => handle

def isBuffer : Issue → Bool
  | buffer _ => true
  | _ => false

def isMemory : Issue → Bool
  | memory _ => true
  | _ => false

end Issue

namespace Device

/-! ## Runs as single calls -/

/-- The calls that an operation makes: `createBound` several, up to the first that fails, and every
other one itself. -/
def calls (d : Device) : Operation → List Operation
  | .createBound size usage flags =>
    match (List.range d.properties.count).find? fun i =>
        (d.properties.slot i).flags.contains flags with
    | none => []
    | some typeIndex =>
      .createBuffer size usage ::
        match d.createBuffer size usage with
        | (.error _, _) => []
        | (.ok buffer, d) =>
          .requirements buffer :: .allocate (d.requirements buffer).1.size typeIndex ::
            match (d.requirements buffer).2.allocate (d.requirements buffer).1.size typeIndex with
            | (.error _, _) => []
            | (.ok memory, _) => [.bind buffer memory 0]
  | op => [op]

/-- The operation is a single call. -/
def Operation.isCall : Operation → Bool
  | createBound _ _ _ => false
  | _ => true

theorem isCall_of_mem_calls {d : Device} {op call : Operation} (h : call ∈ d.calls op) :
    call.isCall = true := by
  have hall : ∀ call ∈ d.calls op, call.isCall = true := by
    cases op with
    | createBound size usage flags =>
      dsimp only [calls]
      repeat' split
      all_goals simp [Operation.isCall]
    | _ => exact fun call h => List.mem_singleton.mp h ▸ rfl
  exact hall call h

theorem run_calls (d : Device) (op : Operation) : d.run (d.calls op) = d.perform op := by
  cases op with
  | createBound size usage flags =>
    dsimp only [calls, perform, createBound]
    generalize (List.range d.properties.count).find? _ = found
    cases found with
    | none => rfl
    | some typeIndex =>
      rcases hc : d.createBuffer size usage with ⟨e | buffer, d₁⟩
      · simp [perform, hc]
      rcases hr : d₁.requirements buffer with ⟨needs, d₂⟩
      rcases ha : d₂.allocate needs.size typeIndex with ⟨e | memory, d₃⟩
      · simp [perform, hc, hr, ha]
      rcases hb : d₃.bind buffer memory 0 with ⟨e | ⟨⟩, d₄⟩ <;> simp [perform, hc, hr, ha, hb]
  | _ => rfl

/-- The single calls of a run. -/
def expand (d : Device) : List Operation → List Operation
  | [] => []
  | op :: ops => d.calls op ++ (d.perform op).expand ops

theorem run_expand (d : Device) (ops : List Operation) : d.run (d.expand ops) = d.run ops := by
  induction ops generalizing d with
  | nil => rfl
  | cons op ops ih => rw [expand, run_append, run_calls, ih, run_cons]

theorem isCall_of_mem_expand {d : Device} {ops : List Operation} {call : Operation}
    (h : call ∈ d.expand ops) : call.isCall = true := by
  induction ops generalizing d with
  | nil => cases h
  | cons op ops ih =>
    rw [expand, List.mem_append] at h
    rcases h with h | h
    · exact isCall_of_mem_calls h
    · exact ih h

/-! ## What calls give out -/

/-- The new handle that a single call answers with. -/
def answer (d : Device) : Operation → Option Issue
  | .createBuffer size usage => (d.createBuffer size usage).1.toOption.map .buffer
  | .allocate size typeIndex => (d.allocate size typeIndex).1.toOption.map .memory
  | .newCommandBuffer => some (.commandBuffer d.newCommandBuffer.1)
  | _ => none

def answers (d : Device) : List Operation → List Issue
  | [] => []
  | call :: calls => (d.answer call).toList ++ (d.perform call).answers calls

/-- The handles that the calls of a run give out, in order. -/
def issuances (d : Device) (ops : List Operation) : List Issue := d.answers (d.expand ops)

/-- On the way from one device to the other the handles of `issues` were given out. -/
structure Issues (d d' : Device) (issues : List Issue) : Prop where
  handles : issues.map Issue.handle = List.range' (d.issued + 1) issues.length
  issued : d'.issued = d.issued + issues.length
  buffers : d'.buffers.size + d'.buffersDestroyed =
    d.buffers.size + d.buffersDestroyed + issues.countP Issue.isBuffer
  memories : d'.memories.size + d'.memoriesFreed =
    d.memories.size + d.memoriesFreed + issues.countP Issue.isMemory

namespace Issues

variable {d d' d'' : Device} {is is' : List Issue}

theorem trans (h : Issues d d' is) (h' : Issues d' d'' is') : Issues d d'' (is ++ is') where
  handles := by
    rw [List.map_append, h.handles, h'.handles, h.issued, List.length_append,
      Nat.add_right_comm, List.range'_append_1]
  issued := by rw [h'.issued, h.issued, List.length_append, Nat.add_assoc]
  buffers := by rw [h'.buffers, h.buffers, List.countP_append, Nat.add_assoc]
  memories := by rw [h'.memories, h.memories, List.countP_append, Nat.add_assoc]

/-- Nothing new, and every asset that is gone is counted as released. -/
theorem none (hi : d'.issued = d.issued)
    (hb : d'.buffers.size + d'.buffersDestroyed = d.buffers.size + d.buffersDestroyed)
    (hm : d'.memories.size + d'.memoriesFreed = d.memories.size + d.memoriesFreed) :
    Issues d d' [] :=
  ⟨rfl, hi, hb, hm⟩

theorem refl (d : Device) : Issues d d [] := none rfl rfl rfl

theorem violate (d : Device) (v : Violation) : Issues d (d.violate v) [] := none rfl rfl rfl

theorem modifyMemory (d : Device) (memory : Handle) (f : Memory → Memory) :
    Issues d { d with memories := d.memories.modify memory f } [] :=
  none rfl rfl (by rw [Table.size_modify])

theorem refilled (h : Refilled d d') : Issues d d' [] :=
  none h.issued (by rw [h.buffers, h.buffersDestroyed])
    (by rw [← Table.length_keys, h.memoryKeys, Table.length_keys, h.memoriesFreed])

theorem createBuffer (hd : d.Numbered) (size : Nat) (usage : Mask) :
    Issues d (d.createBuffer size usage).2
      ((d.createBuffer size usage).1.toOption.map Issue.buffer).toList := by
  unfold Device.createBuffer
  split
  · exact .violate d _
  · have hn := hd.buffer_absent (Nat.lt_succ_self d.issued)
    refine ⟨rfl, rfl, ?_, rfl⟩
    show (d.buffers.insert _ _).size + d.buffersDestroyed = d.buffers.size + d.buffersDestroyed + 1
    rw [Table.size_insert_of_get?_eq_none _ hn]
    omega

theorem allocate (hd : d.Numbered) (size typeIndex : Nat) :
    Issues d (d.allocate size typeIndex).2
      ((d.allocate size typeIndex).1.toOption.map Issue.memory).toList := by
  unfold Device.allocate
  split
  · exact .violate d _
  split
  · exact .refl d
  · have hn := hd.memory_absent (Nat.lt_succ_self d.issued)
    refine ⟨rfl, rfl, rfl, ?_⟩
    show (d.memories.insert _ _).size + d.memoriesFreed = d.memories.size + d.memoriesFreed + 1
    rw [Table.size_insert_of_get?_eq_none _ hn]
    omega

theorem requirements (d : Device) (buffer : Handle) : Issues d (d.requirements buffer).2 [] := by
  unfold Device.requirements
  split
  · exact .violate d _
  · exact .refl d

theorem bind (d : Device) (buffer memory : Handle) (offset : Nat) :
    Issues d (d.bind buffer memory offset).2 [] := by
  unfold Device.bind
  split
  · exact .violate d _
  split
  · exact .violate d _
  split
  · exact .violate d _
  split
  · exact .refl d
  · exact .none rfl (by rw [Table.size_modify]) rfl

theorem map (d : Device) (memory : Handle) (offset size : Nat) :
    Issues d (d.map memory offset size).2 [] := by
  unfold Device.map
  split
  · exact .refl d
  split
  · exact .refl d
  next m _ _ =>
  generalize (if size = wholeSize then m.contents.size - offset else size) = n
  dsimp only
  split
  · exact .refl d
  · exact .modifyMemory d _ _

theorem unmap (d : Device) (memory : Handle) : Issues d (d.unmap memory) [] := by
  unfold Device.unmap
  split
  · exact .modifyMemory d _ _
  · exact .violate d _

theorem destroyBuffer (d : Device) (buffer : Handle) : Issues d (d.destroyBuffer buffer) [] := by
  unfold Device.destroyBuffer
  split
  · exact .refl d
  split
  · next hc =>
    obtain ⟨b, hb⟩ := Table.contains_iff.mp hc
    have hs := Table.size_erase_of_get?_eq_some hb
    exact .none rfl (by dsimp only; omega) rfl
  · exact .violate d _

theorem freeMemory (d : Device) (memory : Handle) : Issues d (d.freeMemory memory) [] := by
  unfold Device.freeMemory
  split
  · exact .refl d
  have hv : Issues d (if d.isBoundTo memory then d.violate (.freedWhileBound memory) else d)
      [] := by
    split
    · exact .violate d _
    · exact .refl d
  revert hv
  generalize (if d.isBoundTo memory then d.violate (.freedWhileBound memory) else d) = d'
  intro hv
  dsimp only
  split
  · next hc =>
    obtain ⟨m, hm⟩ := Table.contains_iff.mp hc
    have hs := Table.size_erase_of_get?_eq_some hm
    exact hv.trans (.none rfl rfl (by dsimp only; omega))
  · exact hv.trans (.violate d' _)

theorem record (d : Device) (commandBuffer : Handle) (command : Command) :
    Issues d (d.record commandBuffer command) [] := by
  unfold Device.record
  split
  · exact .none rfl rfl rfl
  · exact .violate d _

theorem submit (d : Device) (commandBuffer : Handle) : Issues d (d.submit commandBuffer).2 [] :=
  (Issues.none rfl rfl rfl : Issues d
    { d with commandBuffers := d.commandBuffers.modify commandBuffer fun _ => [] } []).trans
      (.refilled (submit_refilled d commandBuffer))

end Issues

/-- A single call gives out what it answers with. -/
theorem issues_perform {d : Device} (hd : d.Numbered) {call : Operation}
    (h : call.isCall = true) : Issues d (d.perform call) (d.answer call).toList := by
  cases call with
  | createBuffer size usage => exact .createBuffer hd _ _
  | allocate size typeIndex => exact .allocate hd _ _
  | requirements buffer => exact .requirements d _
  | bind buffer memory offset => exact .bind d _ _ _
  | map memory offset size => exact .map d _ _ _
  | unmap memory => exact .unmap d _
  | destroyBuffer buffer => exact .destroyBuffer d _
  | freeMemory memory => exact .freeMemory d _
  | record commandBuffer command => exact .record d _ _
  | newCommandBuffer => exact ⟨rfl, rfl, rfl, rfl⟩
  | submit commandBuffer => exact .submit d _
  | write buffer chunk => exact .refilled (write_refilled d buffer chunk)
  | store place chunk => exact .modifyMemory d _ _
  | createBound size usage flags => cases h
  | limitAllocations count => exact .none rfl rfl rfl

theorem issues_answers {d : Device} (hd : d.Numbered) {calls : List Operation}
    (h : ∀ call ∈ calls, call.isCall = true) : Issues d (d.run calls) (d.answers calls) := by
  induction calls generalizing d with
  | nil => exact .refl d
  | cons call calls ih =>
    have h₁ := issues_perform hd (h call (List.mem_cons_self ..))
    exact h₁.trans (ih (hd.perform call) fun c hc => h c (List.mem_cons_of_mem _ hc))

theorem issues_run {d : Device} (hd : d.Numbered) (ops : List Operation) :
    Issues d (d.run ops) (d.issuances ops) := by
  have h := @issues_answers d hd (d.expand ops) fun _ => isCall_of_mem_expand
  rwa [run_expand] at h

end Device
end TensorMemory
