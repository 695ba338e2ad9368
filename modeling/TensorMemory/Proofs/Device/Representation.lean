import TensorMemory.Proofs.Device.Execution
import TensorMemory.Proofs.Device.Issuance

/-!
What the tables of a device can hold. `Coherent` is kept by every single call, with whatever
arguments, so it holds wherever a run leads; it is what makes a range safe that passed the checks of
`locate` or `map`, in the middle of a submission as well (`representation`).
-/

namespace TensorMemory.Device

/-- Memory of a type that the host can see. -/
def isVisible (d : Device) (typeIndex : Nat) : Bool :=
  (d.properties.slot typeIndex).flags.contains MemoryFlags.hostVisible

structure Coherent (d : Device) : Prop extends Numbered d where
  commandsApart : ∀ {h c}, d.commandBuffers.get? h = some c →
    d.buffers.get? h = none ∧ d.memories.get? h = none
  positive : ∀ {h b}, d.buffers.get? h = some b → 0 < b.size
  /-- A binding may outlive its memory, but never points past the end of a live one. -/
  fits : ∀ {h b p m}, d.buffers.get? h = some b → b.binding = some p →
    d.memories.get? p.memory = some m → p.offset + b.size ≤ m.contents.size
  typed : ∀ {h m}, d.memories.get? h = some m → m.typeIndex < d.properties.count
  visible : ∀ {h m}, d.memories.get? h = some m → m.mapped = true → d.isVisible m.typeIndex = true

namespace Coherent

variable {d d' : Device}

theorem ofTypes (types : List Mask) : (Device.ofTypes types).Coherent where
  toNumbered := .ofTypes types
  commandsApart h := by cases h
  positive h := by cases h
  fits h := by cases h
  typed h := by cases h
  visible h := by cases h

/-- Buffers may go, memories may go or be mapped and unmapped, and command buffers may change. -/
theorem transfer (hd : d.Coherent) (hn : d'.Numbered) (hp : d'.properties = d.properties)
    (hb : ∀ {h b}, d'.buffers.get? h = some b → d.buffers.get? h = some b)
    (hm : ∀ {h m}, d'.memories.get? h = some m → ∃ m', d.memories.get? h = some m' ∧
      m'.contents.size = m.contents.size ∧ m'.typeIndex = m.typeIndex ∧
      (m.mapped = true → d.isVisible m.typeIndex = true))
    (hc : ∀ {h c}, d'.commandBuffers.get? h = some c → ∃ c', d.commandBuffers.get? h = some c') :
    d'.Coherent where
  toNumbered := hn
  commandsApart {h c} hh := by
    obtain ⟨c', hc'⟩ := hc hh
    obtain ⟨hnb, hnm⟩ := hd.commandsApart hc'
    constructor
    · cases hg : d'.buffers.get? h with
      | none => rfl
      | some b => rw [hb hg] at hnb; cases hnb
    · cases hg : d'.memories.get? h with
      | none => rfl
      | some m =>
        obtain ⟨m', hm', -⟩ := hm hg
        rw [hm'] at hnm
        cases hnm
  positive hh := hd.positive (hb hh)
  fits hh hbind hmem := by
    obtain ⟨m', hm', hsize, -⟩ := hm hmem
    rw [← hsize]
    exact hd.fits (hb hh) hbind hm'
  typed hh := by
    obtain ⟨m', hm', -, htype, -⟩ := hm hh
    rw [hp, ← htype]
    exact hd.typed hm'
  visible hh hmapped := by
    obtain ⟨m', hm', -, htype, hv⟩ := hm hh
    rw [isVisible, hp]
    exact hv hmapped

/-- A memory as `transfer` wants it, where it is what it was. -/
theorem same (hd : d.Coherent) {h : Handle} {m : Memory} (hm : d.memories.get? h = some m) :
    ∃ m', d.memories.get? h = some m' ∧ m'.contents.size = m.contents.size ∧
      m'.typeIndex = m.typeIndex ∧ (m.mapped = true → d.isVisible m.typeIndex = true) :=
  ⟨m, hm, rfl, rfl, hd.visible hm⟩

theorem violate (hd : d.Coherent) (v : Violation) : (d.violate v).Coherent :=
  hd.transfer (hd.toNumbered.violate v) rfl id hd.same fun h => ⟨_, h⟩

theorem createBuffer (hd : d.Coherent) (size : Nat) (usage : Mask) :
    (d.createBuffer size usage).2.Coherent := by
  have hn := hd.toNumbered.createBuffer size usage
  revert hn
  unfold Device.createBuffer
  split
  · exact fun _ => hd.violate _
  · intro hn
    refine ⟨hn, ?_, ?_, ?_, hd.typed, hd.visible⟩
    · intro h c hc
      have hle := (hd.commandBuffers hc).2
      rw [Table.get?_insert, if_neg (Nat.ne_of_lt (Nat.lt_succ_of_le hle))]
      exact hd.commandsApart hc
    · intro h b hb
      rw [Table.get?_insert] at hb
      split at hb
      · cases hb
        show 0 < size
        omega
      · exact hd.positive hb
    · intro h b p m hb hbind hm
      rw [Table.get?_insert] at hb
      split at hb
      · cases hb
        cases hbind
      · exact hd.fits hb hbind hm

theorem allocate (hd : d.Coherent) (size typeIndex : Nat) :
    (d.allocate size typeIndex).2.Coherent := by
  have hn := hd.toNumbered.allocate size typeIndex
  revert hn
  unfold Device.allocate
  split
  · exact fun _ => hd.violate _
  next htype =>
  split
  · exact fun _ => hd
  · intro hn
    refine ⟨hn, ?_, hd.positive, ?_, ?_, ?_⟩
    · intro h c hc
      have hle := (hd.commandBuffers hc).2
      refine ⟨(hd.commandsApart hc).1, ?_⟩
      rw [Table.get?_insert, if_neg (Nat.ne_of_lt (Nat.lt_succ_of_le hle))]
      exact (hd.commandsApart hc).2
    · intro h b p m hb hbind hm
      have hle := hd.bindings hb hbind
      rw [Table.get?_insert, if_neg (Nat.ne_of_lt (Nat.lt_succ_of_le hle))] at hm
      exact hd.fits hb hbind hm
    · intro h m hm
      rw [Table.get?_insert] at hm
      split at hm
      · cases hm
        exact Nat.not_le.mp htype
      · exact hd.typed hm
    · intro h m hm hmapped
      rw [Table.get?_insert] at hm
      split at hm
      · cases hm
        cases hmapped
      · exact hd.visible hm hmapped

theorem newCommandBuffer (hd : d.Coherent) : d.newCommandBuffer.2.Coherent := by
  refine ⟨hd.toNumbered.newCommandBuffer, ?_, hd.positive, hd.fits, hd.typed, hd.visible⟩
  intro h c hc
  unfold Device.newCommandBuffer at hc ⊢
  rw [Table.get?_insert] at hc
  split at hc
  · next heq =>
    subst heq
    exact ⟨hd.buffer_absent (Nat.lt_succ_self _), hd.memory_absent (Nat.lt_succ_self _)⟩
  · exact hd.commandsApart hc

theorem requirements (hd : d.Coherent) (buffer : Handle) :
    (d.requirements buffer).2.Coherent := by
  unfold Device.requirements
  split
  · exact hd.violate _
  · exact hd

theorem bind (hd : d.Coherent) (buffer memory : Handle) (offset : Nat) :
    (d.bind buffer memory offset).2.Coherent := by
  have hn := hd.toNumbered.bind buffer memory offset
  revert hn
  unfold Device.bind
  split
  · exact fun _ => hd.violate _
  next m hm =>
  split
  · exact fun _ => hd.violate _
  next b hb =>
  split
  · exact fun _ => hd.violate _
  split
  · exact fun _ => hd
  next hfit =>
  intro hn
  have hold {h : Handle} {b' : Buffer} (hh : (d.buffers.modify buffer fun b =>
      { b with binding := some ⟨memory, offset⟩ }).get? h = some b') :
      (h = buffer ∧ b' = { b with binding := some ⟨memory, offset⟩ }) ∨
        d.buffers.get? h = some b' := by
    rw [Table.get?_modify] at hh
    split at hh
    · next heq =>
      rw [heq, hb] at hh
      cases hh
      exact .inl ⟨heq, rfl⟩
    · exact .inr hh
  refine ⟨hn, ?_, ?_, ?_, hd.typed, hd.visible⟩
  · intro h c hc
    refine ⟨?_, (hd.commandsApart hc).2⟩
    rw [Table.get?_modify, (hd.commandsApart hc).1]
    split <;> rfl
  · intro h b' hh
    obtain ⟨-, rfl⟩ | hh := hold hh
    · exact hd.positive (b := b) hb
    · exact hd.positive hh
  · intro h b' p m' hh hbind hm'
    obtain ⟨-, rfl⟩ | hh := hold hh
    · cases hbind
      cases hm.symm.trans hm'
      exact Nat.not_lt.mp hfit
    · exact hd.fits hh hbind hm'

/-- Mapping and unmapping: a memory is mapped only where the host can see it. -/
theorem setMapped (hd : d.Coherent) (memory : Handle) (mapped : Bool)
    (hv : ∀ m, d.memories.get? memory = some m → mapped = true → d.isVisible m.typeIndex = true) :
    Coherent { d with memories := d.memories.modify memory fun m => { m with mapped } } := by
  refine hd.transfer (hd.modifyMemory _ _) rfl id ?_ fun h => ⟨_, h⟩
  intro h m hm
  simp only [Table.get?_modify] at hm
  split at hm
  · next heq =>
    subst heq
    obtain ⟨m', hm', rfl⟩ := Option.map_eq_some_iff.mp hm
    exact ⟨m', hm', rfl, rfl, hv m' hm'⟩
  · exact hd.same hm

theorem map (hd : d.Coherent) (memory : Handle) (offset size : Nat) :
    (d.map memory offset size).2.Coherent := by
  unfold Device.map
  split
  · exact hd
  next m hm =>
  split
  · exact hd
  next hrefused =>
  generalize (if size = wholeSize then m.contents.size - offset else size) = n
  dsimp only
  split
  · exact hd
  · refine hd.setMapped _ _ fun m' hm' _ => ?_
    cases hm.symm.trans hm'
    simp only [Bool.or_eq_true, Bool.not_eq_true', not_or, Bool.not_eq_false] at hrefused
    exact hrefused.2

theorem unmap (hd : d.Coherent) (memory : Handle) : (d.unmap memory).Coherent := by
  unfold Device.unmap
  split
  · exact hd.setMapped _ _ fun m _ hf => by cases hf
  · exact hd.violate _

theorem destroyBuffer (hd : d.Coherent) (buffer : Handle) :
    (d.destroyBuffer buffer).Coherent := by
  have hn := hd.toNumbered.destroyBuffer buffer
  revert hn
  unfold Device.destroyBuffer
  split
  · exact fun _ => hd
  split
  · intro hn
    refine hd.transfer hn rfl ?_ hd.same fun h => ⟨_, h⟩
    intro h b hb
    rw [Table.get?_erase] at hb
    split at hb
    · cases hb
    · exact hb
  · exact fun _ => hd.violate _

theorem freeMemory (hd : d.Coherent) (memory : Handle) : (d.freeMemory memory).Coherent := by
  unfold Device.freeMemory
  split
  · exact hd
  have hv : (if d.isBoundTo memory then d.violate (.freedWhileBound memory) else d).Coherent := by
    split
    · exact hd.violate _
    · exact hd
  revert hv
  generalize (if d.isBoundTo memory then d.violate (.freedWhileBound memory) else d) = d'
  intro hv
  dsimp only
  split
  · refine hv.transfer (hv.eraseMemory _ _) rfl id ?_ fun h => ⟨_, h⟩
    intro h m hm
    simp only [Table.get?_erase] at hm
    split at hm
    · cases hm
    · exact hv.same hm
  · exact hv.violate _

/-- What waits in the command buffers does not matter. -/
theorem modifyCommands (hd : d.Coherent) (commandBuffer : Handle)
    (f : List Command → List Command) :
    Coherent { d with commandBuffers := d.commandBuffers.modify commandBuffer f } := by
  have hc {h : Handle} {c : List Command}
      (hh : (d.commandBuffers.modify commandBuffer f).get? h = some c) :
      ∃ c', d.commandBuffers.get? h = some c' := by
    rw [Table.get?_modify] at hh
    split at hh
    · obtain ⟨c', hc', -⟩ := Option.map_eq_some_iff.mp hh
      exact ⟨c', hc'⟩
    · exact ⟨c, hh⟩
  exact hd.transfer (hd.toNumbered.transfer (Nat.le_refl _) rfl (fun _ m h => ⟨m, h⟩) fun _ _ => hc)
    rfl id hd.same hc

theorem record (hd : d.Coherent) (commandBuffer : Handle) (command : Command) :
    (d.record commandBuffer command).Coherent := by
  unfold Device.record
  split
  · exact hd.modifyCommands _ _
  · exact hd.violate _

theorem refilled (hd : d.Coherent) (h : Refilled d d') : d'.Coherent := by
  refine hd.transfer (hd.toNumbered.refilled h) h.properties (fun hb => h.buffers ▸ hb) ?_
    fun hc => ⟨_, h.commandBuffers ▸ hc⟩
  intro i m hm
  obtain ⟨m', hm', hshape⟩ := h.memory hm
  simp only [Memory.shape, Prod.mk.injEq] at hshape
  refine ⟨m', hm', hshape.1, hshape.2.1, fun hmapped => ?_⟩
  rw [← hshape.2.1]
  exact hd.visible hm' (hshape.2.2.trans hmapped)

theorem submit (hd : d.Coherent) (commandBuffer : Handle) :
    (d.submit commandBuffer).2.Coherent :=
  (hd.modifyCommands commandBuffer fun _ => []).refilled (submit_refilled d commandBuffer)

theorem perform (hd : d.Coherent) {call : Operation} (h : call.isCall = true) :
    (d.perform call).Coherent := by
  cases call with
  | createBuffer size usage => exact hd.createBuffer _ _
  | allocate size typeIndex => exact hd.allocate _ _
  | requirements buffer => exact hd.requirements _
  | bind buffer memory offset => exact hd.bind _ _ _
  | map memory offset size => exact hd.map _ _ _
  | unmap memory => exact hd.unmap _
  | destroyBuffer buffer => exact hd.destroyBuffer _
  | freeMemory memory => exact hd.freeMemory _
  | record commandBuffer command => exact hd.record _ _
  | newCommandBuffer => exact hd.newCommandBuffer
  | submit commandBuffer => exact hd.submit _
  | write buffer chunk => exact hd.refilled (write_refilled d buffer chunk)
  | store place chunk => exact hd.refilled (.store d place chunk)
  | createBound size usage flags => cases h
  | limitAllocations count =>
    exact hd.transfer (hd.toNumbered.perform (.limitAllocations count)) rfl id hd.same
      fun hc => ⟨_, hc⟩

theorem runCalls (hd : d.Coherent) {calls : List Operation}
    (h : ∀ call ∈ calls, call.isCall = true) : (d.run calls).Coherent := by
  induction calls generalizing d with
  | nil => exact hd
  | cons call calls ih =>
    exact ih (hd.perform (h call (List.mem_cons_self ..))) fun c hc =>
      h c (List.mem_cons_of_mem _ hc)

theorem run (hd : d.Coherent) (ops : List Operation) : (d.run ops).Coherent := by
  rw [← run_expand]
  exact hd.runCalls fun _ => isCall_of_mem_expand

/-! ## Ranges that pass the checks -/

/-- A range that `locate` accepts lies inside a live memory. -/
theorem locate (hd : d.Coherent) {buffer : Handle} {required : Mask} {offset size : Nat}
    {place : Place} (h : d.locate buffer required offset size = .ok place) :
    ∃ m, d.memories.get? place.memory = some m ∧ place.offset + size ≤ m.contents.size := by
  unfold Device.locate at h
  split at h
  · cases h
  next b hb =>
  split at h
  · cases h
  split at h
  · cases h
  next p hp =>
  split at h
  · cases h
  next hinside =>
  split at h
  · next hlive =>
    obtain ⟨m, hm⟩ := Table.contains_iff.mp hlive
    cases h
    have hfit := hd.fits hb hp hm
    exact ⟨m, hm, by dsimp only; omega⟩
  · cases h

end Coherent

/-- A range that `map` accepts lies inside the memory. -/
theorem map_inside {d : Device} {memory : Handle} {offset size : Nat} {place : Place}
    (h : (d.map memory offset size).1 = .ok place) :
    place = ⟨memory, offset⟩ ∧ ∃ m, d.memories.get? memory = some m ∧
      offset + (if size = wholeSize then m.contents.size - offset else size) ≤ m.contents.size := by
  unfold Device.map at h
  split at h
  · cases h
  next m hm =>
  split at h
  · cases h
  have hinside : place = ⟨memory, offset⟩ ∧
      offset + (if size = wholeSize then m.contents.size - offset else size) ≤
        m.contents.size := by
    revert h
    generalize (if size = wholeSize then m.contents.size - offset else size) = n
    intro h
    dsimp only at h
    split at h
    · cases h
    next hfit =>
    cases h
    exact ⟨rfl, Nat.not_lt.mp hfit⟩
  exact ⟨hinside.1, m, hm, hinside.2⟩

/-- The handles that name something on the device. -/
def keys (d : Device) : List Handle := d.buffers.keys ++ d.memories.keys ++ d.commandBuffers.keys

theorem Coherent.keys_nodup {d : Device} (hd : d.Coherent) : d.keys.Nodup := by
  refine (List.Nodup.append d.buffers.distinct d.memories.distinct ?_).append
    d.commandBuffers.distinct ?_
  · intro h hb hm
    obtain ⟨b, hb⟩ := Table.mem_keys_iff.mp hb
    obtain ⟨m, hm⟩ := Table.mem_keys_iff.mp hm
    exact hd.apart hb hm
  · intro h hh hc
    obtain ⟨c, hc⟩ := Table.mem_keys_iff.mp hc
    obtain ⟨hnb, hnm⟩ := hd.commandsApart hc
    rcases List.mem_append.mp hh with hh | hh
    · exact Table.get?_eq_none_iff.mp hnb hh
    · exact Table.get?_eq_none_iff.mp hnm hh

theorem Numbered.keys_issued {d : Device} (hd : d.Numbered) {h : Handle} (hh : h ∈ d.keys) :
    h ≤ d.issued := by
  simp only [keys, List.mem_append, Table.mem_keys_iff] at hh
  obtain (⟨b, hb⟩ | ⟨m, hm⟩) | ⟨c, hc⟩ := hh
  · exact (hd.buffers hb).2
  · exact (hd.memories hm).2
  · exact (hd.commandBuffers hc).2

/-- What a device holds on to after calls that gave out `issues`. -/
structure Represented (d : Device) (issues : List Issue) : Prop where
  keysNodup : d.keys.Nodup
  keysIssued : ∀ h ∈ d.keys, h ≤ d.issued
  positive : ∀ h b, d.buffers.get? h = some b → 0 < b.size
  fits : ∀ h b p m, d.buffers.get? h = some b → b.binding = some p →
    d.memories.get? p.memory = some m → p.offset + b.size ≤ m.contents.size
  typed : ∀ h m, d.memories.get? h = some m → m.typeIndex < d.properties.count
  visible : ∀ h m, d.memories.get? h = some m → m.mapped = true → d.isVisible m.typeIndex = true
  buffers : d.buffers.size + d.buffersDestroyed = issues.countP Issue.isBuffer
  memories : d.memories.size + d.memoriesFreed = issues.countP Issue.isMemory
  /-- Now, and after any commands and any regions of one more copy in the course of a submission. -/
  located : ∀ commands source target regions buffer required offset size place,
    ((d.carryAll commands).2.copyRegions source target regions).2.locate buffer required offset
        size = .ok place →
      ∃ m, d.memories.get? place.memory = some m ∧ place.offset + size ≤ m.contents.size
  mapped : ∀ memory offset size place, (d.map memory offset size).1 = .ok place →
    place = ⟨memory, offset⟩ ∧ ∃ m, d.memories.get? memory = some m ∧
      offset + (if size = wholeSize then m.contents.size - offset else size) ≤ m.contents.size

/-- Whatever was asked of a device, with whatever arguments: handles name one thing each, live
bindings and mappings are sound, live and released assets are those that were created, and every
range that passes a check lies inside a live memory. -/
theorem representation (types : List Mask) (ops : List Operation) :
    Represented ((ofTypes types).run ops) ((ofTypes types).issuances ops) := by
  have hd : ((ofTypes types).run ops).Coherent := (Coherent.ofTypes types).run ops
  have hi := issues_run (Numbered.ofTypes types) ops
  exact {
    keysNodup := hd.keys_nodup
    keysIssued := fun _ => hd.keys_issued
    positive := fun _ _ => hd.positive
    fits := fun _ _ _ _ => hd.fits
    typed := fun _ _ => hd.typed
    visible := fun _ _ => hd.visible
    buffers := hi.buffers.trans (Nat.zero_add _)
    memories := hi.memories.trans (Nat.zero_add _)
    located := fun commands source target regions buffer required offset size place h => by
      have hr := ((ofTypes types).run ops).carryAll_refilled commands
      rw [(hr.trans (copyRegions_refilled _ source target regions)).locate] at h
      exact hd.locate h
    mapped := fun _ _ _ _ => map_inside }

end TensorMemory.Device
