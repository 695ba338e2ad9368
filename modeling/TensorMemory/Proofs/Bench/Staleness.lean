import TensorMemory.Proofs.Bench.Evolution
import TensorMemory.Proofs.Bench.Recording
import TensorMemory.Proofs.Device.Issuance
import TensorMemory.Proofs.Device.Missing

/-!
Stale commands. Commands name their buffers by handles, and a buffer of a tensor may be gone when
they are submitted. As no handle is given out twice, a buffer that a command names and that is still
there is the one that was recorded, in the place where it was (`Known`); so what is submitted late
can miss a buffer, but never hit another one (`staleness`).
-/

namespace TensorMemory.Bench

variable {s : Bench} {last buffer commandBuffer : Handle} {required : Mask} {size n : Nat}
  {c : Cell} {t : Tensor} {b : BackedBuffer}

/-- Buffer and memory of a tensor's own are live. -/
theorem Moored.live_behind (hs : Moored s) (h : Behind s.tensors c t b)
    (ho : b.buffer.isOwned = true) :
    .buffer b.buffer.handle ∈ s.gateway.device.assets ∧
      .memory b.memory.handle ∈ s.gateway.device.assets := by
  have hlive {a : Asset} (ha : a ∈ b.assets) : a ∈ s.gateway.device.assets :=
    hs.live_of_assets h.tensor a (h.mem_assets ha)
  exact ⟨hlive (BackedBuffer.buffer_mem_assets ho),
    hlive (BackedBuffer.memory_mem_assets (hs.moored h ho).1)⟩

/-! ## Buffers that commands name -/

/-- The buffer was given out; and while it is live it is a tensor's own, serves the usage for so
many bytes, and its memory was given out no later than `last`. -/
structure Known (s : Bench) (last buffer : Handle) (required : Mask) (size : Nat) : Prop where
  issued : buffer ≤ s.gateway.device.issued
  kept : .buffer buffer ∈ s.gateway.device.assets → ∃ c t b need, Behind s.tensors c t b ∧
    b.buffer = .owned buffer ∧ b.memory.handle ≤ last ∧ t.kind.need? c.side = some need ∧
      need.usage.contains required = true ∧ size ≤ t.byteSize

theorem Moored.known (hs : Moored s) (h : Behind s.tensors c t b) (hl : t.loans = [])
    {need : BufferNeed} (hn : t.kind.need? c.side = some need)
    (hu : need.usage.contains required = true) (hsize : size ≤ t.byteSize) :
    s.Known s.gateway.device.issued b.buffer.handle required size := by
  have ho := h.owned hl
  obtain ⟨hbuffer, hmemory⟩ := hs.live_behind h ho
  refine ⟨(hs.numbered.le_issued hbuffer).2, fun _ => ⟨c, t, b, need, h, ?_, ?_, hn, hu, hsize⟩⟩
  · rw [HeldHandle.isOwned, decide_eq_true_iff] at ho
    rw [HeldHandle.owned, ← ho]
  · exact (hs.numbered.le_issued hmemory).2

namespace Known

/-- What happens to the tensors meanwhile can make a buffer go, but not change it. -/
theorem step (h : s.Known last buffer required size) (hs : Accounted s) {a : Action}
    (hf : Fair s a) : (s.step a).Known last buffer required size where
  issued := Nat.le_trans h.issued (issued_step hs.orderly _)
  kept hlive := by
    obtain ⟨c, t, b, need, hb, ho, hrest⟩ := h.kept (live_before hs.orderly h.issued hlive)
    refine ⟨c, t, b, need, hb.congr ?_, ho, hrest⟩
    refine unchanged_of_live hs hf ?_ hlive
    have hown : b.buffer.isOwned = true := by rw [ho]; rfl
    have hmem := hb.mem_assets (BackedBuffer.buffer_mem_assets hown)
    rwa [ho, ← holdings_some hb.tensor] at hmem

theorem mono {last' : Handle} (h : s.Known last buffer required size) (hle : last ≤ last') :
    s.Known last' buffer required size where
  issued := h.issued
  kept hlive := by
    obtain ⟨c, t, b, need, hb, ho, hm, hrest⟩ := h.kept hlive
    exact ⟨c, t, b, need, hb, ho, Nat.le_trans hm hle, hrest⟩

theorem serves (h : s.Known last buffer required size) (hs : Moored s) :
    s.gateway.device.Serves last buffer required size := by
  intro hlive
  obtain ⟨c, t, b, need, hb, ho, hle, hn, hu, hsize⟩ := h.kept (Device.hasBuffer_iff.mp hlive)
  have hown : b.buffer.isOwned = true := by rw [ho]; rfl
  obtain ⟨-, need', hn', -, hg⟩ := hs.moored hb hown
  cases hn.symm.trans hn'
  have hm := Device.hasMemory_iff.mpr (hs.live_behind hb hown).2
  refine ⟨b.memory.handle, hle, ?_⟩
  rw [ho] at hg
  rw [Device.locate, show s.gateway.device.buffers.get? buffer = _ from hg]
  dsimp only
  rw [hu, if_neg (by decide), if_neg (by omega), if_pos hm]

end Known

/-- A barrier, or the copy of first bytes between buffers that are known. -/
inductive Vouched (s : Bench) (last : Handle) : Command → Prop
  | barrier (sourceStage targetStage : Mask) (barriers : List BufferBarrier) :
      Vouched s last (.barrier sourceStage targetStage barriers)
  | copy {source target : Handle} {size : Nat}
      (readFrom : s.Known last source UsageFlags.transferSource size)
      (writeTo : s.Known last target UsageFlags.transferTarget size) :
      Vouched s last (.wholeCopy source target size)

namespace Vouched

variable {command : Command}

theorem step (h : Vouched s last command) (hs : Accounted s) {a : Action} (hf : Fair s a) :
    Vouched (s.step a) last command := by
  cases h with
  | barrier => exact .barrier _ _ _
  | copy readFrom writeTo => exact .copy (readFrom.step hs hf) (writeTo.step hs hf)

theorem mono {last' : Handle} (h : Vouched s last command) (hle : last ≤ last') :
    Vouched s last' command := by
  cases h with
  | barrier => exact .barrier _ _ _
  | copy readFrom writeTo => exact .copy (readFrom.mono hle) (writeTo.mono hle)

theorem usable (h : Vouched s last command) (hs : Moored s) :
    s.gateway.device.Usable last command := by
  cases h with
  | barrier => exact .barrier _ _ _
  | copy readFrom writeTo => exact .copy (readFrom.serves hs) (writeTo.serves hs)

end Vouched

/-! ## What unlent tensors record -/

/-- If there is such a tensor, then it has nothing on loan. -/
def Unlent (s : Bench) (n : Nat) : Prop := ∀ t, s.tensors.get? n = some t → t.loans = []

theorem Moored.known_primary (hs : Moored s) (ht : s.tensors.get? n = some t) (hl : t.loans = [])
    {r : Resources} (hr : t.residence = .live r)
    (hu : r.backing.primary.usage.all (·.contains required) = true) (hsize : size ≤ t.byteSize) :
    s.Known s.gateway.device.issued r.backing.primary.buffer.handle required size := by
  have hb : Behind s.tensors ⟨n, .device⟩ t r.backing.primary := ⟨ht, r, hr, rfl⟩
  obtain ⟨-, need, hn, hknown, -⟩ := hs.moored hb (hb.owned hl)
  rw [hknown] at hu
  exact hs.known hb hl hn hu hsize

/-- Both buffers of a tensor with a staging copy are known, for transfers either way. -/
theorem Moored.known_staged (hs : Moored s) (ht : s.tensors.get? n = some t) (hl : t.loans = [])
    {operation : String} {staging primary : Handle}
    (h : t.stagedBuffers operation = .ok (staging, primary)) :
    ∀ buffer ∈ [staging, primary],
      s.Known s.gateway.device.issued buffer UsageFlags.transferSource t.byteSize ∧
        s.Known s.gateway.device.issued buffer UsageFlags.transferTarget t.byteSize := by
  obtain ⟨hk, r, b, hr, hstaging, rfl, rfl⟩ := Tensor.stagedBuffers_eq_ok.mp h
  have both {σ : Side} {x : BackedBuffer} (hx : r.backing.side σ = some x) :
      s.Known s.gateway.device.issued x.buffer.handle UsageFlags.transferSource t.byteSize ∧
        s.Known s.gateway.device.issued x.buffer.handle UsageFlags.transferTarget t.byteSize := by
    have hb : Behind s.tensors ⟨n, σ⟩ t x := ⟨ht, r, hr, hx⟩
    obtain ⟨need, hn, hsource, htarget⟩ := Placement.device_transfers σ
    rw [← hk] at hn
    exact ⟨hs.known hb hl hn hsource (Nat.le_refl _), hs.known hb hl hn htarget (Nat.le_refl _)⟩
  intro buffer hbuffer
  rcases List.mem_pair.mp hbuffer with rfl | rfl
  · exact both (σ := .host) hstaging
  · exact both (σ := .device) rfl

theorem Moored.vouched_commands (hs : Moored s) (ht : s.tensors.get? n = some t)
    (hl : t.loans = []) (r : Recording) (hsource : ∀ k, r = .copyFrom k → s.Unlent k) :
    ∀ command ∈ s.commands t r, Vouched s s.gateway.device.issued command := by
  cases r with
  | copyFrom k =>
    dsimp only [commands]
    cases hu : s.tensors.get? k with
    | none => exact List.forall_mem_nil _
    | some u =>
      dsimp only
      cases hplan : t.copyPlan u with
      | error e => exact List.forall_mem_nil _
      | ok plan =>
        obtain ⟨source, target, size⟩ := plan
        obtain ⟨r, r', hr, hr', rfl, rfl, rfl, hread, hwrite⟩ := Tensor.copyPlan_ok hplan
        refine List.forall_mem_singleton.mpr (.copy ?_ ?_)
        · exact hs.known_primary hu (hsource k rfl u hu) hr' hread (Nat.min_le_left _ _)
        · exact hs.known_primary ht hl hr hwrite (Nat.min_le_right _ _)
  | upload scope =>
    dsimp only [commands]
    cases hb : t.stagedBuffers "record_copy_from_staging_to_device" with
    | error e => exact List.forall_mem_nil _
    | ok buffers =>
      have hknown := hs.known_staged ht hl hb
      refine List.forall_mem_cons.mpr ⟨.copy (hknown _ (by simp)).1 (hknown _ (by simp)).2, ?_⟩
      exact List.forall_mem_singleton.mpr (.barrier _ _ _)
  | download scope =>
    dsimp only [commands]
    cases hb : t.stagedBuffers "record_copy_from_device_to_staging" with
    | error e => exact List.forall_mem_nil _
    | ok buffers =>
      have hknown := hs.known_staged ht hl hb
      refine List.forall_mem_cons.mpr ⟨.barrier _ _ _, ?_⟩
      exact List.forall_mem_singleton.mpr (.copy (hknown _ (by simp)).1 (hknown _ (by simp)).2)
  | primaryBarrier source target =>
    dsimp only [commands]
    split
    · exact List.forall_mem_nil _
    · exact List.forall_mem_singleton.mpr (.barrier _ _ _)
  | stagingBarrier source target =>
    dsimp only [commands]
    split
    · exact List.forall_mem_nil _
    · exact List.forall_mem_singleton.mpr (.barrier _ _ _)

/-! ## Filling a command buffer and leaving it -/

/-- Only tensors that have nothing on loan record into the command buffer, and it is not
submitted. -/
def Filling (commandBuffer : Handle) (s : Bench) : Action → Prop
  | .record n _ k r => k = commandBuffer → s.Unlent n ∧ ∀ source, r = .copyFrom source →
      s.Unlent source
  | .outside op => op.commandBuffer? ≠ some commandBuffer
  | _ => True

/-- The commands wait, and what buffers they name is known. -/
structure Awaits (commandBuffer last : Handle) (s : Bench) (commands : List Command) : Prop
    extends Moored s where
  waiting : s.gateway.device.commandBuffers.get? commandBuffer = some commands
  vouched : ∀ command ∈ commands, Vouched s last command

namespace Awaits

variable {commands : List Command} {a : Action}

theorem leave (h : Awaits commandBuffer last s commands) (hf : Fair s a)
    (hl : Leaving commandBuffer s a) : Awaits commandBuffer last (s.step a) commands where
  toMoored := h.toMoored.step hf
  waiting := waiting_step h.toAccounted.orderly hl h.waiting
  vouched command hc := (h.vouched command hc).step h.toAccounted hf

theorem mono {last' : Handle} (h : Awaits commandBuffer last s commands) (hle : last ≤ last') :
    Awaits commandBuffer last' s commands where
  toMoored := h.toMoored
  waiting := h.waiting
  vouched command hc := (h.vouched command hc).mono hle

theorem record (h : Awaits commandBuffer s.gateway.device.issued s commands)
    (ht : s.tensors.get? n = some t) {traced : Bool} {r : Recording}
    (hl : Filling commandBuffer s (.record n traced commandBuffer r)) :
    Awaits commandBuffer s.gateway.device.issued (s.step (.record n traced commandBuffer r))
      (commands ++ s.commands t r) where
  toMoored := h.toMoored.step (a := .record n traced commandBuffer r) trivial
  waiting := waiting_record ht traced h.waiting r
  vouched := by
    obtain ⟨hn, hsource⟩ := hl rfl
    have hnew := h.toMoored.vouched_commands ht (hn t ht) r hsource
    refine List.forall_mem_append.mpr ⟨fun command hc => ?_, fun command hc => ?_⟩
    · exact (h.vouched command hc).step h.toAccounted trivial
    · exact (hnew command hc).step h.toAccounted trivial

theorem fill (h : Awaits commandBuffer s.gateway.device.issued s commands) (hf : Fair s a)
    (hl : Filling commandBuffer s a) :
    ∃ commands', Awaits commandBuffer (s.step a).gateway.device.issued (s.step a) commands' := by
  have hle := issued_step h.toAccounted.orderly a
  cases a with
  | record n traced k r =>
    by_cases hk : k = commandBuffer
    · subst hk
      cases ht : s.tensors.get? n with
      | some t => exact ⟨_, (h.record ht hl).mono hle⟩
      | none =>
        have hnone : Leaving k s (.record n traced k r) := fun _ t ht' => by
          rw [ht] at ht'
          cases ht'
        exact ⟨_, (h.leave hf hnone).mono hle⟩
    · exact ⟨_, (h.leave hf fun he => absurd he hk).mono hle⟩
  | outside op => exact ⟨_, (h.leave hf hl).mono hle⟩
  | _ => exact ⟨_, (h.leave hf trivial).mono hle⟩

end Awaits

/-- No handle is given out twice. A command buffer that tensors filled with nothing on loan can be
submitted at any later time, whatever has become of the tensors: submitting it carries out the
commands before the first that misses a buffer, names that buffer, leaves nothing waiting, and
writes to no memory that was not there when the last command was recorded. -/
theorem staleness {types : List Mask} {faults : Faults} {s₁ s₀ s : Bench} {commandBuffer : Handle}
    (before : Reach Fair (.ofTypes types faults) s₁)
    (unused : s₁.gateway.device.commandBuffers.get? commandBuffer = some [])
    (filled : Reach (fun s a => Fair s a ∧ Filling commandBuffer s a) s₁ s₀)
    (left : Reach (fun s a => Fair s a ∧ Leaving commandBuffer s a) s₀ s) :
    (∀ ops, (((Device.ofTypes types).issuances ops).map Issue.handle).Nodup) ∧
      Device.Harmless s₀.gateway.device s.gateway.device commandBuffer := by
  constructor
  · intro ops
    rw [(Device.issues_run (Device.Numbered.ofTypes types) ops).handles]
    exact List.nodup_range'
  · let P (x : Bench) := ∃ commands, Awaits commandBuffer x.gateway.device.issued x commands
    have h₁ : P s₁ := ⟨[], moored_of_reach before, unused, List.forall_mem_nil _⟩
    obtain ⟨commands, h₀⟩ : P s₀ := filled.invariant h₁ fun x a ⟨_, hx⟩ hok => hx.fill hok.1 hok.2
    have h : Awaits commandBuffer s₀.gateway.device.issued s commands :=
      left.invariant (P := fun x => Awaits _ _ x commands) h₀ fun x a hx hok =>
        hx.leave hok.1 hok.2
    refine Device.harmless h.waiting (fun c hc => (h.vouched c hc).usable h.toMoored) ?_
    intro m hm
    -- what was given out by then and was gone has stayed away; the rest came later
    by_cases hlast : s₀.gateway.device.issued < m
    · exact .inl hlast
    · refine .inr (Bool.eq_false_iff.mpr fun hlive => ?_)
      have hold := live_since (fun _ _ hok => hok.1) left h₀.toAccounted
        (x := .memory m) (Nat.not_lt.mp hlast) (Device.hasMemory_iff.mp hlive)
      rw [Device.hasMemory_iff.mpr hold] at hm
      cases hm

/-- A tensor of one element, with a staging copy. -/
def wordPlan : TensorPlan := { dtype := .int, kind := .device, elements := some 1 }

/-- Two tensors and a command buffer. -/
def twoTensors : Bench :=
  (((Bench.ofTypes [MemoryFlags.deviceLocal, Placement.hostCoherent]).step (.build wordPlan)).step
    (.build wordPlan)).step (.outside .newCommandBuffer)

theorem reach_twoTensors :
    Reach Fair (.ofTypes [MemoryFlags.deviceLocal, Placement.hostCoherent]) twoTensors := by
  refine .step _ (.step _ (.step _ .refl ?_) ?_) ?_ <;> exact List.forall_mem_nil _

/-- Both tensors are uploaded, and the second also copied into the first. -/
def uploads : Bench :=
  ((twoTensors.step (.record 1 false 9 (.upload .shaderRead))).step
    (.record 2 false 9 (.upload .shaderRead))).step (.record 1 false 9 (.copyFrom 2))

/-- Before the uploads are submitted the second tensor goes and another one comes. -/
def abandoned : Bench := (uploads.step (.destroy 2)).step (.build wordPlan)

theorem staleness_abandoned :
    abandoned.gateway.device.hasBuffer 12 = true ∧
      (abandoned.gateway.device.submit 9).1 = .error (.unknownBuffer 7) ∧
      (abandoned.gateway.device.submit 9).2.memories.get? 13 =
        abandoned.gateway.device.memories.get? 13 := by
  have unlent {s : Bench} {n : Nat} (h : (s.tensors.get? n).all (·.loans = []) = true) :
      s.Unlent n := by
    intro t ht
    rw [ht] at h
    exact of_decide_eq_true h
  have filled : Reach (fun s a => Fair s a ∧ Filling 9 s a) twoTensors uploads := by
    refine .step _ (.step _ (.step _ .refl ⟨trivial, fun _ => ⟨unlent ?_, ?_⟩⟩)
      ⟨trivial, fun _ => ⟨unlent ?_, ?_⟩⟩) ⟨trivial, fun _ => ⟨unlent ?_, ?_⟩⟩
    · decide +kernel
    · rintro source ⟨⟩
    · decide +kernel
    · rintro source ⟨⟩
    · decide +kernel
    · rintro source ⟨⟩
      refine unlent ?_
      decide +kernel
  have left : Reach (fun s a => Fair s a ∧ Leaving 9 s a) uploads abandoned := by
    refine .step _ (.step _ .refl ⟨trivial, trivial⟩) ⟨List.forall_mem_nil _, trivial⟩
  have h := (staleness reach_twoTensors (by decide +kernel) filled left).2
  refine ⟨by decide +kernel, ?_, h.spared 13 (by decide +kernel)⟩
  obtain ⟨-, hazards, hs⟩ := h.stops
    [.wholeCopy 3 1 4, .wholeBarrier 1 4 .transferWrite .shaderRead] (.wholeCopy 7 5 4)
    [.wholeBarrier 5 4 .transferWrite .shaderRead, .wholeCopy 5 1 4] 7
    (by decide +kernel) (by decide +kernel) (by decide +kernel)
  rw [hs]

end TensorMemory.Bench
