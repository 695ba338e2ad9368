import TensorMemory.Proofs.Bench.Evolution
import TensorMemory.Proofs.Tensor.Lifetime
import TensorMemory.Proofs.Tensor.Transparency

/-!
The host views of a bench. Whatever was done, a tensor that the host sees has its memory mapped from
one place on, and a buffer that it created is bound at the start of its memory for as long as it
lives (`Fastened`). So the view of such a buffer is the buffer, and that of a borrowed one is so
exactly if the lender has bound it where the mapping begins (`transparency`).
-/

namespace TensorMemory.Bench

/-! ## Tensors in a run -/

/-- What holds of a tensor that was built and is kept by rebuilding and destroying holds of every
tensor of a bench after a step. -/
theorem tensors_step {P : Tensor → Prop} {s : Bench} (hs : Orderly s)
    (hbuild : ∀ (plan : TensorPlan) t g, plan.build s.entry = (.ok t, g) → P t)
    (hrebuild : ∀ t data size elementSize, P t → P (t.rebuild s.entry data size elementSize).2.1)
    (hdestroy : ∀ t, P t → P (t.destroy s.entry).1)
    (h : ∀ n t, s.tensors.get? n = some t → P t) (a : Action) {n : Nat} {t : Tensor}
    (ht : (s.step a).tensors.get? n = some t) : P t := by
  have own {m : Nat} {f : Tensor → Gateway → Tensor × Gateway} (hf : ∀ u, P u → P (f u s.entry).1)
      {n : Nat} {t : Tensor} (ht : (s.apply m f).tensors.get? n = some t) : P t := by
    cases hu : s.tensors.get? m with
    | none =>
      rw [apply_none hu] at ht
      exact h n t ht
    | some u =>
      by_cases hnm : n = m
      · rw [hnm, apply_tensor hu] at ht
        exact Option.some.inj ht ▸ hf u (h m u hu)
      · rw [apply_others hu f hnm] at ht
        exact h n t ht
  cases a with
  | build plan =>
    by_cases hn : n = s.built + 1
    · rw [hn] at ht
      replace ht : (plan.build s.entry).1.toOption = some t := (build_tensor hs plan).symm.trans ht
      cases hb : plan.build s.entry with
      | mk r g =>
        rw [hb] at ht
        cases r with
        | error e => cases ht
        | ok u =>
          cases ht
          exact hbuild plan t g hb
    · exact h n t ((build_others s plan hn).symm.trans ht)
  | rebuild m data size elementSize =>
    exact own (f := fun t g => (t.rebuild g data size elementSize).2)
      (fun u hu => hrebuild u data size elementSize hu) ht
  | destroy m => exact own hdestroy ht
  | drop m =>
    replace ht : ((s.apply m Tensor.destroy).tensors.erase m).get? n = some t := ht
    rw [Table.get?_erase] at ht
    split at ht
    · cases ht
    · exact own hdestroy ht
  | overwrite m dtype xs => exact own (fun _ hu => hu) ht
  | overwriteBytes m data => exact own (fun _ hu => hu) ht
  | record m traced commandBuffer recording => exact own (fun _ hu => hu) ht
  | poke m chunk => exact own (fun _ hu => hu) ht
  | outside op => exact h n t ht

theorem faults_step {s : Bench} (hs : Orderly s) (a : Action) :
    (s.step a).gateway.faults = s.gateway.faults := by
  rcases passage_of_step hs a with ⟨op, rfl⟩ | he | ⟨cs, ms, hp⟩
  · rfl
  · rw [he]
  · exact hp.faults

theorem faults_run {s : Bench} (hs : Orderly s) (actions : List Action) :
    (s.run actions).gateway.faults = s.gateway.faults := by
  induction actions generalizing s with
  | nil => rfl
  | cons a actions ih => exact (ih (hs.step a)).trans (faults_step hs a)

/-! ## Mappings and bindings -/

/-- The buffer whose memory the host maps. -/
def Seen (s : Bench) (n : Nat) (t : Tensor) (x : BackedBuffer) : Prop :=
  s.tensors.get? n = some t ∧ ∃ r, t.residence = .live r ∧ r.backing.hostSide t.kind = some x

structure Fastened (s : Bench) : Prop extends Orderly s where
  coherent : s.gateway.device.Coherent
  consistent : ∀ n t, s.tensors.get? n = some t → t.Consistent
  mapping : ∀ {n t r}, s.tensors.get? n = some t → t.residence = .live r →
    r.mapping = (r.backing.hostSide t.kind).map fun x =>
      ⟨x.memory.handle, s.gateway.faults.mapShift⟩
  bound : ∀ {n t x}, Seen s n t x → x.buffer.isOwned = true →
    x.buffer.handle ≤ s.gateway.device.issued ∧
      ∀ b, s.gateway.device.buffers.get? x.buffer.handle = some b →
        b.size = t.byteSize ∧ b.binding = some ⟨x.memory.handle, 0⟩

namespace Fastened

variable {s : Bench}

theorem ofTypes (types : List Mask) (faults : Faults) : Fastened (Bench.ofTypes types faults) where
  toOrderly := .ofTypes types faults
  coherent := .ofTypes types
  consistent n t ht := by cases ht
  mapping ht := by cases ht
  bound h := by cases h.1

/-- A buffer that is live after a step and was bound before it is bound as it was. -/
theorem still_bound (hs : Fastened s) (a : Action) {h : Handle} {b : Buffer} {p : Place}
    {size : Nat} (hle : h ≤ s.gateway.device.issued)
    (hbound : ∀ b, s.gateway.device.buffers.get? h = some b → b.size = size ∧ b.binding = some p)
    (hb : (s.step a).gateway.device.buffers.get? h = some b) :
    b.size = size ∧ b.binding = some p := by
  have hlive := Device.buffer_mem_assets.mpr ⟨b, hb⟩
  obtain ⟨b₀, hb₀⟩ :=
    Device.buffer_mem_assets.mp (live_before hs.toOrderly (x := .buffer h) hle hlive)
  obtain ⟨ops, hops⟩ := device_step hs.toOrderly a
  rw [hops] at hb hlive
  have hsame := Device.bound_run hs.numbered ops hb₀ (by rw [(hbound b₀ hb₀).2]; rfl) hlive
  cases hb.symm.trans hsame
  exact hbound b hb₀

theorem step (hs : Fastened s) (a : Action) : Fastened (s.step a) where
  toOrderly := hs.toOrderly.step a
  coherent := by
    obtain ⟨ops, hops⟩ := device_step hs.toOrderly a
    rw [hops]
    exact hs.coherent.run ops
  consistent n t ht := by
    refine tensors_step hs.toOrderly (fun plan t g h => (Tensor.Built.plan h).live.1) ?_ ?_
      hs.consistent a ht
    · exact fun t data size elementSize h => h.answer s.entry (.rebuild data size elementSize)
    · exact fun t h => h.answer s.entry .destroy
  mapping {n t r} ht hr := by
    rw [faults_step hs.toOrderly a]
    rcases tensor_step hs.toOrderly ht with hold | hnew
    · exact hs.mapping hold hr
    · exact (hnew.sound r hr).mapping
  bound {n t x} h ho := by
    obtain ⟨ht, r, hr, hx⟩ := h
    rcases tensor_step hs.toOrderly ht with hold | hnew
    · obtain ⟨hle, hbound⟩ := hs.bound ⟨hold, r, hr, hx⟩ ho
      exact ⟨Nat.le_trans hle (issued_step hs.toOrderly a), fun b hb =>
        hs.still_bound a hle hbound hb⟩
    · rw [Backing.hostSide_eq] at hx
      obtain ⟨σ, -, hσ⟩ := Option.bind_eq_some_iff.mp hx
      obtain ⟨need, -, hsound⟩ := (hnew.sound r hr).side hσ
      have hbuffer := hsound.bound ho
      refine ⟨((hs.toOrderly.step a).numbered.buffers hbuffer).2, fun b hb => ?_⟩
      cases hbuffer.symm.trans hb
      exact ⟨rfl, rfl⟩

theorem run (hs : Fastened s) (actions : List Action) : Fastened (s.run actions) := by
  induction actions generalizing s with
  | nil => exact hs
  | cons a actions ih => exact ih (hs.step a)

/-- What the host sees of a tensor that it can see at all. -/
theorem seen (hs : Fastened s) {n : Nat} {t : Tensor} (ht : s.tensors.get? n = some t)
    (hi : t.isInitialized = true) (hk : t.kind ≠ .storage) :
    ∃ r x, t.residence = .live r ∧ r.backing.hostSide t.kind = some x ∧ 0 < t.byteSize ∧
      ∀ operation, t.hostRange operation =
        .ok ⟨⟨x.memory.handle, s.gateway.faults.mapShift⟩, t.byteSize⟩ := by
  have hinit := (hs.consistent n t ht).isInitialized_iff.mp hi
  obtain ⟨p, hp⟩ := Option.isSome_iff_exists.mp (hinit.mapping.mpr hk)
  obtain ⟨r, hr, hmapping⟩ := Option.bind_eq_some_iff.mp hp
  have hlive := Tensor.resources?_eq_some.mp hr
  obtain ⟨x, hx, rfl⟩ := Option.map_eq_some_iff.mp ((hs.mapping ht hlive).symm.trans hmapping)
  exact ⟨r, x, hlive, hx, Nat.mul_pos hinit.size t.dtype.width_pos, Tensor.hostRange_mapped hk hp⟩

end Fastened

/-- Wherever a run leads, the host sees a tensor through the memory of its primary buffer, or of its
staging buffer if it has one, from the place where all mappings begin. If the tensor created that
buffer, it is bound at the start of the memory. And whoever created it, if it is live, long enough
and bound to the memory, the view is the buffer if and only if the buffer is bound where the mapping
begins. -/
theorem transparency (types : List Mask) (faults : Faults) (actions : List Action) {n : Nat}
    {t : Tensor} (ht : ((ofTypes types faults).run actions).tensors.get? n = some t)
    (hi : t.isInitialized = true) (hk : t.kind ≠ .storage) :
    ∃ r x, t.residence = .live r ∧ r.backing.hostSide t.kind = some x ∧
      (∀ operation, t.hostRange operation =
        .ok ⟨⟨x.memory.handle, faults.mapShift⟩, t.byteSize⟩) ∧
      ∀ b, ((ofTypes types faults).run actions).gateway.device.buffers.get? x.buffer.handle =
          some b →
        (x.buffer.isOwned = true → b.size = t.byteSize ∧ b.binding = some ⟨x.memory.handle, 0⟩) ∧
        ∀ offset, b.binding = some ⟨x.memory.handle, offset⟩ → t.byteSize ≤ b.size →
          ((ofTypes types faults).run actions).gateway.device.hasMemory x.memory.handle = true →
          (t.Transparent ((ofTypes types faults).run actions).gateway.device x.buffer.handle ↔
            offset = faults.mapShift) := by
  have hs := Fastened.run (.ofTypes types faults) actions
  have hfaults : ((ofTypes types faults).run actions).gateway.faults = faults :=
    faults_run (.ofTypes types faults) actions
  generalize (ofTypes types faults).run actions = s at hs hfaults ht
  obtain ⟨r, x, hr, hx, h0, hrange⟩ := hs.seen ht hi hk
  rw [hfaults] at hrange
  refine ⟨r, x, hr, hx, hrange, fun b hb => ⟨fun ho => (hs.bound ⟨ht, r, hr, hx⟩ ho).2 b hb, ?_⟩⟩
  intro offset hbound hlarge hlive
  obtain ⟨m, hm⟩ := Table.contains_iff.mp hlive
  have hfits := hs.coherent.fits hb hbound hm
  refine Tensor.transparent_iff hrange hs.coherent h0 ⟨⟨b, hb, hbound, hlarge⟩, m, hm, ?_⟩
  show offset + t.byteSize ≤ _
  have hfits : offset + b.size ≤ m.contents.size := hfits
  omega

/-- A tensor of one element that borrows a buffer bound somewhere in a larger memory. -/
def borrowingRun (offset : Nat) : Bench :=
  (ofTypes [Placement.hostCoherent]).run
    [.outside (.createBuffer 4 Placement.transfer), .outside (.allocate 128 0),
      .outside (.bind 1 2 offset),
      .build
        { dtype := .float
          kind := .host
          elements := some 1
          data := some (.ofBytes [0, 0, 128, 63])
          primary := some ⟨1, 2⟩ }]

def borrowingTensor : Tensor := ⟨.host, .float, 1, .live ⟨⟨.borrowed ⟨1, 2⟩, none⟩, some ⟨2, 0⟩⟩⟩

theorem transparency_borrowingRun :
    (borrowingRun 0).tensors.get? 1 = some borrowingTensor ∧
      borrowingTensor.Transparent (borrowingRun 0).gateway.device 1 := by
  have ht : (borrowingRun 0).tensors.get? 1 = some borrowingTensor := by decide +kernel
  have hb : (borrowingRun 0).gateway.device.buffers.get? 1 =
      some ⟨4, Placement.transfer, some ⟨2, 0⟩⟩ := by decide +kernel
  obtain ⟨r, x, hr, hx, -, h⟩ := transparency _ _ _ ht (by decide) (by decide)
  cases hr
  cases hx
  exact ⟨ht, ((h _ hb).2 0 rfl (by decide) (by decide +kernel)).mpr rfl⟩

/-- Bound elsewhere, the buffer is live, long enough and bound to the memory, and holds other bytes
than the host sees. -/
theorem transparency_offsetRun :
    (borrowingRun 64).tensors.get? 1 = some borrowingTensor ∧
      borrowingTensor.isInitialized = true ∧
      (borrowingRun 64).gateway.device.buffers.get? 1 =
        some ⟨4, Placement.transfer, some ⟨2, 64⟩⟩ ∧
      (borrowingRun 64).gateway.device.hasMemory 2 = true ∧
      borrowingTensor.hostRange "data" = .ok ⟨⟨2, 0⟩, 4⟩ ∧
      ((borrowingRun 64).gateway.device.load ⟨2, 0⟩ 4).toBytes = [0, 0, 128, 63] ∧
      ((borrowingRun 64).gateway.device.read 1 4).toOption.map Block.toBytes =
        some [0, 0, 0, 0] ∧
      ¬borrowingTensor.Transparent (borrowingRun 64).gateway.device 1 := by
  have hload : ((borrowingRun 64).gateway.device.load ⟨2, 0⟩ 4).toBytes = [0, 0, 128, 63] := by
    decide +kernel
  have hread : ((borrowingRun 64).gateway.device.read 1 4).toOption.map Block.toBytes =
      some [0, 0, 0, 0] := by decide +kernel
  refine ⟨by decide +kernel, by decide, by decide +kernel, by decide +kernel, rfl, hload, hread,
    fun h => ?_⟩
  have hseen : (borrowingRun 64).gateway.device.read 1 4 =
      .ok ((borrowingRun 64).gateway.device.load ⟨2, 0⟩ 4) := h.seen "data" _ rfl
  rw [hseen] at hread
  exact absurd (hload.symm.trans (Option.some.inj hread)) (by decide)

end TensorMemory.Bench
