import TensorMemory.Proofs.Bench.Possession
import TensorMemory.Proofs.Bench.Recording
import TensorMemory.Proofs.Device.Delivery
import TensorMemory.Proofs.Tensor.Overlap

/-!
Where the bytes of a copy between tensors come from. A copy names its buffers by handles, and it is
the device of the tensor that is copied to which says what they stand for. Of two tensors on one
device the handles are different, and what arrives are the bytes of the source (`copy_source`). The
handle of a tensor from another device is taken for one of this device: when it happens to be that
of the target the copy is refused, and otherwise it is taken out of whatever has that handle here.
-/

namespace TensorMemory

/-- An initialized tensor whose primary buffer, as given, is its own and can be copied from and
to. -/
structure Tensor.Copies (t : Tensor) (b : BackedBuffer) : Prop where
  initialized : t.isInitialized = true
  primary : t.primary? = some b
  owned : b.buffer.isOwned = true
  readable : b.usage.all (·.contains UsageFlags.transferSource) = true
  writable : b.usage.all (·.contains UsageFlags.transferTarget) = true

namespace Tensor

variable {t u : Tensor} {p q : BackedBuffer}

theorem Copies.live (h : t.Copies p) : ∃ r, t.residence = .live r ∧ r.backing.primary = p := by
  have hp := h.primary
  rw [primary?, Option.map_eq_some_iff] at hp
  obtain ⟨r, hr, hp⟩ := hp
  exact ⟨r, resources?_eq_some.mp hr, hp⟩

theorem Copies.mem_assets (h : t.Copies p) : .buffer p.buffer.handle ∈ t.assets := by
  obtain ⟨r, hr, rfl⟩ := h.live
  rw [assets_of_live hr]
  exact List.mem_flatMap.mpr ⟨_, List.mem_cons_self .., BackedBuffer.buffer_mem_assets h.owned⟩

/-- Nothing but a shared handle stands in the way of the copy. -/
theorem Copies.copyPlan (ht : t.Copies p) (hu : u.Copies q) : t.copyPlan u =
    if q.buffer.handle = p.buffer.handle then .error (.overlappingCopy p.buffer.handle)
    else .ok (q.buffer.handle, p.buffer.handle, min u.byteSize t.byteSize) := by
  obtain ⟨r, hr, rfl⟩ := ht.live
  obtain ⟨r', hr', rfl⟩ := hu.live
  by_cases he : r'.backing.primary.buffer.handle = r.backing.primary.buffer.handle
  · rw [if_pos he, copyPlan_shared (primary_of_live hr) (primary_of_live hr') he]
    simp [BackedBuffer.overlapRefusal, hu.readable, ht.writable]
  · simp [Tensor.copyPlan_eq, checkAttached_of_live hr, primary_of_live hr, primary_of_live hr',
      BackedBuffer.checkUsage, hu.readable, ht.writable, he, bind, Except.bind, pure, Except.pure]

theorem Copies.recordCopyOf (ht : t.Copies p) (hu : u.Copies q) (g : Gateway) (traced : Bool)
    (commandBuffer : Handle) : (t.recordCopyOf u g traced commandBuffer).1 =
      if q.buffer.handle = p.buffer.handle then .error (.overlappingCopy p.buffer.handle)
      else .ok () := by
  rw [Tensor.recordCopyOf_eq, ht.copyPlan hu]
  by_cases he : q.buffer.handle = p.buffer.handle <;> simp [he]

end Tensor

namespace Bench

/-- The bench after tensor `n` has recorded a copy of a tensor, be that on this bench or on
another. -/
def copyInto (s : Bench) (n : Nat) (u : Tensor) (traced : Bool) (commandBuffer : Handle) : Bench :=
  s.apply n fun t g => (t, (t.recordCopyOf u g traced commandBuffer).2)

variable {s late : Bench} {n m : Nat} {t u : Tensor} {p q : BackedBuffer} {traced : Bool}
  {commandBuffer : Handle}

/-- For a tensor of this bench it is the step that records the copy. -/
theorem copyInto_eq_step (hu : s.tensors.get? m = some u) : s.copyInto n u traced commandBuffer =
    s.step (.record n traced commandBuffer (.copyFrom m)) := by
  simp only [copyInto, step, performRecording, hu]

/-- One copy waits in the command buffer, alone. -/
structure Awaiting (s : Bench) (commandBuffer source target : Handle) (size : Nat) : Prop
    extends Orderly s where
  coherent : s.gateway.device.Coherent
  waiting : s.gateway.device.commandBuffers.get? commandBuffer =
    some [.wholeCopy source target size]

theorem Awaiting.leave {source target : Handle} {size : Nat}
    (h : s.Awaiting commandBuffer source target size) {a : Action}
    (hl : Leaving commandBuffer s a) : (s.step a).Awaiting commandBuffer source target size where
  toOrderly := h.toOrderly.step a
  coherent := by
    obtain ⟨ops, hops⟩ := device_step h.toOrderly a
    rw [hops]
    exact h.coherent.run ops
  waiting := waiting_step h.toOrderly hl h.waiting

/-- Recording changes the device in one command buffer only, and the tensors not at all. -/
theorem awaiting_copyInto (hs : Orderly s) (hc : s.gateway.device.Coherent)
    (ht : s.tensors.get? n = some t)
    (hempty : s.gateway.device.commandBuffers.get? commandBuffer = some []) {source target : Handle}
    {size : Nat} (hplan : t.copyPlan u = .ok (source, target, size)) :
    (s.copyInto n u traced commandBuffer).Awaiting commandBuffer source target size := by
  have hdevice : (s.copyInto n u traced commandBuffer).gateway.device =
      s.gateway.device.run [.record commandBuffer (.wholeCopy source target size)] := by
    rw [copyInto, apply_gateway ht, Tensor.recordCopyOf_eq, hplan]
    exact Gateway.device_addWholeCopy ..
  refine ⟨⟨?_, fun h => ?_⟩, ?_, ?_⟩
  · rw [hdevice]
    exact hs.numbered.run _
  · rw [copyInto, tensors_apply_keep ht rfl] at h
    rw [copyInto, built_apply]
    exact hs.numbers h
  · rw [hdevice]
    exact hc.run _
  · rw [hdevice]
    show (s.gateway.device.record commandBuffer _).commandBuffers.get? commandBuffer = _
    rw [Device.record_of_known (Table.contains_iff.mpr ⟨_, hempty⟩)]
    dsimp only
    rw [Table.get?_modify, if_pos rfl, hempty]
    rfl

/-- A copy that was recorded waits for as long as its command buffer is left alone. -/
theorem awaiting_late (hs : Orderly s) (hc : s.gateway.device.Coherent)
    (ht : s.tensors.get? n = some t) (hp : t.Copies p) (hq : u.Copies q)
    (hempty : s.gateway.device.commandBuffers.get? commandBuffer = some [])
    (hne : q.buffer.handle ≠ p.buffer.handle)
    (hlate : Reach (Leaving commandBuffer) (s.copyInto n u traced commandBuffer) late) :
    late.Awaiting commandBuffer q.buffer.handle p.buffer.handle (min u.byteSize t.byteSize) := by
  have hplan := hp.copyPlan hq
  rw [if_neg hne] at hplan
  have hfirst : (s.copyInto n u traced commandBuffer).Awaiting commandBuffer q.buffer.handle
      p.buffer.handle (min u.byteSize t.byteSize) :=
    awaiting_copyInto hs hc ht hempty hplan
  exact hlate.invariant (P := fun b => b.Awaiting _ _ _ _) hfirst fun _ _ h hl => h.leave hl

namespace Secure

/-- Primary buffers of two tensors have different handles. -/
theorem ne_handle (hs : Secure s) (ht : s.tensors.get? n = some t) (hu : s.tensors.get? m = some u)
    (hp : t.Copies p) (hq : u.Copies q) (hmn : m ≠ n) : q.buffer.handle ≠ p.buffer.handle :=
  fun he => hmn (hs.unique hu ht hq.mem_assets hp.mem_assets he)

/-- The buffer of a tensor is found in the tensor's memory, at any later time. -/
theorem place (hs : Secure s) (ht : s.tensors.get? n = some t) (hp : t.Copies p)
    {ops : List Device.Operation} {required : Mask} {size : Nat} {place : Place}
    (h : (s.gateway.device.run ops).Grants p.buffer.handle required 0 size place) :
    place.memory = p.memory.handle ∧ .memory p.memory.handle ∈ t.assets := by
  obtain ⟨b, x, hb, -, hx, -, -, rfl⟩ := h
  have hlive := Device.buffer_mem_assets.mpr ⟨b, hb⟩
  have hearlier : .buffer p.buffer.handle ∈ s.gateway.device.assets := by
    by_contra hdead
    exact Device.dead_run hs.numbered ops (hs.issued ht hp.mem_assets) hdead hlive
  obtain ⟨b₀, hb₀⟩ := Device.buffer_mem_assets.mp hearlier
  obtain ⟨r, hr, rfl⟩ := hp.live
  obtain ⟨hmemory, hbound⟩ := hs.primary ht hr hp.owned
  have hsame := Device.bound_run hs.numbered ops hb₀ (by rw [hbound b₀ hb₀]; rfl) hlive
  cases hb.symm.trans hsame
  cases hx.symm.trans (hbound b hb₀)
  refine ⟨rfl, ?_⟩
  rw [Tensor.assets_of_live hr]
  exact List.mem_flatMap.mpr ⟨_, List.mem_cons_self .., BackedBuffer.memory_mem_assets hmemory⟩

/-- Buffers of two tensors are never in one memory. -/
theorem apart (hs : Secure s) (ht : s.tensors.get? n = some t) (hu : s.tensors.get? m = some u)
    (hp : t.Copies p) (hq : u.Copies q) (hmn : m ≠ n) (actions : List Action)
    {required required' : Mask} {size : Nat} {origin goal : Place}
    (hsource : (s.run actions).gateway.device.Grants q.buffer.handle required 0 size origin)
    (htarget : (s.run actions).gateway.device.Grants p.buffer.handle required' 0 size goal) :
    origin.memory ≠ goal.memory := by
  obtain ⟨ops, hops⟩ := device_run hs.toOrderly actions
  rw [hops] at hsource htarget
  obtain ⟨horigin, hsource⟩ := hs.place hu hq hsource
  obtain ⟨hgoal, htarget⟩ := hs.place ht hp htarget
  rw [horigin, hgoal]
  exact fun he => hmn (hs.unique hu ht hsource htarget he)

end Secure

/-- A copy is recorded unless the handles of the two primary buffers are the same number, which they
are never for two tensors of one device. Once it is carried out, the target reads as the buffer of
the source's number on the target's device did; and if the source is a tensor of that device, this
is the source's buffer, which still reads the same, and neither tensor has changed meanwhile. -/
theorem copy_source {types : List Mask} {faults : Faults} {actions : List Action} {n : Nat}
    {t u : Tensor} {p q : BackedBuffer}
    (ht : ((ofTypes types faults).run actions).tensors.get? n = some t) (hp : t.Copies p)
    (hq : u.Copies q) :
    let s := (ofTypes types faults).run actions
    (∀ g traced commandBuffer, (t.recordCopyOf u g traced commandBuffer).1 =
      if q.buffer.handle = p.buffer.handle then .error (.overlappingCopy p.buffer.handle)
      else .ok ()) ∧
    (∀ m, s.tensors.get? m = some u → m ≠ n → q.buffer.handle ≠ p.buffer.handle) ∧
    ∀ traced commandBuffer late,
      s.gateway.device.commandBuffers.get? commandBuffer = some [] →
      (t.recordCopyOf u s.entry traced commandBuffer).1 = .ok () →
      Reach (Leaving commandBuffer) (s.copyInto n u traced commandBuffer) late →
      (late.gateway.device.submit commandBuffer).1 = .ok () →
      let after := (late.gateway.device.submit commandBuffer).2
      let size := min u.byteSize t.byteSize
      ∃ bytes, (late.gateway.device.read q.buffer.handle size).map Block.toBytes = .ok bytes ∧
        (after.read p.buffer.handle size).map Block.toBytes = .ok bytes ∧
        ∀ m, s.tensors.get? m = some u →
          (after.read q.buffer.handle size).map Block.toBytes = .ok bytes ∧
          (∀ t', late.tensors.get? n = some t' → t' = t) ∧
          ∀ u', late.tensors.get? m = some u' → u' = u := by
  intro s
  have hs : Secure s := (Secure.ofTypes types faults).run actions
  refine ⟨hp.recordCopyOf hq, fun m hu hmn => hs.ne_handle ht hu hp hq hmn, ?_⟩
  intro traced commandBuffer late hempty hrecorded hlate hok
  have hne : q.buffer.handle ≠ p.buffer.handle := fun he => by
    rw [hp.recordCopyOf hq, if_pos he] at hrecorded
    cases hrecorded
  have hcoherent : s.gateway.device.Coherent := by
    obtain ⟨ops, hops⟩ := device_run (Orderly.ofTypes types faults) actions
    exact hops ▸ (Device.Coherent.ofTypes types).run ops
  have hawaiting := awaiting_late hs.toOrderly hcoherent ht hp hq hempty hne hlate
  obtain ⟨origin, goal, bytes, hsource, htarget, hread, hdelivered, hkept⟩ :=
    Device.delivery hawaiting.coherent hawaiting.waiting hok
  refine ⟨bytes, hread, hdelivered, fun m hu => ?_⟩
  have hmn : m ≠ n := by
    rintro rfl
    cases ht.symm.trans hu
    cases hp.primary.symm.trans hq.primary
    exact hne rfl
  rw [copyInto_eq_step hu] at hlate
  have hrecording := hs.step (.record n traced commandBuffer (.copyFrom m))
  have hsame : (s.step (.record n traced commandBuffer (.copyFrom m))).tensors = s.tensors :=
    tensors_apply_keep ht rfl
  refine ⟨hkept ?_, fun t' ht' => ?_, fun u' hu' => ?_⟩
  · obtain ⟨actions', rfl⟩ := hlate.run
    exact hs.apart ht hu hp hq hmn (_ :: actions') hsource htarget
  · exact hrecording.same hlate (hsame ▸ ht) hp.mem_assets htarget.live ht'
  · exact hrecording.same hlate (hsame ▸ hu) hq.mem_assets hsource.live hu'

/-- A tensor of one element, given by its lowest byte. -/
def bytePlan (byte : UInt8) : TensorPlan :=
  { dtype := .int, kind := .host, elements := some 1, data := some (.ofBytes [byte, 0, 0, 0]) }

/-- A bench with such a tensor for each of the bytes, and a command buffer. -/
def wordBench (bytes : List UInt8) : Bench :=
  (ofTypes [Placement.hostCoherent]).run
    (bytes.map (fun byte => .build (bytePlan byte)) ++ [.outside .newCommandBuffer])

/-- Such a tensor, with its buffer and its memory. -/
def wordTensor (buffer memory : Handle) : Tensor :=
  ⟨.host, .int, 1, .live ⟨⟨.owned buffer memory Placement.host.needs.primary.usage, none⟩,
    some ⟨memory, 0⟩⟩⟩

theorem copies_wordTensor (buffer memory : Handle) : (wordTensor buffer memory).Copies
    (.owned buffer memory Placement.host.needs.primary.usage) :=
  ⟨rfl, rfl, rfl, rfl, rfl⟩

theorem copy_source_wordBench :
    let late := (wordBench [1, 2]).copyInto 2 (wordTensor 1 2) false 5
    ((late.gateway.device.submit 5).2.read 3 4).map Block.toBytes = .ok [1, 0, 0, 0] := by
  intro late
  have ht : (wordBench [1, 2]).tensors.get? 2 = some (wordTensor 3 4) := rfl
  have hsource : (late.gateway.device.read 1 4).map Block.toBytes = .ok [1, 0, 0, 0] := by
    decide +kernel
  obtain ⟨bytes, hread, hdelivered, -⟩ :=
    (copy_source ht (copies_wordTensor 3 4) (copies_wordTensor 1 2)).2.2 false 5 _ rfl rfl .refl
      rfl
  cases hsource.symm.trans hread
  exact hdelivered

/-- Two tensors of one device, and one of another. A copy of that one is refused for the first,
since both buffers have handle 1, and into the second it brings the byte of the first. -/
theorem copy_source_strayHandle :
    let here := wordBench [1, 2]
    let there := wordBench [3]
    let late := here.copyInto 2 (wordTensor 1 2) false 5
    here.tensors.get? 1 = some (wordTensor 1 2) ∧ here.tensors.get? 2 = some (wordTensor 3 4) ∧
      there.tensors.get? 1 = some (wordTensor 1 2) ∧
      ((wordTensor 1 2).recordCopyOf (wordTensor 1 2) here.entry false 5).1 =
        .error (.overlappingCopy 1) ∧
      ((wordTensor 3 4).recordCopyOf (wordTensor 1 2) here.entry false 5).1 = .ok () ∧
      (late.gateway.device.submit 5).1 = .ok () ∧
      ((late.gateway.device.submit 5).2.read 3 4).map Block.toBytes = .ok [1, 0, 0, 0] ∧
      (there.gateway.device.read 1 4).map Block.toBytes = .ok [3, 0, 0, 0] := by
  decide +kernel

end Bench
end TensorMemory
