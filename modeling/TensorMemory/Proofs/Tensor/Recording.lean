import TensorMemory.Proofs.Device.Recording
import TensorMemory.Proofs.Tensor.Exchange
import TensorMemory.Proofs.Tensor.Requests

/-!
What a tensor records. A recording is refused before anything is written, or its commands go into
the command buffer one after another and all else of the device stays as it is (`record_eq`); which
commands these are follows from the tensor's buffers alone (`expansion`).
-/

namespace TensorMemory

/-- The copy of the first `size` bytes of a buffer to another. -/
def Command.wholeCopy (source target : Handle) (size : Nat) : Command :=
  .copy source target [⟨0, 0, size⟩]

/-- The barrier over the first `size` bytes of a buffer. -/
def Command.wholeBarrier (buffer : Handle) (size : Nat) (source target : SyncScope) : Command :=
  .barrier source.stage target.stage
    [⟨buffer, source.access, target.access, ignoredFamily, ignoredFamily, 0, size⟩]

namespace Gateway

theorem device_announceCommand (g : Gateway) (traced : Bool) (command : String)
    (commandBuffer : Handle) (bytes : Nat) :
    (g.announceCommand traced command commandBuffer bytes).device = g.device := by
  unfold announceCommand
  split <;> rfl

theorem device_addWholeCopy (g : Gateway) (traced : Bool) (commandBuffer source target : Handle)
    (size : Nat) : (g.addWholeCopy traced commandBuffer source target size).device =
      g.device.record commandBuffer (.wholeCopy source target size) :=
  device_announceCommand ..

theorem device_addWholeBarrier (g : Gateway) (traced : Bool) (commandBuffer buffer : Handle)
    (size : Nat) (source target : SyncScope) :
    (g.addWholeBarrier traced commandBuffer buffer size source target).device =
      g.device.record commandBuffer (.wholeBarrier buffer size source target) :=
  device_announceCommand ..

end Gateway

/-! ## The buffers that a tensor names -/

theorem BackedBuffer.checkUsage_ok {b : BackedBuffer} {required : Mask} {x : Unit}
    (h : b.checkUsage required = .ok x) : b.usage.all (·.contains required) = true := by
  unfold checkUsage at h
  split at h
  · next hu => exact hu
  · cases h

namespace Tensor

variable {t u : Tensor}

theorem primary_ok {b : BackedBuffer} (h : t.primary = .ok b) :
    ∃ r, t.residence = .live r ∧ r.backing.primary = b := by
  simp only [primary, Parts.primary, primary?] at h
  cases hr : t.resources? with
  | none =>
    rw [hr] at h
    cases h
  | some r =>
    rw [hr] at h
    cases h
    exact ⟨r, resources?_eq_some.mp hr, rfl⟩

theorem primary_of_live {r : Resources} (h : t.residence = .live r) :
    t.primary = .ok r.backing.primary := by
  simp [primary, Parts.primary, primary?, resources?_eq_some.mpr h]

theorem checkAttached_of_live {r : Resources} (h : t.residence = .live r) :
    t.checkAttached = .ok () := by
  simp [checkAttached, Parts.checkAttached, isAttached, h]

theorem staging_ok {operation : String} {b : BackedBuffer} (h : t.staging operation = .ok b) :
    t.kind = .device ∧ ∃ r, t.residence = .live r ∧ r.backing.staging = some b := by
  simp only [staging, Parts.staging, staging?] at h
  split at h
  · cases h
  next hk =>
  have hkind : t.kind = .device := by simpa [Placement.isStaged] using hk
  cases hr : t.resources? with
  | none =>
    rw [hr] at h
    cases h
  | some r =>
    rw [hr, Option.bind_some] at h
    cases hs : r.backing.staging with
    | none =>
      rw [hs] at h
      cases h
    | some b' =>
      rw [hs] at h
      cases h
      exact ⟨hkind, r, resources?_eq_some.mp hr, hs⟩

/-- A tensor with a staging buffer has a device. -/
theorem stagingTarget_eq (t : Tensor) :
    t.stagingTarget = t.staging "record_staging_buffer_memory_barrier" := by
  simp only [stagingTarget, Parts.stagingTarget, bind, Except.bind]
  cases hs : t.parts.staging "record_staging_buffer_memory_barrier" with
  | error e => exact hs.symm
  | ok b =>
    obtain ⟨-, r, hr, -⟩ := staging_ok (t := t) hs
    have hattached : t.parts.checkAttached = .ok () := checkAttached_of_live hr
    rw [hattached]
    exact hs.symm

theorem stagedBuffers_eq_ok {operation : String} {staging primary : Handle} :
    t.stagedBuffers operation = .ok (staging, primary) ↔
      t.kind = .device ∧ ∃ r b, t.residence = .live r ∧ r.backing.staging = some b ∧
        b.buffer.handle = staging ∧ r.backing.primary.buffer.handle = primary := by
  constructor
  · intro h
    simp only [stagedBuffers, Parts.stagedBuffers, bind, Except.bind] at h
    split at h
    · cases h
    next b hb =>
    split at h
    · cases h
    split at h
    · cases h
    next p hp =>
    cases h
    obtain ⟨hk, r, hr, hs⟩ := staging_ok hb
    obtain ⟨r', hr', rfl⟩ := primary_ok hp
    cases hr.symm.trans hr'
    exact ⟨hk, r, b, hr, hs, rfl, rfl⟩
  · rintro ⟨hk, r, b, hr, hs, rfl, rfl⟩
    have hresources := resources?_eq_some.mpr hr
    simp [stagedBuffers, Parts.stagedBuffers, Parts.staging, Parts.primary, Parts.checkAttached,
      Tensor.staging?, Tensor.primary?, isAttached, hk, hr, hs, hresources, Placement.isStaged, bind,
      Except.bind, pure, Except.pure]

theorem copyPlan_ok {source target : Handle} {size : Nat}
    (h : t.copyPlan u = .ok (source, target, size)) :
    ∃ r r', t.residence = .live r ∧ u.residence = .live r' ∧
      r'.backing.primary.buffer.handle = source ∧ r.backing.primary.buffer.handle = target ∧
      size = min u.byteSize t.byteSize ∧
      r'.backing.primary.usage.all (·.contains UsageFlags.transferSource) = true ∧
      r.backing.primary.usage.all (·.contains UsageFlags.transferTarget) = true := by
  simp only [copyPlan, Parts.copyPlan, bind, Except.bind] at h
  split at h
  · cases h
  split at h
  · cases h
  next p hp =>
  split at h
  · cases h
  next q hq =>
  split at h
  · cases h
  next hsource =>
  split at h
  · cases h
  next htarget =>
  split at h
  · cases h
  cases h
  obtain ⟨r, hr, rfl⟩ := primary_ok hp
  obtain ⟨r', hr', rfl⟩ := primary_ok hq
  exact ⟨r, r', hr, hr', rfl, rfl, rfl, BackedBuffer.checkUsage_ok hsource,
    BackedBuffer.checkUsage_ok htarget⟩

end Tensor

/-! ## Commands over whole buffers -/

/-- A command over the first bytes of its buffers. -/
inductive WholeCommand where
  | copy (source target : Handle) (size : Nat)
  | barrier (buffer : Handle) (size : Nat) (source target : SyncScope)

def WholeCommand.command : WholeCommand → Command
  | copy source target size => .wholeCopy source target size
  | barrier buffer size source target => .wholeBarrier buffer size source target

namespace Gateway

/-- Puts a command into a command buffer. -/
def enter (g : Gateway) (traced : Bool) (commandBuffer : Handle) : WholeCommand → Gateway
  | .copy source target size => g.addWholeCopy traced commandBuffer source target size
  | .barrier buffer size source target =>
    g.addWholeBarrier traced commandBuffer buffer size source target

def enterAll (g : Gateway) (traced : Bool) (commandBuffer : Handle) (cs : List WholeCommand) :
    Gateway :=
  cs.foldl (fun g c => g.enter traced commandBuffer c) g

theorem device_enter (g : Gateway) (traced : Bool) (commandBuffer : Handle) (c : WholeCommand) :
    (g.enter traced commandBuffer c).device = g.device.record commandBuffer c.command := by
  cases c with
  | copy source target size => exact device_addWholeCopy ..
  | barrier buffer size source target => exact device_addWholeBarrier ..

theorem device_enterAll (g : Gateway) (traced : Bool) (commandBuffer : Handle)
    (cs : List WholeCommand) : (g.enterAll traced commandBuffer cs).device =
      g.device.recordAll commandBuffer (cs.map WholeCommand.command) := by
  induction cs generalizing g with
  | nil => rfl
  | cons c cs ih =>
    refine (ih (g.enter traced commandBuffer c)).trans ?_
    rw [device_enter]
    rfl

theorem enter_exchange (g : Gateway) (traced : Bool) (commandBuffer : Handle) (c : WholeCommand) :
    ∃ cs, Exchange g (g.enter traced commandBuffer c) cs [] [] [] := by
  cases c with
  | copy source target size => exact ⟨_, g.addWholeCopy_exchange ..⟩
  | barrier buffer size source target => exact ⟨_, g.addWholeBarrier_exchange ..⟩

theorem enterAll_exchange (g : Gateway) (traced : Bool) (commandBuffer : Handle)
    (commands : List WholeCommand) :
    ∃ cs, Exchange g (g.enterAll traced commandBuffer commands) cs [] [] [] := by
  induction commands generalizing g with
  | nil => exact ⟨[], .refl g⟩
  | cons c commands ih =>
    obtain ⟨cs, hfirst⟩ := g.enter_exchange traced commandBuffer c
    obtain ⟨cs', hrest⟩ := ih (g.enter traced commandBuffer c)
    exact ⟨_, hfirst.trans hrest⟩

end Gateway

namespace Tensor

/-- The commands of a recording, or why it is refused. -/
def wording (t : Tensor) : Recording → Except TensorError (List WholeCommand)
  | .copyOf source => (t.copyPlan source).map fun p => [.copy p.1 p.2.1 p.2.2]
  | .upload scope =>
    (t.stagedBuffers "record_copy_from_staging_to_device").map fun b =>
      [.copy b.1 b.2 t.byteSize, .barrier b.2 t.byteSize .transferWrite scope]
  | .download scope =>
    (t.stagedBuffers "record_copy_from_device_to_staging").map fun b =>
      [.barrier b.2 t.byteSize scope .transferRead, .copy b.2 b.1 t.byteSize]
  | .primaryBarrier source target =>
    t.primaryTarget.map fun b => [.barrier b.buffer.handle t.byteSize source target]
  | .stagingBarrier source target =>
    t.stagingTarget.map fun b => [.barrier b.buffer.handle t.byteSize source target]

/-- A recording is refused and leaves the gateway alone, or puts down all of its commands. -/
theorem record_eq (t : Tensor) (g : Gateway) (traced : Bool) (commandBuffer : Handle)
    (r : Recording) : t.record g traced commandBuffer r =
      match t.wording r with
      | .error e => (.error e, g)
      | .ok cs => (.ok (), g.enterAll traced commandBuffer cs) := by
  cases r with
  | copyOf source =>
    simp only [record, recordCopyOf, Parts.recordCopyOf, wording, copyPlan]
    cases t.parts.copyPlan source.parts <;> rfl
  | upload scope =>
    simp only [record, recordUpload, Parts.recordUpload, wording, stagedBuffers]
    cases t.parts.stagedBuffers "record_copy_from_staging_to_device" <;> rfl
  | download scope =>
    simp only [record, recordDownload, Parts.recordDownload, wording, stagedBuffers]
    cases t.parts.stagedBuffers "record_copy_from_device_to_staging" <;> rfl
  | primaryBarrier source target =>
    simp only [record, recordPrimaryBarrier, Parts.recordPrimaryBarrier, wording, primaryTarget]
    cases t.parts.primaryTarget <;> rfl
  | stagingBarrier source target =>
    simp only [record, recordStagingBarrier, Parts.recordStagingBarrier, wording, stagingTarget]
    cases t.parts.stagingTarget <;> rfl

/-- What a recording stands for: commands between the buffers that the tensors have. -/
def expansion (t : Tensor) : Recording → List Command
  | .copyOf source =>
    match source.primary?, t.primary? with
    | some origin, some target =>
      [.wholeCopy origin.buffer.handle target.buffer.handle (min source.byteSize t.byteSize)]
    | _, _ => []
  | .upload scope =>
    match t.staging?, t.primary? with
    | some staging, some primary =>
      [.wholeCopy staging.buffer.handle primary.buffer.handle t.byteSize,
        .wholeBarrier primary.buffer.handle t.byteSize .transferWrite scope]
    | _, _ => []
  | .download scope =>
    match t.staging?, t.primary? with
    | some staging, some primary =>
      [.wholeBarrier primary.buffer.handle t.byteSize scope .transferRead,
        .wholeCopy primary.buffer.handle staging.buffer.handle t.byteSize]
    | _, _ => []
  | .primaryBarrier source target =>
    match t.primary? with
    | some primary => [.wholeBarrier primary.buffer.handle t.byteSize source target]
    | none => []
  | .stagingBarrier source target =>
    match t.staging? with
    | some staging => [.wholeBarrier staging.buffer.handle t.byteSize source target]
    | none => []

variable {t : Tensor}

theorem map_ok {ε α β : Type} {x : Except ε α} {f : α → β} {b : β} (h : x.map f = .ok b) :
    ∃ a, x = .ok a ∧ f a = b := by
  cases x with
  | error e => cases h
  | ok a => exact ⟨a, rfl, Except.ok.inj h⟩

theorem primaryTarget_ok {b : BackedBuffer} (h : t.primaryTarget = .ok b) :
    t.primary = .ok b := by
  simp only [primaryTarget, Parts.primaryTarget, bind, Except.bind] at h
  split at h
  · cases h
  · exact h

/-- The commands of a recording that is not refused. -/
theorem wording_ok {r : Recording} {cs : List WholeCommand} (h : t.wording r = .ok cs) :
    cs.map WholeCommand.command = t.expansion r := by
  cases r with
  | copyOf source =>
    obtain ⟨⟨origin, target, size⟩, hp, rfl⟩ := map_ok h
    obtain ⟨r, r', hr, hr', rfl, rfl, rfl, -⟩ := copyPlan_ok hp
    simp [expansion, primary?, resources?, hr, hr', WholeCommand.command]
  | upload scope =>
    obtain ⟨⟨staging, primary⟩, hb, rfl⟩ := map_ok h
    obtain ⟨-, r, b, hr, hs, rfl, rfl⟩ := stagedBuffers_eq_ok.mp hb
    simp [expansion, primary?, staging?, resources?, hr, hs, WholeCommand.command]
  | download scope =>
    obtain ⟨⟨staging, primary⟩, hb, rfl⟩ := map_ok h
    obtain ⟨-, r, b, hr, hs, rfl, rfl⟩ := stagedBuffers_eq_ok.mp hb
    simp [expansion, primary?, staging?, resources?, hr, hs, WholeCommand.command]
  | primaryBarrier source target =>
    obtain ⟨b, hb, rfl⟩ := map_ok h
    obtain ⟨r, hr, rfl⟩ := primary_ok (primaryTarget_ok hb)
    simp [expansion, primary?, resources?, hr, WholeCommand.command]
  | stagingBarrier source target =>
    obtain ⟨b, hb, rfl⟩ := map_ok h
    obtain ⟨-, r, hr, hs⟩ := staging_ok (t.stagingTarget_eq ▸ hb)
    simp [expansion, staging?, resources?, hr, hs, WholeCommand.command]

end Tensor

end TensorMemory
