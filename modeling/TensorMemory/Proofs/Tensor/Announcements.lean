import TensorMemory.Proofs.Tensor.Recording

/-!
What tensor code announces as metric events. Resources are announced as they come in, with the number
of handles that the tensor has to free; handles that a tensor frees are announced as it is destroyed.
A rebuild announces what it takes in and is silent about what it frees (`rebuild_booked`), so after
it the announcements no longer add up to what the tensor owns.
-/

namespace TensorMemory

namespace MetricEvent

/-- Handles that the event announces as owned. -/
def announced : MetricEvent → Nat
  | allocated _ _ _ _ _ owned => owned.toNat
  | _ => 0

/-- Handles that the event announces as freed. -/
def freed : MetricEvent → Nat
  | released _ _ freed _ => freed.toNat
  | _ => 0

def announcedIn (ms : List MetricEvent) : Nat := (ms.map announced).sum

def freedIn (ms : List MetricEvent) : Nat := (ms.map freed).sum

theorem announcedIn_append (ms ms' : List MetricEvent) :
    announcedIn (ms ++ ms') = announcedIn ms + announcedIn ms' := by simp [announcedIn]

theorem freedIn_append (ms ms' : List MetricEvent) :
    freedIn (ms ++ ms') = freedIn ms + freedIn ms' := by simp [freedIn]

end MetricEvent

open MetricEvent (announcedIn freedIn announcedIn_append freedIn_append)

/-! ## Owned handles -/

theorem BackedBuffer.length_assets (b : BackedBuffer) : b.assets.length = b.ownedCount := by
  unfold assets ownedCount HeldHandle.ownedCount
  cases b.buffer.isOwned <;> cases b.memory.isOwned <;> rfl

theorem BackedBuffer.ownedCount_le (b : BackedBuffer) : b.ownedCount ≤ 2 := by
  unfold ownedCount HeldHandle.ownedCount
  cases b.buffer.isOwned <;> cases b.memory.isOwned <;> decide

theorem Backing.length_assets (b : Backing) : b.assets.length = b.ownedCount := by
  unfold assets buffers ownedCount
  cases b.staging with
  | none => simp [BackedBuffer.length_assets]
  | some s => simp [BackedBuffer.length_assets]

theorem Backing.ownedCount_le (b : Backing) : b.ownedCount ≤ 4 := by
  have hp := b.primary.ownedCount_le
  unfold ownedCount
  cases b.staging with
  | none => exact Nat.le_trans hp (by decide)
  | some s =>
    have hs := s.ownedCount_le
    simp only [Option.map_some, Option.getD_some]
    omega

/-- The count that is announced is short enough to be told exactly. -/
theorem Backing.toNat_ownedCount (b : Backing) : (UInt32.ofNat b.ownedCount).toNat = b.ownedCount :=
  UInt32.toNat_ofNat_of_lt' (Nat.lt_of_le_of_lt b.ownedCount_le (by decide))

theorem announced_allocatedEvent (kind : Placement) (dtype : ElementType) (size : Nat)
    (b : Backing) : announcedIn [allocatedEvent kind dtype size b] = b.assets.length := by
  rw [b.length_assets]
  exact b.toNat_ownedCount

theorem Backing.freed_tally (b : Backing) : b.tally.freed = b.assets.length := by
  rw [b.length_assets]
  unfold tally ownedCount
  cases b.staging <;> rfl

/-- Whatever a tensor holds, there is something to tell when it is released. -/
theorem Backing.total_tally_pos (b : Backing) : 0 < b.tally.total := by
  have hp := b.primary.ownedCount_le
  unfold tally
  show 0 < b.primary.ownedCount + _ + (2 - b.primary.ownedCount + _)
  omega

/-! ## Releasing -/

theorem BackedBuffer.release_passage (b : BackedBuffer) (g : Gateway) :
    ∃ cs, Gateway.Passage g (b.release g) cs [] := by
  unfold release
  dsimp only
  cases b.buffer.isOwned <;> cases b.memory.isOwned
  · exact ⟨_, .refl g⟩
  · exact ⟨_, Gateway.freeMemory_passage g _⟩
  · exact ⟨_, Gateway.destroyBuffer_passage g _⟩
  · exact ⟨_, (Gateway.destroyBuffer_passage g _).trans (Gateway.freeMemory_passage _ _)⟩

theorem Backing.release_passage (b : Backing) (g : Gateway) :
    ∃ cs, Gateway.Passage g (b.release g) cs [] := by
  obtain ⟨cs, hp⟩ := b.primary.release_passage g
  unfold release
  cases b.staging with
  | none => exact ⟨cs, hp⟩
  | some s =>
    obtain ⟨cs', hs⟩ := s.release_passage (b.primary.release g)
    exact ⟨_, hp.trans hs⟩

theorem Resources.release_passage (r : Resources) (kind : Placement) (g : Gateway) :
    ∃ cs, Gateway.Passage g (r.release kind g) cs [] := by
  unfold release
  split
  · obtain ⟨cs, hp⟩ := r.backing.release_passage (g.unmap _)
    exact ⟨_, (Gateway.unmap_passage g _).trans hp⟩
  · exact r.backing.release_passage g

/-! ## The books of one tensor -/

/-- Between two gateways, what was announced and what was owned before make up for what was announced
as freed, what is owned after, and what went missing. -/
def Booked (g g' : Gateway) (before after missing : Nat) : Prop :=
  ∃ ms, metricEvents g'.notices = metricEvents g.notices ++ ms ∧
    before + announcedIn ms = freedIn ms + after + missing

namespace Booked

variable {g g' g'' : Gateway} {n a b c m m' : Nat}

/-- Events that count no handles leave the books alone. -/
theorem of_metrics {ms : List MetricEvent}
    (h : metricEvents g'.notices = metricEvents g.notices ++ ms) (ha : announcedIn ms = 0)
    (hf : freedIn ms = 0) : Booked g g' n n 0 := ⟨ms, h, by omega⟩

theorem refl (g : Gateway) (n : Nat) : Booked g g n n 0 :=
  of_metrics (List.append_nil _).symm rfl rfl

theorem trans (h : Booked g g' a b m) (h' : Booked g' g'' b c m') :
    Booked g g'' a c (m + m') := by
  obtain ⟨ms, hm, he⟩ := h
  obtain ⟨ms', hm', he'⟩ := h'
  refine ⟨ms ++ ms', by rw [hm', hm, List.append_assoc], ?_⟩
  rw [announcedIn_append, freedIn_append]
  omega

end Booked

namespace Gateway

/-- Traced commands are announced, and no handles with them. -/
theorem announceCommand_booked (g : Gateway) (traced : Bool) (command : String)
    (commandBuffer : Handle) (bytes n : Nat) :
    Booked g (g.announceCommand traced command commandBuffer bytes) n n 0 := by
  unfold announceCommand
  split
  · exact .of_metrics ((Passage.tell g _).trans (.tell _ _)).metrics rfl rfl
  · exact .refl g n

theorem enterAll_booked (g : Gateway) (traced : Bool) (commandBuffer : Handle)
    (cs : List WholeCommand) (n : Nat) : Booked g (g.enterAll traced commandBuffer cs) n n 0 := by
  induction cs generalizing g with
  | nil => exact .refl g n
  | cons c cs ih =>
    refine Booked.trans ?_ (ih (g.enter traced commandBuffer c))
    cases c with
    | copy source target size =>
      exact (Booked.of_metrics (addCopy_passage g ..).metrics rfl rfl).trans
        (announceCommand_booked ..)
    | barrier buffer size source target =>
      exact (Booked.of_metrics (addBarrier_passage g ..).metrics rfl rfl).trans
        (announceCommand_booked ..)

end Gateway

namespace Tensor

theorem record_booked (t : Tensor) (g : Gateway) (traced : Bool) (commandBuffer : Handle)
    (r : Recording) (n : Nat) : Booked g (t.record g traced commandBuffer r).2 n n 0 := by
  rw [record_eq]
  cases t.wording r with
  | error e => exact .refl g n
  | ok cs => exact g.enterAll_booked traced commandBuffer cs n

theorem releaseHoldings_passage (t : Tensor) (g : Gateway) :
    ∃ cs, Gateway.Passage g (t.releaseHoldings g) cs [] := by
  unfold releaseHoldings
  split
  · exact Resources.release_passage _ _ g
  · exact ⟨_, .refl g⟩

/-- The owned handles that a rebuild gives back on its way, if it is not refused before. -/
def forgone (t : Tensor) (data : Block) (size elementSize : Nat) : Nat :=
  if t.isAttached && (checkLayout t.dtype (some data.size) size elementSize).isOk then
    t.assets.length
  else 0

theorem rebuild_booked {g : Gateway} (hg : g.device.Numbered) (t : Tensor) (data : Block)
    (size elementSize : Nat) :
    Booked g (t.rebuild g data size elementSize).2.2 t.assets.length
      (t.rebuild g data size elementSize).2.1.assets.length (t.forgone data size elementSize) := by
  unfold forgone
  rcases t.rebuild_cases g data size elementSize with
    ⟨e, hr, he⟩ | ⟨notice, r, g', hquiet, ha, hl, hf, he⟩
  · have hnone : (t.isAttached && (checkLayout t.dtype (some data.size) size elementSize).isOk) =
        false := by
      rcases hr with ha | ⟨e', hl⟩
      · rw [ha, Bool.false_and]
      · rw [hl]
        exact Bool.and_false _
    rw [he, hnone]
    exact .refl g _
  obtain ⟨-, h0, hlt, -⟩ := checkLayout_ok hl
  obtain ⟨cs, hp⟩ := t.releaseHoldings_passage g
  have hp := hp.trans (.tell _ notice)
  rw [hquiet] at hp
  obtain ⟨cs', hs⟩ := Gateway.furnish_spec (hp.numbered hg) h0 hlt hf
  rw [he, ha, hl]
  cases r with
  | error e =>
    refine ⟨_, (hp.trans hs.passage).metrics, ?_⟩
    have hempty : (t.rebuilt size (.error e)).assets = [] := rfl
    simp [announcedIn, freedIn, hempty, Except.isOk, Except.toBool]
  | ok resources =>
    obtain ⟨ps, qs, hs⟩ := hs
    refine ⟨_, (hp.trans hs.passage).metrics, ?_⟩
    have hassets : (t.rebuilt size (.ok resources)).assets = resources.backing.assets := rfl
    simp only [Option.toList_none, List.nil_append, announced_allocatedEvent, hassets]
    simp [freedIn, MetricEvent.freed, allocatedEvent, Except.isOk, Except.toBool, Nat.add_comm]

/-- A destroyed tensor has told all that it freed. -/
theorem destroy_booked (t : Tensor) (g : Gateway) :
    Booked g (t.destroy g).2 t.assets.length 0 0 := by
  unfold destroy Gateway.announceTeardown
  split
  · next h =>
    have hnone := resources?_of_detached (isAttached_eq_false.mp (by simpa using h))
    refine ⟨[], (Gateway.Passage.tell g _).metrics, ?_⟩
    simp [assets, hnone, announcedIn, freedIn]
  obtain ⟨cs, hp⟩ := t.releaseHoldings_passage g
  dsimp only
  cases hr : t.resources? with
  | none =>
    have hzero : t.releaseTally.total = 0 := by
      simp [releaseTally, hr, ReleaseTally.total, ReleaseTally.zero]
    rw [hzero, if_neg (Nat.lt_irrefl 0)]
    exact ⟨[], hp.metrics, by simp [assets, hr, announcedIn, freedIn]⟩
  | some r =>
    have htally : t.releaseTally = r.backing.tally := by simp [releaseTally, hr]
    have hassets : t.assets = r.backing.assets := by simp [assets, hr]
    rw [htally, if_pos r.backing.total_tally_pos, hassets]
    refine ⟨_, ((hp.trans (.tell _ _)).trans (.tell _ _)).metrics, ?_⟩
    have htold : (UInt32.ofNat r.backing.tally.freed).toNat = r.backing.assets.length := by
      rw [r.backing.freed_tally, r.backing.length_assets]
      exact r.backing.toNat_ownedCount
    simp [announcedIn, freedIn, MetricEvent.announced, MetricEvent.freed, Notice.metric?,
      Notice.debug, htold]

end Tensor

theorem TensorPlan.build_booked {g g' : Gateway} {plan : TensorPlan}
    {r : Except TensorError Tensor} (hg : g.device.Numbered) (h : plan.build g = (r, g')) :
    Booked g g' 0 ((r.toOption.map fun t => t.assets.length).getD 0) 0 := by
  obtain ⟨cs, hs⟩ := build_spec hg h
  cases r with
  | error e => exact ⟨[], hs.passage.metrics, rfl⟩
  | ok t =>
    obtain ⟨n, resources, ps, qs, rfl, -, -, -, hf⟩ := hs
    refine ⟨_, hf.passage.metrics, ?_⟩
    have hassets : (⟨plan.kind, plan.dtype, n, .live resources⟩ : Tensor).assets =
        resources.backing.assets := rfl
    rw [announced_allocatedEvent]
    simp [freedIn, MetricEvent.freed, allocatedEvent, Except.toOption, hassets]

end TensorMemory
