import TensorMemory.Proofs.Tensor.Contents
import TensorMemory.Proofs.Tensor.Reporting
import TensorMemory.Proofs.Tensor.Stages

/-!
The figures in what a tensor announces, against what was done. They are computed from the ownership
of its handles and from what its placement needs; here they are counted over the calls that were
made and the handles that the device lost.
-/

namespace TensorMemory

open Gateway (Tells)

def Asset.memory? : Asset → Option Handle
  | buffer _ => none
  | memory handle => some handle

/-- Memory for this side is asked for as host-visible. -/
def Placement.requestsVisible (kind : Placement) (σ : Side) : Bool :=
  (kind.need? σ).any (·.memoryFlags.contains MemoryFlags.hostVisible)

/-! ## Owned memories -/

namespace Backing

variable {b : Backing}

/-- The memories that are owned, each with its side. -/
def ownMemories (b : Backing) : List (Side × Handle) :=
  [Side.device, .host].filterMap fun σ =>
    ((b.side σ).filter (·.memory.isOwned)).map fun x => (σ, x.memory.handle)

theorem length_ownMemories_le (b : Backing) : b.ownMemories.length ≤ 2 :=
  List.length_filterMap_le ..

theorem filterMap_memory_assets (b : Backing) :
    b.assets.filterMap Asset.memory? = b.ownMemories.map Prod.snd := by
  have hone (x : BackedBuffer) : x.assets.filterMap Asset.memory? =
      if x.memory.isOwned then [x.memory.handle] else [] := by
    unfold BackedBuffer.assets
    cases x.buffer.isOwned <;> cases x.memory.isOwned <;> rfl
  obtain ⟨x, staging⟩ := b
  cases staging with
  | none => cases hx : x.memory.isOwned <;> simp [assets, buffers, ownMemories, side, hone, hx]
  | some y =>
    cases hx : x.memory.isOwned <;> cases hy : y.memory.isOwned <;>
      simp [assets, buffers, ownMemories, side, hone, hx, hy]

/-- Owned bytes are counted memory by memory. -/
theorem ownedBytes_eq {kind : Placement} (h : b.staging.isSome = kind.needs.staging.isSome)
    (visible : Bool) (n : Nat) : b.ownedBytes kind visible n =
      n * b.ownMemories.countP fun m => kind.requestsVisible m.1 == visible := by
  obtain ⟨x, staging⟩ := b
  cases staging with
  | none =>
    cases hn : kind.needs.staging with
    | some need => simp [hn] at h
    | none =>
      cases hx : x.memory.isOwned <;>
        simp [ownedBytes, ownMemories, side, Placement.requestsVisible, Placement.need?, hn, hx,
          List.countP_cons]
  | some y =>
    cases hn : kind.needs.staging with
    | none => simp [hn] at h
    | some need =>
      cases hx : x.memory.isOwned <;> cases hy : y.memory.isOwned <;>
        simp [ownedBytes, ownMemories, side, Placement.requestsVisible, Placement.need?, hn, hx,
          hy, List.countP_cons, Nat.mul_add, Nat.add_comm]

/-- What is announced for an owned memory is short enough to be told exactly. -/
theorem toNat_ownedBytes {kind : Placement} (h : b.staging.isSome = kind.needs.staging.isSome)
    (visible : Bool) {n : Nat} (hn : n < sizeLimit) :
    (UInt64.ofNat (b.ownedBytes kind visible n)).toNat = b.ownedBytes kind visible n := by
  refine UInt64.toNat_ofNat_of_lt' ?_
  have hcount : (b.ownMemories.countP fun m => kind.requestsVisible m.1 == visible) ≤ 2 :=
    Nat.le_trans List.countP_le_length b.length_ownMemories_le
  calc b.ownedBytes kind visible n
      _ = n * _ := b.ownedBytes_eq h visible n
      _ ≤ n * 2 := Nat.mul_le_mul_left n hcount
      _ ≤ sizeLimit * 2 := Nat.mul_le_mul_right 2 (Nat.le_of_lt hn)
      _ < UInt64.size := by decide

theorem retained_tally (b : Backing) : b.tally.retained = b.loans.length := by
  have hone (x : BackedBuffer) : 2 - x.ownedCount = x.loans.length := by
    unfold BackedBuffer.ownedCount HeldHandle.ownedCount BackedBuffer.loans
    cases x.buffer.isOwned <;> cases x.memory.isOwned <;> rfl
  obtain ⟨x, staging⟩ := b
  cases staging with
  | none => simp [tally, loans, buffers, ← hone]; rfl
  | some y => simp [tally, loans, buffers, ← hone]; rfl

/-- Of each buffer and its memory, both are freed or retained. -/
theorem total_tally (b : Backing) : b.tally.total = if b.staging.isSome then 4 else 2 := by
  have hone (x : BackedBuffer) : x.ownedCount + (2 - x.ownedCount) = 2 :=
    Nat.add_sub_cancel' x.ownedCount_le
  obtain ⟨x, staging⟩ := b
  cases staging with
  | none => exact hone x
  | some y =>
    show x.ownedCount + y.ownedCount + (2 - x.ownedCount + (2 - y.ownedCount)) = 4
    have hx := hone x
    have hy := hone y
    omega

theorem toNat_retained (b : Backing) :
    (UInt32.ofNat b.tally.retained).toNat = b.tally.retained := by
  have hle : b.tally.retained ≤ b.tally.total := Nat.le_add_left ..
  refine UInt32.toNat_ofNat_of_lt' (Nat.lt_of_le_of_lt hle ?_)
  rw [b.total_tally]
  split <;> decide

end Backing

theorem Resources.Complete.staging_needs {r : Resources} {kind : Placement} (h : r.Complete kind) :
    r.backing.staging.isSome = kind.needs.staging.isSome := by
  rw [Bool.eq_iff_iff, h.staging]
  cases kind <;> decide

/-! ## What is announced -/

namespace Tensor

/-- The memories that a tensor owns, each with its side. -/
def ownMemories (t : Tensor) : List (Side × Handle) :=
  (t.resources?.map (·.backing.ownMemories)).getD []

/-- These assets were made for the tensor, and that was announced, once, with figures that are
right: the handles that were made, and the bytes of the memories among them on either side of what
their placement asks for. -/
structure Announced (t : Tensor) (g g' : Gateway) (made : List Asset) (elements : UInt32)
    (deviceLocal hostVisible : UInt64) (owned : UInt32) : Prop where
  tells : Tells g g' made
    [.allocated t.kind.name t.dtype.name elements deviceLocal hostVisible owned]
  size : elements.toNat = t.size
  handles : owned.toNat = made.length
  total : deviceLocal.toNat + hostVisible.toNat =
    t.byteSize * (made.filterMap Asset.memory?).length
  memories : made.filterMap Asset.memory? = t.ownMemories.map Prod.snd
  visible : hostVisible.toNat =
    t.byteSize * t.ownMemories.countP fun m => t.kind.requestsVisible m.1
  hidden : deviceLocal.toNat =
    t.byteSize * t.ownMemories.countP fun m => !t.kind.requestsVisible m.1

/-- The tensor was given up, and that was announced, once, with figures that are right: the handles
that the device lost, and those that the tensor had on loan. -/
structure Dismissed (t : Tensor) (g g' : Gateway) (freed retained : UInt32) : Prop where
  tells : Tells g g' [] [.released t.kind.name t.dtype.name freed retained]
  lost : freed.toNat = (g.device.assets.filter fun a => a ∉ g'.device.assets).length
  lent : retained.toNat = t.loans.length
  total : freed.toNat + retained.toNat = if t.kind = .device then 4 else 2

/-! ## Construction -/

section Construction

variable {t : Tensor} {g g' : Gateway} {r : Resources}

theorem announced_of_tells (ht : t.residence = .live r) (hlt : t.byteSize < sizeLimit)
    (hc : r.Complete t.kind)
    (h : Tells g g' r.backing.assets [allocatedEvent t.kind t.dtype t.size r.backing]) :
    ∃ made elements deviceLocal hostVisible owned,
      t.Announced g g' made elements deviceLocal hostVisible owned := by
  have hs := hc.staging_needs
  have hown : t.ownMemories = r.backing.ownMemories := by
    simp [ownMemories, resources?_eq_some.mpr ht]
  have hmemories : r.backing.assets.filterMap Asset.memory? = t.ownMemories.map Prod.snd :=
    hown ▸ r.backing.filterMap_memory_assets
  have hbytes (visible : Bool) : (UInt64.ofNat (r.backing.ownedBytes t.kind visible
      t.byteSize)).toNat =
      t.byteSize * t.ownMemories.countP fun m => t.kind.requestsVisible m.1 == visible := by
    rw [Backing.toNat_ownedBytes hs visible hlt, Backing.ownedBytes_eq hs, hown]
  have hvisible := hbytes true
  have hhidden := hbytes false
  simp only [beq_true, beq_false] at hvisible hhidden
  refine ⟨_, _, _, _, _, h, ?_, ?_, ?_, hmemories, hvisible, hhidden⟩
  · refine UInt32.toNat_ofNat_of_lt' (Nat.lt_of_le_of_lt ?_ hlt)
    exact Nat.le_mul_of_pos_right _ t.dtype.width_pos
  · rw [r.backing.toNat_ownedCount, r.backing.length_assets]
  · refine (congrArg₂ (· + ·) hhidden hvisible).trans ?_
    rw [hmemories, List.length_map, ← Nat.mul_add, Nat.add_comm,
      t.ownMemories.length_eq_countP_add_countP fun m => t.kind.requestsVisible m.1]
    simp

end Construction

end Tensor

/-- What is made is announced if it is a tensor, and nothing is if it is an error. -/
def Gateway.Reports (g g' : Gateway) : Except TensorError Tensor → Prop
  | .ok t => ∃ made elements deviceLocal hostVisible owned,
      t.Announced g g' made elements deviceLocal hostVisible owned
  | .error _ => ∃ made, Tells g g' made []

open Gateway (Reports)

theorem TensorPlan.build_reports (plan : TensorPlan) (g : Gateway) :
    Reports g (plan.build g).2 (plan.build g).1 := by
  unfold build
  split
  · exact ⟨_, .refl g⟩
  next size byteSize hl =>
  obtain ⟨rfl, -, hlt, -⟩ := layout_ok hl
  cases hf : g.furnish plan.kind plan.dtype size plan.data plan.primary plan.staging with
  | mk r g₁ =>
  have h₁ := Gateway.furnish_tells hf
  cases r with
  | error e => exact h₁
  | ok resources =>
    exact Tensor.announced_of_tells (t := ⟨plan.kind, plan.dtype, size, .live resources⟩) rfl hlt
      (Gateway.furnish_complete hf) (h₁.debug (by decide) _ _)

namespace Tensor

theorem ofElements_reports (g : Gateway) {dtype : ElementType} (xs : List (Element dtype))
    (kind : Placement) : Reports g (ofElements g xs kind).2 (ofElements g xs kind).1 := by
  unfold ofElements
  split
  · exact TensorPlan.build_reports _ g
  · exact ⟨_, .refl g⟩

/-- What a rebuild gives back on its way is not announced. -/
theorem rebuild_reports (t : Tensor) (g : Gateway) (data : Block) (size elementSize : Nat) :
    Reports g (t.rebuild g data size elementSize).2.2
      ((t.rebuild g data size elementSize).1.map fun _ =>
        (t.rebuild g data size elementSize).2.1) := by
  unfold rebuild
  split
  · exact ⟨_, .refl g⟩
  split
  · exact ⟨_, .refl g⟩
  next n hl =>
  obtain ⟨rfl, -, hlt, -⟩ := checkLayout_ok hl
  have h₀ := (t.releaseHoldings_tells g).debug (show "vulkanic::tensor" ≠ _ by decide)
    "rebuilding tensor" [("kind", .plain t.kind.name), ("freed", .nat t.releaseTally.freed),
      ("new_size", .nat size)]
  dsimp only
  split
  · next e g' hf =>
    obtain ⟨made, h₁⟩ := Gateway.furnish_tells hf
    exact ⟨_, h₀.trans h₁⟩
  · next resources g' hf =>
    exact announced_of_tells (t := { t with size, residence := .live resources }) rfl hlt
      (Gateway.furnish_complete hf) (h₀.trans (Gateway.furnish_tells hf))

theorem rebuildElements_reports (t : Tensor) (g : Gateway) {dtype : ElementType}
    (xs : List (Element dtype)) :
    Reports g (t.rebuildElements g xs).2.2
      ((t.rebuildElements g xs).1.map fun _ => (t.rebuildElements g xs).2.1) := by
  unfold rebuildElements
  split
  · exact t.rebuild_reports ..
  · exact ⟨_, .refl g⟩

/-! ## Destruction -/

/-- A tensor that holds something tells what it gives up; any other has nothing to tell. -/
theorem destroy_tells (t : Tensor) (g : Gateway) :
    Tells g (t.destroy g).2 [] (t.resources?.map fun r => .released t.kind.name t.dtype.name
      (.ofNat r.backing.tally.freed) (.ofNat r.backing.tally.retained)).toList := by
  have hreleased := t.releaseHoldings_tells g
  unfold destroy Gateway.announceTeardown
  split
  · next h =>
    rw [resources?_of_detached (isAttached_eq_false.mp (by simpa using h))]
    exact (Tells.refl g).debug (by decide) _ _
  dsimp only
  cases hr : t.resources? with
  | none =>
    have hzero : t.releaseTally.total = 0 := by
      simp [releaseTally, hr, ReleaseTally.total, ReleaseTally.zero]
    rw [hzero, if_neg (Nat.lt_irrefl 0)]
    exact hreleased
  | some r =>
    have htally : t.releaseTally = r.backing.tally := by simp [releaseTally, hr]
    rw [htally, if_pos r.backing.total_tally_pos]
    exact (hreleased.debug (by decide) _ _).metric _

theorem destroy_dismissed {t : Tensor} {g : Gateway} {r : Resources} (hg : g.device.Numbered)
    (ht : t.residence = .live r) (hc : r.Complete t.kind)
    (hlive : ∀ a ∈ t.assets, a ∈ g.device.assets) (hn : t.assets.Nodup) :
    ∃ freed retained, t.Dismissed g (t.destroy g).2 freed retained := by
  have htells := t.destroy_tells g
  rw [resources?_eq_some.mpr ht] at htells
  have hfreed : (UInt32.ofNat r.backing.tally.freed).toNat = t.assets.length := by
    rw [r.backing.freed_tally, assets_of_live ht, r.backing.length_assets]
    exact r.backing.toNat_ownedCount
  have htotal := r.backing.total_tally
  have hretained := r.backing.toNat_retained
  obtain ⟨cs, hx⟩ := t.destroy_exchange hg
  refine ⟨_, _, htells, ?_, ?_, ?_⟩
  · rw [hfreed]
    refine List.Perm.length_eq ((List.perm_ext_iff_of_nodup hn ?_).mpr fun a => ?_)
    · exact (Device.nodup_assets _).filter _
    · rw [List.mem_filter, decide_eq_true_eq, hx.live]
      constructor
      · exact fun ha => ⟨hlive a ha, fun h => h.elim (fun h => h.2 ha) List.not_mem_nil⟩
      · exact fun h => by_contra fun ha => h.2 (.inl ⟨h.1, ha⟩)
  · rw [hretained, r.backing.retained_tally, loans_of_live ht]
  · rw [hfreed, hretained, assets_of_live ht, ← r.backing.freed_tally, ← ReleaseTally.total, htotal]
    simp only [hc.staging]

end Tensor
end TensorMemory
