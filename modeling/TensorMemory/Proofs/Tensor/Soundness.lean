import TensorMemory.Proofs.Tensor.Exchange

/-!
Sound holdings: what a tensor owns is on the device the way it was put there. An owned buffer is
bound to the owned memory, and no other buffer is; the host's side is mapped. Holdings that are
sound are released without a violation (`Resources.release_quiet`), a successful construction ends
in sound ones, and they stay sound while nobody takes them (`Frame`).
-/

namespace TensorMemory

open Device (Unchanged Frame Fresh)

/-- Of a borrowed buffer nothing is known. -/
structure BackedBuffer.Sound (b : BackedBuffer) (size : Nat) (usage : Mask) (d : Device) :
    Prop where
  together : b.memory.isOwned = b.buffer.isOwned
  known : b.buffer.isOwned = true → b.usage = some usage
  bound : b.buffer.isOwned = true →
    d.buffers.get? b.buffer.handle = some ⟨size, usage, some ⟨b.memory.handle, 0⟩⟩
  backed : b.buffer.isOwned = true →
    ∃ m, d.memories.get? b.memory.handle = some m ∧ size ≤ m.contents.size
  sole : b.buffer.isOwned = true → ∀ i x p, d.buffers.get? i = some x → x.binding = some p →
    p.memory = b.memory.handle → i = b.buffer.handle

namespace BackedBuffer

variable {b : BackedBuffer} {size : Nat} {usage : Mask} {d d' : Device}

theorem assets_owned (ht : b.memory.isOwned = b.buffer.isOwned) (ho : b.buffer.isOwned = true) :
    b.assets = [.buffer b.buffer.handle, .memory b.memory.handle] := by
  rw [assets, ht, ho]
  rfl

theorem assets_borrowed (ht : b.memory.isOwned = b.buffer.isOwned)
    (ho : b.buffer.isOwned = false) : b.assets = [] := by
  rw [assets, ht, ho]
  rfl

namespace Sound

theorem live (h : b.Sound size usage d) : ∀ a ∈ b.assets, a ∈ d.assets := by
  cases ho : b.buffer.isOwned with
  | false =>
    rw [assets_borrowed h.together ho]
    exact fun a ha => by cases ha
  | true =>
    obtain ⟨m, hm, -⟩ := h.backed ho
    rw [assets_owned h.together ho]
    intro a ha
    rcases List.mem_pair.mp ha with rfl | rfl
    · exact Device.buffer_mem_assets.mpr ⟨_, h.bound ho⟩
    · exact Device.memory_mem_assets.mpr ⟨m, hm⟩

/-- A change that the buffers do not see, and that keeps the memories as large as they are. -/
theorem of_buffers (h : b.Sound size usage d) (hb : d'.buffers = d.buffers)
    (hm : ∀ {i m}, d.memories.get? i = some m →
      ∃ m', d'.memories.get? i = some m' ∧ m'.contents.size = m.contents.size) :
    b.Sound size usage d' where
  together := h.together
  known := h.known
  bound ho := hb ▸ h.bound ho
  backed ho := by
    obtain ⟨m, hg, hs⟩ := h.backed ho
    obtain ⟨m', hg', hs'⟩ := hm hg
    exact ⟨m', hg', Nat.le_trans hs (Nat.le_of_eq hs'.symm)⟩
  sole ho := hb ▸ h.sole ho

/-- What is not taken stays sound. -/
theorem frame {taken released : List Asset} (h : b.Sound size usage d) (hd : d.Numbered)
    (hf : Frame d d' taken released) (hn : ∀ a ∈ b.assets, a ∉ taken) :
    b.Sound size usage d' where
  together := h.together
  known := h.known
  bound ho := by
    have ha := assets_owned h.together ho
    rw [hf.buffers _ (hd.buffers (h.bound ho)).2 (hn _ (ha ▸ List.mem_cons_self ..))]
    exact h.bound ho
  backed ho := by
    have ha := assets_owned h.together ho
    obtain ⟨m, hm, hs⟩ := h.backed ho
    have hshape := hf.memories _ (hd.memories hm).2
      (hn _ (ha ▸ List.mem_cons_of_mem _ (List.mem_cons_self ..)))
    rw [hm, Option.map_some] at hshape
    obtain ⟨m', hm', he⟩ := Option.map_eq_some_iff.mp hshape
    exact ⟨m', hm', Nat.le_trans hs (Nat.le_of_eq (congrArg Prod.fst he).symm)⟩
  sole ho := by
    have ha := assets_owned h.together ho
    obtain ⟨m, hm, -⟩ := h.backed ho
    intro i x p hi hp he
    rw [← he] at hm ha
    obtain ⟨x', hi', hp'⟩ := hf.bindings hi hp (hd.memories hm).2
      (hn _ (ha ▸ List.mem_cons_of_mem _ (List.mem_cons_self ..)))
    exact h.sole ho i x' p hi' hp' he

end Sound

/-- A sound buffer leaves together with its memory. -/
theorem release_owned {g : Gateway} (h : b.Sound size usage g.device) (hg : g.device.Numbered)
    (ho : b.buffer.isOwned = true) : (b.release g).device =
      { g.device with
        buffers := g.device.buffers.erase b.buffer.handle
        memories := g.device.memories.erase b.memory.handle
        buffersDestroyed := g.device.buffersDestroyed + 1
        memoriesFreed := g.device.memoriesFreed + 1 } := by
  obtain ⟨m, hm, -⟩ := h.backed ho
  rw [release, if_pos ho, h.together, if_pos ho]
  exact Device.release_of_sole (h.bound ho) (hg.buffers (h.bound ho)).1 hm (hg.memories hm).1
    (h.sole ho)

theorem release_borrowed {g : Gateway} (h : b.Sound size usage g.device)
    (ho : b.buffer.isOwned = false) : b.release g = g := by
  rw [release, h.together, ho]
  rfl

theorem release_quiet {g : Gateway} (h : b.Sound size usage g.device) (hg : g.device.Numbered) :
    (b.release g).device.violations = g.device.violations := by
  cases ho : b.buffer.isOwned with
  | false => rw [release_borrowed h ho]
  | true => rw [release_owned h hg ho]

end BackedBuffer

/-! ## All that a tensor holds -/

/-- `shift` is what the gateway adds to the offset of a mapping. -/
structure Resources.Sound (r : Resources) (kind : Placement) (size shift : Nat) (d : Device) :
    Prop where
  primary : r.backing.primary.Sound size kind.needs.primary.usage d
  staging : match kind.needs.staging with
    | some need => ∃ s, r.backing.staging = some s ∧ s.Sound size need.usage d
    | none => r.backing.staging = none
  mapping : r.mapping = (r.backing.hostSide kind).map fun b => ⟨b.memory.handle, shift⟩
  mapped : ∀ b, r.backing.hostSide kind = some b →
    ∃ m, d.memories.get? b.memory.handle = some m ∧ m.mapped = true ∧
      shift + size ≤ m.contents.size

/-- What a live tensor holds is sound. -/
def Tensor.Sound (t : Tensor) (shift : Nat) (d : Device) : Prop :=
  ∀ r, t.residence = .live r → r.Sound t.kind t.byteSize shift d

/-- The host's side is unmapped. -/
def Resources.unmapHost (r : Resources) (kind : Placement) (g : Gateway) : Gateway :=
  match r.mapping, r.backing.hostSide kind with
  | some _, some backed => g.unmap backed.memory.handle
  | _, _ => g

namespace Resources

variable {r : Resources} {kind : Placement} {size shift : Nat} {d : Device} {g : Gateway}

theorem release_eq (r : Resources) (kind : Placement) (g : Gateway) :
    r.release kind g = r.backing.release (r.unmapHost kind g) := rfl

theorem mapped_eq (h : r.Sound kind size shift d) : r.mapped kind =
    ((r.backing.hostSide kind).map fun b => Asset.memory b.memory.handle).toList := by
  rw [Resources.mapped, h.mapping]
  cases r.backing.hostSide kind <;> rfl

theorem unmapHost_device (h : r.Sound kind size shift g.device) :
    (r.unmapHost kind g).device = g.device ∨ ∃ b, r.backing.hostSide kind = some b ∧
      (r.unmapHost kind g).device = { g.device with
        memories := g.device.memories.modify b.memory.handle fun m =>
          { m with mapped := false } } := by
  unfold unmapHost
  rw [h.mapping]
  cases hs : r.backing.hostSide kind with
  | none => exact .inl rfl
  | some b =>
    obtain ⟨m, hm, hmapped, -⟩ := h.mapped b hs
    exact .inr ⟨b, rfl, Device.unmap_of_mapped hm hmapped⟩

theorem unmapHost_memory (h : r.Sound kind size shift g.device) {i : Handle} {m : Memory}
    (hm : g.device.memories.get? i = some m) :
    ∃ m', (r.unmapHost kind g).device.memories.get? i = some m' ∧ m'.contents = m.contents := by
  rcases unmapHost_device h with he | ⟨b, -, he⟩
  · rw [he]
    exact ⟨m, hm, rfl⟩
  · rw [he]
    dsimp only
    rw [Table.get?_modify, hm]
    split <;> exact ⟨_, rfl, rfl⟩

theorem unmapHost_buffers (h : r.Sound kind size shift g.device) :
    (r.unmapHost kind g).device.buffers = g.device.buffers ∧
      (r.unmapHost kind g).device.violations = g.device.violations := by
  rcases unmapHost_device h with he | ⟨b, -, he⟩ <;> rw [he] <;> exact ⟨rfl, rfl⟩

theorem unmapHost_numbered (h : r.Sound kind size shift g.device) (hg : g.device.Numbered) :
    (r.unmapHost kind g).device.Numbered := by
  rcases unmapHost_device h with he | ⟨b, -, he⟩ <;> rw [he]
  · exact hg
  · exact hg.modifyMemory _ _

/-- What holds once the host's side is unmapped, and is kept by the release of a sound buffer, holds
after sound holdings are given back. -/
theorem release_induction {P : Gateway → Prop} (h : r.Sound kind size shift g.device)
    (hg : g.device.Numbered) (hd : r.backing.assets.Nodup) (h0 : P (r.unmapHost kind g))
    (hstep : ∀ b ∈ r.backing.buffers, ∀ g₁ usage, b.Sound size usage g₁.device →
      g₁.device.Numbered → P g₁ → P (b.release g₁)) : P (r.release kind g) := by
  have hn := unmapHost_numbered h hg
  have hkeep {b : BackedBuffer} {usage : Mask} (hs : b.Sound size usage g.device) :
      b.Sound size usage (r.unmapHost kind g).device :=
    hs.of_buffers (unmapHost_buffers h).1 fun hm => by
      obtain ⟨m', hm', he⟩ := unmapHost_memory h hm
      exact ⟨m', hm', congrArg Block.size he⟩
  have hp := hstep _ (List.mem_cons_self ..) _ _ (hkeep h.primary) hn h0
  rw [release_eq]
  unfold Backing.release
  cases hs : r.backing.staging with
  | none => exact hp
  | some s =>
    have hstaging := h.staging
    cases hneed : kind.needs.staging with
    | none =>
      rw [hneed, hs] at hstaging
      cases hstaging
    | some need =>
      rw [hneed] at hstaging
      obtain ⟨s', hs', hsound⟩ := hstaging
      rw [hs] at hs'
      cases hs'
      -- the primary pair went first, and is not the staging pair
      obtain ⟨cs, hx⟩ := r.backing.primary.release_exchange hn
      have hapart : ∀ a ∈ s.assets, a ∉ r.backing.primary.assets := by
        rw [Backing.assets, Backing.buffers, hs, List.flatMap_cons] at hd
        have hdisj := (List.nodup_append'.mp hd).2.2
        intro a ha hp
        exact hdisj hp (List.mem_flatMap.mpr ⟨s, List.mem_singleton.mpr rfl, ha⟩)
      have hmem : s ∈ r.backing.buffers :=
        List.mem_cons_of_mem _ (Option.mem_toList.mpr hs)
      exact hstep s hmem _ _ ((hkeep hsound).frame hn hx.frame hapart) (hx.numbered hn) hp

/-- Sound holdings are given back without a violation. -/
theorem release_quiet (h : r.Sound kind size shift g.device) (hg : g.device.Numbered)
    (hd : r.backing.assets.Nodup) :
    (r.release kind g).device.violations = g.device.violations :=
  release_induction (P := fun g₁ => g₁.device.violations = g.device.violations) h hg hd
    (unmapHost_buffers h).2 fun _ _ _ _ hs hn hq =>
      (BackedBuffer.release_quiet hs hn).trans hq

end Resources

/-! ## New holdings -/

namespace Gateway

variable {g g' : Gateway}

theorem Supplied.sound {size : Nat} {need : BufferNeed} {lent : Option LentBuffer}
    {b : BackedBuffer} {ps : List BoundPair} {d : Device} (h : Supplied size need lent b ps)
    (hp : ∀ p ∈ ps, d.Present p) : b.Sound size need.usage d := by
  cases h with
  | lent l =>
    have hb : (BackedBuffer.borrowed l).buffer.isOwned = false := rfl
    constructor
    · rfl
    all_goals
      intro ho
      rw [hb] at ho
      cases ho
  | created p usage exact fits =>
    obtain ⟨hbuffer, ⟨m, hm, hs⟩, hsole⟩ := hp p (List.mem_cons_self ..)
    refine ⟨rfl, fun _ => congrArg some usage, fun _ => ?_, fun _ => ⟨m, hm, hs ▸ fits⟩,
      fun _ => hsole⟩
    rw [← usage, ← exact]
    exact hbuffer

theorem size_mapFilled (m : Memory) (offset : Nat) (fill : Option Block) :
    (m.mapFilled offset fill).contents.size = m.contents.size := by
  cases fill <;> rfl

theorem present_mapFilled {d : Device} {p : BoundPair} (h : d.Present p) (place : Place)
    (fill : Option Block) : (d.mapFilled place fill).Present p := by
  obtain ⟨hb, ⟨m, hm, hs⟩, hsole⟩ := h
  refine ⟨hb, ?_, hsole⟩
  rw [Device.mapFilled]
  dsimp only
  rw [Table.get?_modify, hm]
  split
  · exact ⟨_, rfl, (size_mapFilled m place.offset fill).trans hs⟩
  · exact ⟨m, rfl, hs⟩

namespace Furnished

variable {kind : Placement} {dtype : ElementType} {size : Nat} {data : Option Block}
  {primary staging : Option LentBuffer} {r : Resources} {cs : List Call} {ps qs : List BoundPair}

theorem present (h : Furnished g g' kind dtype size data primary staging r cs ps qs)
    (hg : g.device.Numbered) : ∀ p ∈ ps ++ qs, g'.device.Present p := by
  intro p hp
  have hw := Device.present_withPairs hg (h.passage.fresh_pairs h.ledger) hp
  rcases h.device_cases with ⟨-, hu⟩ | ⟨place, fill, -, hu⟩
  · exact hw.of_unchanged hu
  · exact (present_mapFilled hw place fill).of_unchanged hu

/-- What was just put on the device is sound. -/
theorem sound (h : Furnished g g' kind dtype size data primary staging r cs ps qs)
    (hg : g.device.Numbered) :
    r.Sound kind (size * dtype.width) g.faults.mapShift g'.device where
  primary := h.backed.primary.sound fun p hp => h.present hg p (List.mem_append_left _ hp)
  staging := by
    have hs := h.backed.staging
    cases hn : kind.needs.staging with
    | none =>
      rw [hn] at hs
      exact hs.1
    | some need =>
      rw [hn] at hs
      obtain ⟨s, hs, hq⟩ := hs
      exact ⟨s, hs, hq.sound fun p hp => h.present hg p (List.mem_append_right _ hp)⟩
  mapping := by
    have hd := h.device
    cases hs : r.backing.hostSide kind with
    | none =>
      rw [hs] at hd
      exact hd.1
    | some b =>
      rw [hs] at hd
      obtain ⟨m, hm, -⟩ := hd
      exact hm
  mapped b hb := by
    have hd := h.device
    rw [hb] at hd
    obtain ⟨m, -, hm, -, hr, hu⟩ := hd
    refine ⟨m.mapFilled g.faults.mapShift (b.fill (size * dtype.width) data), ?_, rfl, ?_⟩
    · rw [hu.memories, Device.mapFilled, Table.get?_modify, if_pos rfl, hm]
      rfl
    · rw [size_mapFilled]
      exact hr

theorem quiet (h : Furnished g g' kind dtype size data primary staging r cs ps qs) :
    g'.device.violations = g.device.violations := by
  rcases h.device_cases with ⟨-, hu⟩ | ⟨place, fill, -, hu⟩
  · exact hu.violations
  · exact hu.violations

/-- Memory that gets mapped and was there before was not mapped before. -/
theorem mapped_before (h : Furnished g g' kind dtype size data primary staging r cs ps qs)
    {i : Handle} (hi : .memory i ∈ r.mapped kind) (hle : i ≤ g.device.issued) :
    ∃ m, g.device.memories.get? i = some m ∧ m.mapped = false := by
  have hd := h.device
  unfold Resources.mapped at hi
  cases hs : r.backing.hostSide kind with
  | none =>
    rw [hs] at hi
    cases hm : r.mapping <;> rw [hm] at hi <;> cases hi
  | some b =>
    rw [hs] at hd hi
    obtain ⟨m, hmap, hm, hf, -⟩ := hd
    rw [hmap] at hi
    obtain rfl : i = b.memory.handle := by simpa using hi
    refine ⟨m, ?_, hf⟩
    rcases Table.mem_of_get?_insertAll hm with ho | hn
    · exact ho
    · obtain ⟨p, hp, he⟩ := List.mem_map.mp hn
      have hlater := (h.passage.fresh_pairs h.ledger).memory_later hp
      rw [show p.memory = b.memory.handle from congrArg Prod.fst he] at hlater
      exact absurd hle (Nat.not_le.mpr hlater)

end Furnished
end Gateway

theorem Backing.hostSide_mem {b : Backing} {kind : Placement} {backed : BackedBuffer}
    (h : b.hostSide kind = some backed) : backed ∈ b.buffers := by
  cases kind with
  | device => exact List.mem_cons_of_mem _ (Option.mem_toList.mpr h)
  | host =>
    cases h
    exact List.mem_cons_self ..
  | storage => cases h

theorem Resources.mapped_subset (r : Resources) (kind : Placement) :
    r.mapped kind ⊆ r.backing.assets ++ r.backing.loans := by
  intro a ha
  rw [List.mem_append]
  unfold Resources.mapped at ha
  split at ha
  · next b _ hside =>
    have hmem := Backing.hostSide_mem hside
    have hb : a ∈ b.assets ∨ a ∈ b.loans := by
      rw [List.mem_singleton.mp ha, BackedBuffer.assets, BackedBuffer.loans]
      cases b.memory.isOwned <;> simp
    rcases hb with hb | hb
    · exact .inl (List.mem_flatMap.mpr ⟨b, hmem, hb⟩)
    · exact .inr (List.mem_flatMap.mpr ⟨b, hmem, hb⟩)
  · cases ha

namespace Tensor

variable {t : Tensor} {g g' : Gateway} {shift : Nat}

/-- A tensor maps what it owns or has on loan. -/
theorem mapped_subset (t : Tensor) : t.mapped ⊆ t.assets ++ t.loans := by
  intro a ha
  unfold mapped assets loans at *
  cases hr : t.resources? with
  | none =>
    rw [hr] at ha
    cases ha
  | some r =>
    rw [hr, Option.map_some, Option.getD_some] at ha
    exact r.mapped_subset t.kind ha

/-- Holdings stay sound while nobody takes them and what is mapped stays as it is. -/
theorem Sound.frame {d d' : Device} {taken released : List Asset} (h : t.Sound shift d)
    (hd : d.Numbered) (hf : Frame d d' taken released) (ha : ∀ a ∈ t.assets, a ∉ taken)
    (hm : ∀ i, .memory i ∈ t.mapped →
      (d'.memories.get? i).map Memory.shape = (d.memories.get? i).map Memory.shape) :
    t.Sound shift d' := by
  intro r hr
  have hs := h r hr
  rw [assets_of_live hr] at ha
  rw [mapped_of_live hr] at hm
  have hin {b : BackedBuffer} (hb : b ∈ r.backing.buffers) : ∀ a ∈ b.assets, a ∉ taken :=
    fun a hab => ha a (List.mem_flatMap.mpr ⟨b, hb, hab⟩)
  refine ⟨hs.primary.frame hd hf (hin (List.mem_cons_self ..)), ?_, hs.mapping, ?_⟩
  · have hstaging := hs.staging
    cases hn : t.kind.needs.staging with
    | none =>
      rw [hn] at hstaging
      exact hstaging
    | some need =>
      rw [hn] at hstaging
      obtain ⟨s, hsome, hsound⟩ := hstaging
      refine ⟨s, hsome, hsound.frame hd hf (hin ?_)⟩
      exact List.mem_cons_of_mem _ (Option.mem_toList.mpr hsome)
  · intro b hb
    obtain ⟨m, hg, hmapped, hroom⟩ := hs.mapped b hb
    have hshape := hm b.memory.handle (by
      rw [Resources.mapped_eq hs, hb]
      exact List.mem_singleton.mpr rfl)
    rw [hg, Option.map_some] at hshape
    obtain ⟨m', hg', he⟩ := Option.map_eq_some_iff.mp hshape
    simp only [Memory.shape, Prod.mk.injEq] at he
    exact ⟨m', hg', he.2.2.trans hmapped, he.1 ▸ hroom⟩

/-- What is mapped is there, and is mapped. -/
theorem Sound.mapped_mem {d : Device} (h : t.Sound shift d) {a : Asset} (ha : a ∈ t.mapped) :
    ∃ i m, a = .memory i ∧ d.memories.get? i = some m ∧ m.mapped = true := by
  unfold mapped at ha
  cases hsome : t.resources? with
  | none => simp [hsome] at ha
  | some r =>
    have hr := resources?_eq_some.mp hsome
    rw [hsome, Option.map_some, Option.getD_some, Resources.mapped_eq (h r hr)] at ha
    cases hs : r.backing.hostSide t.kind with
    | none => rw [hs] at ha; cases ha
    | some b =>
      rw [hs] at ha
      obtain ⟨m, hm, hmapped, -⟩ := (h r hr).mapped b hs
      exact ⟨_, m, List.mem_singleton.mp ha, hm, hmapped⟩

theorem releaseHoldings_quiet (h : t.Sound shift g.device) (hg : g.device.Numbered)
    (hd : t.assets.Nodup) :
    (t.releaseHoldings g).device.violations = g.device.violations := by
  unfold releaseHoldings
  cases hr : t.residence with
  | live r => exact Resources.release_quiet (h r hr) hg (assets_of_live hr ▸ hd)
  | vacant => rfl
  | detached => rfl

theorem destroy_device (t : Tensor) (g : Gateway) :
    (t.destroy g).2.device = (t.releaseHoldings g).device := by
  unfold destroy Gateway.announceTeardown
  split
  · next h =>
    rw [releaseHoldings, isAttached_eq_false.mp (by simpa using h)]
    rfl
  · dsimp only
    split <;> rfl

/-- A rebuild violates nothing, leaves sound holdings, and maps only memory of its own. -/
theorem rebuild_sound (h : t.Sound g.faults.mapShift g.device) (hg : g.device.Numbered)
    (hd : t.assets.Nodup) (data : Block) (size elementSize : Nat) :
    (t.rebuild g data size elementSize).2.2.device.violations = g.device.violations ∧
      (t.rebuild g data size elementSize).2.1.Sound g.faults.mapShift
        (t.rebuild g data size elementSize).2.2.device ∧
      ∀ a ∈ (t.rebuild g data size elementSize).2.1.mapped,
        a ∈ t.mapped ∨ g.device.issued < a.handle := by
  rcases rebuild_spec hg t data size elementSize with
    ⟨e, -, he⟩ | ⟨g₀, cs, r, g', -, -, hx, hdevice, he, cs', hs⟩
  · rw [he]
    exact ⟨rfl, h, fun a ha => .inl ha⟩
  rw [he]
  have hq : g₀.device.violations = g.device.violations := by
    rw [hdevice]
    exact releaseHoldings_quiet h hg hd
  cases r with
  | error e =>
    refine ⟨hs.device.violations.trans hq, fun r hr => ?_, fun a ha => ?_⟩
    · cases hr
    · cases ha
  | ok resources =>
    obtain ⟨ps, qs, hf⟩ := hs
    refine ⟨hf.quiet.trans hq, fun r hr => ?_, fun a ha => ?_⟩
    · cases hr
      rw [← hx.faults]
      exact hf.sound (hx.numbered hg)
    · have hmem := mapped_subset (t.rebuilt size (.ok resources)) ha
      have hnone : (t.rebuilt size (.ok resources)).loans = [] :=
        List.subset_nil.mp hf.backed.loans
      rw [hnone, List.append_nil] at hmem
      exact .inr (Nat.lt_of_le_of_lt hx.frame.issued (hf.later hmem).1)

end Tensor

/-- A build violates nothing; a new tensor is sound, and memory that it maps was not mapped. -/
theorem TensorPlan.build_sound {plan : TensorPlan} {g g' : Gateway}
    {r : Except TensorError Tensor} (hg : g.device.Numbered) (h : plan.build g = (r, g')) :
    g'.device.violations = g.device.violations ∧ ∀ t, r = .ok t →
      t.Sound g.faults.mapShift g'.device ∧ ∀ i, .memory i ∈ t.mapped → i ≤ g.device.issued →
        ∃ m, g.device.memories.get? i = some m ∧ m.mapped = false := by
  obtain ⟨cs, hs⟩ := build_spec hg h
  cases r with
  | error e => exact ⟨hs.device.violations, fun t ht => by cases ht⟩
  | ok t =>
    obtain ⟨n, resources, ps, qs, rfl, -, -, -, hf⟩ := hs
    refine ⟨hf.quiet, fun t ht => ?_⟩
    cases ht
    refine ⟨fun r hr => ?_, fun i hi hle => hf.mapped_before hi hle⟩
    cases hr
    exact hf.sound hg

end TensorMemory
