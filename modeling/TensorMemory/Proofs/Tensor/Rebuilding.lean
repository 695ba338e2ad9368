import TensorMemory.Proofs.Tensor.Alike
import TensorMemory.Proofs.Tensor.Announcements
import TensorMemory.Proofs.Tensor.Layout
import TensorMemory.Proofs.Tensor.Lifetime
import TensorMemory.Proofs.Tensor.Relinquishing
import TensorMemory.Proofs.Tensor.Transparency

/-!
What a rebuild comes to. It is refused at once, and then nothing has happened; or the tensor gives
up what it held and gets resources of its own for the new contents (`Renewed`), or none, and can
then be rebuilt whenever a tensor like it could be built anew (`Vacated`).
-/

namespace TensorMemory

/-- The plan of a tensor of the same placement and element type that borrows nothing. -/
def Tensor.afresh (t : Tensor) (data : Block) (size elementSize : Nat) : TensorPlan :=
  { dtype := t.dtype, kind := t.kind, elements := some size, elementSize := some elementSize
    data := some data }

theorem Tensor.checkLayout_iff_fits {t : Tensor} {data : Block} {size elementSize : Nat} :
    (∃ n, checkLayout t.dtype (some data.size) size elementSize = .ok n) ↔
      (t.afresh data size elementSize).Fits size := by
  constructor
  · rintro ⟨n, hl⟩
    obtain ⟨rfl, h0, hlt, hd⟩ := checkLayout_ok hl
    refine ⟨fun w hw => ?_, .inl rfl, Nat.pos_of_mul_pos_right h0, hlt, fun block hb => ?_⟩
    · cases hw
      exact elementSize_of_checkLayout hl
    · cases hb
      exact hd _ rfl
  · intro h
    obtain rfl : elementSize = t.dtype.width := h.elementSize _ rfl
    refine ⟨_, checkLayout_of_fits h.positive h.bounded fun l hl => ?_⟩
    cases hl
    exact h.data data rfl

theorem TensorPlan.furnished_of_build {plan : TensorPlan} {g : Gateway} {u : Tensor}
    (h : (plan.build g).1 = .ok u) : ∃ r, u = ⟨plan.kind, plan.dtype, u.size, .live r⟩ ∧
      (g.furnish plan.kind plan.dtype u.size plan.data plan.primary plan.staging).1 = .ok r := by
  unfold build at h
  split at h
  · cases h
  split at h
  · cases h
  next r g' hf =>
  cases h
  exact ⟨r, rfl, congrArg Prod.fst hf⟩

/-! ## New resources -/

namespace Gateway.Furnished

variable {g g' : Gateway} {kind : Placement} {dtype : ElementType} {size : Nat} {data : Block}
  {r : Resources} {cs : List Call} {ps qs : List BoundPair}

/-- Where nothing is lent, buffers and memories are owned and were given out just now. -/
theorem created (h : Furnished g g' kind dtype size (some data) none none r cs ps qs) {σ : Side}
    {x : BackedBuffer} (hx : r.backing.side σ = some x) :
    x.buffer.isOwned = true ∧ x.memory.isOwned = true ∧
      g.device.issued < x.buffer.handle ∧ g.device.issued < x.memory.handle := by
  obtain ⟨hb, hm⟩ := Backing.owned_of_loans h.loans hx
  have later {a : Asset} (ha : a ∈ x.assets) : g.device.issued < a.handle :=
    (h.later (Backing.mem_assets_of_side hx ha)).1
  exact ⟨hb, hm, later (BackedBuffer.buffer_mem_assets hb),
    later (BackedBuffer.memory_mem_assets hm)⟩

/-- What the host sees is in memory that was given out just now. -/
theorem mapping_created (h : Furnished g g' kind dtype size (some data) none none r cs ps qs)
    (hg : g.device.Numbered) {place : Place} (hp : r.mapping = some place) :
    ∃ b, r.backing.hostSide kind = some b ∧ place = ⟨b.memory.handle, g.faults.mapShift⟩ ∧
      g.device.issued < place.memory := by
  have hmapping := (h.sound hg).mapping
  rw [hp] at hmapping
  obtain ⟨b, hb, rfl⟩ := Option.map_eq_some_iff.mp hmapping.symm
  refine ⟨b, hb, rfl, ?_⟩
  rw [Backing.hostSide_eq] at hb
  obtain ⟨σ, -, hx⟩ := Option.bind_eq_some_iff.mp hb
  exact (h.created hx).2.2.2

/-- The host sees the data. -/
theorem load_hostSide (h : Furnished g g' kind dtype size (some data) none none r cs ps qs)
    (hg : g.device.Numbered) (hdata : data.size = size * dtype.width) {b : BackedBuffer}
    (hb : r.backing.hostSide kind = some b) :
    (g'.device.load ⟨b.memory.handle, g.faults.mapShift⟩ data.size).toBytes = data.toBytes := by
  obtain ⟨now, hnow, hseeded⟩ := h.bytes_hostSide hg
    (fun block hblock => (Option.some.inj hblock) ▸ hdata) hb
  rw [Device.toBytes_load hnow, hdata]
  exact hseeded.filled data rfl

/-- A device's side that is not the host's too is zero. -/
theorem read_primary (h : Furnished g g' kind dtype size (some data) none none r cs ps qs)
    (hg : g.device.Numbered) (hk : kind ≠ .host) :
    ∃ block, g'.device.read r.backing.primary.buffer.handle (size * dtype.width) = .ok block ∧
      block.toBytes = List.replicate (size * dtype.width) 0 := by
  have hside : r.backing.side .device = some r.backing.primary := rfl
  obtain ⟨hbuffer, hmemory, -⟩ := h.created hside
  have hsound := (h.sound hg).primary
  obtain ⟨m, hm, hroom⟩ := hsound.backed hbuffer
  have hseats : g'.device.Seats r.backing.primary.buffer.handle ⟨r.backing.primary.memory.handle, 0⟩
      (size * dtype.width) :=
    ⟨⟨_, hsound.bound hbuffer, rfl, Nat.le_refl _⟩, m, hm, by rwa [Nat.zero_add]⟩
  obtain ⟨room, hzeros⟩ := h.bytes_new hg hside hmemory fun b hb he => by
    rw [Backing.hostSide_eq] at hb
    obtain ⟨τ, hτ, hb⟩ := Option.bind_eq_some_iff.mp hb
    have hmem := Backing.memory_mem_assets h.loans hb
    rw [← he] at hmem
    cases Backing.side_unique h.assets_nodup hside hb (BackedBuffer.memory_mem_assets hmemory) hmem
    cases kind
    · cases hτ
    · exact hk rfl
    · cases hτ
  have hlength : m.contents.size = room := by
    have hbytes : g'.device.bytes? r.backing.primary.memory.handle = some m.contents.toBytes :=
      Device.bytes?_eq_some.mpr ⟨m, hm, rfl⟩
    have heq := congrArg List.length (Option.some.inj (hbytes.symm.trans hzeros))
    rwa [Block.length_toBytes, List.length_replicate] at heq
  refine ⟨_, hseats.read, ?_⟩
  rw [Device.toBytes_load hzeros, List.drop_zero, List.take_replicate, Nat.min_eq_left]
  exact hlength ▸ hroom

end Gateway.Furnished

namespace Tensor

variable {t : Tensor} {g g' : Gateway} {data : Block} {size elementSize : Nat}

/-- The tensor has resources of its own for the new contents. Those that the host sees hold the
data, and those that it does not see are zero. -/
structure Renewed (t t' : Tensor) (g g' : Gateway) (data : Block) (size : Nat) : Prop where
  kept : t'.kind = t.kind ∧ t'.dtype = t.dtype
  resized : t'.size = size
  initialized : t'.parts.Initialized
  owned : ∀ b, t'.primary? = some b ∨ t'.staging? = some b →
    b.buffer.isOwned = true ∧ b.memory.isOwned = true ∧
      g.device.issued < b.buffer.handle ∧ g.device.issued < b.memory.handle
  live : ∀ a ∈ t'.assets, a ∈ g'.device.assets
  host : t.kind ≠ .storage → ∃ place, t'.mapping? = some place ∧
    g.device.issued < place.memory ∧ place.offset = g.faults.mapShift ∧
    (∀ operation, t'.hostRange operation = .ok ⟨place, data.size⟩) ∧
    (g'.device.load place data.size).toBytes = data.toBytes ∧
    (place.offset % t.dtype.width = 0 →
      t'.elements g'.device t.dtype = .ok (Element.decode t.dtype size data))
  zeroed : t.kind ≠ .host → ∃ b block, t'.primary? = some b ∧
    g'.device.read b.buffer.handle data.size = .ok block ∧
    block.toBytes = List.replicate data.size 0

/-- The tensor has nothing, and nothing was left behind on the way. Whatever plan there is of a
tensor like it that borrows nothing: where that can be built the tensor can be rebuilt to be the
same. -/
structure Vacated (t t' : Tensor) (g g' : Gateway) (size : Nat) : Prop where
  kept : t'.kind = t.kind ∧ t'.dtype = t.dtype
  resized : t'.size = size
  empty : t'.residence = .vacant
  uninitialized : t'.isInitialized = false
  live : ∀ a ∈ g'.device.assets, a ∈ g.device.assets
  metrics : metricEvents g'.notices = metricEvents g.notices
  recovers : ∀ (h : Gateway) (plan : TensorPlan) (u : Tensor) (data : Block) (elementSize : Nat),
    plan.kind = t.kind → plan.dtype = t.dtype → plan.primary = none → plan.staging = none →
    (plan.build h).1 = .ok u → (t.afresh data u.size elementSize).Fits u.size →
    (t'.rebuild h data u.size elementSize).1 = .ok () ∧
      (t'.rebuild h data u.size elementSize).2.1 = u

/-! ## Rebuilding -/

theorem rebuild_refused (g : Gateway)
    (h : t.isAttached = false ∨ ¬(t.afresh data size elementSize).Fits size) :
    ∃ e, t.rebuild g data size elementSize = (.error e, t, g) := by
  rcases t.rebuild_cases g data size elementSize with ⟨e, -, he⟩ | ⟨-, -, -, -, ha, hl, -⟩
  · exact ⟨e, he⟩
  · rcases h with h | h
    · cases ha.symm.trans h
    · exact absurd (checkLayout_iff_fits.mp ⟨_, hl⟩) h

/-- Once begun, a rebuild comes to what furnishing comes to. -/
theorem rebuild_begun (g : Gateway) (ha : t.isAttached = true)
    (hf : (t.afresh data size elementSize).Fits size) :
    ∃ notice r g', notice.metric? = none ∧ ((t.releaseHoldings g).tell notice).furnish t.kind
      t.dtype size (some data) none none = (r, g') ∧
      t.rebuild g data size elementSize = (r.map fun _ => (), t.rebuilt size r, g') := by
  rcases t.rebuild_cases g data size elementSize with
    ⟨e, hr | ⟨e', hl⟩, -⟩ | ⟨notice, r, g', hquiet, -, -, hfurnish, he⟩
  · cases ha.symm.trans hr
  · obtain ⟨n, hn⟩ := checkLayout_iff_fits.mpr hf
    cases hl.symm.trans hn
  · exact ⟨notice, r, g', hquiet, hfurnish, he⟩

theorem renewed {r : Resources} {cs : List Call} {ps qs : List BoundPair}
    (h : Gateway.Furnished g g' t.kind t.dtype size (some data) none none r cs ps qs)
    (hg : g.device.Numbered) (hf : (t.afresh data size elementSize).Fits size)
    (hc : r.Complete t.kind) : Renewed t (t.rebuilt size (.ok r)) g g' data size := by
  have hdata : data.size = size * t.dtype.width := hf.data data rfl
  have hconsistent : (t.rebuilt size (.ok r)).Consistent :=
    .rebuilt hf.positive hf.bounded fun resources hr => Except.ok.inj hr ▸ hc
  refine ⟨⟨rfl, rfl⟩, rfl, hconsistent.initialized rfl, fun b hb => ?_, fun a ha => ?_,
    fun hk => ?_, fun hk => ?_⟩
  · rcases hb with hb | hb
    · exact h.created (σ := .device) hb
    · exact h.created (σ := .host) hb
  · exact (h.exchange.live a).mpr (.inr ha)
  · obtain ⟨place, hplace⟩ := Option.isSome_iff_exists.mp (hc.mapping.mpr hk)
    obtain ⟨b, hb, rfl, hlater⟩ := h.mapping_created hg hplace
    have hrange (operation : String) : (t.rebuilt size (.ok r)).hostRange operation =
        .ok ⟨⟨b.memory.handle, g.faults.mapShift⟩, data.size⟩ := by
      rw [hdata]
      simp [hostRange_eq, mapping?, resources?, rebuilt, hplace, hk, Placement.isHostVisible, byteSize]
    have hload := h.load_hostSide hg hdata hb
    refine ⟨_, hplace, hlater, rfl, hrange, hload, fun ha => ?_⟩
    rw [hdata] at hrange hload
    exact (elements_of_range g'.device (hrange "data") ha).trans
      (congrArg Except.ok (Element.decode_congr hload size))
  · obtain ⟨block, hread, hzero⟩ := h.read_primary hg hk
    rw [hdata]
    exact ⟨_, block, rfl, hread, hzero⟩

/-- What was new from a later moment on is new from an earlier one on. -/
theorem Renewed.since {t' : Tensor} {g₀ : Gateway} (h : Renewed t t' g₀ g' data size)
    (hi : g.device.issued ≤ g₀.device.issued) (hf : g₀.faults = g.faults) :
    Renewed t t' g g' data size where
  kept := h.kept
  resized := h.resized
  initialized := h.initialized
  owned b hb := by
    obtain ⟨hbo, hmo, hbuffer, hmemory⟩ := h.owned b hb
    exact ⟨hbo, hmo, Nat.lt_of_le_of_lt hi hbuffer, Nat.lt_of_le_of_lt hi hmemory⟩
  live := h.live
  host hk := by
    obtain ⟨place, hp, hlater, hoffset, hrest⟩ := h.host hk
    exact ⟨place, hp, Nat.lt_of_le_of_lt hi hlater, hf ▸ hoffset, hrest⟩
  zeroed := h.zeroed

/-- Where a plan can be built that borrows nothing, a vacant tensor of its kind can be rebuilt to be
the same: a rebuild of it has nothing to give back, and then asks the same of the device. -/
theorem rebuild_vacant {g : Gateway} {plan : TensorPlan} {u : Tensor} (ht : t.residence = .vacant)
    (hkind : plan.kind = t.kind) (hdtype : plan.dtype = t.dtype) (hprimary : plan.primary = none)
    (hstaging : plan.staging = none) (hb : (plan.build g).1 = .ok u)
    (hf : (t.afresh data u.size elementSize).Fits u.size) :
    (t.rebuild g data u.size elementSize).1 = .ok () ∧
      (t.rebuild g data u.size elementSize).2.1 = u := by
  have ha : t.isAttached = true := by simp [isAttached, ht]
  obtain ⟨notice, r, g', -, hfurnish, he⟩ := t.rebuild_begun g ha hf
  obtain ⟨resources, hu, hbuilt⟩ := TensorPlan.furnished_of_build hb
  rw [hkind, hdtype] at hu
  rw [hkind, hdtype, hprimary, hstaging] at hbuilt
  have halike : g.Alike ((t.releaseHoldings g).tell notice) := by
    rw [releaseHoldings, ht]
    exact ⟨rfl, rfl, rfl⟩
  have hanswer := halike.furnish t.kind t.dtype u.size plan.data (some data) none none
  rw [hbuilt, hfurnish] at hanswer
  obtain rfl : r = .ok resources := hanswer
  rw [he]
  exact ⟨rfl, hu.symm⟩

theorem vacated {e : TensorError} {g₀ : Gateway} {cs : List Call}
    (hlive : ∀ a ∈ g₀.device.assets, a ∈ g.device.assets)
    (hm : metricEvents g₀.notices = metricEvents g.notices) (h : Gateway.Gained g₀ g' cs []) :
    Vacated t (t.rebuilt size (.error e)) g g' size := by
  refine ⟨⟨rfl, rfl⟩, rfl, rfl, rfl, fun a ha => ?_, h.kept.2.trans hm,
    fun k plan u data elementSize hkind hdtype hprimary hstaging hb hf =>
      rebuild_vacant rfl hkind hdtype hprimary hstaging hb hf⟩
  rcases (h.exchange.live a).mp ha with ⟨hold, -⟩ | hnew
  · exact hlive a hold
  · cases hnew

theorem metricEvents_releaseHoldings (t : Tensor) (g : Gateway) {notice : Notice}
    (hn : notice.metric? = none) :
    metricEvents ((t.releaseHoldings g).tell notice).notices = metricEvents g.notices := by
  obtain ⟨cs, hp⟩ := t.releaseHoldings_passage g
  have hm := (hp.trans (.tell _ notice)).metrics
  rw [hn] at hm
  exact hm.trans (List.append_nil _)

/-- A rebuild of a tensor that is attached, with a layout that fits, makes it give up what it holds,
and renews it or leaves it vacated. -/
theorem rebuild_attached (ht : t.Regular g.device.issued) (hg : g.device.Numbered)
    (ha : t.isAttached = true) (hf : (t.afresh data size elementSize).Fits size) :
    ∃ r t' g' cs, t.rebuild g data size elementSize = (r, t', g') ∧ Relinquished t g g' cs ∧
      (r = .ok () ∧ Renewed t t' g g' data size ∨
        (∃ e, r = .error e) ∧ Vacated t t' g g' size) := by
  obtain ⟨notice, r, g', hquiet, hfurnish, he⟩ := t.rebuild_begun g ha hf
  obtain ⟨cs, hx⟩ := t.releaseHoldings_exchange hg
  have hx := hx.tell notice
  have hg₀ := hx.numbered hg
  have h0 := Nat.mul_pos hf.positive t.dtype.width_pos
  obtain ⟨cs', hs⟩ := Gateway.furnish_spec hg₀ h0 hf.bounded hfurnish
  refine ⟨_, _, g', cs ++ cs', he, ?_⟩
  cases r with
  | error e =>
    have hvacated : Vacated t (t.rebuilt size (.error e)) g g' size :=
      vacated (fun a ha => (((hx.live a).mp ha).resolve_right List.not_mem_nil).1)
        (t.metricEvents_releaseHoldings g hquiet) hs
    exact ⟨ht.relinquished hg hx rfl hs.exchange hs.spares fun a ha => (by cases ha),
      .inr ⟨⟨e, rfl⟩, hvacated⟩⟩
  | ok r =>
    obtain ⟨ps, qs, hs⟩ := hs
    have hrenewed := (renewed hs hg₀ hf (Gateway.furnish_complete hfurnish)).since
      hx.frame.issued hx.faults
    refine ⟨ht.relinquished hg hx rfl hs.exchange hs.spares fun a ha => ?_, .inl ⟨rfl, hrenewed⟩⟩
    have hmem := r.mapped_subset t.kind ha
    rw [hs.loans, List.append_nil] at hmem
    exact (hs.later hmem).1

end Tensor
end TensorMemory
