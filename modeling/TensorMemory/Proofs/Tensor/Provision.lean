import TensorMemory.Proofs.Device.Selection
import TensorMemory.Proofs.Tensor.Contents
import TensorMemory.Proofs.Tensor.Layout
import TensorMemory.Proofs.Tensor.Mapping

/-!
Whether a device can provide for a tensor. A placement makes one request or two. Where no call fails
by itself, a request runs into an obstacle only if no memory type suits it or the allocations have
run out; the first request with an obstacle decides how a construction fails, and one whose requests
have none succeeds (`construction_succeeds_iff`).
-/

namespace TensorMemory

/-! ## Obstacles -/

/-- What a placement asks of a device, in the order in which it asks. -/
def Placement.requests (kind : Placement) : List BufferNeed :=
  kind.needs.primary :: kind.needs.staging.toList

/-- What the `k`-th of some requests runs into, where the device has such memory types and so many
allocations left. That no memory type suits is noticed before that no allocation is left. -/
inductive Obstacle (types : List Mask) (budget : Option Nat) (k : Nat) (need : BufferNeed) :
    TensorError → Prop
  | missing (h : NoFit types need.memoryFlags) :
    Obstacle types budget k need
      (.noCompatibleMemoryType (MemoryProperties.ofTypes types).typeBits need.memoryFlags)
  | spent {n : Nat} (h : ¬NoFit types need.memoryFlags) (hb : budget = some n) (hn : n ≤ k) :
    Obstacle types budget k need (.backend "vkAllocateMemory" .outOfDeviceMemory)

/-- The obstacle of the first request that has one. -/
def FirstObstacle (types : List Mask) (budget : Option Nat) (requests : List BufferNeed)
    (e : TensorError) : Prop :=
  ∃ k need, requests[k]? = some need ∧ Obstacle types budget k need e ∧
    ∀ j < k, ∀ need', requests[j]? = some need' → ∀ e', ¬Obstacle types budget j need' e'

section

variable {types : List Mask} {budget : Option Nat} {k : Nat} {need : BufferNeed}
  {requests : List BufferNeed} {e e' : TensorError}

theorem Obstacle.unique (h : Obstacle types budget k need e)
    (h' : Obstacle types budget k need e') : e = e' := by
  cases h with
  | missing h =>
    cases h' with
    | missing _ => rfl
    | spent hn _ _ => exact absurd h hn
  | spent hn _ _ =>
    cases h' with
    | missing h => exact absurd h hn
    | spent _ _ _ => rfl

theorem FirstObstacle.unique (h : FirstObstacle types budget requests e)
    (h' : FirstObstacle types budget requests e') : e = e' := by
  obtain ⟨j, need, hj, ho, hbefore⟩ := h
  obtain ⟨k, need', hk, ho', hbefore'⟩ := h'
  rcases Nat.lt_trichotomy j k with hlt | rfl | hlt
  · exact absurd ho (hbefore' j hlt need hj e)
  · cases hj.symm.trans hk
    exact ho.unique ho'
  · exact absurd ho' (hbefore k hlt need' hk e')

/-- Where some request has an obstacle, one is the first. -/
theorem Obstacle.exists_first (hk : requests[k]? = some need)
    (h : Obstacle types budget k need e) : ∃ e', FirstObstacle types budget requests e' := by
  induction k using Nat.strong_induction_on generalizing need e with
  | h k ih =>
    by_cases hbefore : ∀ j < k, ∀ need', requests[j]? = some need' →
        ∀ e', ¬Obstacle types budget j need' e'
    · exact ⟨e, k, need, hk, h, hbefore⟩
    · push Not at hbefore
      obtain ⟨j, hj, need', hn, e', ho⟩ := hbefore
      exact ih j hj hn ho

theorem not_obstacle_zero : (∀ e, ¬Obstacle types budget 0 need e) ↔
    ¬NoFit types need.memoryFlags ∧ budget ≠ some 0 := by
  constructor
  · intro h
    have hfit : ¬NoFit types need.memoryFlags := fun hno => h _ (.missing hno)
    exact ⟨hfit, fun hb => h _ (.spent hfit hb (Nat.le_refl _))⟩
  · rintro ⟨hfit, hb⟩ e ho
    cases ho with
    | missing h => exact hfit h
    | spent _ hn hle => exact hb (Nat.le_zero.mp hle ▸ hn)

/-- A request that is met leaves one allocation less for those after it. -/
theorem obstacle_succ (hb : budget ≠ some 0) :
    Obstacle types budget (k + 1) need e ↔ Obstacle types (budget.map (· - 1)) k need e := by
  constructor
  · intro h
    cases h with
    | missing h => exact .missing h
    | spent h hn hle => exact .spent h (by rw [hn]; rfl) (Nat.sub_le_of_le_add hle)
  · intro h
    cases h with
    | missing h => exact .missing h
    | spent h hn hle =>
      obtain ⟨n, rfl, rfl⟩ := Option.map_eq_some_iff.mp hn
      exact .spent h rfl (Nat.le_add_of_sub_le hle)

theorem not_firstObstacle_nil : ¬FirstObstacle types budget [] e := by
  rintro ⟨k, need, hk, -⟩
  cases hk

theorem firstObstacle_cons : FirstObstacle types budget (need :: requests) e ↔
    Obstacle types budget 0 need e ∨ (∀ e', ¬Obstacle types budget 0 need e') ∧
      FirstObstacle types (budget.map (· - 1)) requests e := by
  constructor
  · rintro ⟨k, need', hk, ho, hbefore⟩
    cases k with
    | zero =>
      cases hk
      exact .inl ho
    | succ k =>
      have hnone := hbefore 0 (Nat.succ_pos k) need rfl
      have hb := (not_obstacle_zero.mp hnone).2
      refine .inr ⟨hnone, k, need', hk, (obstacle_succ hb).mp ho, ?_⟩
      intro j hj need'' hn e' ho'
      exact hbefore (j + 1) (Nat.succ_lt_succ hj) need'' hn e' ((obstacle_succ hb).mpr ho')
  · rintro (ho | ⟨hnone, k, need', hk, ho, hbefore⟩)
    · exact ⟨0, need, rfl, ho, fun j hj => absurd hj (Nat.not_lt_zero j)⟩
    · have hb := (not_obstacle_zero.mp hnone).2
      refine ⟨k + 1, need', hk, (obstacle_succ hb).mpr ho, ?_⟩
      intro j hj need'' hn e' ho'
      cases j with
      | zero =>
        cases hn
        exact hnone e' ho'
      | succ j =>
        exact hbefore j (Nat.lt_of_succ_lt_succ hj) need'' hn e' ((obstacle_succ hb).mp ho')

end

/-! ## Calls that get through -/

namespace Call

/-- A binding or a mapping that failed. -/
def isRefusal : Call → Bool
  | bind _ _ _ (.error _) | map _ _ _ (.error _) => true
  | _ => false

end Call

namespace Gateway

variable {g g' g'' : Gateway} {types : List Mask} {size : Nat} {need : BufferNeed}

/-- On the way from one state to the other, no binding and no mapping failed. -/
def Smooth (g g' : Gateway) : Prop :=
  ∃ cs, g'.calls = g.calls ++ cs ∧ ∀ c ∈ cs, c.isRefusal = false

namespace Smooth

theorem refl (g : Gateway) : Smooth g g := ⟨[], (List.append_nil _).symm, by simp⟩

theorem trans (h : Smooth g g') (h' : Smooth g' g'') : Smooth g g'' := by
  obtain ⟨cs, hc, hs⟩ := h
  obtain ⟨cs', hc', hs'⟩ := h'
  refine ⟨cs ++ cs', by rw [hc', hc, List.append_assoc], fun c hm => ?_⟩
  exact (List.mem_append.mp hm).elim (hs c) (hs' c)

theorem of_call {c : Call} {ms : List MetricEvent} (h : Passage g g' [c] ms)
    (hc : c.isRefusal = false) : Smooth g g' :=
  ⟨[c], h.calls, fun _ hm => List.mem_singleton.mp hm ▸ hc⟩

theorem tell (h : Smooth g g') (n : Notice) : Smooth g (g'.tell n) := h

theorem destroyBuffer (h : Smooth g g') (buffer : Handle) : Smooth g (g'.destroyBuffer buffer) :=
  h.trans (.of_call (destroyBuffer_passage g' buffer) rfl)

theorem freeMemory (h : Smooth g g') (memory : Handle) : Smooth g (g'.freeMemory memory) :=
  h.trans (.of_call (freeMemory_passage g' memory) rfl)

theorem release (h : Smooth g g') (b : BackedBuffer) : Smooth g (b.release g') := by
  unfold BackedBuffer.release
  dsimp only
  have hb : Smooth g (if b.buffer.isOwned then g'.destroyBuffer b.buffer.handle else g') := by
    split
    · exact h.destroyBuffer _
    · exact h
  split
  · exact hb.freeMemory _
  · exact hb

end Smooth

/-! Without faults it is the device that answers. -/

theorem createBuffer_plain {usage : Mask} {r : Except Status Handle} (hf : g.faults = .none)
    (h : g.createBuffer size usage = (r, g')) :
    g.device.createBuffer size usage = (r, g'.device) := by
  unfold createBuffer at h
  rw [hf] at h
  cases h
  rfl

theorem allocate_plain {typeIndex : Nat} {r : Except Status Handle} (hf : g.faults = .none)
    (h : g.allocate size typeIndex = (r, g')) :
    g.device.allocate size typeIndex = (r, g'.device) := by
  unfold allocate at h
  rw [hf] at h
  cases h
  rfl

theorem bind_plain {buffer memory : Handle} {offset : Nat} {r : Except Status Unit}
    (hf : g.faults = .none) (h : g.bind buffer memory offset = (r, g')) :
    g.device.bind buffer memory offset = (r, g'.device) := by
  unfold bind at h
  rw [hf] at h
  cases h
  rfl

theorem requirements_plain {buffer : Handle} {r : Requirements} (hf : g.faults = .none)
    (h : g.requirements buffer = (r, g')) : g.device.requirements buffer = (r, g'.device) := by
  unfold requirements at h
  rw [hf] at h
  cases h
  rfl

/-- A gateway without faults, to a device made with such memory types. -/
structure Plain (types : List Mask) (g : Gateway) : Prop where
  numbered : g.device.Numbered
  properties : g.device.properties = .ofTypes types
  faults : g.faults = .none

theorem Passage.plain {cs : List Call} {ms : List MetricEvent} (h : Passage g g' cs ms)
    (hg : Plain types g) : Plain types g' where
  numbered := h.numbered hg.numbered
  properties := by
    obtain ⟨ops, hops⟩ := h.device
    rw [hops, Device.properties_run, hg.properties]
  faults := h.faults.trans hg.faults

end Gateway

/-! ## One request -/

/-- A length rounded up to whole blocks of 64 bytes. -/
def RoundedUp (size room : Nat) : Prop := 64 ∣ room ∧ size ≤ room ∧ room < size + 64

theorem roundedUp (size : Nat) : RoundedUp size
    ((size + Device.alignmentBytes - 1) / Device.alignmentBytes * Device.alignmentBytes) := by
  unfold RoundedUp Device.alignmentBytes
  omega

/-- The device has met a request: with a buffer as asked for, bound to memory that goes with it, as
long as the size rounded up and of the first type that suits. -/
structure Device.Meets (d : Device) (types : List Mask) (size : Nat) (need : BufferNeed)
    (b : BackedBuffer) : Prop where
  owned : b.buffer.isOwned = true ∧ b.memory.isOwned = true
  buffer : d.buffers.get? b.buffer.handle = some ⟨size, need.usage, some ⟨b.memory.handle, 0⟩⟩
  memory : ∃ m, d.memories.get? b.memory.handle = some m ∧
    FirstFit types need.memoryFlags m.typeIndex ∧ RoundedUp size m.contents.size

namespace Device.Meets

variable {d d' : Device} {types : List Mask} {size : Nat} {need : BufferNeed} {b : BackedBuffer}

theorem of_unchanged (h : d.Meets types size need b) (hu : Unchanged d d') :
    d'.Meets types size need b :=
  ⟨h.owned, hu.buffers ▸ h.buffer, hu.memories ▸ h.memory⟩

theorem withPairs {ps : List BoundPair} (h : d.Meets types size need b) (hd : d.Numbered)
    (hf : Fresh d ps) : (d.withPairs ps).Meets types size need b where
  owned := h.owned
  buffer := by
    rw [(frame_withPairs hf).buffers _ (hd.buffers h.buffer).2 List.not_mem_nil]
    exact h.buffer
  memory := by
    obtain ⟨m, hm, hfit⟩ := h.memory
    refine ⟨m, ?_, hfit⟩
    have hs := Spares.withPairs hf (.refl _) (Nat.le_refl _)
    rw [hs.memories _ (hd.memories hm).2 List.not_mem_nil]
    exact hm

theorem mapFilled (h : d.Meets types size need b) (place : Place) (fill : Option Block) :
    (d.mapFilled place fill).Meets types size need b where
  owned := h.owned
  buffer := h.buffer
  memory := by
    obtain ⟨m, hm, hfit, hroom⟩ := h.memory
    rw [Device.mapFilled]
    dsimp only
    rw [Table.get?_modify, hm]
    split
    · refine ⟨_, rfl, hfit, ?_⟩
      rw [Gateway.size_mapFilled]
      exact hroom
    · exact ⟨m, rfl, hfit, hroom⟩

/-- Memory that was given for the host to see can be mapped. -/
theorem mappable (h : d.Meets types size need b) (hp : d.properties = .ofTypes types)
    (hm : d.isMapped b.memory.handle = false)
    (hv : need.memoryFlags.contains MemoryFlags.hostVisible = true) :
    ∃ room, size ≤ room ∧ d.Mappable b.memory.handle room := by
  obtain ⟨m, hm', hfit, hroom⟩ := h.memory
  have hfalse : m.mapped = false := by rwa [isMapped, hm'] at hm
  obtain ⟨flags, hf, hc⟩ := hfit.suits
  refine ⟨m.contents.size, hroom.2.1, m.typeIndex, ?_, ?_⟩
  · rw [hm', Option.map_some, Memory.shape, hfalse]
  · rw [isVisible, hp, MemoryProperties.slot_ofTypes hfit.room hf]
    exact Mask.contains_trans hc hv

end Device.Meets

namespace Gateway

variable {g g' : Gateway} {types : List Mask} {size : Nat} {need : BufferNeed}

theorem provideMemory_plain {buffer : Handle} {b : Buffer} {r : Except TensorError Handle}
    (hg : Plain types g) (hb : g.device.buffers.get? buffer = some b) (hu : b.binding = none)
    (h : g.provideMemory buffer need = (r, g')) :
    Smooth g g' ∧ match r with
      | .error e => Obstacle types g.device.allocationBudget 0 need e
      | .ok memory => (∀ e, ¬Obstacle types g.device.allocationBudget 0 need e) ∧
          ∃ i room, FirstFit types need.memoryFlags i ∧ RoundedUp b.size room ∧
            memory = g.device.issued + 1 ∧ g'.device =
              { g.device with
                issued := g.device.issued + 1
                allocationBudget := g.device.allocationBudget.map (· - 1)
                buffers := g.device.buffers.modify buffer fun b =>
                  { b with binding := some ⟨memory, 0⟩ }
                memories := g.device.memories.insert memory ⟨.zeros room, i, false⟩ } := by
  unfold provideMemory at h
  cases hr : g.requirements buffer with
  | mk required g₁ =>
  have s₁ := Smooth.of_call (requirements_passage hr) rfl
  have hg₁ := (requirements_passage hr).plain hg
  have hrd := requirements_plain hg.faults hr
  rw [Device.requirements, hb, Prod.mk.injEq] at hrd
  obtain ⟨rfl, d₁⟩ := hrd
  rw [hr] at h
  dsimp only at h
  rw [hg₁.properties, hg.properties] at h
  have hroom := roundedUp b.size
  revert hroom h
  generalize (b.size + Device.alignmentBytes - 1) / Device.alignmentBytes *
    Device.alignmentBytes = room
  intro h hroom
  split at h
  · next hsel =>
    cases h
    exact ⟨s₁, .missing (MemoryProperties.select_ofTypes_eq_none_iff.mp hsel)⟩
  next i hsel =>
  have hfit := MemoryProperties.select_ofTypes_eq_some_iff.mp hsel
  have hcount : i < g₁.device.properties.count := by
    rw [hg₁.properties]
    exact Nat.lt_of_lt_of_le (MemoryProperties.select_eq_some_iff.mp hsel).1 (Nat.min_le_left ..)
  cases ha : g₁.allocate room i with
  | mk r₂ g₂ =>
  have s₂ := s₁.trans (.of_call (allocate_passage ha) rfl)
  have hg₂ := (allocate_passage ha).plain hg₁
  have had := allocate_plain hg₁.faults ha
  rw [Device.allocate, if_neg (Nat.not_le.mpr hcount), ← d₁] at had
  rw [ha] at h
  split at had
  · next hbudget =>
    rw [Prod.mk.injEq] at had
    obtain ⟨rfl, -⟩ := had
    cases h
    exact ⟨s₂, .spent hfit.not_noFit hbudget (Nat.le_refl _)⟩
  next hbudget =>
  rw [Prod.mk.injEq] at had
  obtain ⟨rfl, d₂⟩ := had
  dsimp only at h
  cases hbd : g₂.bind buffer (g.device.issued + 1) 0 with
  | mk r₃ g₃ =>
  have hbdd := bind_plain hg₂.faults hbd
  rw [hbd] at h
  have hm₂ : g₂.device.memories.get? (g.device.issued + 1) = some ⟨.zeros room, i, false⟩ := by
    rw [← d₂, Table.get?_insert, if_pos rfl]
  have hb₂ : g₂.device.buffers.get? buffer = some b := by
    rw [← d₂]
    exact hb
  have hfull : ¬(Block.zeros room).size < 0 + b.size := by
    rw [Block.size_zeros, Nat.zero_add]
    exact Nat.not_lt.mpr hroom.2.1
  rw [Device.bind, hm₂, hb₂] at hbdd
  dsimp only at hbdd
  rw [hu, if_neg (by decide), if_neg hfull, Prod.mk.injEq] at hbdd
  obtain ⟨rfl, d₃⟩ := hbdd
  cases h
  refine ⟨(s₂.trans (.of_call (bind_passage hbd) rfl)).tell _,
    not_obstacle_zero.mpr ⟨hfit.not_noFit, hbudget⟩, i, room, hfit, hroom, rfl, ?_⟩
  show g₃.device = _
  rw [← d₃, ← d₂]

theorem createBacked_plain {r : Except TensorError BackedBuffer} (hg : Plain types g)
    (h0 : 0 < size) (h : g.createBacked size need = (r, g')) :
    Smooth g g' ∧ match r with
      | .error e => Obstacle types g.device.allocationBudget 0 need e
      | .ok b => (∀ e, ¬Obstacle types g.device.allocationBudget 0 need e) ∧
          g'.device.Meets types size need b ∧ g'.device.isMapped b.memory.handle = false ∧
          g'.device.allocationBudget = g.device.allocationBudget.map (· - 1) := by
  unfold createBacked at h
  cases hc : g.createBuffer size need.usage with
  | mk r₁ g₁ =>
  have s₁ := Smooth.of_call (createBuffer_passage hc) rfl
  have hg₁ := (createBuffer_passage hc).plain hg
  have hcd := createBuffer_plain hg.faults hc
  rw [Device.createBuffer_of_pos _ _ h0, Prod.mk.injEq] at hcd
  obtain ⟨rfl, d₁⟩ := hcd
  rw [hc] at h
  dsimp only at h
  have hb : g₁.device.buffers.get? (g.device.issued + 1) = some ⟨size, need.usage, none⟩ := by
    rw [← d₁, Table.get?_insert, if_pos rfl]
  have hbudget : g₁.device.allocationBudget = g.device.allocationBudget := by rw [← d₁]
  cases hp : g₁.provideMemory (g.device.issued + 1) need with
  | mk r₂ g₂ =>
  obtain ⟨s₂, hr⟩ := provideMemory_plain hg₁ hb rfl hp
  rw [hp] at h
  cases r₂ with
  | error e =>
    cases h
    exact ⟨(s₁.trans s₂).destroyBuffer _, hbudget ▸ hr⟩
  | ok memory =>
    cases h
    obtain ⟨hnone, i, room, hfit, hroom, -, d₂⟩ := hr
    rw [hbudget] at hnone d₂
    have hm : g'.device.memories.get? memory = some ⟨.zeros room, i, false⟩ := by
      rw [d₂, Table.get?_insert, if_pos rfl]
    refine ⟨s₁.trans s₂, hnone, ⟨⟨rfl, rfl⟩, ?_, _, hm, hfit, hroom⟩, ?_, by rw [d₂]⟩
    · rw [d₂]
      dsimp only [BackedBuffer.owned, HeldHandle.owned]
      rw [Table.get?_modify, if_pos rfl, hb]
      rfl
    · dsimp only [BackedBuffer.owned, HeldHandle.owned]
      rw [Device.isMapped, hm]
      rfl

/-! ## All requests -/

/-- A request is met, and its memory not mapped yet. -/
def Grants (d : Device) (types : List Mask) (size : Nat) (need : BufferNeed) (b : BackedBuffer) :
    Prop :=
  d.Meets types size need b ∧ d.isMapped b.memory.handle = false

/-- What was granted before stays so while something else is. -/
theorem Gained.grants {cs : List Call} {ps : List BoundPair} {b : BackedBuffer}
    (h : Gained g g' cs ps) (hg : g.device.Numbered) (hb : Grants g.device types size need b) :
    Grants g'.device types size need b := by
  refine ⟨(hb.1.withPairs hg h.fresh).of_unchanged h.device, ?_⟩
  rw [h.device.isMapped, Device.isMapped_withPairs hg h.fresh]
  exact hb.2

theorem obtainBacking_plain {kind : Placement} {r : Except TensorError Backing}
    (hg : Plain types g) (h0 : 0 < size) (h : g.obtainBacking kind size none none = (r, g')) :
    Smooth g g' ∧ match r with
      | .error e => FirstObstacle types g.device.allocationBudget kind.requests e
      | .ok b => (∀ e, ¬FirstObstacle types g.device.allocationBudget kind.requests e) ∧
          List.Forall₂ (Grants g'.device types size) kind.requests b.buffers := by
  unfold obtainBacking obtainBacked at h
  rw [if_neg (by simp)] at h
  dsimp only at h
  unfold Placement.requests
  simp only [firstObstacle_cons]
  cases hc : g.createBacked size kind.needs.primary with
  | mk r₁ g₁ =>
  obtain ⟨s₁, h₁⟩ := createBacked_plain hg h0 hc
  rw [hc] at h
  cases r₁ with
  | error e =>
    cases h
    exact ⟨s₁, .inl h₁⟩
  | ok first =>
  obtain ⟨hnone, hmeets, hfree, hbudget⟩ := h₁
  dsimp only at h
  split at h
  · next hn =>
    cases h
    refine ⟨s₁, ?_, ?_⟩
    · rintro e (ho | ⟨-, ho⟩)
      · exact hnone e ho
      · rw [hn] at ho
        exact not_firstObstacle_nil ho
    · rw [hn]
      exact .cons ⟨hmeets, hfree⟩ .nil
  next need hn =>
  obtain ⟨cs₁, hspec₁⟩ := createBacked_spec hg.numbered h0 hc
  obtain ⟨p, hgained₁, -⟩ := hspec₁
  have hg₁ := hgained₁.passage.plain hg
  cases hc₂ : g₁.createBacked size need with
  | mk r₂ g₂ =>
  obtain ⟨s₂, h₂⟩ := createBacked_plain hg₁ h0 hc₂
  rw [hc₂] at h
  rw [hbudget] at h₂
  rw [hn]
  simp only [Option.toList_some, firstObstacle_cons]
  cases r₂ with
  | error e =>
    cases h
    exact ⟨(s₁.trans s₂).release first, .inr ⟨hnone, .inl h₂⟩⟩
  | ok second =>
    cases h
    obtain ⟨hnone₂, hmeets₂, hfree₂, -⟩ := h₂
    obtain ⟨cs₂, hspec₂⟩ := createBacked_spec hg₁.numbered h0 hc₂
    obtain ⟨q, hgained₂, -⟩ := hspec₂
    refine ⟨s₁.trans s₂, ?_, ?_⟩
    · rintro e (ho | ⟨-, ho | ⟨-, ho⟩⟩)
      · exact hnone e ho
      · exact hnone₂ e ho
      · exact not_firstObstacle_nil ho
    · exact .cons (hgained₂.grants hg₁.numbered ⟨hmeets, hfree⟩) (.cons ⟨hmeets₂, hfree₂⟩ .nil)

/-- The request behind the host's side is one for memory that the host can see. -/
theorem hostSide_visible {R : BufferNeed → BackedBuffer → Prop} {kind : Placement} {b : Backing}
    {x : BackedBuffer} (h : List.Forall₂ R kind.requests b.buffers)
    (hx : b.hostSide kind = some x) :
    ∃ need, need.memoryFlags.contains MemoryFlags.hostVisible = true ∧ R need x := by
  cases kind with
  | device =>
    have hs : b.staging = some x := hx
    rw [Backing.buffers, hs] at h
    cases h with
    | cons _ h =>
      cases h with
      | cons hr _ => exact ⟨_, by decide, hr⟩
  | host =>
    cases hx
    cases h with
    | cons hr _ => exact ⟨_, by decide, hr⟩
  | storage => cases hx

theorem mapAndFill_smooth {b : BackedBuffer} {data : Option Block} {place : Place}
    (h : g.mapAndFill b size data = (.ok place, g')) : Smooth g g' := by
  unfold mapAndFill at h
  dsimp only at h
  cases hm : g.map b.memory.handle 0 size with
  | mk r g₁ =>
  have hp := map_passage hm
  rw [hm] at h
  rcases r with s | (_ | place)
  · cases h
  · cases h
  have hs : Smooth g g₁ := .of_call hp rfl
  dsimp only at h
  cases data with
  | some data =>
    cases h
    exact hs
  | none =>
    dsimp only at h
    split at h <;> cases h
    · exact hs
    · exact hs

theorem furnish_plain {kind : Placement} {dtype : ElementType} {data : Option Block}
    {r : Except TensorError Resources} (hg : Plain types g) (h0 : 0 < size * dtype.width)
    (hlt : size * dtype.width < sizeLimit)
    (h : g.furnish kind dtype size data none none = (r, g')) :
    Smooth g g' ∧ match r with
      | .error e => FirstObstacle types g.device.allocationBudget kind.requests e
      | .ok r => (∀ e, ¬FirstObstacle types g.device.allocationBudget kind.requests e) ∧
          List.Forall₂ (g'.device.Meets types (size * dtype.width)) kind.requests
            r.backing.buffers := by
  unfold furnish at h
  dsimp only at h
  cases ho : g.obtainBacking kind (size * dtype.width) none none with
  | mk r₁ g₁ =>
  obtain ⟨s₁, h₁⟩ := obtainBacking_plain hg h0 ho
  obtain ⟨cs, hspec⟩ := obtainBacking_spec hg.numbered h0 ho
  rw [ho] at h
  cases r₁ with
  | error e =>
    cases h
    exact ⟨s₁, h₁⟩
  | ok backing =>
  obtain ⟨hnone, hgrants⟩ := h₁
  obtain ⟨ps, qs, hgained, -⟩ := hspec
  have hg₁ := hgained.passage.plain hg
  dsimp only at h
  split at h
  · next hside =>
    have hmet : List.Forall₂ (g₁.device.Meets types (size * dtype.width)) kind.requests
        backing.buffers := hgrants.imp fun _ _ hb => hb.1
    cases data with
    | none =>
      cases h
      exact ⟨s₁, hnone, hmet⟩
    | some block =>
      cases h
      exact ⟨s₁, hnone, hmet⟩
  next b hside =>
  obtain ⟨need, hvisible, hmeets, hfree⟩ := hostSide_visible hgrants hside
  obtain ⟨room, hroom, hmappable⟩ := hmeets.mappable hg₁.properties hfree hvisible
  have hshift : g₁.faults.mapShift = 0 := by
    rw [hg₁.faults]
    rfl
  have hfault : g₁.faults.map g₁.served.map = none := by
    rw [hg₁.faults]
    rfl
  obtain ⟨g₂, hm⟩ := mapAndFill_mappable hmappable (by rw [hshift, Nat.zero_add]; exact hroom) hlt
    hfault data
  rw [hm] at h
  cases h
  obtain ⟨cs₂, hmapped⟩ := mapAndFill_spec hlt hm
  refine ⟨((s₁.trans (mapAndFill_smooth hm)).tell _).tell _, hnone, hgrants.imp ?_⟩
  intro need' b' hb
  have hdevice := hmapped.device
  show g₂.device.Meets types (size * dtype.width) need' b'
  rw [hdevice]
  exact hb.1.mapFilled _ _

end Gateway

theorem TensorPlan.build_plain {types : List Mask} {plan : TensorPlan} {g g' : Gateway} {n : Nat}
    {r : Except TensorError Tensor} (hg : g.Plain types) (hl : plan.Fits n)
    (hp : plan.primary = none) (hs : plan.staging = none) (h : plan.build g = (r, g')) :
    g.Smooth g' ∧ match r with
      | .error e => FirstObstacle types g.device.allocationBudget plan.kind.requests e
      | .ok t => (∀ e, ¬FirstObstacle types g.device.allocationBudget plan.kind.requests e) ∧
          ∃ resources, t = ⟨plan.kind, plan.dtype, n, .live resources⟩ ∧
            List.Forall₂ (g'.device.Meets types (n * plan.dtype.width)) plan.kind.requests
              resources.backing.buffers := by
  have h0 := Nat.mul_pos hl.positive plan.dtype.width_pos
  unfold build at h
  rw [layout_of_fits hl, hp, hs] at h
  dsimp only at h
  cases hf : g.furnish plan.kind plan.dtype n plan.data none none with
  | mk r₁ g₁ =>
  obtain ⟨hsmooth, hspec⟩ := Gateway.furnish_plain hg h0 hl.bounded hf
  rw [hf] at h
  cases r₁ with
  | error e =>
    cases h
    exact ⟨hsmooth, hspec⟩
  | ok resources =>
    cases h
    exact ⟨hsmooth.tell _, hspec.1, resources, rfl, hspec.2⟩

/-- A construction that borrows nothing fails with the obstacle of the first request that has one.
If none has, it succeeds, and every request of the placement is met. On the way no binding and no
mapping fails. -/
theorem construction_succeeds_iff {types : List Mask} {ops : List Device.Operation} {g : Gateway}
    {plan : TensorPlan} {n : Nat} (hd : g.device = (Device.ofTypes types).run ops)
    (hf : g.faults = .none) (hl : plan.Fits n) (hp : plan.primary = none)
    (hs : plan.staging = none) :
    (∀ e, (plan.build g).1 = .error e ↔
      FirstObstacle types g.device.allocationBudget plan.kind.requests e) ∧
    ((∃ t, (plan.build g).1 = .ok t) ↔ ∀ k need e, plan.kind.requests[k]? = some need →
      ¬Obstacle types g.device.allocationBudget k need e) ∧
    (∀ t, (plan.build g).1 = .ok t → ∃ r, t = ⟨plan.kind, plan.dtype, n, .live r⟩ ∧
      List.Forall₂ ((plan.build g).2.device.Meets types (n * plan.dtype.width))
        plan.kind.requests r.backing.buffers) ∧
    g.Smooth (plan.build g).2 := by
  have hplain : Gateway.Plain types g :=
    { numbered := Device.Reachable.numbered ⟨types, ops, hd⟩
      properties := by rw [hd, Device.properties_run]; rfl
      faults := hf }
  cases hb : plan.build g with
  | mk r g' =>
  obtain ⟨hsmooth, hspec⟩ := TensorPlan.build_plain hplain hl hp hs hb
  cases r with
  | error e =>
    obtain ⟨k, need, hk, ho, -⟩ := id hspec
    refine ⟨fun e' => ⟨?_, ?_⟩, iff_of_false ?_ ?_, ?_, hsmooth⟩
    · rintro ⟨⟩
      exact hspec
    · intro h
      rw [hspec.unique h]
    · rintro ⟨t, ⟨⟩⟩
    · exact fun h => h k need e hk ho
    · rintro t ⟨⟩
  | ok t =>
    obtain ⟨hnone, resources, rfl, hmet⟩ := hspec
    refine ⟨fun e' => iff_of_false ?_ (hnone e'), iff_of_true ⟨_, rfl⟩ ?_, ?_, hsmooth⟩
    · rintro ⟨⟩
    · intro k need e hk ho
      obtain ⟨e', he⟩ := ho.exists_first hk
      exact hnone e' he
    · rintro t ⟨⟩
      exact ⟨resources, rfl, hmet⟩

/-- A device whose first type suits neither request of a tensor with a staging copy, whose second
suits both, and which has so many allocations left. -/
def rationed (count : Nat) : Gateway :=
  .ofDevice ((Device.ofTypes [MemoryFlags.hostVisible,
    MemoryFlags.deviceLocal ||| Placement.hostCoherent, Placement.hostCoherent]).run
    [.limitAllocations count])

def ownedPlan : TensorPlan := { dtype := .float, kind := .device, elements := some 4 }

theorem construction_succeeds_iff_rationed :
    (ownedPlan.build (rationed 1)).1 = .error (.backend "vkAllocateMemory" .outOfDeviceMemory) ∧
      ∃ t, (ownedPlan.build (rationed 2)).1 = .ok t := by
  have hfits : ownedPlan.Fits 4 := ⟨by decide, .inl rfl, by decide, by decide, by decide⟩
  have hfit {required : Mask} (h : (MemoryFlags.deviceLocal ||| Placement.hostCoherent).contains
      required = true) : ¬NoFit [MemoryFlags.hostVisible,
        MemoryFlags.deviceLocal ||| Placement.hostCoherent, Placement.hostCoherent] required :=
    fun hno => Bool.false_ne_true ((hno 1 (by decide) _ rfl).symm.trans h)
  have hfirst : ∀ e, ¬Obstacle _ (some 1) 0 Placement.device.needs.primary e :=
    not_obstacle_zero.mpr ⟨hfit (by decide), by decide⟩
  refine ⟨((construction_succeeds_iff (g := rationed 1) rfl rfl hfits rfl rfl).1 _).mpr
    ⟨1, _, rfl, .spent (hfit (by decide)) rfl (Nat.le_refl 1), ?_⟩, ?_⟩
  · intro j hj need hn e
    obtain rfl : j = 0 := Nat.lt_one_iff.mp hj
    cases hn
    exact hfirst e
  · refine (construction_succeeds_iff (g := rationed 2) rfl rfl hfits rfl rfl).2.1.mpr ?_
    intro k need e hk ho
    have hlt : k < 2 := (List.getElem?_eq_some_iff.mp hk).1
    cases ho with
    | missing h =>
      refine hfit ?_ h
      match k, hlt with
      | 0, _ => cases hk; decide
      | 1, _ => cases hk; decide
    | spent _ hb hle =>
      cases hb
      omega

end TensorMemory
