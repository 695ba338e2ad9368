import TensorMemory.Proofs.Tensor.Construction
import TensorMemory.Tensor.Synchronization

/-!
Assets that tensor code holds. Everything a tensor does with its device is an exchange: assets that
it held are given back and new ones taken in, and what its calls created and released adds up to
exactly that. An exchange leaves all other assets alone, save for a memory that it maps or unmaps.
-/

namespace TensorMemory

open Device (Unchanged Frame)

namespace BackedBuffer

/-- What of it the tensor owns. -/
def assets (b : BackedBuffer) : List Asset :=
  (if b.buffer.isOwned then [.buffer b.buffer.handle] else []) ++
    if b.memory.isOwned then [.memory b.memory.handle] else []

/-- What of it the tensor has on loan. -/
def loans (b : BackedBuffer) : List Asset :=
  (if b.buffer.isOwned then [] else [.buffer b.buffer.handle]) ++
    if b.memory.isOwned then [] else [.memory b.memory.handle]

end BackedBuffer

namespace Backing

def buffers (b : Backing) : List BackedBuffer := b.primary :: b.staging.toList

def assets (b : Backing) : List Asset := b.buffers.flatMap BackedBuffer.assets

def loans (b : Backing) : List Asset := b.buffers.flatMap BackedBuffer.loans

end Backing

/-- The memory that is mapped for the host, if one is. -/
def Resources.mapped (r : Resources) (kind : Placement) : List Asset :=
  match r.mapping, r.backing.hostSide kind with
  | some _, some b => [.memory b.memory.handle]
  | _, _ => []

namespace Tensor

def assets (t : Tensor) : List Asset := (t.resources?.map (·.backing.assets)).getD []

def loans (t : Tensor) : List Asset := (t.resources?.map (·.backing.loans)).getD []

def mapped (t : Tensor) : List Asset := (t.resources?.map (·.mapped t.kind)).getD []

variable {t : Tensor} {r : Resources}

theorem resources?_eq_some : t.resources? = some r ↔ t.residence = .live r := by
  unfold resources?
  cases t.residence <;> simp

theorem isAttached_eq_false : t.isAttached = false ↔ t.residence = .detached := by
  simp [isAttached]

theorem assets_of_live (h : t.residence = .live r) : t.assets = r.backing.assets := by
  simp [assets, resources?_eq_some.mpr h]

theorem loans_of_live (h : t.residence = .live r) : t.loans = r.backing.loans := by
  simp [loans, resources?_eq_some.mpr h]

theorem mapped_of_live (h : t.residence = .live r) : t.mapped = r.mapped t.kind := by
  simp [mapped, resources?_eq_some.mpr h]

/-- A tensor that is detached has no resources. -/
theorem resources?_of_detached (h : t.residence = .detached) : t.resources? = none := by
  simp [resources?, h]

end Tensor

namespace Gateway

/-- `taken` holds what was given back, and every older memory that was mapped or unmapped. -/
structure Exchange (g g' : Gateway) (cs : List Call) (taken gone new : List Asset) : Prop where
  passage : ∃ ms, Passage g g' cs ms
  ledger : (Call.created cs ++ gone).Perm (Call.released cs ++ new)
  frame : Frame g.device g'.device taken gone
  live : ∀ a, a ∈ g'.device.assets ↔ a ∈ g.device.assets ∧ a ∉ gone ∨ a ∈ new
  fresh : ∀ a ∈ new, a ∈ gone ∨ a ∈ Call.created cs

namespace Exchange

variable {g g' g'' : Gateway} {cs cs' : List Call} {taken taken' gone gone' new : List Asset}

theorem trans (h : Exchange g g' cs taken gone []) (h' : Exchange g' g'' cs' taken' gone' new) :
    Exchange g g'' (cs ++ cs') (taken ++ taken') (gone ++ gone') new where
  passage := by
    obtain ⟨ms, hp⟩ := h.passage
    obtain ⟨ms', hp'⟩ := h'.passage
    exact ⟨ms ++ ms', hp.trans hp'⟩
  ledger := by
    have hl := h.ledger
    rw [List.append_nil] at hl
    rw [Call.created_append, Call.released_append]
    calc Call.created cs ++ Call.created cs' ++ (gone ++ gone')
        _ = Call.created cs ++ (Call.created cs' ++ gone ++ gone') := by simp
        _ |>.Perm (Call.created cs ++ (gone ++ Call.created cs' ++ gone')) :=
          .append_left _ (.append_right _ List.perm_append_comm)
        _ = Call.created cs ++ gone ++ (Call.created cs' ++ gone') := by simp
        _ |>.Perm (Call.released cs ++ (Call.released cs' ++ new)) := hl.append h'.ledger
        _ = Call.released cs ++ Call.released cs' ++ new := by simp
  frame := h.frame.trans h'.frame
  live a := by
    rw [h'.live, h.live, List.mem_append, not_or]
    simp only [List.not_mem_nil, or_false, and_assoc]
  fresh a ha := by
    rw [Call.created_append, List.mem_append, List.mem_append]
    rcases h'.fresh a ha with hf | hf
    · exact .inl (.inr hf)
    · exact .inr (.inr hf)

theorem tell (h : Exchange g g' cs taken gone new) (n : Notice) :
    Exchange g (g'.tell n) cs taken gone new where
  passage := by
    obtain ⟨ms, hp⟩ := h.passage
    have ht := hp.trans (.tell g' n)
    rw [List.append_nil] at ht
    exact ⟨_, ht⟩
  ledger := h.ledger
  frame := h.frame
  live := h.live
  fresh := h.fresh

theorem weaken (h : Exchange g g' cs taken gone new) (ht : taken ⊆ taken') :
    Exchange g g' cs taken' gone new :=
  ⟨h.passage, h.ledger, h.frame.weaken ht fun _ ha => ha, h.live, h.fresh⟩

/-- A step that creates and releases nothing. -/
theorem of_frame {ms : List MetricEvent} (hp : Passage g g' cs ms) (hc : Call.created cs = [])
    (hr : Call.released cs = []) (hf : Frame g.device g'.device taken [])
    (ha : ∀ a, a ∈ g'.device.assets ↔ a ∈ g.device.assets) : Exchange g g' cs taken [] [] where
  passage := ⟨ms, hp⟩
  ledger := by rw [hc, hr]
  frame := hf
  live a := by rw [ha]; simp
  fresh a ha := by cases ha

theorem refl (g : Gateway) : Exchange g g [] [] [] [] :=
  of_frame (.refl g) rfl rfl (.refl _) fun _ => .rfl

/-- What is held all along may be counted as given back and taken in again. -/
theorem retain (h : Exchange g g' cs taken [] []) {held : List Asset}
    (hl : ∀ a ∈ held, a ∈ g.device.assets) : Exchange g g' cs taken held held where
  passage := h.passage
  ledger := by
    have hl := h.ledger
    rw [List.append_nil, List.append_nil] at hl
    exact hl.append_right _
  frame := h.frame.weaken (fun _ ha => ha) (by simp)
  live a := by
    have ha := h.live a
    simp only [List.not_mem_nil, not_false_eq_true, and_true, or_false] at ha
    rw [ha]
    constructor
    · intro hd
      by_cases hh : a ∈ held
      · exact .inr hh
      · exact .inl ⟨hd, hh⟩
    · rintro (⟨hd, -⟩ | hh)
      · exact hd
      · exact hl a hh
  fresh a ha := .inl ha

end Exchange

variable {g g' : Gateway}

/-! ## Giving back -/

theorem destroyBuffer_exchange (hg : g.device.Numbered) (buffer : Handle) :
    Exchange g (g.destroyBuffer buffer) [.destroyBuffer buffer] [.buffer buffer] [.buffer buffer]
      [] where
  passage := ⟨[], destroyBuffer_passage g buffer⟩
  ledger := .refl _
  frame := .destroyBuffer g.device buffer
  live a := by
    rw [List.mem_singleton, or_iff_left List.not_mem_nil]
    exact Device.mem_assets_destroyBuffer hg buffer a
  fresh a ha := by cases ha

theorem freeMemory_exchange (hg : g.device.Numbered) (memory : Handle) :
    Exchange g (g.freeMemory memory) [.freeMemory memory] [.memory memory] [.memory memory]
      [] where
  passage := ⟨[], freeMemory_passage g memory⟩
  ledger := .refl _
  frame := .freeMemory g.device memory
  live a := by
    rw [List.mem_singleton, or_iff_left List.not_mem_nil]
    exact Device.mem_assets_freeMemory hg memory a
  fresh a ha := by cases ha

theorem unmap_exchange (g : Gateway) (memory : Handle) :
    Exchange g (g.unmap memory) [.unmap memory] [.memory memory] [] [] :=
  .of_frame (unmap_passage g memory) rfl rfl (.unmap g.device memory)
    (Device.mem_assets_unmap g.device memory)

theorem Exchange.numbered {cs : List Call} {taken gone new : List Asset}
    (h : Exchange g g' cs taken gone new) (hg : g.device.Numbered) : g'.device.Numbered := by
  obtain ⟨ms, hp⟩ := h.passage
  exact hp.numbered hg

theorem Exchange.faults {cs : List Call} {taken gone new : List Asset}
    (h : Exchange g g' cs taken gone new) : g'.faults = g.faults := by
  obtain ⟨ms, hp⟩ := h.passage
  exact hp.faults

end Gateway

open Gateway (Exchange)

theorem BackedBuffer.release_exchange {g : Gateway} (hg : g.device.Numbered) (b : BackedBuffer) :
    ∃ cs, Exchange g (b.release g) cs b.assets b.assets [] := by
  have hbuffer : ∃ cs, Exchange g (if b.buffer.isOwned then g.destroyBuffer b.buffer.handle else g)
      cs (if b.buffer.isOwned then [.buffer b.buffer.handle] else [])
      (if b.buffer.isOwned then [.buffer b.buffer.handle] else []) [] := by
    split
    · exact ⟨_, Gateway.destroyBuffer_exchange hg _⟩
    · exact ⟨_, .refl g⟩
  obtain ⟨cs, hb⟩ := hbuffer
  unfold release assets
  revert hb
  generalize (if b.buffer.isOwned then g.destroyBuffer b.buffer.handle else g) = g₁
  intro hb
  dsimp only
  split
  · exact ⟨_, hb.trans (Gateway.freeMemory_exchange (hb.numbered hg) _)⟩
  · exact ⟨_, hb.trans (.refl g₁)⟩

theorem Backing.release_exchange {g : Gateway} (hg : g.device.Numbered) (b : Backing) :
    ∃ cs, Exchange g (b.release g) cs b.assets b.assets [] := by
  obtain ⟨cs, hp⟩ := b.primary.release_exchange hg
  unfold release assets buffers
  rw [List.flatMap_cons]
  cases b.staging with
  | none => exact ⟨_, hp.trans (.refl _)⟩
  | some s =>
    obtain ⟨cs', hs⟩ := s.release_exchange (hp.numbered hg)
    have hf : (some s).toList.flatMap BackedBuffer.assets = s.assets := List.flatMap_singleton ..
    rw [hf]
    exact ⟨_, hp.trans hs⟩

theorem Resources.release_exchange {g : Gateway} (hg : g.device.Numbered) (r : Resources)
    (kind : Placement) :
    ∃ cs, Exchange g (r.release kind g) cs (r.mapped kind ++ r.backing.assets) r.backing.assets
      [] := by
  have hunmap : ∃ cs, Exchange g (match r.mapping, r.backing.hostSide kind with
      | some _, some backed => g.unmap backed.memory.handle
      | _, _ => g) cs (r.mapped kind) [] [] := by
    unfold mapped
    split
    · exact ⟨_, Gateway.unmap_exchange g _⟩
    · exact ⟨_, .refl g⟩
  obtain ⟨cs, hu⟩ := hunmap
  obtain ⟨cs', hr⟩ := r.backing.release_exchange (hu.numbered hg)
  exact ⟨_, hu.trans hr⟩

namespace Tensor

theorem releaseHoldings_exchange {g : Gateway} (hg : g.device.Numbered) (t : Tensor) :
    ∃ cs, Exchange g (t.releaseHoldings g) cs (t.mapped ++ t.assets) t.assets [] := by
  unfold releaseHoldings mapped assets resources?
  cases t.residence with
  | live r => exact r.release_exchange hg t.kind
  | vacant => exact ⟨_, .refl g⟩
  | detached => exact ⟨_, .refl g⟩

theorem destroy_exchange {g : Gateway} (hg : g.device.Numbered) (t : Tensor) :
    ∃ cs, Exchange g (t.destroy g).2 cs (t.mapped ++ t.assets) t.assets [] := by
  unfold destroy Gateway.announceTeardown
  split
  · next h =>
    have hnone := resources?_of_detached (isAttached_eq_false.mp (by simpa using h))
    have hassets : t.assets = [] := by simp [assets, hnone]
    rw [hassets]
    exact ⟨_, ((Exchange.refl g).tell _).weaken (List.nil_subset _)⟩
  obtain ⟨cs, hr⟩ := t.releaseHoldings_exchange hg
  dsimp only
  split
  · exact ⟨cs, (hr.tell _).tell _⟩
  · exact ⟨cs, hr⟩

/-- A destroyed tensor holds nothing. -/
theorem destroy_residence (t : Tensor) (g : Gateway) : (t.destroy g).1.residence = .detached := by
  unfold destroy
  split
  · next h => exact isAttached_eq_false.mp (by simpa using h)
  · rfl

@[simp] theorem resources?_destroy (t : Tensor) (g : Gateway) :
    (t.destroy g).1.resources? = none := resources?_of_detached (t.destroy_residence g)

@[simp] theorem assets_destroy (t : Tensor) (g : Gateway) : (t.destroy g).1.assets = [] := by
  simp [assets]

@[simp] theorem loans_destroy (t : Tensor) (g : Gateway) : (t.destroy g).1.loans = [] := by
  simp [loans]

@[simp] theorem mapped_destroy (t : Tensor) (g : Gateway) : (t.destroy g).1.mapped = [] := by
  simp [mapped]

end Tensor

/-! ## Taking in -/

def LentBuffer.assets (l : LentBuffer) : List Asset := [.buffer l.buffer, .memory l.memory]

/-- What the caller lends to the tensor. -/
def TensorPlan.loans (plan : TensorPlan) : List Asset :=
  (plan.primary.toList ++ plan.staging.toList).flatMap LentBuffer.assets

namespace Gateway

variable {g g' : Gateway} {cs : List Call}

theorem Supplied.assets {size : Nat} {need : BufferNeed} {lent : Option LentBuffer}
    {b : BackedBuffer} {ps : List BoundPair} (h : Supplied size need lent b ps) :
    b.assets = ps.flatMap BoundPair.assets := by
  cases h <;> rfl

theorem Supplied.loans {size : Nat} {need : BufferNeed} {lent : Option LentBuffer}
    {b : BackedBuffer} {ps : List BoundPair} (h : Supplied size need lent b ps) :
    b.loans = lent.toList.flatMap LentBuffer.assets := by
  cases h <;> rfl

namespace Backed

variable {kind : Placement} {size : Nat} {primary staging : Option LentBuffer} {b : Backing}
  {ps qs : List BoundPair}

theorem assets (h : Backed kind size primary staging b ps qs) :
    b.assets = (ps ++ qs).flatMap BoundPair.assets := by
  have hs := h.staging
  rw [Backing.assets, Backing.buffers, List.flatMap_cons, List.flatMap_append, h.primary.assets]
  congr 1
  cases hn : kind.needs.staging with
  | none =>
    rw [hn] at hs
    obtain ⟨hs, rfl⟩ := hs
    rw [hs]
    rfl
  | some need =>
    rw [hn] at hs
    obtain ⟨s, hs, hq⟩ := hs
    rw [hs, ← hq.assets]
    exact List.flatMap_singleton ..

theorem loans (h : Backed kind size primary staging b ps qs) :
    b.loans ⊆ (primary.toList ++ staging.toList).flatMap LentBuffer.assets := by
  have hs := h.staging
  rw [Backing.loans, Backing.buffers, List.flatMap_cons, List.flatMap_append, h.primary.loans]
  refine List.append_subset.mpr ⟨List.subset_append_left .., ?_⟩
  refine List.Subset.trans ?_ (List.subset_append_right ..)
  cases hn : kind.needs.staging with
  | none =>
    rw [hn] at hs
    rw [hs.1]
    exact List.nil_subset _
  | some need =>
    rw [hn] at hs
    obtain ⟨s, hs, hq⟩ := hs
    rw [hs, ← hq.loans]
    exact fun a ha => by simpa using ha

end Backed

theorem Gained.exchange {ps : List BoundPair} (h : Gained g g' cs ps) :
    Exchange g g' cs [] [] (ps.flatMap BoundPair.assets) where
  passage := ⟨[], h.passage⟩
  ledger := by
    rw [List.append_nil]
    exact h.ledger
  frame := (Device.frame_withPairs h.fresh).trans (h.device.frame h.passage.issued_le)
  live a := by
    rw [h.device.assets, Device.mem_assets_withPairs]
    simp
  fresh a ha := .inr (h.ledger.mem_iff.mpr (List.mem_append_right _ ha))

theorem mem_assets_mapFilled (d : Device) (place : Place) (fill : Option Block) (a : Asset) :
    a ∈ (d.mapFilled place fill).assets ↔ a ∈ d.assets := by
  simp only [Device.assets, Device.mapFilled, Table.keys_modify]

namespace Furnished

variable {kind : Placement} {dtype : ElementType} {size : Nat} {data : Option Block}
  {primary staging : Option LentBuffer} {r : Resources} {ps qs : List BoundPair}

/-- The device is one with the pairs, of which only the mapped memory has been changed. -/
theorem device_cases (h : Furnished g g' kind dtype size data primary staging r cs ps qs) :
    r.mapped kind = [] ∧ Unchanged (g.device.withPairs (ps ++ qs)) g'.device ∨
      ∃ place fill, r.mapped kind = [.memory place.memory] ∧
        Unchanged ((g.device.withPairs (ps ++ qs)).mapFilled place fill) g'.device := by
  have hd := h.device
  unfold Resources.mapped
  cases hs : r.backing.hostSide kind with
  | none =>
    rw [hs] at hd
    rw [hd.1]
    exact .inl ⟨rfl, hd.2⟩
  | some b =>
    rw [hs] at hd
    obtain ⟨m, hm, -, -, -, hu⟩ := hd
    rw [hm]
    exact .inr ⟨_, _, rfl, hu⟩

theorem exchange (h : Furnished g g' kind dtype size data primary staging r cs ps qs) :
    Exchange g g' cs (r.mapped kind) [] r.backing.assets where
  passage := ⟨_, h.passage⟩
  ledger := by
    rw [List.append_nil, h.backed.assets]
    exact h.ledger
  frame := by
    have hf := Device.frame_withPairs (h.passage.fresh_pairs h.ledger)
    rcases h.device_cases with ⟨hr, hu⟩ | ⟨place, fill, hr, hu⟩
    · rw [hr]
      exact hf.trans (hu.frame h.passage.issued_le)
    · rw [hr]
      exact hf.trans ((Frame.modifyMemory _ place.memory _).trans (hu.frame h.passage.issued_le))
  live a := by
    rw [h.backed.assets]
    rcases h.device_cases with ⟨-, hu⟩ | ⟨place, fill, -, hu⟩
    · rw [hu.assets, Device.mem_assets_withPairs]
      simp
    · rw [hu.assets, mem_assets_mapFilled, Device.mem_assets_withPairs]
      simp
  fresh a ha := by
    rw [h.backed.assets] at ha
    exact .inr (h.ledger.mem_iff.mpr (List.mem_append_right _ ha))

/-- What the tensor owns then has later handles than anything before. -/
theorem later (h : Furnished g g' kind dtype size data primary staging r cs ps qs) {a : Asset}
    (ha : a ∈ r.backing.assets) : g.device.issued < a.handle ∧ a.handle ≤ g'.device.issued :=
  h.passage.fresh a ((h.exchange.fresh a ha).resolve_left List.not_mem_nil)

end Furnished
end Gateway

/-- A build takes in what the new tensor holds, and nothing if it fails. -/
theorem TensorPlan.build_exchange {g g' : Gateway} {plan : TensorPlan}
    {r : Except TensorError Tensor} (hg : g.device.Numbered) (h : plan.build g = (r, g')) :
    ∃ cs, match r with
      | .error _ => Exchange g g' cs [] [] []
      | .ok t => Exchange g g' cs t.mapped [] t.assets ∧ t.loans ⊆ plan.loans := by
  obtain ⟨cs, hs⟩ := build_spec hg h
  cases r with
  | error e => exact ⟨cs, hs.exchange⟩
  | ok t =>
    obtain ⟨n, resources, ps, qs, rfl, -, -, -, hf⟩ := hs
    exact ⟨cs, hf.exchange, hf.backed.loans⟩

namespace Tensor

/-- A rebuild is refused before it begins, or the tensor gives back what it holds and is furnished
anew. -/
theorem rebuild_spec {g : Gateway} (hg : g.device.Numbered) (t : Tensor) (data : Block)
    (size elementSize : Nat) :
    (∃ e, (t.isAttached = false ∨ ∃ e', checkLayout t.dtype (some data.size) size elementSize =
        .error e') ∧ t.rebuild g data size elementSize = (.error e, t, g)) ∨
      ∃ g₀ cs r g', t.isAttached = true ∧
        checkLayout t.dtype (some data.size) size elementSize = .ok (size * t.dtype.width) ∧
        Exchange g g₀ cs (t.mapped ++ t.assets) t.assets [] ∧
        g₀.device = (t.releaseHoldings g).device ∧
        t.rebuild g data size elementSize = (r.map fun _ => (), t.rebuilt size r, g') ∧
        ∃ cs : List Call, match r with
        | .error _ => Gateway.Gained g₀ g' cs []
        | .ok r => ∃ ps qs, Gateway.Furnished g₀ g' t.kind t.dtype size (some data) none none r cs
            ps qs := by
  rcases t.rebuild_cases g data size elementSize with hr | ⟨notice, r, g', -, ha, hl, hf, he⟩
  · exact .inl hr
  obtain ⟨-, h0, hlt, -⟩ := checkLayout_ok hl
  obtain ⟨cs, hx⟩ := t.releaseHoldings_exchange hg
  have hx := hx.tell notice
  exact .inr ⟨_, cs, r, g', ha, hl, hx, rfl, he,
    Gateway.furnish_spec (hx.numbered hg) h0 hlt hf⟩

/-- A rebuild takes in what the tensor holds afterwards for what it held before. -/
theorem rebuild_exchange {g : Gateway} {t : Tensor} (hg : g.device.Numbered)
    (ht : ∀ a ∈ t.assets, a ∈ g.device.assets) (data : Block) (size elementSize : Nat) :
    ∃ cs, Exchange g (t.rebuild g data size elementSize).2.2 cs
        (t.mapped ++ t.assets ++ (t.rebuild g data size elementSize).2.1.mapped) t.assets
        (t.rebuild g data size elementSize).2.1.assets ∧
      (t.rebuild g data size elementSize).2.1.loans ⊆ t.loans := by
  rcases rebuild_spec hg t data size elementSize with
    ⟨e, -, he⟩ | ⟨g₀, cs, r, g', -, -, hx, -, he, cs', hs⟩
  · rw [he]
    exact ⟨[], ((Exchange.refl g).retain ht).weaken (List.nil_subset _), fun _ ha => ha⟩
  rw [he]
  cases r with
  | error e =>
    have hboth := hx.trans hs.exchange
    rw [List.append_nil, List.append_nil] at hboth
    exact ⟨_, hboth.weaken (List.subset_append_left ..), List.nil_subset _⟩
  | ok resources =>
    obtain ⟨ps, qs, hf⟩ := hs
    have hboth := hx.trans hf.exchange
    rw [List.append_nil] at hboth
    exact ⟨_, hboth, List.Subset.trans hf.backed.loans (List.nil_subset _)⟩

end Tensor

/-! ## Recording -/

namespace Gateway

theorem Exchange.announceCommand {g g' : Gateway} {cs : List Call} {taken gone new : List Asset}
    (h : Exchange g g' cs taken gone new) (traced : Bool) (command : String)
    (commandBuffer : Handle) (bytes : Nat) :
    Exchange g (g'.announceCommand traced command commandBuffer bytes) cs taken gone new := by
  unfold Gateway.announceCommand
  split
  · exact (h.tell _).tell _
  · exact h

theorem assets_record (d : Device) (commandBuffer : Handle) (command : Command) :
    (d.record commandBuffer command).assets = d.assets := by
  unfold Device.record
  split <;> rfl

theorem addWholeCopy_exchange (g : Gateway) (traced : Bool) (commandBuffer source target : Handle)
    (size : Nat) : Exchange g (g.addWholeCopy traced commandBuffer source target size)
      [.copy commandBuffer source target] [] [] [] := by
  refine Exchange.announceCommand (.of_frame (addCopy_passage ..) rfl rfl ?_ ?_) ..
  · exact .record g.device _ _
  · intro a
    rw [← assets_record g.device commandBuffer (.copy source target [⟨0, 0, size⟩])]
    exact .rfl

theorem addWholeBarrier_exchange (g : Gateway) (traced : Bool) (commandBuffer buffer : Handle)
    (size : Nat) (source target : SyncScope) :
    Exchange g (g.addWholeBarrier traced commandBuffer buffer size source target)
      [.barrier commandBuffer source.stage target.stage] [] [] [] := by
  refine Exchange.announceCommand (.of_frame (addBarrier_passage ..) rfl rfl ?_ ?_) ..
  · exact .record g.device _ _
  · intro a
    rw [← assets_record g.device commandBuffer (.barrier source.stage target.stage
      [⟨buffer, source.access, target.access, ignoredFamily, ignoredFamily, 0, size⟩])]
    exact .rfl

end Gateway
end TensorMemory
