import TensorMemory.Proofs.Tensor.Recording

/-!
The order in which tensor code gives back a buffer and the memory made for it. The two belong
together from the bind that names both, whether the device accepts it or not. Tensor code that
holds such a pair destroys the buffer before it frees the memory, wherever it releases the pair. The
exception is a bind that is refused: the memory is freed by the code that asked for it, and the
buffer destroyed by its caller, after that (`Paired`).
-/

namespace TensorMemory

/-! ## Calls -/

namespace Call

/-- The buffer is destroyed and the memory freed, in this order. -/
def BufferFirst (cs : List Call) (buffer memory : Handle) : Prop :=
  [destroyBuffer buffer, freeMemory memory].Sublist cs

/-- The memory is freed and the buffer destroyed, in this order. -/
def MemoryFirst (cs : List Call) (buffer memory : Handle) : Prop :=
  [freeMemory memory, destroyBuffer buffer].Sublist cs

variable {cs cs' : List Call} {buffer memory : Handle}

theorem BufferFirst.left (h : BufferFirst cs buffer memory) (cs' : List Call) :
    BufferFirst (cs ++ cs') buffer memory := List.Sublist.trans h (List.sublist_append_left ..)

theorem BufferFirst.right (h : BufferFirst cs buffer memory) (cs' : List Call) :
    BufferFirst (cs' ++ cs) buffer memory := List.Sublist.trans h (List.sublist_append_right ..)

theorem MemoryFirst.left (h : MemoryFirst cs buffer memory) (cs' : List Call) :
    MemoryFirst (cs ++ cs') buffer memory := List.Sublist.trans h (List.sublist_append_left ..)

theorem MemoryFirst.right (h : MemoryFirst cs buffer memory) (cs' : List Call) :
    MemoryFirst (cs' ++ cs) buffer memory := List.Sublist.trans h (List.sublist_append_right ..)

/-- What becomes of the pairs of buffer and memory in a stretch of calls: those held before, and
those that are made in it. -/
structure Paired (before : List (Handle × Handle)) (cs : List Call)
    (after : List (Handle × Handle)) : Prop where
  kept : ∀ p ∈ before, p ∈ after ∨ BufferFirst cs p.1 p.2
  accepted : ∀ b m o, bind b m o (.ok ()) ∈ cs → (b, m) ∈ after ∨ BufferFirst cs b m
  refused : ∀ b m o s, bind b m o (.error s) ∈ cs → MemoryFirst cs b m
  /-- A bind joins a buffer and a memory of the same stretch. -/
  made : ∀ b m o r, bind b m o r ∈ cs → .buffer b ∈ created cs ∧ .memory m ∈ created cs
  /-- No memory is made but for a buffer. -/
  named : ∀ m, .memory m ∈ created cs → ∃ b r, bind b m 0 r ∈ cs

namespace Paired

variable {ps qs rs : List (Handle × Handle)}

/-- Without a bind and without new memory no pair is made, and those held are held on. -/
theorem of_unbound (hb : ∀ b m o r, bind b m o r ∉ cs) (hm : ∀ m, .memory m ∉ created cs)
    (ps : List (Handle × Handle)) : Paired ps cs ps where
  kept _ hp := .inl hp
  accepted _ _ _ hc := (hb _ _ _ _ hc).elim
  refused _ _ _ _ hc := (hb _ _ _ _ hc).elim
  made _ _ _ _ hc := (hb _ _ _ _ hc).elim
  named m hc := (hm m hc).elim

theorem trans (h : Paired ps cs qs) (h' : Paired qs cs' rs) : Paired ps (cs ++ cs') rs where
  kept p hp := by
    rcases h.kept p hp with hq | hf
    · exact (h'.kept p hq).imp_right fun hf => hf.right cs
    · exact .inr (hf.left cs')
  accepted b m o hc := by
    rcases List.mem_append.mp hc with hc | hc
    · rcases h.accepted b m o hc with hq | hf
      · exact (h'.kept _ hq).imp_right fun hf => hf.right cs
      · exact .inr (hf.left cs')
    · exact (h'.accepted b m o hc).imp_right fun hf => hf.right cs
  refused b m o s hc := by
    rcases List.mem_append.mp hc with hc | hc
    · exact (h.refused b m o s hc).left cs'
    · exact (h'.refused b m o s hc).right cs
  made b m o r hc := by
    rw [created_append, List.mem_append, List.mem_append]
    rcases List.mem_append.mp hc with hc | hc
    · exact (h.made b m o r hc).imp .inl .inl
    · exact (h'.made b m o r hc).imp .inr .inr
  named m hm := by
    rw [created_append, List.mem_append] at hm
    rcases hm with hm | hm
    · obtain ⟨b, r, hb⟩ := h.named m hm
      exact ⟨b, r, List.mem_append_left _ hb⟩
    · obtain ⟨b, r, hb⟩ := h'.named m hm
      exact ⟨b, r, List.mem_append_right _ hb⟩

/-- Pairs that are not touched are held on. -/
theorem frame (h : Paired ps cs qs) (rs : List (Handle × Handle)) :
    Paired (ps ++ rs) cs (qs ++ rs) where
  kept p hp := by
    rcases List.mem_append.mp hp with hp | hp
    · exact (h.kept p hp).imp_left (List.mem_append_left _)
    · exact .inl (List.mem_append_right _ hp)
  accepted b m o hc := (h.accepted b m o hc).imp_left (List.mem_append_left _)
  refused := h.refused
  made := h.made
  named := h.named

/-- More may be held afterwards. -/
theorem weaken (h : Paired ps cs qs) (hq : qs ⊆ rs) : Paired ps cs rs where
  kept p hp := (h.kept p hp).imp_left (hq ·)
  accepted b m o hc := (h.accepted b m o hc).imp_left (hq ·)
  refused := h.refused
  made := h.made
  named := h.named

end Paired

/-- The calls that get memory for a buffer, and the memory if they got any. -/
inductive Provision (buffer : Handle) : List Call → Option Handle → Prop
  | unsuitable (q : Requirements) : Provision buffer [requirements buffer q] none
  | unavailable (q : Requirements) (size typeIndex : Nat) (s : Status) :
      Provision buffer [requirements buffer q, allocate size typeIndex (.error s)] none
  | refused (q : Requirements) (size typeIndex : Nat) (memory : Handle) (s : Status) :
      Provision buffer
        [requirements buffer q, allocate size typeIndex (.ok memory),
          bind buffer memory 0 (.error s), freeMemory memory] none
  | bound (q : Requirements) (size typeIndex : Nat) (memory : Handle) :
      Provision buffer
        [requirements buffer q, allocate size typeIndex (.ok memory),
          bind buffer memory 0 (.ok ())] (some memory)

/-- The calls that make a buffer with memory of its own, and the pair if there is one. -/
inductive Creation : List Call → List (Handle × Handle) → Prop
  | refused (size : Nat) (usage : Mask) (s : Status) :
      Creation [createBuffer size usage (.error s)] []
  | abandoned (size : Nat) (usage : Mask) {buffer : Handle} {cs : List Call}
      (h : Provision buffer cs none) :
      Creation ([createBuffer size usage (.ok buffer)] ++ cs ++ [destroyBuffer buffer]) []
  | complete (size : Nat) (usage : Mask) {buffer memory : Handle} {cs : List Call}
      (h : Provision buffer cs (some memory)) :
      Creation ([createBuffer size usage (.ok buffer)] ++ cs) [(buffer, memory)]

/-- Only a pair whose bind is refused is released where it is made, and then the memory goes first.
-/
theorem Creation.paired {ps : List (Handle × Handle)} (h : Creation cs ps) : Paired [] cs ps := by
  cases h with
  | refused size usage s => exact .of_unbound (by simp) (by simp [created, created?]) []
  | @abandoned size usage buffer cs hp =>
    cases hp with
    | unsuitable q => exact .of_unbound (by simp) (by simp [created, created?]) []
    | unavailable q n typeIndex s => exact .of_unbound (by simp) (by simp [created, created?]) []
    | refused q n typeIndex memory s =>
      refine ⟨by simp, by simp, ?_, ?_, ?_⟩
      · intro b m o s' hc
        obtain ⟨rfl, rfl, -⟩ : b = buffer ∧ m = memory ∧ _ := by simpa using hc
        exact List.sublist_append_right
          [createBuffer size usage (.ok b), requirements b q, allocate n typeIndex (.ok m),
            bind b m 0 (.error s)] _
      · intro b m o r hc
        obtain ⟨rfl, rfl, -⟩ : b = buffer ∧ m = memory ∧ _ := by simpa using hc
        simp [created, created?]
      · intro m hm
        obtain rfl : memory = m := by simpa [created, created?] using hm
        exact ⟨buffer, .error s, by simp⟩
  | @complete size usage buffer memory cs hp =>
    cases hp with
    | bound q n typeIndex _ =>
      refine ⟨by simp, ?_, by simp, ?_, ?_⟩
      · intro b m o hc
        obtain ⟨rfl, rfl, -⟩ : b = buffer ∧ m = memory ∧ _ := by simpa using hc
        exact .inl (List.mem_singleton_self _)
      · intro b m o r hc
        obtain ⟨rfl, rfl, -⟩ : b = buffer ∧ m = memory ∧ _ := by simpa using hc
        simp [created, created?]
      · intro m hm
        obtain rfl : memory = m := by simpa [created, created?] using hm
        exact ⟨buffer, .ok (), by simp⟩

end Call

/-! ## Making a pair -/

namespace BackedBuffer

/-- The pair that is to be released, if both handles are owned. -/
def pairs (b : BackedBuffer) : List (Handle × Handle) :=
  if b.buffer.isOwned && b.memory.isOwned then [(b.buffer.handle, b.memory.handle)] else []

end BackedBuffer

def Backing.pairs (b : Backing) : List (Handle × Handle) := b.buffers.flatMap BackedBuffer.pairs

/-- The pairs of buffer and memory that a tensor has to release. -/
def Tensor.pairs (t : Tensor) : List (Handle × Handle) :=
  (t.resources?.map (·.backing.pairs)).getD []

namespace Gateway

variable {g g' g'' : Gateway}

theorem provideMemory_provision {buffer : Handle} {need : BufferNeed}
    {r : Except TensorError Handle} (h : g.provideMemory buffer need = (r, g')) :
    ∃ cs, g'.calls = g.calls ++ cs ∧ Call.Provision buffer cs r.toOption := by
  unfold provideMemory at h
  cases hr : g.requirements buffer with
  | mk required g₁ =>
  have hcalls := (requirements_passage hr).calls
  rw [hr] at h
  dsimp only at h
  split at h
  · cases h
    exact ⟨_, hcalls, .unsuitable required⟩
  next typeIndex _ =>
  cases ha : g₁.allocate required.size typeIndex with
  | mk r₂ g₂ =>
  rw [ha] at h
  replace hcalls := (allocate_passage ha).calls.trans (congrArg (· ++ _) hcalls)
  cases r₂ with
  | error s =>
    cases h
    exact ⟨_, hcalls.trans (List.append_assoc ..), .unavailable required _ _ s⟩
  | ok memory =>
  dsimp only at h
  cases hb : g₂.bind buffer memory 0 with
  | mk r₃ g₃ =>
  rw [hb] at h
  replace hcalls := (bind_passage hb).calls.trans (congrArg (· ++ _) hcalls)
  cases r₃ with
  | error s =>
    cases h
    refine ⟨_, ?_, .refused required required.size typeIndex memory s⟩
    rw [(freeMemory_passage g₃ memory).calls, hcalls]
    simp
  | ok _ =>
    cases h
    refine ⟨_, ?_, .bound required required.size typeIndex memory⟩
    show g₃.calls = _
    rw [hcalls]
    simp

theorem createBacked_creation {size : Nat} {need : BufferNeed} {r : Except TensorError BackedBuffer}
    (h : g.createBacked size need = (r, g')) :
    ∃ cs, g'.calls = g.calls ++ cs ∧
      Call.Creation cs ((r.toOption.map BackedBuffer.pairs).getD []) := by
  unfold createBacked at h
  cases hc : g.createBuffer size need.usage with
  | mk r₁ g₁ =>
  have hcalls := (createBuffer_passage hc).calls
  rw [hc] at h
  cases r₁ with
  | error s =>
    cases h
    exact ⟨_, hcalls, .refused size need.usage s⟩
  | ok buffer =>
  dsimp only at h
  cases hp : g₁.provideMemory buffer need with
  | mk r₂ g₂ =>
  rw [hp] at h
  obtain ⟨cs, hcalls₂, hprovision⟩ := provideMemory_provision hp
  rw [hcalls] at hcalls₂
  cases r₂ with
  | error e =>
    cases h
    refine ⟨_, ?_, .abandoned size need.usage hprovision⟩
    rw [(destroyBuffer_passage g₂ buffer).calls, hcalls₂]
    simp
  | ok memory =>
    cases h
    exact ⟨_, hcalls₂.trans (List.append_assoc ..), .complete size need.usage hprovision⟩

/-- The calls made between two gateways, and what became of the pairs held before. -/
def Handled (g g' : Gateway) (before after : List (Handle × Handle)) : Prop :=
  ∃ cs, g'.calls = g.calls ++ cs ∧ Call.Paired before cs after

namespace Handled

variable {ps qs rs : List (Handle × Handle)}

/-- Code that makes no call holds what it held. -/
theorem of_silent (h : g'.calls = g.calls) (ps : List (Handle × Handle)) : Handled g g' ps ps :=
  ⟨[], by rw [h, List.append_nil], .of_unbound (by simp) (by simp) ps⟩

theorem refl (g : Gateway) (ps : List (Handle × Handle)) : Handled g g ps ps := of_silent rfl ps

theorem trans (h : Handled g g' ps qs) (h' : Handled g' g'' qs rs) : Handled g g'' ps rs := by
  obtain ⟨cs, hc, hp⟩ := h
  obtain ⟨cs', hc', hp'⟩ := h'
  exact ⟨cs ++ cs', by rw [hc', hc, List.append_assoc], hp.trans hp'⟩

theorem frame (h : Handled g g' ps qs) (rs : List (Handle × Handle)) :
    Handled g g' (ps ++ rs) (qs ++ rs) := by
  obtain ⟨cs, hc, hp⟩ := h
  exact ⟨cs, hc, hp.frame rs⟩

theorem tell (h : Handled g g' ps qs) (n : Notice) : Handled g (g'.tell n) ps qs := h

/-- A single call that makes nothing. -/
theorem of_call {c : Call} (h : g'.calls = g.calls ++ [c]) (hc : c.created? = none)
    (hb : ∀ b m o r, c ≠ .bind b m o r) (ps : List (Handle × Handle)) : Handled g g' ps ps :=
  ⟨[c], h, .of_unbound (by simpa [eq_comm] using hb) (by simp [Call.created, hc]) ps⟩

theorem unmap (g : Gateway) (memory : Handle) (ps : List (Handle × Handle)) :
    Handled g (g.unmap memory) ps ps := .of_call (unmap_passage g memory).calls rfl (by simp) ps

end Handled

theorem obtainBacked_handled {size : Nat} {need : BufferNeed} {lent : Option LentBuffer}
    {r : Except TensorError BackedBuffer} (h : g.obtainBacked size need lent = (r, g')) :
    Handled g g' [] ((r.toOption.map BackedBuffer.pairs).getD []) := by
  cases lent with
  | some l =>
    cases h
    exact .refl g []
  | none =>
    obtain ⟨cs, hcalls, hc⟩ := createBacked_creation h
    exact ⟨cs, hcalls, hc.paired⟩

end Gateway

open Gateway (Handled)

/-! ## Releasing -/

theorem BackedBuffer.release_handled (b : BackedBuffer) (g : Gateway) :
    Handled g (b.release g) b.pairs [] := by
  unfold release pairs
  dsimp only
  cases b.buffer.isOwned <;> cases b.memory.isOwned
  · exact .refl g []
  · exact .of_call (Gateway.freeMemory_passage g _).calls rfl (by simp) []
  · exact .of_call (Gateway.destroyBuffer_passage g _).calls rfl (by simp) []
  · refine ⟨_, ((Gateway.destroyBuffer_passage g _).trans
      (Gateway.freeMemory_passage _ _)).calls, ?_⟩
    refine { Call.Paired.of_unbound ?_ ?_ [] with kept := ?_ }
    · simp
    · simp [Call.created, Call.created?]
    · intro p hp
      obtain rfl := List.mem_singleton.mp hp
      exact .inr (List.Sublist.refl _)

theorem Backing.release_handled (b : Backing) (g : Gateway) :
    Handled g (b.release g) b.pairs [] := by
  have hp := b.primary.release_handled g
  unfold release pairs buffers
  cases b.staging with
  | none => simpa using hp
  | some s => simpa using (hp.frame s.pairs).trans (s.release_handled (b.primary.release g))

theorem Resources.release_handled (r : Resources) (kind : Placement) (g : Gateway) :
    Handled g (r.release kind g) r.backing.pairs [] := by
  unfold release
  split
  · exact (Handled.unmap g _ _).trans (r.backing.release_handled _)
  · exact r.backing.release_handled g

namespace Tensor

theorem releaseHoldings_handled (t : Tensor) (g : Gateway) :
    Handled g (t.releaseHoldings g) t.pairs [] := by
  unfold releaseHoldings pairs resources?
  cases t.residence with
  | live r => exact r.release_handled t.kind g
  | vacant | detached => exact .refl g []

@[simp] theorem pairs_destroy (t : Tensor) (g : Gateway) : (t.destroy g).1.pairs = [] := by
  simp [pairs]

theorem destroy_handled (t : Tensor) (g : Gateway) : Handled g (t.destroy g).2 t.pairs [] := by
  unfold destroy Gateway.announceTeardown
  split
  · next h =>
    have hnone := resources?_of_detached (isAttached_eq_false.mp (by simpa using h))
    have hpairs : t.pairs = [] := by simp [pairs, hnone]
    rw [hpairs]
    exact (Handled.refl g []).tell _
  dsimp only
  split
  · exact ((t.releaseHoldings_handled g).tell _).tell _
  · exact t.releaseHoldings_handled g

end Tensor

/-! ## Building -/

namespace Gateway

variable {g g' : Gateway}

theorem obtainBacking_handled {kind : Placement} {size : Nat} {primary staging : Option LentBuffer}
    {r : Except TensorError Backing} (h : g.obtainBacking kind size primary staging = (r, g')) :
    Handled g g' [] ((r.toOption.map Backing.pairs).getD []) := by
  unfold obtainBacking at h
  split at h
  · cases h
    exact .refl g []
  cases ho : g.obtainBacked size kind.needs.primary primary with
  | mk r₁ g₁ =>
  rw [ho] at h
  have h₁ := obtainBacked_handled ho
  cases r₁ with
  | error e =>
    cases h
    exact h₁
  | ok first =>
  dsimp only at h
  split at h
  · cases h
    simpa [Backing.pairs, Backing.buffers, Except.toOption] using h₁
  next need _ =>
  cases ho₂ : g₁.obtainBacked size need staging with
  | mk r₂ g₂ =>
  rw [ho₂] at h
  have h₂ := h₁.trans ((obtainBacked_handled ho₂).frame first.pairs)
  cases r₂ with
  | error e =>
    cases h
    exact h₂.trans (first.release_handled g₂)
  | ok second =>
    cases h
    obtain ⟨cs, hcalls, hp⟩ := h₂
    refine ⟨cs, hcalls, hp.weaken ?_⟩
    simp [Backing.pairs, Backing.buffers, Except.toOption]

theorem mapAndFill_handled {b : BackedBuffer} {size : Nat} {data : Option Block}
    {r : Except TensorError Place} (h : g.mapAndFill b size data = (r, g'))
    (ps : List (Handle × Handle)) : Handled g g' ps ps := by
  unfold mapAndFill at h
  dsimp only at h
  cases hm : g.map b.memory.handle 0 size with
  | mk r₁ g₁ =>
  have h₁ : Handled g g₁ ps ps := .of_call (map_passage hm).calls rfl (by simp) ps
  rw [hm] at h
  split at h
  · next he =>
    cases he
    cases h
    exact h₁
  · next he =>
    cases he
    cases h
    exact h₁.trans (.unmap g₁ _ ps)
  · next he =>
    cases he
    split at h
    · cases h
      exact h₁
    · split at h <;> cases h <;> exact h₁

theorem furnish_handled {kind : Placement} {dtype : ElementType} {size : Nat} {data : Option Block}
    {primary staging : Option LentBuffer} {r : Except TensorError Resources}
    (h : g.furnish kind dtype size data primary staging = (r, g')) :
    Handled g g' [] ((r.toOption.map (·.backing.pairs)).getD []) := by
  unfold furnish at h
  dsimp only at h
  cases ho : g.obtainBacking kind (size * dtype.width) primary staging with
  | mk r₁ g₁ =>
  rw [ho] at h
  have h₁ := obtainBacking_handled ho
  cases r₁ with
  | error e =>
    cases h
    exact h₁
  | ok backing =>
  dsimp only at h
  split at h
  · cases h
    split <;> exact h₁
  next b _ =>
  cases hm : g₁.mapAndFill b (size * dtype.width) data with
  | mk r₂ g₂ =>
  rw [hm] at h
  have h₂ := h₁.trans (mapAndFill_handled hm _)
  cases r₂ with
  | error e =>
    cases h
    exact h₂.trans (backing.release_handled g₂)
  | ok place =>
    cases h
    exact h₂

end Gateway

theorem TensorPlan.build_handled {g g' : Gateway} {plan : TensorPlan}
    {r : Except TensorError Tensor} (h : plan.build g = (r, g')) :
    Handled g g' [] ((r.toOption.map Tensor.pairs).getD []) := by
  unfold build at h
  split at h
  · cases h
    exact .refl g []
  next size byteSize _ =>
  cases hf : g.furnish plan.kind plan.dtype size plan.data plan.primary plan.staging with
  | mk r₁ g₁ =>
  rw [hf] at h
  have h₁ := Gateway.furnish_handled hf
  cases r₁ with
  | error e =>
    cases h
    exact h₁
  | ok resources =>
    cases h
    exact h₁

theorem Tensor.rebuild_handled (t : Tensor) (g : Gateway) (data : Block) (size elementSize : Nat) :
    Handled g (t.rebuild g data size elementSize).2.2 t.pairs
      (t.rebuild g data size elementSize).2.1.pairs := by
  rcases t.rebuild_cases g data size elementSize with
    ⟨e, -, he⟩ | ⟨notice, r, g', -, -, -, hf, he⟩
  · rw [he]
    exact .refl g _
  rw [he]
  have h := ((t.releaseHoldings_handled g).tell notice).trans (Gateway.furnish_handled hf)
  cases r with
  | error e => exact h
  | ok resources => exact h

/-- What the calls of a rebuild created and released accounts for what the tensor owns. -/
theorem Tensor.rebuild_ledger {g : Gateway} (hg : g.device.Numbered) (t : Tensor) (data : Block)
    (size elementSize : Nat) :
    ∃ cs ms, Gateway.Passage g (t.rebuild g data size elementSize).2.2 cs ms ∧
      (Call.created cs ++ t.assets).Perm
        (Call.released cs ++ (t.rebuild g data size elementSize).2.1.assets) := by
  rcases rebuild_spec hg t data size elementSize with
    ⟨e, -, he⟩ | ⟨g₀, cs, r, g', -, -, hx, -, he, cs', hs⟩
  · rw [he]
    exact ⟨[], [], .refl g, .refl _⟩
  rw [he]
  cases r with
  | error e =>
    have hboth := hx.trans hs.exchange
    rw [List.append_nil, List.append_nil] at hboth
    obtain ⟨ms, hp⟩ := hboth.passage
    exact ⟨_, ms, hp, hboth.ledger⟩
  | ok resources =>
    obtain ⟨ps, qs, hf⟩ := hs
    have hboth := hx.trans hf.exchange
    rw [List.append_nil] at hboth
    obtain ⟨ms, hp⟩ := hboth.passage
    exact ⟨_, ms, hp, hboth.ledger⟩

/-! ## Recording -/

namespace Gateway

theorem Handled.announceCommand {g g' : Gateway} {ps qs : List (Handle × Handle)}
    (h : Handled g g' ps qs) (traced : Bool) (command : String) (commandBuffer : Handle)
    (bytes : Nat) : Handled g (g'.announceCommand traced command commandBuffer bytes) ps qs := by
  unfold Gateway.announceCommand
  split
  · exact (h.tell _).tell _
  · exact h

theorem enterAll_handled (g : Gateway) (traced : Bool) (commandBuffer : Handle)
    (cs : List WholeCommand) (ps : List (Handle × Handle)) :
    Handled g (g.enterAll traced commandBuffer cs) ps ps := by
  induction cs generalizing g with
  | nil => exact .refl g ps
  | cons c cs ih =>
    refine Handled.trans ?_ (ih (g.enter traced commandBuffer c))
    cases c with
    | copy source target size =>
      refine Handled.announceCommand ?_ ..
      exact .of_call (addCopy_passage g ..).calls rfl (by simp) ps
    | barrier buffer size source target =>
      refine Handled.announceCommand ?_ ..
      exact .of_call (addBarrier_passage g ..).calls rfl (by simp) ps

end Gateway

theorem Tensor.record_handled (t : Tensor) (g : Gateway) (traced : Bool) (commandBuffer : Handle)
    (r : Recording) : Handled g (t.record g traced commandBuffer r).2 t.pairs t.pairs := by
  rw [record_eq]
  cases t.wording r with
  | error e => exact .refl g _
  | ok cs => exact g.enterAll_handled traced commandBuffer cs _

end TensorMemory
