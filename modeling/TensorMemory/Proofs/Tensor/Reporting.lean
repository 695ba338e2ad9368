import TensorMemory.Proofs.Tensor.Announcements
import TensorMemory.Proofs.Tensor.CommandMetrics
import TensorMemory.Proofs.Tracing.Reception

/-!
What tensor code makes, and what it lets be heard. `Tells` names the assets that its calls made and
the metric events that reach whoever listens; it composes, so it is followed through the code call
by call. A construction that succeeds makes exactly what the tensor then owns and announces that and
nothing else; one that fails announces nothing (`furnish_tells`).
-/

namespace TensorMemory.Gateway

/-- Between two gateways the calls made these assets, and any collector hears these metric
events. -/
structure Tells (g g' : Gateway) (made : List Asset) (ms : List MetricEvent) : Prop where
  calls : ∃ cs, g'.calls = g.calls ++ cs ∧ Call.created cs = made
  notices : ∃ ns, g'.notices = g.notices ++ ns ∧
    ∀ c : Collector, c.Hears (c.dispatchAll (ns.map Notice.event)) ms

namespace Tells

variable {g g' g'' : Gateway} {made made' : List Asset} {ms ms' : List MetricEvent}

theorem of_notices (ns : List Notice) (hc : g'.calls = g.calls)
    (hn : g'.notices = g.notices ++ ns)
    (hs : (ns.map Notice.event).filterMap Collector.carried = ms) : Tells g g' [] ms where
  calls := ⟨[], by rw [hc, List.append_nil], rfl⟩
  notices := ⟨ns, hn, fun c => hs ▸ c.hears_dispatchAll _⟩

theorem refl (g : Gateway) : Tells g g [] [] :=
  of_notices [] rfl (List.append_nil _).symm rfl

theorem trans (h : Tells g g' made ms) (h' : Tells g' g'' made' ms') :
    Tells g g'' (made ++ made') (ms ++ ms') where
  calls := by
    obtain ⟨cs, hc, hm⟩ := h.calls
    obtain ⟨cs', hc', hm'⟩ := h'.calls
    exact ⟨cs ++ cs', by rw [hc', hc, List.append_assoc], by rw [Call.created_append, hm, hm']⟩
  notices := by
    obtain ⟨ns, hn, hh⟩ := h.notices
    obtain ⟨ns', hn', hh'⟩ := h'.notices
    refine ⟨ns ++ ns', by rw [hn', hn, List.append_assoc], fun c => ?_⟩
    rw [List.map_append, Collector.dispatchAll, List.foldl_append]
    exact (hh c).trans (hh' _)

/-- Logs are not heard. -/
theorem debug (h : Tells g g' made ms) {target : String} (ht : target ≠ Event.metricsTarget)
    (message : String) (fields : List (String × FieldValue)) :
    Tells g (g'.tell (.debug target message fields)) made ms := by
  have hlog : Tells g' (g'.tell (.debug target message fields)) [] [] :=
    of_notices [.debug target message fields] rfl rfl
      (List.filterMap_cons_none (Collector.carried_log ht))
  simpa using h.trans hlog

theorem metric (h : Tells g g' made []) (m : MetricEvent) :
    Tells g (g'.tell (.metric m)) made [m] := by
  have hm : Tells g' (g'.tell (.metric m)) [] [m] :=
    of_notices [.metric m] rfl rfl (List.filterMap_cons_some (Collector.carried_ofMetric m))
  simpa using h.trans hm

/-- One call, of which nothing is said but what the device objects to. -/
theorem of_call {c : Call} (vs : List Violation) (hc : g'.calls = g.calls ++ [c])
    (hn : g'.notices = g.notices ++ vs.map warning) : Tells g g' c.created?.toList [] where
  calls := ⟨[c], hc, by cases h : c.created? <;> simp [Call.created, h]⟩
  notices := ⟨_, hn, fun coll => carried_warnings vs ▸ coll.hears_dispatchAll _⟩

end Tells

/-! ## Calls -/

variable {g g' : Gateway}

theorem createBuffer_tells {size : Nat} {usage : Mask} {r : Except Status Handle}
    (h : g.createBuffer size usage = (r, g')) :
    Tells g g' (Call.createBuffer size usage r).created?.toList [] := by
  obtain ⟨vs, hn⟩ : ∃ vs : List Violation, g'.notices = g.notices ++ vs.map warning := by
    unfold createBuffer at h
    dsimp only at h
    split at h <;> cases h
    · exact ⟨[], (List.append_nil _).symm⟩
    · exact ⟨_, rfl⟩
  exact .of_call vs (createBuffer_passage h).calls hn

theorem allocate_tells {size typeIndex : Nat} {r : Except Status Handle}
    (h : g.allocate size typeIndex = (r, g')) :
    Tells g g' (Call.allocate size typeIndex r).created?.toList [] := by
  obtain ⟨vs, hn⟩ : ∃ vs : List Violation, g'.notices = g.notices ++ vs.map warning := by
    unfold allocate at h
    dsimp only at h
    split at h <;> cases h
    · exact ⟨[], (List.append_nil _).symm⟩
    · exact ⟨_, rfl⟩
  exact .of_call vs (allocate_passage h).calls hn

theorem requirements_tells {buffer : Handle} {r : Requirements}
    (h : g.requirements buffer = (r, g')) : Tells g g' [] [] := by
  have hcalls := (requirements_passage h).calls
  unfold requirements at h
  cases h
  exact .of_call _ hcalls rfl

theorem bind_tells {buffer memory : Handle} {offset : Nat} {r : Except Status Unit}
    (h : g.bind buffer memory offset = (r, g')) : Tells g g' [] [] := by
  obtain ⟨vs, hn⟩ : ∃ vs : List Violation, g'.notices = g.notices ++ vs.map warning := by
    unfold bind at h
    dsimp only at h
    split at h <;> cases h
    · exact ⟨[], (List.append_nil _).symm⟩
    · exact ⟨_, rfl⟩
  exact .of_call vs (bind_passage h).calls hn

theorem map_tells {memory : Handle} {offset size : Nat} {r : Except Status (Option Place)}
    (h : g.map memory offset size = (r, g')) : Tells g g' [] [] := by
  obtain ⟨vs, hn⟩ : ∃ vs : List Violation, g'.notices = g.notices ++ vs.map warning := by
    unfold map at h
    dsimp only at h
    split at h <;> cases h
    · exact ⟨[], (List.append_nil _).symm⟩
    · exact ⟨_, rfl⟩
    · exact ⟨_, rfl⟩
  exact .of_call vs (map_passage h).calls hn

theorem unmap_tells (g : Gateway) (memory : Handle) : Tells g (g.unmap memory) [] [] :=
  .of_call (c := .unmap memory) _ rfl rfl

theorem destroyBuffer_tells (g : Gateway) (buffer : Handle) :
    Tells g (g.destroyBuffer buffer) [] [] := .of_call (c := .destroyBuffer buffer) _ rfl rfl

theorem freeMemory_tells (g : Gateway) (memory : Handle) :
    Tells g (g.freeMemory memory) [] [] := .of_call (c := .freeMemory memory) _ rfl rfl

theorem store_tells (g : Gateway) (place : Place) (chunk : Block) :
    Tells g (g.store place chunk) [] [] := .of_notices [] rfl (List.append_nil _).symm rfl

/-! ## Making buffers -/

/-- Code that succeeds made the assets of its result and announced nothing. Code that fails
announced nothing either, whatever it made on its way. -/
def Makes {α : Type} (g g' : Gateway) (assets : α → List Asset) : Except TensorError α → Prop
  | .ok a => Tells g g' (assets a) []
  | .error _ => ∃ made, Tells g g' made []

theorem provideMemory_makes {buffer : Handle} {need : BufferNeed} {r : Except TensorError Handle}
    (h : g.provideMemory buffer need = (r, g')) : Makes g g' (fun m => [.memory m]) r := by
  unfold provideMemory at h
  cases hr : g.requirements buffer with
  | mk required g₁ =>
  have h₁ := requirements_tells hr
  rw [hr] at h
  dsimp only at h
  split at h
  · cases h
    exact ⟨_, h₁⟩
  next typeIndex _ =>
  cases ha : g₁.allocate required.size typeIndex with
  | mk r₂ g₂ =>
  have h₂ := h₁.trans (allocate_tells ha)
  rw [ha] at h
  cases r₂ with
  | error s =>
    cases h
    exact ⟨_, h₂⟩
  | ok memory =>
  dsimp only at h
  cases hb : g₂.bind buffer memory 0 with
  | mk r₃ g₃ =>
  have h₃ := h₂.trans (bind_tells hb)
  rw [hb] at h
  cases r₃ with
  | error s =>
    cases h
    exact ⟨_, h₃.trans (freeMemory_tells g₃ memory)⟩
  | ok _ =>
    cases h
    exact h₃.debug (by decide) _ _

theorem createBacked_makes {size : Nat} {need : BufferNeed} {r : Except TensorError BackedBuffer}
    (h : g.createBacked size need = (r, g')) : Makes g g' BackedBuffer.assets r := by
  unfold createBacked at h
  cases hc : g.createBuffer size need.usage with
  | mk r₁ g₁ =>
  have h₁ := createBuffer_tells hc
  rw [hc] at h
  cases r₁ with
  | error s =>
    cases h
    exact ⟨_, h₁⟩
  | ok buffer =>
  dsimp only at h
  cases hp : g₁.provideMemory buffer need with
  | mk r₂ g₂ =>
  have h₂ := provideMemory_makes hp
  rw [hp] at h
  cases r₂ with
  | error e =>
    cases h
    obtain ⟨made, h₂⟩ := h₂
    exact ⟨_, (h₁.trans h₂).trans (destroyBuffer_tells g₂ buffer)⟩
  | ok memory =>
    cases h
    exact h₁.trans h₂

theorem obtainBacked_makes {size : Nat} {need : BufferNeed} {lent : Option LentBuffer}
    {r : Except TensorError BackedBuffer} (h : g.obtainBacked size need lent = (r, g')) :
    Makes g g' BackedBuffer.assets r := by
  cases lent with
  | some l =>
    cases h
    exact .refl g
  | none => exact createBacked_makes h

end Gateway

open Gateway (Tells Makes)

/-! ## Releasing -/

theorem BackedBuffer.release_tells (b : BackedBuffer) (g : Gateway) :
    Tells g (b.release g) [] [] := by
  unfold release
  dsimp only
  cases b.buffer.isOwned <;> cases b.memory.isOwned
  · exact .refl g
  · exact g.freeMemory_tells _
  · exact g.destroyBuffer_tells _
  · exact (g.destroyBuffer_tells _).trans (Gateway.freeMemory_tells _ _)

theorem Backing.release_tells (b : Backing) (g : Gateway) : Tells g (b.release g) [] [] := by
  have hp := b.primary.release_tells g
  unfold release
  cases b.staging with
  | none => exact hp
  | some s => exact hp.trans (s.release_tells _)

theorem Resources.release_tells (r : Resources) (kind : Placement) (g : Gateway) :
    Tells g (r.release kind g) [] [] := by
  unfold release
  split
  · exact (g.unmap_tells _).trans (r.backing.release_tells _)
  · exact r.backing.release_tells g

theorem Tensor.releaseHoldings_tells (t : Tensor) (g : Gateway) :
    Tells g (t.releaseHoldings g) [] [] := by
  unfold releaseHoldings
  split
  · exact Resources.release_tells _ _ g
  · exact .refl g

/-! ## Construction -/

namespace Gateway

variable {g g' : Gateway}

theorem obtainBacking_makes {kind : Placement} {size : Nat} {primary staging : Option LentBuffer}
    {r : Except TensorError Backing} (h : g.obtainBacking kind size primary staging = (r, g')) :
    Makes g g' Backing.assets r := by
  unfold obtainBacking at h
  split at h
  · cases h
    exact ⟨_, .refl g⟩
  cases ho : g.obtainBacked size kind.needs.primary primary with
  | mk r₁ g₁ =>
  have h₁ := obtainBacked_makes ho
  rw [ho] at h
  cases r₁ with
  | error e =>
    cases h
    exact h₁
  | ok first =>
  dsimp only at h
  split at h
  · cases h
    simpa [Makes, Backing.assets, Backing.buffers] using h₁
  next need _ =>
  cases ho₂ : g₁.obtainBacked size need staging with
  | mk r₂ g₂ =>
  have h₂ := obtainBacked_makes ho₂
  rw [ho₂] at h
  cases r₂ with
  | error e =>
    cases h
    obtain ⟨made, h₂⟩ := h₂
    exact ⟨_, (Tells.trans h₁ h₂).trans (first.release_tells g₂)⟩
  | ok second =>
    cases h
    simpa [Makes, Backing.assets, Backing.buffers] using Tells.trans h₁ h₂

theorem mapAndFill_tells {b : BackedBuffer} {size : Nat} {data : Option Block}
    {r : Except TensorError Place} (h : g.mapAndFill b size data = (r, g')) :
    Tells g g' [] [] := by
  unfold mapAndFill at h
  dsimp only at h
  cases hm : g.map b.memory.handle 0 size with
  | mk r₁ g₁ =>
  have h₁ := map_tells hm
  rw [hm] at h
  split at h
  · next he =>
    cases he
    cases h
    exact h₁
  · next he =>
    cases he
    cases h
    exact h₁.trans (g₁.unmap_tells _)
  · next place _ he =>
    cases he
    split at h
    · cases h
      exact h₁.trans (g₁.store_tells _ _)
    · split at h <;> cases h
      · exact h₁.trans (g₁.store_tells _ _)
      · exact h₁

/-- New resources are announced once they are complete, and only then. -/
theorem furnish_tells {kind : Placement} {dtype : ElementType} {size : Nat} {data : Option Block}
    {primary staging : Option LentBuffer} {r : Except TensorError Resources}
    (h : g.furnish kind dtype size data primary staging = (r, g')) :
    match r with
    | .ok r => Tells g g' r.backing.assets [allocatedEvent kind dtype size r.backing]
    | .error _ => ∃ made, Tells g g' made [] := by
  unfold furnish at h
  dsimp only at h
  cases ho : g.obtainBacking kind (size * dtype.width) primary staging with
  | mk r₁ g₁ =>
  have h₁ := obtainBacking_makes ho
  rw [ho] at h
  cases r₁ with
  | error e =>
    cases h
    exact h₁
  | ok backing =>
  replace h₁ : Tells g g₁ backing.assets [] := h₁
  dsimp only at h
  split at h
  · cases h
    refine Tells.metric (Tells.debug ?_ (by decide) _ _) _
    split
    · exact h₁.debug (by decide) _ _
    · exact h₁
  next b _ =>
  cases hm : g₁.mapAndFill b (size * dtype.width) data with
  | mk r₂ g₂ =>
  have h₂ := h₁.trans (mapAndFill_tells hm)
  rw [hm] at h
  rw [List.append_nil] at h₂
  cases r₂ with
  | error e =>
    cases h
    exact ⟨_, h₂.trans (backing.release_tells g₂)⟩
  | ok place =>
    cases h
    exact (h₂.debug (by decide) _ _).metric _

end Gateway
end TensorMemory
