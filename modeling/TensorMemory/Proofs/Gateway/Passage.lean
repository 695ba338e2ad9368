import TensorMemory.Gateway.Basic
import TensorMemory.Proofs.Device.Frame

/-!
What happens to a gateway while tensor code runs. A passage names the calls that were made and the
metric events that were announced, and says that the device went through a run of its own
operations; what the calls created was given handles of its own. Passages compose, so that an
operation on a tensor has the calls and the metrics of its parts, one after another.
-/

namespace TensorMemory

namespace Call

/-- The asset that a call brought into being. -/
def created? : Call → Option Asset
  | createBuffer _ _ (.ok h) => some (.buffer h)
  | allocate _ _ (.ok h) => some (.memory h)
  | _ => none

/-- The asset that a call gives back. -/
def released? : Call → Option Asset
  | destroyBuffer h => some (.buffer h)
  | freeMemory h => some (.memory h)
  | _ => none

def created (cs : List Call) : List Asset := cs.filterMap created?

def released (cs : List Call) : List Asset := cs.filterMap released?

@[simp] theorem created_nil : created [] = [] := rfl

@[simp] theorem released_nil : released [] = [] := rfl

@[simp] theorem created_append (cs cs' : List Call) :
    created (cs ++ cs') = created cs ++ created cs' := List.filterMap_append

@[simp] theorem released_append (cs cs' : List Call) :
    released (cs ++ cs') = released cs ++ released cs' := List.filterMap_append

end Call

@[simp] theorem metricEvents_append (ns ns' : List Notice) :
    metricEvents (ns ++ ns') = metricEvents ns ++ metricEvents ns' := List.filterMap_append

/-- Warnings are no metric events. -/
theorem metricEvents_warnings (vs : List Violation) :
    metricEvents (vs.map Gateway.warning) = [] := by
  induction vs with
  | nil => rfl
  | cons v vs ih => exact ih

namespace Gateway

structure Passage (g g' : Gateway) (cs : List Call) (ms : List MetricEvent) : Prop where
  calls : g'.calls = g.calls ++ cs
  metrics : metricEvents g'.notices = metricEvents g.notices ++ ms
  faults : g'.faults = g.faults
  device : ∃ ops, g'.device = g.device.run ops
  fresh : ∀ a ∈ Call.created cs, g.device.issued < a.handle ∧ a.handle ≤ g'.device.issued
  distinct : ((Call.created cs).map Asset.handle).Nodup

namespace Passage

variable {g g' g'' : Gateway} {cs cs' : List Call} {ms ms' : List MetricEvent}

theorem issued_le (h : Passage g g' cs ms) : g.device.issued ≤ g'.device.issued := by
  obtain ⟨ops, hops⟩ := h.device
  rw [hops]
  exact Device.issued_le_run _ _

theorem numbered (h : Passage g g' cs ms) (hg : g.device.Numbered) : g'.device.Numbered := by
  obtain ⟨ops, hops⟩ := h.device
  rw [hops]
  exact hg.run ops

theorem trans (h : Passage g g' cs ms) (h' : Passage g' g'' cs' ms') :
    Passage g g'' (cs ++ cs') (ms ++ ms') where
  calls := by rw [h'.calls, h.calls, List.append_assoc]
  metrics := by rw [h'.metrics, h.metrics, List.append_assoc]
  faults := h'.faults.trans h.faults
  device := by
    obtain ⟨ops, hops⟩ := h.device
    obtain ⟨ops', hops'⟩ := h'.device
    exact ⟨ops ++ ops', by rw [hops', hops, Device.run_append]⟩
  fresh a ha := by
    rw [Call.created_append, List.mem_append] at ha
    rcases ha with ha | ha
    · exact ⟨(h.fresh a ha).1, Nat.le_trans (h.fresh a ha).2 h'.issued_le⟩
    · exact ⟨Nat.lt_of_le_of_lt h.issued_le (h'.fresh a ha).1, (h'.fresh a ha).2⟩
  distinct := by
    rw [Call.created_append, List.map_append]
    refine List.Nodup.append h.distinct h'.distinct ?_
    -- the later ones are numbered from where the earlier ones end
    intro i hi hi'
    obtain ⟨a, ha, rfl⟩ := List.mem_map.mp hi
    obtain ⟨b, hb, heq⟩ := List.mem_map.mp hi'
    have hlt := Nat.lt_of_le_of_lt (h.fresh a ha).2 (h'.fresh b hb).1
    rw [heq] at hlt
    exact Nat.lt_irrefl _ hlt

/-- A step that makes no call and leaves the device to one operation at most. -/
theorem of_run (ops : List Device.Operation) (hc : g'.calls = g.calls)
    (hm : metricEvents g'.notices = metricEvents g.notices ++ ms) (hf : g'.faults = g.faults)
    (hd : g'.device = g.device.run ops) : Passage g g' [] ms where
  calls := by rw [hc, List.append_nil]
  metrics := hm
  faults := hf
  device := ⟨ops, hd⟩
  fresh a ha := by cases ha
  distinct := List.nodup_nil

theorem refl (g : Gateway) : Passage g g [] [] :=
  of_run [] rfl (List.append_nil _).symm rfl rfl

theorem tell (g : Gateway) (n : Notice) : Passage g (g.tell n) [] n.metric?.toList := by
  refine of_run [] rfl ?_ rfl rfl
  rw [Gateway.tell, metricEvents_append]
  cases n <;> rfl

theorem store (g : Gateway) (place : Place) (chunk : Block) :
    Passage g (g.store place chunk) [] [] :=
  of_run [.store place chunk] rfl (List.append_nil _).symm rfl rfl

/-- One call, which the device answers by one operation or does not get to see. -/
theorem of_call {c : Call} (ops : List Device.Operation) (hc : g'.calls = g.calls ++ [c])
    (hm : metricEvents g'.notices = metricEvents g.notices) (hf : g'.faults = g.faults)
    (hd : g'.device = g.device.run ops)
    (hfresh : ∀ a, c.created? = some a →
      g.device.issued < a.handle ∧ a.handle ≤ g'.device.issued) : Passage g g' [c] [] where
  calls := hc
  metrics := by rw [hm, List.append_nil]
  faults := hf
  device := ⟨ops, hd⟩
  fresh a ha := by
    obtain ⟨b, hb, hba⟩ := List.mem_filterMap.mp ha
    rw [List.mem_singleton.mp hb] at hba
    exact hfresh a hba
  distinct := by
    unfold Call.created
    cases h : c.created? <;> simp [h]

end Passage

theorem metricEvents_advance (g : Gateway) (d : Device) :
    metricEvents (g.advance d).notices = metricEvents g.notices := by
  rw [advance, metricEvents_append, metricEvents_warnings, List.append_nil]

/-! ## The calls -/

variable {g g' : Gateway}

theorem createBuffer_passage {size : Nat} {usage : Mask} {r : Except Status Handle}
    (h : g.createBuffer size usage = (r, g')) :
    Passage g g' [.createBuffer size usage r] [] := by
  unfold createBuffer at h
  dsimp only at h
  split at h
  · cases h
    exact .of_call [] rfl rfl rfl rfl (fun a ha => by cases ha)
  · cases hd : g.device.createBuffer size usage with
    | mk r' d =>
      rw [hd] at h
      cases h
      refine .of_call [.createBuffer size usage] rfl (metricEvents_advance _ _) rfl ?_ ?_
      · exact (congrArg Prod.snd hd).symm
      · intro a ha
        cases r' with
        | error s => cases ha
        | ok b =>
          obtain ⟨hb, hi⟩ := Device.createBuffer_ok hd
          cases ha
          exact ⟨Nat.lt_of_lt_of_eq (Nat.lt_succ_self _) hb.symm, Nat.le_of_eq (hb.trans hi.symm)⟩

/-- The device is asked, unless a fault answers in its place. -/
theorem createBuffer_answer {size : Nat} {usage : Mask} {r : Except Status Handle}
    (h : g.createBuffer size usage = (r, g')) :
    g.device.createBuffer size usage = (r, g'.device) ∨
      g'.device = g.device ∧ ∃ s, r = .error s := by
  unfold createBuffer at h
  dsimp only at h
  split at h
  · next s _ =>
    cases h
    exact .inr ⟨rfl, s, rfl⟩
  · cases h
    exact .inl rfl

theorem allocate_passage {size typeIndex : Nat} {r : Except Status Handle}
    (h : g.allocate size typeIndex = (r, g')) : Passage g g' [.allocate size typeIndex r] [] := by
  unfold allocate at h
  dsimp only at h
  split at h
  · cases h
    exact .of_call [] rfl rfl rfl rfl (fun a ha => by cases ha)
  · cases hd : g.device.allocate size typeIndex with
    | mk r' d =>
      rw [hd] at h
      cases h
      refine .of_call [.allocate size typeIndex] rfl (metricEvents_advance _ _) rfl ?_ ?_
      · exact (congrArg Prod.snd hd).symm
      · intro a ha
        cases r' with
        | error s => cases ha
        | ok m =>
          obtain ⟨hm, hi⟩ := Device.allocate_ok hd
          cases ha
          exact ⟨Nat.lt_of_lt_of_eq (Nat.lt_succ_self _) hm.symm, Nat.le_of_eq (hm.trans hi.symm)⟩

theorem allocate_answer {size typeIndex : Nat} {r : Except Status Handle}
    (h : g.allocate size typeIndex = (r, g')) :
    g.device.allocate size typeIndex = (r, g'.device) ∨
      g'.device = g.device ∧ ∃ s, r = .error s := by
  unfold allocate at h
  dsimp only at h
  split at h
  · next s _ =>
    cases h
    exact .inr ⟨rfl, s, rfl⟩
  · cases h
    exact .inl rfl

theorem requirements_passage {buffer : Handle} {r : Requirements}
    (h : g.requirements buffer = (r, g')) : Passage g g' [.requirements buffer r] [] := by
  unfold requirements at h
  cases h
  exact .of_call [.requirements buffer] rfl (metricEvents_advance _ _) rfl rfl
    (fun a ha => by cases ha)

theorem requirements_device {buffer : Handle} {r : Requirements}
    (h : g.requirements buffer = (r, g')) : g'.device = (g.device.requirements buffer).2 := by
  unfold requirements at h
  cases h
  rfl

theorem bind_passage {buffer memory : Handle} {offset : Nat} {r : Except Status Unit}
    (h : g.bind buffer memory offset = (r, g')) :
    Passage g g' [.bind buffer memory offset r] [] := by
  unfold bind at h
  dsimp only at h
  split at h
  · cases h
    exact .of_call [] rfl rfl rfl rfl (fun a ha => by cases ha)
  · cases h
    exact .of_call [.bind buffer memory offset] rfl (metricEvents_advance _ _) rfl rfl
      (fun a ha => by cases ha)

theorem bind_answer {buffer memory : Handle} {offset : Nat} {r : Except Status Unit}
    (h : g.bind buffer memory offset = (r, g')) :
    g.device.bind buffer memory offset = (r, g'.device) ∨
      g'.device = g.device ∧ ∃ s, r = .error s := by
  unfold bind at h
  dsimp only at h
  split at h
  · next s _ =>
    cases h
    exact .inr ⟨rfl, s, rfl⟩
  · cases h
    exact .inl rfl

theorem map_passage {memory : Handle} {offset size : Nat} {r : Except Status (Option Place)}
    (h : g.map memory offset size = (r, g')) :
    Passage g g' [.map memory offset size (r.map fun _ => ())] [] := by
  unfold map at h
  dsimp only at h
  split at h
  · cases h
    exact .of_call [] rfl rfl rfl rfl (fun a ha => by cases ha)
  · cases hd : g.device.map memory offset size with
    | mk r' d =>
      rw [hd] at h
      cases h
      exact .of_call [.map memory offset size] rfl (metricEvents_advance _ _) rfl
        (congrArg Prod.snd hd).symm (fun a ha => by cases ha)
  · cases hd : g.device.map memory (offset + g.faults.mapShift) size with
    | mk r' d =>
      rw [hd] at h
      cases h
      exact .of_call [.map memory (offset + g.faults.mapShift) size] rfl
        (metricEvents_advance _ _) rfl (congrArg Prod.snd hd).symm (fun a ha => by cases ha)

/-- A mapping is refused and then nothing happened, or it is made and its address comes back or
not. -/
theorem map_answer {memory : Handle} {offset size : Nat} {r : Except Status (Option Place)}
    (h : g.map memory offset size = (r, g')) :
    (g'.device = g.device ∧ ∃ s, r = .error s) ∨
      ∃ shift place, g.device.map memory (offset + shift) size = (.ok place, g'.device) ∧
        (r = .ok none ∨ shift = g.faults.mapShift ∧ r = .ok (some place)) := by
  have refused {o : Nat} {s : Status} {d : Device}
      (hd : g.device.map memory o size = (.error s, d)) : d = g.device := by
    unfold Device.map at hd
    split at hd
    · cases hd; rfl
    split at hd
    · cases hd; rfl
    next m _ _ =>
    generalize (if size = wholeSize then m.contents.size - o else size) = n at hd
    dsimp only at hd
    split at hd <;> cases hd
    rfl
  unfold map at h
  dsimp only at h
  split at h
  · next s _ =>
    cases h
    exact .inl ⟨rfl, s, rfl⟩
  · cases hd : g.device.map memory offset size with
    | mk r' d =>
      rw [hd] at h
      cases h
      cases r' with
      | error s => exact .inl ⟨refused hd, s, rfl⟩
      | ok place => exact .inr ⟨0, place, hd, .inl rfl⟩
  · cases hd : g.device.map memory (offset + g.faults.mapShift) size with
    | mk r' d =>
      rw [hd] at h
      cases h
      cases r' with
      | error s => exact .inl ⟨refused hd, s, rfl⟩
      | ok place => exact .inr ⟨g.faults.mapShift, place, hd, .inr ⟨rfl, rfl⟩⟩

theorem unmap_passage (g : Gateway) (memory : Handle) :
    Passage g (g.unmap memory) [.unmap memory] [] :=
  .of_call [.unmap memory] rfl (metricEvents_advance _ _) rfl rfl
    (fun a ha => by cases ha)

theorem destroyBuffer_passage (g : Gateway) (buffer : Handle) :
    Passage g (g.destroyBuffer buffer) [.destroyBuffer buffer] [] :=
  .of_call [.destroyBuffer buffer] rfl (metricEvents_advance _ _) rfl rfl
    (fun a ha => by cases ha)

theorem freeMemory_passage (g : Gateway) (memory : Handle) :
    Passage g (g.freeMemory memory) [.freeMemory memory] [] :=
  .of_call [.freeMemory memory] rfl (metricEvents_advance _ _) rfl rfl
    (fun a ha => by cases ha)

theorem addCopy_passage (g : Gateway) (commandBuffer source target : Handle)
    (regions : List CopyRegion) :
    Passage g (g.addCopy commandBuffer source target regions)
      [.copy commandBuffer source target] [] :=
  .of_call [.record commandBuffer (.copy source target regions)] rfl
    (metricEvents_advance _ _) rfl rfl (fun a ha => by cases ha)

theorem addBarrier_passage (g : Gateway) (commandBuffer : Handle)
    (sourceStage targetStage : Mask) (barriers : List BufferBarrier) :
    Passage g (g.addBarrier commandBuffer sourceStage targetStage barriers)
      [.barrier commandBuffer sourceStage targetStage] [] :=
  .of_call [.record commandBuffer (.barrier sourceStage targetStage barriers)] rfl
    (metricEvents_advance _ _) rfl rfl (fun a ha => by cases ha)

end Gateway
end TensorMemory
