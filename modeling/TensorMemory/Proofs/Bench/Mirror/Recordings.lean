import TensorMemory.Proofs.Bench.Mirror.Basic
import TensorMemory.Proofs.Bench.Recording

/-!
Recordings. The commands that a recording adds stand for the transfers that the machine notes
(`Mirrors.encodes_commands`): both depend on the same, on what is live and where it is placed.
-/

namespace TensorMemory.Bench.Mirrors

variable {s : Bench} {m : Machine} {n : Nat} {t : Tensor}

/-- The staging and the primary buffer are behind the two cells of a tensor that has both. -/
theorem stagedBuffers_cases (h : Mirrors s m) (ht : s.tensors.get? n = some t)
    (operation : String) :
    (∃ e, t.stagedBuffers operation = .error e) ∧
        (t.outline.isLive = true → t.kind.isStaged = false) ∨
      ∃ x y, t.stagedBuffers operation = .ok (x.buffer.handle, y.buffer.handle) ∧
        t.outline.isLive = true ∧ t.kind = .device ∧
        Behind s.tensors ⟨n, .host⟩ t x ∧ Behind s.tensors ⟨n, .device⟩ t y := by
  cases hb : t.stagedBuffers operation with
  | error e =>
    refine .inl ⟨⟨e, rfl⟩, fun hlive => Bool.eq_false_iff.mpr fun hk => ?_⟩
    have hkind : t.kind = .device := of_decide_eq_true hk
    obtain ⟨r, hr⟩ := Tensor.isLive_outline.mp hlive
    obtain ⟨x, hx, -⟩ := (h.sound ht r hr).hostSide (by rw [hkind]; rfl)
    rw [Tensor.stagedBuffers_eq_ok.mpr ⟨hkind, r, x, hr, hx, rfl, rfl⟩] at hb
    cases hb
  | ok buffers =>
    obtain ⟨hkind, r, x, hr, hx, hstaging, hprimary⟩ := Tensor.stagedBuffers_eq_ok.mp hb
    refine .inr ⟨x, r.backing.primary, ?_, Tensor.isLive_outline.mpr ⟨r, hr⟩, hkind,
      ⟨ht, r, hr, hx⟩, behind_primary ht hr⟩
    rw [hstaging, hprimary]

theorem contains_transfer {kind : Placement} (hk : kind ≠ .storage) :
    kind.needs.primary.usage.contains UsageFlags.transferSource = true ∧
      kind.needs.primary.usage.contains UsageFlags.transferTarget = true := by
  cases kind with
  | device => exact ⟨by decide, by decide⟩
  | host => exact ⟨by decide, by decide⟩
  | storage => exact absurd rfl hk

/-- A sound buffer is as usable as its side of the placement is meant to be. -/
theorem checkUsage_of_behind (h : Mirrors s m) {c : Cell} {b : BackedBuffer} {need : BufferNeed}
    (hb : Behind s.tensors c t b) (hn : t.kind.need? c.side = some need) (required : Mask) :
    b.checkUsage required =
      if need.usage.contains required then .ok () else .error (.missingTransferUsage required) := by
  obtain ⟨ho, need', hn', hsound⟩ := h.sound_behind h.nothingLent hb
  cases hn.symm.trans hn'
  rw [BackedBuffer.checkUsage, hsound.known ho]
  rfl

/-- A copy is recorded between live tensors that are not the same, and not in storage. -/
theorem copyPlan_cases (h : Mirrors s m) (ht : s.tensors.get? n = some t) {source : Nat}
    {u : Tensor} (hu : s.tensors.get? source = some u) :
    (∃ e, t.copyPlan u = .error e) ∧ ¬ (t.outline.Copyable u.outline ∧ source ≠ n) ∨
      ∃ x y, t.copyPlan u = .ok (x.buffer.handle, y.buffer.handle, min u.byteSize t.byteSize) ∧
        (t.outline.Copyable u.outline ∧ source ≠ n) ∧
        Behind s.tensors ⟨source, .device⟩ u x ∧ Behind s.tensors ⟨n, .device⟩ t y := by
  rw [Tensor.copyPlan_eq]
  cases hlive : t.outline.isLive with
  | false =>
    refine .inl ⟨?_, fun hc => ?_⟩
    · rw [Tensor.primary_of_not_live hlive]
      cases t.checkAttached <;> exact ⟨_, rfl⟩
    · rw [Outline.Copyable, hlive] at hc
      exact Bool.noConfusion hc.1.1
  | true =>
  cases hlive' : u.outline.isLive with
  | false =>
    refine .inl ⟨?_, fun hc => ?_⟩
    · rw [Tensor.primary_of_not_live hlive']
      cases t.checkAttached <;> cases t.primary <;> exact ⟨_, rfl⟩
    · rw [Outline.Copyable, hlive'] at hc
      exact Bool.noConfusion hc.1.2.1
  | true =>
  obtain ⟨r, hr⟩ := Tensor.isLive_outline.mp hlive
  obtain ⟨r', hr'⟩ := Tensor.isLive_outline.mp hlive'
  have hy := behind_primary ht hr
  have hx := behind_primary hu hr'
  rw [Tensor.checkAttached_of_live hr, Tensor.primary_of_live hr, Tensor.primary_of_live hr']
  simp only [bind, Except.bind]
  rw [h.checkUsage_of_behind hx rfl, h.checkUsage_of_behind hy rfl]
  by_cases hku : u.kind = .storage
  · refine .inl ⟨?_, fun hc => hc.1.2.2.2 hku⟩
    rw [hku]
    exact ⟨_, rfl⟩
  by_cases hkt : t.kind = .storage
  · refine .inl ⟨?_, fun hc => hc.1.2.2.1 hkt⟩
    rw [hkt, if_pos (contains_transfer hku).1]
    exact ⟨_, rfl⟩
  rw [if_pos (contains_transfer hku).1, if_pos (contains_transfer hkt).2]
  dsimp only
  by_cases hn : source = n
  · subst hn
    cases ht.symm.trans hu
    cases hr.symm.trans hr'
    rw [if_pos rfl]
    exact .inl ⟨⟨_, rfl⟩, fun hc => hc.2 rfl⟩
  · have hne : ¬ r'.backing.primary.buffer.handle = r.backing.primary.buffer.handle := by
      intro he
      have hheld := (h.mem_assets h.nothingLent hx).1
      rw [he] at hheld
      exact hn (h.holdings_unique hheld (h.mem_assets h.nothingLent hy).1)
    rw [if_neg hne]
    exact .inr ⟨_, _, rfl, ⟨⟨hlive, hlive', hkt, hku⟩, hn⟩, hx, hy⟩

/-- Both buffers of a tensor with a staging copy serve transfers either way. -/
theorem stands_of_staged {ts : Table Nat Tensor} {c : Cell} {b : BackedBuffer}
    (hb : Behind ts c t b) (hk : t.kind = .device) :
    Stands ts b.buffer.handle UsageFlags.transferSource t.byteSize c ∧
      Stands ts b.buffer.handle UsageFlags.transferTarget t.byteSize c := by
  obtain ⟨need, hn, hs, ht⟩ := Placement.device_transfers c.side
  rw [← hk] at hn
  exact ⟨⟨t, b, need, hb, rfl, hn, hs, Nat.le_refl _⟩,
    ⟨t, b, need, hb, rfl, hn, ht, Nat.le_refl _⟩⟩

/-- The commands of a recording stand for the transfers that the machine notes. -/
theorem encodes_commands (h : Mirrors s m) (ht : s.tensors.get? n = some t) (r : Recording) :
    Encodes s.tensors (s.commands t r) (m.transfers n r) := by
  have hnil {cs : List Command} (hcs : Encodes s.tensors cs []) :
      Encodes s.tensors cs (if t.outline.isLive = true then [] else []) := by
    rw [ite_self]
    exact hcs
  have hnone {xs : List Transfer} (hn : t.outline.isLive = true → t.kind.isStaged = false) :
      Encodes s.tensors [] (if t.outline.isLive = true then
        if t.outline.kind.isStaged = true then xs else [] else []) := by
    split
    · next hl =>
      rw [Tensor.kind_outline, hn hl]
      exact .nil
    · exact .nil
  rw [Machine.transfers, h.outline_some ht]
  dsimp only
  cases r with
  | copyFrom source =>
    dsimp only [commands, Machine.transfersOf]
    cases hu : s.tensors.get? source with
    | none =>
      rw [h.outline_none hu]
      exact hnil .nil
    | some u =>
      rw [h.outline_some hu]
      dsimp only
      rcases h.copyPlan_cases ht hu with ⟨⟨e, hplan⟩, hn⟩ | ⟨x, y, hplan, hc, hx, hy⟩
      · rw [hplan, if_neg hn]
        exact hnil .nil
      · rw [hplan, if_pos hc.1.1, if_pos hc]
        dsimp only
        refine .copy ⟨⟨source, .device⟩, ⟨n, .device⟩, min u.byteSize t.byteSize⟩ ?_ ?_ .nil
        · exact ⟨u, x, _, hx, rfl, rfl, (contains_transfer hc.1.2.2.2).1, Nat.min_le_left _ _⟩
        · exact ⟨t, y, _, hy, rfl, rfl, (contains_transfer hc.1.2.2.1).2, Nat.min_le_right _ _⟩
  | upload scope =>
    dsimp only [commands, Machine.transfersOf]
    rcases h.stagedBuffers_cases ht "record_copy_from_staging_to_device" with
      ⟨⟨e, hb⟩, hn⟩ | ⟨x, y, hb, hlive, hk, hx, hy⟩
    · rw [hb]
      exact hnone hn
    · rw [hb, if_pos hlive, Tensor.kind_outline, if_pos (by rw [hk]; rfl)]
      exact .copy ⟨⟨n, .host⟩, ⟨n, .device⟩, t.byteSize⟩ (stands_of_staged hx hk).1
        (stands_of_staged hy hk).2 (.barrier _ _ _ .nil)
  | download scope =>
    dsimp only [commands, Machine.transfersOf]
    rcases h.stagedBuffers_cases ht "record_copy_from_device_to_staging" with
      ⟨⟨e, hb⟩, hn⟩ | ⟨x, y, hb, hlive, hk, hx, hy⟩
    · rw [hb]
      exact hnone hn
    · rw [hb, if_pos hlive, Tensor.kind_outline, if_pos (by rw [hk]; rfl)]
      exact .barrier _ _ _ (.copy ⟨⟨n, .device⟩, ⟨n, .host⟩, t.byteSize⟩
        (stands_of_staged hy hk).1 (stands_of_staged hx hk).2 .nil)
  | primaryBarrier source target =>
    dsimp only [commands, Machine.transfersOf]
    split
    · exact hnil .nil
    · exact hnil (.barrier _ _ _ .nil)
  | stagingBarrier source target =>
    dsimp only [commands, Machine.transfersOf]
    split
    · exact hnil .nil
    · exact hnil (.barrier _ _ _ .nil)

theorem record (h : Mirrors s m) {traced : Bool} {commandBuffer : Handle} {r : Recording}
    (hc : Closed s (.record n traced commandBuffer r)) (acquired : Bool) :
    Mirrors (s.step (.record n traced commandBuffer r))
      (m.step acquired (.record n traced commandBuffer r)) := by
  show Mirrors _ (m.record n commandBuffer r)
  have hs : s.step (.record n traced commandBuffer r) =
      s.apply n fun t g => (t, s.performRecording traced commandBuffer t g r) := rfl
  cases ht : s.tensors.get? n with
  | none =>
    rw [hs, apply_none ht, Machine.record_none (h.outline_none ht)]
    exact h
  | some t =>
  have hdevice := device_record ht traced commandBuffer r
  refine h.stay hc ?_ ?_ ⟨rfl, rfl⟩ ?_ fun k => ?_
  · exact tensors_apply_keep ht rfl
  · exact built_apply ..
  · rw [hdevice, Device.recordAll_of_known hc]
    exact h.laid.congr rfl rfl
  · rw [hdevice, Device.recorded_recordAll hc]
    refine (h.waiting k).append ?_
    split
    · exact h.encodes_commands ht r
    · exact .nil

end TensorMemory.Bench.Mirrors
