import Mathlib.Data.List.Induction
import TensorMemory.Proofs.Device.Execution

/-!
Which copies a submission reports. Executing carries along the buffers whose last write is still
pending; what is pending before a command is a property of the commands before it
(`mem_pendingAfter_iff`), so a report can be told from the list of commands alone
(`mem_reports_iff`), and a submission starts with nothing pending whatever ran before it.
-/

namespace TensorMemory

namespace Command

/-- The buffer that a copy reads. -/
def source? : Command → Option Handle
  | copy source _ _ => some source
  | barrier _ _ _ => none

/-- The buffer that a copy writes. -/
def target? : Command → Option Handle
  | copy _ target _ => some target
  | barrier _ _ _ => none

/-- The command is a barrier with an entry that makes transfer writes of the buffer available. -/
def settles (c : Command) (buffer : Handle) : Bool :=
  match c with
  | copy _ _ _ => false
  | barrier _ _ barriers => Device.settles barriers buffer

end Command

namespace Device

/-- A copy into the buffer is not followed by a barrier that settles it. -/
def Outstanding (commands : List Command) (buffer : Handle) : Prop :=
  ∃ j < commands.length, commands[j]?.bind Command.target? = some buffer ∧
    ∀ k < commands.length, j < k → commands[k]?.any (·.settles buffer) = false

/-- The command at `i` copies out of the buffer, one before it copies into the buffer, and no
barrier between the two settles the buffer. -/
def Unguarded (commands : List Command) (i : Nat) (buffer : Handle) : Prop :=
  commands[i]?.bind Command.source? = some buffer ∧
    ∃ j < i, commands[j]?.bind Command.target? = some buffer ∧
      ∀ k < i, j < k → commands[k]?.any (·.settles buffer) = false

instance (commands : List Command) (i : Nat) (buffer : Handle) :
    Decidable (Unguarded commands i buffer) :=
  inferInstanceAs (Decidable (_ ∧ ∃ j, j < i ∧ _ ∧ ∀ k, k < i → _ → _))

theorem outstanding_snoc (done : List Command) (c : Command) (buffer : Handle) :
    Outstanding (done ++ [c]) buffer ↔
      c.target? = some buffer ∨ Outstanding done buffer ∧ c.settles buffer = false := by
  have hold {k : Nat} (hk : k < done.length) : (done ++ [c])[k]? = done[k]? :=
    List.getElem?_append_left hk
  have hlast : (done ++ [c])[done.length]? = some c := List.getElem?_concat_length
  simp only [Outstanding, List.length_append, List.length_singleton]
  constructor
  · rintro ⟨j, hj, hw, hk⟩
    by_cases hl : j = done.length
    · rw [hl, hlast] at hw
      exact .inl hw
    · have hj' : j < done.length := by omega
      rw [hold hj'] at hw
      have hc := hk done.length (by omega) hj'
      rw [hlast] at hc
      refine .inr ⟨⟨j, hj', hw, fun k hkl hjk => ?_⟩, hc⟩
      rw [← hold hkl]
      exact hk k (by omega) hjk
  · rintro (hw | ⟨⟨j, hj, hw, hk⟩, hc⟩)
    · refine ⟨done.length, by omega, by rw [hlast]; exact hw, fun k hkl hjk => ?_⟩
      omega
    · refine ⟨j, by omega, by rw [hold hj]; exact hw, fun k hkl hjk => ?_⟩
      by_cases hl : k = done.length
      · rw [hl, hlast]
        exact hc
      · rw [hold (by omega)]
        exact hk k (by omega) hjk

theorem mem_pendingAfter (pending : List Handle) (c : Command) (buffer : Handle) :
    buffer ∈ pendingAfter pending c ↔
      c.target? = some buffer ∨ buffer ∈ pending ∧ c.settles buffer = false := by
  cases c with
  | copy source target regions =>
    simp only [pendingAfter, List.mem_cons, Command.target?, Option.some.injEq, Command.settles,
      and_true, eq_comm]
  | barrier sourceStage targetStage barriers =>
    simp only [pendingAfter, List.mem_filter, Bool.not_eq_eq_eq_not, Bool.not_true,
      Command.target?, reduceCtorEq, false_or, Command.settles]

/-- What is pending after some commands are the buffers whose last write they leave outstanding. -/
theorem mem_pendingAfter_iff (done : List Command) (buffer : Handle) :
    buffer ∈ done.foldl pendingAfter [] ↔ Outstanding done buffer := by
  induction done using List.reverseRecOn with
  | nil => simp [Outstanding]
  | append_singleton done c ih =>
    rw [List.foldl_append, List.foldl_cons, List.foldl_nil, mem_pendingAfter, outstanding_snoc, ih]

theorem mem_report {pending : List Handle} {index : Nat} {c : Command} {h : Hazard} :
    h ∈ report pending index c ↔ ∃ buffer, c.source? = some buffer ∧ buffer ∈ pending ∧
      h = ⟨buffer, AccessFlags.transferWrite, index⟩ := by
  cases c with
  | copy source target regions =>
    by_cases hs : source ∈ pending <;> simp [report, Command.source?, hs]
  | barrier sourceStage targetStage barriers => simp [report, Command.source?]

theorem mem_reports {pending : List Handle} {index : Nat} {commands : List Command} {h : Hazard} :
    h ∈ reports pending index commands ↔
      ∃ i buffer, commands[i]?.bind Command.source? = some buffer ∧
        buffer ∈ (commands.take i).foldl pendingAfter pending ∧
        h = ⟨buffer, AccessFlags.transferWrite, index + i⟩ := by
  induction commands generalizing pending index with
  | nil => simp [reports]
  | cons c rest ih =>
    rw [reports, List.mem_append, mem_report, ih]
    constructor
    · rintro (⟨buffer, hb, hp, rfl⟩ | ⟨i, buffer, hb, hp, rfl⟩)
      · exact ⟨0, buffer, hb, hp, rfl⟩
      · exact ⟨i + 1, buffer, hb, hp, by rw [Nat.add_assoc, Nat.add_comm 1 i]⟩
    · rintro ⟨i, buffer, hb, hp, rfl⟩
      cases i with
      | zero => exact .inl ⟨buffer, hb, hp, rfl⟩
      | succ i => exact .inr ⟨i, buffer, hb, hp, by rw [Nat.add_assoc, Nat.add_comm 1 i]⟩

theorem reports_append (pending : List Handle) (index : Nat) (commands rest : List Command) :
    reports pending index (commands ++ rest) =
      reports pending index commands ++
        reports (commands.foldl pendingAfter pending) (index + commands.length) rest := by
  induction commands generalizing pending index with
  | nil => rfl
  | cons c commands ih =>
    rw [List.cons_append, reports, reports, ih, List.append_assoc, List.foldl_cons,
      List.length_cons, Nat.add_assoc, Nat.add_comm 1]

/-- What a list of commands reports, from nothing pending on. -/
theorem mem_reports_iff {commands : List Command} {h : Hazard} :
    h ∈ reports [] 0 commands ↔
      h.pending = AccessFlags.transferWrite ∧ Unguarded commands h.commandIndex h.buffer := by
  have hout {i : Nat} {buffer : Handle} (hb : commands[i]?.bind Command.source? = some buffer) :
      Outstanding (commands.take i) buffer ↔ Unguarded commands i buffer := by
    have hi : i < commands.length := by
      by_contra hn
      rw [List.getElem?_eq_none (Nat.not_lt.mp hn)] at hb
      cases hb
    have htake {k : Nat} (hk : k < i) : (commands.take i)[k]? = commands[k]? :=
      List.getElem?_take_of_lt hk
    rw [Outstanding, Unguarded, List.length_take, Nat.min_eq_left (Nat.le_of_lt hi)]
    constructor
    · rintro ⟨j, hj, hw, hk⟩
      refine ⟨hb, j, hj, htake hj ▸ hw, fun k hki hjk => ?_⟩
      exact htake hki ▸ hk k hki hjk
    · rintro ⟨-, j, hj, hw, hk⟩
      refine ⟨j, hj, htake hj ▸ hw, fun k hki hjk => ?_⟩
      exact htake hki ▸ hk k hki hjk
  rw [mem_reports]
  constructor
  · rintro ⟨i, buffer, hb, hp, rfl⟩
    rw [mem_pendingAfter_iff, hout hb] at hp
    rw [Nat.zero_add]
    exact ⟨rfl, hp⟩
  · obtain ⟨buffer, pending, i⟩ := h
    rintro ⟨rfl, hu⟩
    exact ⟨i, buffer, hu.1, (mem_pendingAfter_iff _ _).mpr ((hout hu.1).mpr hu), by
      rw [Nat.zero_add]⟩

theorem unguarded_take {commands : List Command} {n i : Nat} {buffer : Handle} :
    Unguarded (commands.take n) i buffer ↔ i < n ∧ Unguarded commands i buffer := by
  by_cases hi : i < n
  · have htake {k : Nat} (hk : k ≤ i) : (commands.take n)[k]? = commands[k]? :=
      List.getElem?_take_of_lt (Nat.lt_of_le_of_lt hk hi)
    simp only [Unguarded, hi, true_and]
    rw [htake (Nat.le_refl i)]
    refine and_congr_right fun _ => exists_congr fun j => and_congr_right fun hj => ?_
    rw [htake (Nat.le_of_lt hj)]
    refine and_congr_right fun _ => forall_congr' fun k => ?_
    refine imp_congr_right fun hk => ?_
    rw [htake (Nat.le_of_lt hk)]
  · have hnone : (commands.take n)[i]? = none :=
      List.getElem?_eq_none (Nat.le_trans (List.length_take_le _ _) (Nat.not_lt.mp hi))
    refine iff_of_false (fun h => ?_) fun h => hi h.1
    have hs := h.1
    rw [hnone] at hs
    cases hs

/-- Reports come in the order of the commands, at most one for each. -/
theorem pairwise_reports (pending : List Handle) (index : Nat) (commands : List Command) :
    (reports pending index commands).Pairwise (·.commandIndex < ·.commandIndex) := by
  induction commands generalizing pending index with
  | nil => exact .nil
  | cons c rest ih =>
    rw [reports, List.pairwise_append]
    refine ⟨?_, ih _ _, fun a ha b hb => ?_⟩
    · cases c with
      | copy source target regions =>
        rw [report]
        split
        · exact List.pairwise_singleton _ _
        · exact .nil
      | barrier sourceStage targetStage barriers => exact .nil
    · obtain ⟨buffer, -, -, rfl⟩ := mem_report.mp ha
      obtain ⟨i, buffer', -, -, rfl⟩ := mem_reports.mp hb
      show index < index + 1 + i
      omega

/-- A submission of commands that can all be carried out reports what they report. -/
theorem submit_of_carried {d : Device} {commandBuffer : Handle} {commands : List Command}
    (h : d.commandBuffers.get? commandBuffer = some commands)
    (hok : (d.carryAll commands).1 = .ok ()) :
    (d.submit commandBuffer).1 = .ok () ∧
      (d.submit commandBuffer).2.hazards = d.hazards ++ reports [] 0 commands := by
  have hall := d.reaches_carried commands
  rw [hok] at hall
  rw [submit_eq h, hall.unique .finished, List.take_length]
  exact ⟨hok, rfl⟩

/-- A submission reports exactly the copies, among the commands that it reaches, whose source has a
write that no barrier settled. Each of them is reported once, in their order, and what is reported
hangs on these commands alone, whatever was submitted before. -/
theorem detection {d : Device} {commandBuffer : Handle} {commands : List Command}
    (h : d.commandBuffers.get? commandBuffer = some commands) :
    ∃ n reported, Reaches d commands (d.submit commandBuffer).1 n ∧
      (d.submit commandBuffer).2.hazards = d.hazards ++ reported ∧
      reported.Pairwise (·.commandIndex < ·.commandIndex) ∧
      (∀ buffer pending i, ⟨buffer, pending, i⟩ ∈ reported ↔
        pending = AccessFlags.transferWrite ∧ i < n ∧ Unguarded commands i buffer) ∧
      ∀ d' commandBuffer', d'.commandBuffers.get? commandBuffer' = some commands →
        Reaches d' commands (d'.submit commandBuffer').1 n →
        (d'.submit commandBuffer').2.hazards = d'.hazards ++ reported := by
  refine ⟨d.carried commands, reports [] 0 (commands.take (d.carried commands)), ?_, ?_,
    pairwise_reports _ _ _, fun buffer pending i => ?_, fun d' commandBuffer' h' hr => ?_⟩
  · rw [submit_eq h]
    exact reaches_carried d commands
  · rw [submit_eq h]
    rfl
  · rw [mem_reports_iff]
    exact and_congr_right fun _ => unguarded_take
  · rw [submit_eq h'] at hr ⊢
    rw [hr.unique (reaches_carried d' commands)]
    rfl

/-- Two buffers, 1 and 3, and a command buffer with commands, the last but one of which names a
buffer that does not exist. -/
def interruptedCommands : List Command :=
  [.copy 1 3 [⟨0, 0, 8⟩, ⟨8, 8, 8⟩], .copy 3 1 [⟨0, 0, 16⟩],
    .barrier .empty .empty [⟨7, .empty, .empty, 0, 0, 0, 0⟩,
      ⟨1, AccessFlags.transferWrite, .empty, 0, 0, 0, 16⟩],
    .copy 1 3 [⟨0, 0, 16⟩], .copy 3 7 [⟨0, 0, 16⟩], .copy 3 1 [⟨0, 0, 16⟩]]

def interruptedDevice : Device :=
  (ofTypes [MemoryFlags.hostVisible]).run
    ([.createBound 16 ⟨3⟩ MemoryFlags.hostVisible, .createBound 16 ⟨3⟩ MemoryFlags.hostVisible,
      .newCommandBuffer] ++ interruptedCommands.map (.record 5))

theorem detection_interrupted :
    (interruptedDevice.submit 5).2.hazards =
        [⟨3, AccessFlags.transferWrite, 1⟩, ⟨3, AccessFlags.transferWrite, 4⟩] ∧
      ∀ buffer pending i, ⟨buffer, pending, i⟩ ∈ (interruptedDevice.submit 5).2.hazards ↔
        pending = AccessFlags.transferWrite ∧ i < 5 ∧ Unguarded interruptedCommands i buffer := by
  have h : interruptedDevice.commandBuffers.get? 5 = some interruptedCommands := by decide +kernel
  obtain ⟨n, reported, hr, hh, -, hmem, -⟩ := detection h
  have hstop : (interruptedDevice.submit 5).1 = .error (.unknownBuffer 7) := rfl
  have hn : n = 5 := by
    rw [hstop] at hr
    exact hr.unique (.stopped (i := 4) rfl rfl rfl)
  subst hn
  refine ⟨by decide +kernel, ?_⟩
  rw [hh]
  exact hmem

end Device
end TensorMemory
