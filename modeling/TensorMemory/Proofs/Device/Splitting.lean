import TensorMemory.Proofs.Device.Hazards
import TensorMemory.Proofs.Device.Recording

/-!
Commands submitted at once or in two parts. Bytes cannot tell the two apart. Reports can: each
submission starts with nothing pending, and what is pending only adds reports (`reports_sublist`),
so a cut loses those of copies behind it out of buffers that the part before it left outstanding.
-/

namespace TensorMemory

/-- The hazard, when its command comes behind `n` others. -/
def Hazard.behind (n : Nat) (h : Hazard) : Hazard := { h with commandIndex := n + h.commandIndex }

namespace Device

/-- The device with nothing but these commands waiting in a command buffer. -/
def queued (d : Device) (commandBuffer : Handle) (commands : List Command) : Device :=
  { d with commandBuffers := d.commandBuffers.modify commandBuffer fun _ => commands }

theorem submit_queued {d : Device} {commandBuffer : Handle}
    (h : d.commandBuffers.contains commandBuffer = true) (commands : List Command) :
    (d.queued commandBuffer commands).submit commandBuffer =
      ((d.carryAll commands).1,
        (d.carryAll commands).2.annotate (d.queued commandBuffer []).commandBuffers
          (d.hazards ++ reports [] 0 (commands.take (d.carried commands)))) := by
  obtain ⟨waiting, hw⟩ := Table.contains_iff.mp h
  have hq : (d.queued commandBuffer commands).commandBuffers.get? commandBuffer =
      some commands := by
    rw [queued, Table.get?_modify, if_pos rfl, hw]
    rfl
  have ha : d.queued commandBuffer commands =
      d.annotate (d.queued commandBuffer commands).commandBuffers d.hazards := rfl
  rw [submit_eq hq, ha, carryAll_annotate, carried_annotate]
  simp only [annotate, queued, Table.modify_modify, Function.comp_def]

/-- Whatever is submitted, and however it ends: the command buffer is empty, and only bytes and
hazards have changed besides. -/
theorem submit_queued_refilled (d : Device) (commandBuffer : Handle) (commands : List Command) :
    Refilled (d.queued commandBuffer [])
      ((d.queued commandBuffer commands).submit commandBuffer).2 := by
  have hr := submit_refilled (d.queued commandBuffer commands) commandBuffer
  simp only [queued, Table.modify_modify, Function.comp_def] at hr
  exact hr

theorem contains_submit_queued (d : Device) (commandBuffer k : Handle) (commands : List Command) :
    ((d.queued commandBuffer commands).submit commandBuffer).2.commandBuffers.contains k =
      d.commandBuffers.contains k := by
  rw [(submit_queued_refilled d commandBuffer commands).commandBuffers, queued,
    Table.contains_modify]

/-! ## How far commands are carried out -/

theorem carried_eq_length {d : Device} {commands : List Command}
    (h : (d.carryAll commands).1 = .ok ()) : d.carried commands = commands.length := by
  have hall := d.reaches_carried commands
  rw [h] at hall
  exact hall.unique .finished

theorem carried_le (d : Device) (commands : List Command) :
    d.carried commands ≤ commands.length := by
  have hall := d.reaches_carried commands
  generalize (d.carryAll commands).1 = r, d.carried commands = n at hall
  cases hall with
  | finished => exact Nat.le_refl _
  | stopped at_copy before fails => exact (List.getElem?_eq_some_iff.mp at_copy).1

theorem carried_append (d : Device) (front back : List Command) :
    d.carried (front ++ back) =
      match d.carryAll front with
      | (.error _, _) => d.carried front
      | (.ok (), d') => front.length + d'.carried back := by
  induction front generalizing d with
  | nil => exact (Nat.zero_add _).symm
  | cons c front ih =>
    rw [List.cons_append, carried, carryAll, carried]
    rcases d.carry c with ⟨e | ⟨⟩, d'⟩
    · rfl
    · dsimp only
      rw [ih d']
      rcases d'.carryAll front with ⟨e | ⟨⟩, d''⟩
      · rfl
      · show front.length + d''.carried back + 1 = front.length + 1 + d''.carried back
        omega

/-! ## What a cut does to the reports -/

theorem reports_behind (pending : List Handle) (n index : Nat) (commands : List Command) :
    reports pending (n + index) commands = (reports pending index commands).map (.behind n) := by
  induction commands generalizing pending index with
  | nil => rfl
  | cons c rest ih =>
    have hreport : report pending (n + index) c = (report pending index c).map (.behind n) := by
      cases c with
      | copy source target regions =>
        rw [report, report]
        split <;> rfl
      | barrier sourceStage targetStage barriers => rfl
    rw [reports, reports, List.map_append, hreport, ← ih, Nat.add_assoc]

theorem pendingAfter_subset {pending pending' : List Handle} (h : pending ⊆ pending')
    (c : Command) : pendingAfter pending c ⊆ pendingAfter pending' c := by
  intro buffer hb
  rw [mem_pendingAfter] at hb ⊢
  exact hb.imp_right (And.imp_left (@h buffer))

/-- What is pending adds reports and takes none away. -/
theorem reports_sublist {pending pending' : List Handle} (h : pending ⊆ pending') (index : Nat)
    (commands : List Command) :
    (reports pending index commands).Sublist (reports pending' index commands) := by
  induction commands generalizing pending pending' index with
  | nil => exact .slnil
  | cons c rest ih =>
    have hreport : (report pending index c).Sublist (report pending' index c) := by
      cases c with
      | copy source target regions =>
        by_cases hs : source ∈ pending
        · rw [report, report, if_pos hs, if_pos (h hs)]
        · rw [report, if_neg hs]
          exact List.nil_sublist _
      | barrier sourceStage targetStage barriers => exact .slnil
    exact hreport.append (ih (pendingAfter_subset h c) (index + 1))

/-- What is pending after some commands was pending before them or is of their own making. -/
theorem mem_foldl_pendingAfter {pending : List Handle} {commands : List Command}
    {buffer : Handle} (h : buffer ∈ commands.foldl pendingAfter pending) :
    buffer ∈ pending ∨ buffer ∈ commands.foldl pendingAfter [] := by
  induction commands using List.reverseRecOn with
  | nil => exact .inl h
  | append_singleton commands c ih =>
    rw [List.foldl_concat, mem_pendingAfter] at h ⊢
    rcases h with hw | ⟨hp, hs⟩
    · exact .inr (.inl hw)
    · exact (ih hp).imp_right fun hm => .inr ⟨hm, hs⟩

/-- A report that nothing pending would not give is of a copy out of something pending. -/
theorem mem_pending_of_mem_reports {pending : List Handle} {index : Nat} {commands : List Command}
    {h : Hazard} (hm : h ∈ reports pending index commands) (hn : h ∉ reports [] index commands) :
    h.buffer ∈ pending := by
  obtain ⟨i, buffer, hs, hp, rfl⟩ := mem_reports.mp hm
  refine (mem_foldl_pendingAfter hp).resolve_right fun hown => hn ?_
  exact mem_reports.mpr ⟨i, buffer, hs, hown, rfl⟩

theorem le_commandIndex {pending : List Handle} {index : Nat} {commands : List Command}
    {h : Hazard} (hm : h ∈ reports pending index commands) : index ≤ h.commandIndex := by
  obtain ⟨i, buffer, -, -, rfl⟩ := mem_reports.mp hm
  exact Nat.le_add_right _ _

/-- Commands behind a cut report what they report by themselves. Before the cut was made they may
have reported more, but only copies out of what the commands before it leave outstanding. -/
theorem reports_of_cut (front back : List Command) :
    ((reports [] 0 back).map (.behind front.length)).Sublist
        (reports (front.foldl pendingAfter []) front.length back) ∧
      ∀ h ∈ reports (front.foldl pendingAfter []) front.length back,
        h ∈ (reports [] 0 back).map (.behind front.length) ∨
          front.length ≤ h.commandIndex ∧ Outstanding front h.buffer := by
  have hown : (reports [] 0 back).map (.behind front.length) = reports [] front.length back :=
    (reports_behind [] front.length 0 back).symm
  rw [hown]
  refine ⟨reports_sublist (List.nil_subset _) _ _, fun h hm => ?_⟩
  by_cases hn : h ∈ reports [] front.length back
  · exact .inl hn
  · exact .inr ⟨le_commandIndex hm,
      (mem_pendingAfter_iff _ _).mp (mem_pending_of_mem_reports hm hn)⟩

/-! ## Two submissions and one -/

/-- How the submission of some commands and of others after them (`first`, `second`) compares with
that of all of them (`whole`). -/
structure Split (d : Device) (front : List Command)
    (first second whole : Except AccessError Unit × Device) : Prop where
  result : first.1 = .ok () → whole.1 = second.1
  memories : first.1 = .ok () → whole.2.memories = second.2.memories
  /-- The whole reports what the parts report. Whatever else it reports lies behind the cut and
  reads a buffer whose last write lies before the cut. -/
  hazards : first.1 = .ok () → ∃ early late rest,
    first.2.hazards = d.hazards ++ early ∧ second.2.hazards = first.2.hazards ++ late ∧
      whole.2.hazards = d.hazards ++ (early ++ rest) ∧
      (late.map (.behind front.length)).Sublist rest ∧
      ∀ h ∈ rest, h ∈ late.map (.behind front.length) ∨
        front.length ≤ h.commandIndex ∧ Outstanding front h.buffer
  failure : ∀ e, first.1 = .error e → whole.1 = .error e ∧
    whole.2.memories = first.2.memories ∧ whole.2.hazards = first.2.hazards

/-- A submission can be cut in two. Both ways the same bytes move and the same error comes out, and
the cut adds no report; when the first part fails, the rest might as well not be there. Every
submission leaves its command buffer empty and all but bytes and hazards as it was. -/
theorem splitting (d : Device) {a b c : Handle} (ha : d.commandBuffers.contains a = true)
    (hb : d.commandBuffers.contains b = true) (hc : d.commandBuffers.contains c = true)
    (front back : List Command) {first second whole : Except AccessError Unit × Device}
    (hfirst : first = (d.queued a front).submit a)
    (hsecond : second = (first.2.queued b back).submit b)
    (hwhole : whole = (d.queued c (front ++ back)).submit c) :
    Split d front first second whole ∧ Refilled (d.queued a []) first.2 ∧
      Refilled (first.2.queued b []) second.2 ∧ Refilled (d.queued c []) whole.2 := by
  have hb' : first.2.commandBuffers.contains b = true := by
    rw [hfirst, contains_submit_queued, hb]
  refine ⟨?_, hfirst ▸ submit_queued_refilled d a front,
    hsecond ▸ submit_queued_refilled first.2 b back,
    hwhole ▸ submit_queued_refilled d c (front ++ back)⟩
  rw [submit_queued ha] at hfirst
  rw [submit_queued hb'] at hsecond
  rw [submit_queued hc, carryAll_append, carried_append] at hwhole
  cases hfront : d.carryAll front with
  | mk r d' =>
    rw [hfront] at hfirst hwhole
    cases r with
    | error e =>
      have hreached : (front ++ back).take (d.carried front) = front.take (d.carried front) :=
        List.take_append_of_le_length (d.carried_le front)
      have hfailed : first.1 = .error e := by rw [hfirst]
      refine ⟨?_, ?_, ?_, fun e' h => ?_⟩
      · exact fun h => nomatch hfailed.symm.trans h
      · exact fun h => nomatch hfailed.symm.trans h
      · exact fun h => nomatch hfailed.symm.trans h
      · rw [hfailed] at h
        rw [hwhole, hfirst, hreached]
        exact ⟨h, rfl, rfl⟩
    | ok u =>
      have hlength : d.carried front = front.length := carried_eq_length (by rw [hfront])
      have hbetween : first.2 = d'.annotate first.2.commandBuffers first.2.hazards := by
        rw [hfirst]
        rfl
      have hdone : first.1 = .ok () := by rw [hfirst]
      rw [hbetween, carryAll_annotate, carried_annotate] at hsecond
      rw [List.take_length_add_append, reports_append, Nat.zero_add] at hwhole
      rw [hlength, List.take_length] at hfirst
      refine ⟨fun _ => ?_, fun _ => ?_, fun _ => ?_, fun e h => ?_⟩
      · rw [hwhole, hsecond]
      · rw [hwhole, hsecond]
        rfl
      · refine ⟨reports [] 0 front, reports [] 0 (back.take (d'.carried back)), _, ?_, ?_, ?_,
          reports_of_cut front _⟩
        · rw [hfirst]
          rfl
        · rw [hsecond]
          rfl
        · rw [hwhole]
          rfl
      · exact nomatch hdone.symm.trans h

/-- Two bound buffers, 1 and 3, and two command buffers. -/
def cutDevice : Device :=
  (ofTypes [MemoryFlags.hostVisible]).run
    [.createBound 16 ⟨3⟩ MemoryFlags.hostVisible, .createBound 16 ⟨3⟩ MemoryFlags.hostVisible,
      .newCommandBuffer, .newCommandBuffer]

/-- The copy back reads what the copy there wrote, which a cut between the two hides. -/
theorem splitting_hides :
    let there : List Command := [.copy 1 3 [⟨0, 0, 16⟩]]
    let back : List Command := [.copy 3 1 [⟨0, 0, 16⟩]]
    let first := (cutDevice.queued 5 there).submit 5
    let second := (first.2.queued 6 back).submit 6
    let whole := (cutDevice.queued 5 (there ++ back)).submit 5
    (first.1 = .ok () ∧ second.2.hazards = [] ∧
        whole.2.hazards = [⟨3, AccessFlags.transferWrite, 1⟩]) ∧
      Split cutDevice there first second whole :=
  ⟨by decide +kernel, (splitting cutDevice (by decide +kernel) (by decide +kernel)
    (by decide +kernel) _ _ rfl rfl rfl).1⟩

end Device
end TensorMemory
