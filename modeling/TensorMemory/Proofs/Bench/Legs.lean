import TensorMemory.Proofs.Bench.Recording
import TensorMemory.Proofs.Device.Hazards

/-!
What uploads and downloads report. An upload puts its barrier after the copy, on the primary buffer
that it wrote; a download puts it before, and nothing settles the staging buffer that it writes. So
of all buffers only those that were downloaded into stay pending (`mem_pendingAfter_leg`), and it is
the uploads out of them that are reported (`mem_reports_legs`).
-/

namespace TensorMemory

namespace Command

variable (source target buffer : Handle) (size : Nat) (before after : SyncScope)

@[simp] theorem target?_wholeCopy : (wholeCopy source target size).target? = some target := rfl

@[simp] theorem target?_wholeBarrier : (wholeBarrier buffer size before after).target? = none := rfl

@[simp] theorem settles_wholeCopy : (wholeCopy source target size).settles buffer = false := rfl

@[simp] theorem settles_wholeBarrier (b : Handle) :
    (wholeBarrier buffer size before after).settles b =
      (decide (buffer = b) && before.access.contains AccessFlags.transferWrite) := by
  simp [wholeBarrier, settles, Device.settles]

end Command

inductive Direction where
  | upload
  | download
  deriving DecidableEq, Repr

/-- A call that records a copy between the two buffers of a tensor. -/
structure Trip where
  tensor : Nat
  direction : Direction
  scope : SyncScope

/-- What the call names: the copy goes with a barrier on the primary buffer. -/
structure Leg extends Trip where
  staging : Handle
  primary : Handle
  size : Nat

namespace Leg

/-- The copy and its barrier. -/
def commands (l : Leg) : List Command :=
  match l.direction with
  | .upload =>
    [.wholeCopy l.staging l.primary l.size,
      .wholeBarrier l.primary l.size .transferWrite l.scope]
  | .download =>
    [.wholeBarrier l.primary l.size l.scope .transferRead,
      .wholeCopy l.primary l.staging l.size]

theorem length_commands (l : Leg) : l.commands.length = 2 := by
  unfold commands
  split <;> rfl

theorem length_flatMap_commands (legs : List Leg) :
    (legs.flatMap commands).length = 2 * legs.length := by
  induction legs with
  | nil => rfl
  | cons l legs ih =>
    rw [List.flatMap_cons, List.length_append, length_commands, ih, List.length_cons, Nat.mul_succ,
      Nat.add_comm]

end Leg

namespace Device

theorem report_wholeCopy (pending : List Handle) (index : Nat) (source target : Handle)
    (size : Nat) : report pending index (.wholeCopy source target size) =
      if source ∈ pending then [⟨source, AccessFlags.transferWrite, index⟩] else [] := rfl

theorem report_wholeBarrier (pending : List Handle) (index : Nat) (buffer : Handle) (size : Nat)
    (source target : SyncScope) :
    report pending index (.wholeBarrier buffer size source target) = [] := rfl

variable {pending : List Handle} {index : Nat} {l : Leg} {legs : List Leg}

theorem mem_pendingAfter_leg (h : l.primary ∉ pending) (buffer : Handle) :
    buffer ∈ l.commands.foldl pendingAfter pending ↔
      l.direction = .download ∧ l.staging = buffer ∨ buffer ∈ pending := by
  have hne (hb : buffer ∈ pending) : l.primary ≠ buffer := fun he => h (he ▸ hb)
  unfold Leg.commands
  cases hd : l.direction with
  | upload =>
    have hwrite : SyncScope.transferWrite.access.contains AccessFlags.transferWrite = true := rfl
    simp only [List.foldl_cons, List.foldl_nil, mem_pendingAfter, Command.target?_wholeCopy,
      Command.target?_wholeBarrier, Command.settles_wholeCopy, Command.settles_wholeBarrier, hwrite,
      and_true, Bool.and_true, decide_eq_false_iff_not, Option.some.injEq, reduceCtorEq, false_or,
      false_and]
    constructor
    · rintro ⟨hb, hsettled⟩
      exact hb.resolve_left hsettled
    · exact fun hb => ⟨.inr hb, hne hb⟩
  | download =>
    simp only [List.foldl_cons, List.foldl_nil, mem_pendingAfter, Command.target?_wholeCopy,
      Command.target?_wholeBarrier, Command.settles_wholeCopy, Command.settles_wholeBarrier,
      and_true, true_and, Option.some.injEq, reduceCtorEq, false_or]
    refine or_congr_right ⟨And.left, fun hb => ⟨hb, ?_⟩⟩
    rw [decide_eq_false (hne hb), Bool.false_and]

theorem reports_leg (h : l.primary ∉ pending) :
    reports pending index l.commands =
      if l.direction = .upload ∧ l.staging ∈ pending then
        [⟨l.staging, AccessFlags.transferWrite, index⟩]
      else [] := by
  unfold Leg.commands
  cases hd : l.direction with
  | upload => simp only [reports, report_wholeCopy, report_wholeBarrier, List.append_nil, true_and]
  | download =>
    have hp : l.primary ∉ pendingAfter pending (.wholeBarrier l.primary l.size l.scope
        .transferRead) := fun hp => h (List.mem_of_mem_filter hp)
    simp only [reports, report_wholeCopy, report_wholeBarrier, if_neg hp, List.append_nil,
      reduceCtorEq, false_and, if_false]

/-- The uploads that are reported are those out of a staging buffer that is pending from the start
or that an earlier leg downloaded into. -/
theorem mem_reports_legs (hpending : ∀ l ∈ legs, l.primary ∉ pending)
    (hapart : ∀ l ∈ legs, ∀ l' ∈ legs, l.staging ≠ l'.primary) {h : Hazard} :
    h ∈ reports pending index (legs.flatMap Leg.commands) ↔
      ∃ before l after, legs = before ++ l :: after ∧ l.direction = .upload ∧
        (l.staging ∈ pending ∨ ∃ l' ∈ before, l'.direction = .download ∧ l'.staging = l.staging) ∧
        h = ⟨l.staging, AccessFlags.transferWrite,
          index + (before.flatMap Leg.commands).length⟩ := by
  induction legs generalizing pending index with
  | nil => simp [reports]
  | cons l legs ih =>
    obtain ⟨hl, hrest⟩ := List.forall_mem_cons.mp hpending
    have hafter := mem_pendingAfter_leg hl
    -- only staging buffers are added, and those are no later leg's primary buffer
    have hpending' : ∀ l' ∈ legs, l'.primary ∉ l.commands.foldl pendingAfter pending := by
      intro l' hl' hp
      rcases (hafter _).mp hp with ⟨-, he⟩ | hp
      · exact hapart l (List.mem_cons_self ..) l' (List.mem_cons_of_mem _ hl') he
      · exact hrest l' hl' hp
    rw [List.flatMap_cons, reports_append, List.mem_append, reports_leg hl,
      ih hpending' fun l₁ h₁ l₂ h₂ => hapart l₁ (List.mem_cons_of_mem _ h₁) l₂
        (List.mem_cons_of_mem _ h₂)]
    constructor
    · rintro (hh | ⟨before, l₁, after, rfl, hup, hp, rfl⟩)
      · split at hh
        · next hup => exact ⟨[], l, legs, rfl, hup.1, .inl hup.2, List.mem_singleton.mp hh⟩
        · cases hh
      · refine ⟨l :: before, l₁, after, rfl, hup, ?_, ?_⟩
        · rw [hafter] at hp
          rcases hp with (hdown | hp) | ⟨l', hl', hdown⟩
          · exact .inr ⟨l, List.mem_cons_self .., hdown⟩
          · exact .inl hp
          · exact .inr ⟨l', List.mem_cons_of_mem _ hl', hdown⟩
        · rw [List.flatMap_cons, List.length_append, Nat.add_assoc]
    · rintro ⟨before, l₁, after, hsplit, hup, hp, rfl⟩
      cases before with
      | nil =>
        cases hsplit
        refine .inl ?_
        have hp := hp.resolve_right (by rintro ⟨_, hl', _⟩; cases hl')
        rw [if_pos ⟨hup, hp⟩]
        exact List.mem_singleton.mpr rfl
      | cons l₀ before =>
        cases hsplit
        refine .inr ⟨before, l₁, after, rfl, hup, ?_, ?_⟩
        · rw [hafter]
          rcases hp with hp | ⟨l', hl', hdown⟩
          · exact .inl (.inr hp)
          · rcases List.mem_cons.mp hl' with rfl | hl'
            · exact .inl (.inl hdown)
            · exact .inr ⟨l', hl', hdown⟩
        · rw [List.flatMap_cons, List.length_append, Nat.add_assoc]

end Device
end TensorMemory
