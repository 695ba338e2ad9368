import TensorMemory.Proofs.Device.Submission

/-!
A submission taken apart. What it moves and where it stops depends on buffers and memories alone
(`carryAll`), and what it reports on the commands alone (`reports`). `submit_eq` puts the two
together, so that neither has to be followed through the other.
-/

namespace TensorMemory.Device

/-- Moves the bytes of a command; barriers move none. -/
def carry (d : Device) : Command → Except AccessError Unit × Device
  | .copy source target regions => d.copyRegions source target regions
  | .barrier _ _ _ => (.ok (), d)

/-- Carries out commands one after another up to the first that fails. -/
def carryAll (d : Device) : List Command → Except AccessError Unit × Device
  | [] => (.ok (), d)
  | c :: rest =>
    match d.carry c with
    | (.error e, d) => (.error e, d)
    | (.ok (), d) => d.carryAll rest

/-- How many commands are reached: all of them, or those up to the failing one and that one. -/
def carried (d : Device) : List Command → Nat
  | [] => 0
  | c :: rest =>
    match d.carry c with
    | (.error _, _) => 1
    | (.ok (), d) => d.carried rest + 1

/-- What a command leaves pending. -/
def pendingAfter (pending : List Handle) : Command → List Handle
  | .copy _ target _ => target :: pending
  | .barrier _ _ barriers => pending.filter fun b => !settles barriers b

/-- What the command at an index reports. -/
def report (pending : List Handle) (index : Nat) : Command → List Hazard
  | .copy source _ _ =>
    if source ∈ pending then [⟨source, AccessFlags.transferWrite, index⟩] else []
  | .barrier _ _ _ => []

/-- What commands report, the first of which has the given index. -/
def reports (pending : List Handle) (index : Nat) : List Command → List Hazard
  | [] => []
  | c :: rest => report pending index c ++ reports (pendingAfter pending c) (index + 1) rest

/-! ## Bytes apart from reports -/

/-- The device with other command buffers and hazards. -/
def annotate (d : Device) (commandBuffers : Table Handle (List Command)) (hazards : List Hazard) :
    Device := { d with commandBuffers, hazards }

section Annotate

variable (d : Device) (commandBuffers : Table Handle (List Command)) (hazards : List Hazard)

theorem annotate_self : d.annotate d.commandBuffers d.hazards = d := rfl

theorem locate_annotate (handle : Handle) (usage : Mask) (offset size : Nat) :
    (d.annotate commandBuffers hazards).locate handle usage offset size =
      d.locate handle usage offset size := rfl

theorem copyRegion_annotate (source target : Handle) (r : CopyRegion) :
    (d.annotate commandBuffers hazards).copyRegion source target r =
      (d.copyRegion source target r).map fun d => d.annotate commandBuffers hazards := by
  simp only [copyRegion, locate_annotate]
  cases d.locate source UsageFlags.transferSource r.sourceOffset r.size with
  | error e => rfl
  | ok readFrom =>
    cases d.locate target UsageFlags.transferTarget r.targetOffset r.size <;> rfl

theorem copyRegions_annotate (source target : Handle) (regions : List CopyRegion) :
    (d.annotate commandBuffers hazards).copyRegions source target regions =
      ((d.copyRegions source target regions).1,
        (d.copyRegions source target regions).2.annotate commandBuffers hazards) := by
  induction regions generalizing d with
  | nil => rfl
  | cons r rest ih =>
    rw [copyRegions, copyRegions, copyRegion_annotate]
    cases d.copyRegion source target r with
    | error e => rfl
    | ok d' => exact ih d'

theorem carry_annotate (c : Command) :
    (d.annotate commandBuffers hazards).carry c =
      ((d.carry c).1, (d.carry c).2.annotate commandBuffers hazards) := by
  cases c with
  | copy source target regions => exact copyRegions_annotate d _ _ _ _ _
  | barrier sourceStage targetStage barriers => rfl

theorem carryAll_annotate (commands : List Command) :
    (d.annotate commandBuffers hazards).carryAll commands =
      ((d.carryAll commands).1, (d.carryAll commands).2.annotate commandBuffers hazards) := by
  induction commands generalizing d with
  | nil => rfl
  | cons c rest ih =>
    rw [carryAll, carryAll, carry_annotate]
    rcases d.carry c with ⟨e | ⟨⟩, d'⟩
    · rfl
    · exact ih d'

theorem carried_annotate (commands : List Command) :
    (d.annotate commandBuffers hazards).carried commands = d.carried commands := by
  induction commands generalizing d with
  | nil => rfl
  | cons c rest ih =>
    rw [carried, carried, carry_annotate]
    rcases d.carry c with ⟨e | ⟨⟩, d'⟩
    · rfl
    · exact congrArg (· + 1) (ih d')

end Annotate

/-- One command of a submission: it reports, it moves bytes, and if it did not fail the others
follow. -/
theorem execute_cons (d : Device) (pending : List Handle) (index : Nat) (c : Command)
    (rest : List Command) :
    d.execute pending index (c :: rest) =
      match (d.annotate d.commandBuffers (d.hazards ++ report pending index c)).carry c with
      | (.error e, d) => (.error e, d)
      | (.ok (), d) => d.execute (pendingAfter pending c) (index + 1) rest := by
  cases c with
  | barrier sourceStage targetStage barriers =>
    rw [execute, report, List.append_nil, annotate_self]
    rfl
  | copy source target regions =>
    have hd : (if source ∈ pending then
          { d with hazards := d.hazards ++ [⟨source, AccessFlags.transferWrite, index⟩] }
        else d) =
        d.annotate d.commandBuffers (d.hazards ++ report pending index (.copy source target
          regions)) := by
      by_cases hs : source ∈ pending
      · rw [if_pos hs, report, if_pos hs]
        rfl
      · rw [if_neg hs, report, if_neg hs, List.append_nil, annotate_self]
    rw [execute, hd]
    rfl

theorem execute_eq (d : Device) (pending : List Handle) (index : Nat) (commands : List Command) :
    d.execute pending index commands =
      ((d.carryAll commands).1, (d.carryAll commands).2.annotate d.commandBuffers
        (d.hazards ++ reports pending index (commands.take (d.carried commands)))) := by
  induction commands generalizing d pending index with
  | nil =>
    rw [List.take_nil, reports, List.append_nil]
    rfl
  | cons c rest ih =>
    rw [execute_cons, carry_annotate, carryAll, carried]
    rcases hc : d.carry c with ⟨e | ⟨⟩, d'⟩
    · simp only [List.take_succ_cons, List.take_zero, reports, List.append_nil]
    · dsimp only
      rw [ih, carryAll_annotate, carried_annotate, List.take_succ_cons, reports,
        ← List.append_assoc]
      rfl

/-- A submission moves what its commands move, reports what they report, and leaves the command
buffer empty. -/
theorem submit_eq {d : Device} {commandBuffer : Handle} {commands : List Command}
    (h : d.commandBuffers.get? commandBuffer = some commands) :
    d.submit commandBuffer =
      ((d.carryAll commands).1,
        (d.carryAll commands).2.annotate (d.commandBuffers.modify commandBuffer fun _ => [])
          (d.hazards ++ reports [] 0 (commands.take (d.carried commands)))) := by
  rw [submit, h]
  change (d.annotate (d.commandBuffers.modify commandBuffer fun _ => []) d.hazards).execute _ _ _ =
    _
  rw [execute_eq, carryAll_annotate, carried_annotate]
  rfl

/-! ## Where carrying out commands ends -/

theorem carryAll_append (d : Device) (commands rest : List Command) :
    d.carryAll (commands ++ rest) =
      match d.carryAll commands with
      | (.error e, d) => (.error e, d)
      | (.ok (), d) => d.carryAll rest := by
  induction commands generalizing d with
  | nil => rfl
  | cons c commands ih =>
    rw [List.cons_append, carryAll, carryAll]
    rcases d.carry c with ⟨e | ⟨⟩, d'⟩
    · rfl
    · exact ih d'

/-- What comes out of carrying out commands, and how many of them were reached: all, or those before
a copy that fails and that copy. -/
inductive Reaches (d : Device) (commands : List Command) : Except AccessError Unit → Nat → Prop
  | finished : Reaches d commands (.ok ()) commands.length
  | stopped {i : Nat} {source target : Handle} {regions : List CopyRegion} {d' : Device}
      {e : AccessError} (at_copy : commands[i]? = some (.copy source target regions))
      (before : d.carryAll (commands.take i) = (.ok (), d'))
      (fails : (d'.copyRegions source target regions).1 = .error e) :
      Reaches d commands (.error e) (i + 1)

theorem reaches_carried (d : Device) (commands : List Command) :
    Reaches d commands (d.carryAll commands).1 (d.carried commands) := by
  induction commands generalizing d with
  | nil => exact .finished
  | cons c rest ih =>
    rw [carryAll, carried]
    rcases hc : d.carry c with ⟨e | ⟨⟩, d'⟩
    · cases c with
      | barrier sourceStage targetStage barriers => cases hc
      | copy source target regions =>
        exact .stopped (i := 0) rfl rfl (congrArg Prod.fst hc)
    · dsimp only
      have hr := ih d'
      generalize (d'.carryAll rest).1 = r, d'.carried rest = n at hr
      cases hr with
      | finished => exact .finished
      | stopped at_copy before fails =>
        refine .stopped (by rwa [List.getElem?_cons_succ]) ?_ fails
        rw [List.take_succ_cons, carryAll, hc]
        exact before

/-- When a copy fails after the commands before it, no longer list of commands is carried out. -/
theorem le_of_fails {d d' : Device} {commands : List Command} {i j : Nat} {c : Command}
    {e : AccessError} (hc : commands[i]? = some c)
    (before : d.carryAll (commands.take i) = (.ok (), d')) (fails : (d'.carry c).1 = .error e)
    (hj : (d.carryAll (commands.take j)).1 = .ok ()) : j ≤ i := by
  by_contra hn
  have hi : i < commands.length := (List.getElem?_eq_some_iff.mp hc).1
  have hsplit : commands.take j = commands.take i ++ c :: (commands.take j).drop (i + 1) := by
    have hci : (commands.take j)[i]? = some c := by
      rw [List.getElem?_take_of_lt (Nat.not_le.mp hn), hc]
    obtain ⟨hlt, rfl⟩ := List.getElem?_eq_some_iff.mp hci
    rw [← List.drop_eq_getElem_cons hlt]
    have ht : commands.take i = (commands.take j).take i := by
      rw [List.take_take, Nat.min_eq_left (Nat.le_of_not_le hn)]
    rw [ht, List.take_append_drop]
  rw [hsplit, carryAll_append, before] at hj
  dsimp only [carryAll] at hj
  rcases hd : d'.carry c with ⟨e' | ⟨⟩, d''⟩
  · rw [hd] at hj
    cases hj
  · rw [hd] at fails
    cases fails

theorem Reaches.unique {d : Device} {commands : List Command} {r : Except AccessError Unit}
    {n n' : Nat} (h : Reaches d commands r n) (h' : Reaches d commands r n') : n = n' := by
  cases h with
  | finished => cases h'; rfl
  | stopped at_copy before fails =>
    cases h' with
    | stopped at_copy' before' fails' =>
      have hle := le_of_fails at_copy before fails (congrArg Prod.fst before')
      have hle' := le_of_fails at_copy' before' fails' (congrArg Prod.fst before)
      rw [Nat.le_antisymm hle hle']

theorem carry_refilled (d : Device) (c : Command) : Refilled d (d.carry c).2 := by
  cases c with
  | copy source target regions => exact copyRegions_refilled d _ _ _
  | barrier sourceStage targetStage barriers => exact .refl d

theorem carryAll_refilled (d : Device) (commands : List Command) :
    Refilled d (d.carryAll commands).2 := by
  induction commands generalizing d with
  | nil => exact .refl d
  | cons c rest ih =>
    have hc := d.carry_refilled c
    rw [carryAll]
    revert hc
    rcases d.carry c with ⟨e | ⟨⟩, d'⟩
    · exact id
    · exact fun hc => hc.trans (ih d')

end TensorMemory.Device
