import TensorMemory.Proofs.Environment.Overrides
import TensorMemory.Session.Observation

/-!
Callers agree on the configuration. However the stages of their requests are interleaved and the
environment changes in between, the cell is written at most once, and nobody who gets a
configuration gets another than the one that is stored. A step reads the environment at once;
reading it piece by piece would tell the callers nothing else (`ofEnvironment_pieces`).
-/

namespace TensorMemory

/-- To read the variables one after another while the environment changes is to read an environment
that holds them all at once. -/
theorem Configuration.ofEnvironment_pieces (env : Variable → Environment) :
    ofEnvironment ⟨fun v => (env v).value v⟩ = (do
      let logLevel ← levelOf (env .logLevel)
      let metricsPath ← pathOf (env .metricsPath)
      let consoleMetrics ← flagOf .metricsConsole (env .metricsConsole)
      let traceCommands ← flagOf .traceCommands (env .traceCommands)
      return { logLevel, metricsPath, consoleMetrics, traceCommands }) := by
  have hget : ∀ {α : Type} (d : Descriptor α),
      d.get ⟨fun v => (env v).value v⟩ = d.get (env d.name) := fun d => d.get_congr rfl
  have hflag : ∀ d : Descriptor Bool,
      flagOf d ⟨fun v => (env v).value v⟩ = flagOf d (env d.name) := by
    intro d
    rw [flagOf, hget, flagOf]
  have hlevel : levelOf ⟨fun v => (env v).value v⟩ = levelOf (env .logLevel) := by
    rw [levelOf, hget, levelOf]
    rfl
  have hpath : pathOf ⟨fun v => (env v).value v⟩ = pathOf (env .metricsPath) := by
    rw [pathOf, hget, pathOf]
    rfl
  rw [ofEnvironment, hlevel, hpath, hflag, hflag]
  rfl

namespace ConfigurationStage

/-- What a stage says about the cell. -/
def Agrees (cell : ConfigurationCell) : ConfigurationStage → Prop
  | fetching => cell.isSome
  | finished (.ok c) => cell = some c
  | _ => True

/-- A step leaves the cell alone, or it stores a configuration in an empty one. -/
theorem advance_cases (env : Environment) (cell : ConfigurationCell) (stage : ConfigurationStage) :
    (stage.advance env cell).2 = cell ∨
      cell = none ∧ ∃ c, stage.advance env cell = (fetching, some c) := by
  cases stage with
  | looking => cases cell <;> exact .inl rfl
  | loading fresh =>
    simp only [advance]
    cases Configuration.ofEnvironment env <;> exact .inl rfl
  | storing fresh c =>
    cases cell with
    | none => exact .inr ⟨rfl, c, rfl⟩
    | some _ => exact .inl rfl
  | fetching => cases cell <;> exact .inl rfl
  | finished result => exact .inl rfl

theorem advance_cell (env : Environment) (c : Configuration) (stage : ConfigurationStage) :
    (stage.advance env (some c)).2 = some c := by
  obtain hsame | ⟨hempty, -⟩ := advance_cases env (some c) stage
  · exact hsame
  · cases hempty

theorem Agrees.advance {cell : ConfigurationCell} {stage : ConfigurationStage}
    (h : stage.Agrees cell) (env : Environment) :
    (stage.advance env cell).1.Agrees (stage.advance env cell).2 := by
  cases stage with
  | looking =>
    cases cell with
    | none => trivial
    | some c => exact rfl
  | loading fresh =>
    simp only [ConfigurationStage.advance]
    cases Configuration.ofEnvironment env <;> trivial
  | storing fresh c =>
    cases cell with
    | none => exact rfl
    | some c' => cases fresh <;> trivial
  | fetching =>
    cases cell with
    | none => cases h
    | some c => exact rfl
  | finished result => exact h

/-- What a stage says stays true when a configuration is stored. -/
theorem Agrees.stored {cell cell' : ConfigurationCell} {stage : ConfigurationStage}
    (h : stage.Agrees cell) (hcell : ∀ c, cell = some c → cell' = some c) :
    stage.Agrees cell' := by
  cases stage with
  | fetching =>
    obtain ⟨c, hc⟩ := Option.isSome_iff_exists.1 h
    exact Option.isSome_iff_exists.2 ⟨c, hcell c hc⟩
  | finished result =>
    cases result with
    | ok c => exact hcell c h
    | error e => trivial
  | _ => trivial

/-- The stage ends with the configuration that is stored, if there is one. -/
def Takes (c : Configuration) : ConfigurationStage → Prop
  | looking | fetching => True
  | finished (.ok c') => c' = c
  | _ => False

theorem Takes.advance {c : Configuration} {stage : ConfigurationStage} (h : stage.Takes c)
    (env : Environment) : stage.advance env (some c) = (finished (.ok c), some c) := by
  cases stage with
  | looking | fetching => rfl
  | finished result =>
    cases result with
    | ok c' =>
      cases h
      rfl
    | error e => cases h
  | _ => cases h

/-- How many steps a stage is from the end, at most. -/
def toGo : ConfigurationStage → Nat
  | looking => 4
  | loading _ => 3
  | storing .. => 2
  | fetching => 1
  | finished _ => 0

theorem toGo_le_longest (stage : ConfigurationStage) : stage.toGo ≤ longest := by
  cases stage <;> simp [toGo, longest]

theorem toGo_advance (env : Environment) (cell : ConfigurationCell) (stage : ConfigurationStage) :
    (stage.advance env cell).1.toGo ≤ stage.toGo - 1 := by
  cases stage with
  | loading fresh =>
    simp only [advance]
    cases Configuration.ofEnvironment env <;> simp [toGo]
  | storing fresh c => cases cell <;> cases fresh <;> simp [advance, toGo]
  | _ => cases cell <;> simp [advance, toGo]

theorem finished_of_toGo {stage : ConfigurationStage} (h : stage.toGo = 0) :
    ∃ result, stage = finished result := by
  cases stage <;> simp_all [toGo]

theorem finished_get {stage : ConfigurationStage} (h : stage.result?.isSome = true) :
    finished (stage.result?.get h) = stage := by
  cases stage with
  | finished result => rfl
  | _ => cases h

end ConfigurationStage

/-- A cell and the calls that have been made on it, each at its own stage. -/
structure Race where
  cell : ConfigurationCell
  /-- In the order of their beginning. -/
  calls : List ConfigurationStage

inductive Move where
  | call (request : ConfigurationRequest)
  /-- The next step of a call, in the environment of this moment. -/
  | advance (i : Nat) (env : Environment)

/-- The move is a step of a call. -/
def Move.isStepOf (i : Nat) : Move → Bool
  | call _ => false
  | advance j _ => j = i

namespace Race

/-- Nothing is stored, and no call has been made. -/
def start : Race := ⟨none, []⟩

def step (race : Race) : Move → Race
  | .call request => { race with calls := race.calls ++ [.ofRequest request] }
  | .advance i env =>
    match race.calls[i]? with
    | none => race
    | some stage =>
      let (stage, cell) := stage.advance env race.cell
      ⟨cell, race.calls.set i stage⟩

def run (race : Race) (moves : List Move) : Race := moves.foldl step race

theorem step_advance {race : Race} {i : Nat} {stage : ConfigurationStage}
    (hi : race.calls[i]? = some stage) (env : Environment) :
    race.step (.advance i env) =
      ⟨(stage.advance env race.cell).2, race.calls.set i (stage.advance env race.cell).1⟩ := by
  simp only [step, hi]

theorem step_cell {race : Race} {c : Configuration} (h : race.cell = some c) (move : Move) :
    (race.step move).cell = some c := by
  cases move with
  | call request => exact h
  | advance i env =>
    cases hi : race.calls[i]? with
    | none => simpa only [step, hi] using h
    | some stage =>
      rw [step_advance hi, h]
      exact ConfigurationStage.advance_cell env c stage

/-- What is stored stays stored. -/
theorem run_cell {race : Race} {c : Configuration} (h : race.cell = some c) (moves : List Move) :
    (race.run moves).cell = some c := by
  induction moves generalizing race with
  | nil => exact h
  | cons move moves ih => exact ih (step_cell h move)

/-- Whatever a call says about the cell is so. -/
def Agreed (race : Race) : Prop := ∀ stage ∈ race.calls, stage.Agrees race.cell

theorem Agreed.step {race : Race} (h : race.Agreed) (move : Move) : (race.step move).Agreed := by
  have hstored : ∀ stage ∈ race.calls, stage.Agrees (race.step move).cell :=
    fun stage hstage => (h stage hstage).stored fun c hc => step_cell hc move
  cases move with
  | call request =>
    intro stage hstage
    obtain hold | hnew := List.mem_append.1 hstage
    · exact h stage hold
    · rw [List.mem_singleton.1 hnew]
      cases request <;> trivial
  | advance i env =>
    cases hi : race.calls[i]? with
    | none => simpa only [Race.step, hi] using h
    | some stage =>
      rw [step_advance hi] at hstored ⊢
      intro stage' hstage'
      obtain hold | rfl := List.mem_or_eq_of_mem_set hstage'
      · exact hstored stage' hold
      · exact (h stage (List.mem_of_getElem? hi)).advance env

theorem Agreed.run {race : Race} (h : race.Agreed) (moves : List Move) :
    (race.run moves).Agreed := by
  induction moves generalizing race with
  | nil => exact h
  | cons move moves ih => exact ih (h.step move)

/-- A call moves by its own steps only. -/
theorem calls_step {race : Race} {i : Nat} {stage : ConfigurationStage}
    (hi : race.calls[i]? = some stage) (move : Move) :
    (move.isStepOf i = false ∧ (race.step move).calls[i]? = some stage) ∨
      ∃ env, move = .advance i env ∧
        (race.step move).calls[i]? = some (stage.advance env race.cell).1 := by
  have hlt := (List.getElem?_eq_some_iff.1 hi).1
  cases move with
  | call request =>
    exact .inl ⟨rfl, (List.getElem?_append_left hlt).trans hi⟩
  | advance j env =>
    by_cases hj : j = i
    · subst hj
      refine .inr ⟨env, rfl, ?_⟩
      rw [step_advance hi]
      exact List.getElem?_set_self hlt
    · refine .inl ⟨decide_eq_false hj, ?_⟩
      cases hother : race.calls[j]? with
      | none => simpa only [step, hother] using hi
      | some other =>
        rw [step_advance hother]
        exact (List.getElem?_set_ne hj).trans hi

/-- A call that takes what is stored goes on to do so, whatever the others do. -/
theorem run_takes {race : Race} {c : Configuration} (hcell : race.cell = some c) {i : Nat}
    {stage : ConfigurationStage} (hi : race.calls[i]? = some stage) (hstage : stage.Takes c)
    (moves : List Move) :
    ∃ stage', (race.run moves).calls[i]? = some stage' ∧ stage'.Takes c := by
  induction moves generalizing race stage with
  | nil => exact ⟨stage, hi, hstage⟩
  | cons move moves ih =>
    obtain ⟨-, hsame⟩ | ⟨env, -, hnext⟩ := calls_step hi move
    · exact ih (step_cell hcell move) hsame hstage
    · rw [hcell, hstage.advance] at hnext
      exact ih (step_cell hcell move) hnext rfl

theorem run_toGo {race : Race} {i : Nat} {stage : ConfigurationStage}
    (hi : race.calls[i]? = some stage) (moves : List Move) :
    ∃ stage', (race.run moves).calls[i]? = some stage' ∧
      stage'.toGo ≤ stage.toGo - moves.countP (Move.isStepOf i) := by
  induction moves generalizing race stage with
  | nil => exact ⟨stage, hi, Nat.le_refl _⟩
  | cons move moves ih =>
    obtain ⟨hother, hsame⟩ | ⟨env, rfl, hnext⟩ := calls_step hi move
    · obtain ⟨stage', hi', hle⟩ := ih hsame
      exact ⟨stage', hi', by rwa [List.countP_cons_of_neg (by simp [hother])]⟩
    · obtain ⟨stage', hi', hle⟩ := ih hnext
      have hadvance := ConfigurationStage.toGo_advance env race.cell stage
      refine ⟨stage', hi', ?_⟩
      have hcount : (Move.advance i env :: moves).countP (Move.isStepOf i) =
          moves.countP (Move.isStepOf i) + 1 := List.countP_cons_of_pos (decide_eq_true rfl)
      omega

/-- A call is over when it has taken as many steps as the longest request takes. -/
theorem run_finished {race : Race} {i : Nat} (hi : i < race.calls.length) {moves : List Move}
    (hmoves : ConfigurationStage.longest ≤ moves.countP (Move.isStepOf i)) :
    ∃ result, (race.run moves).calls[i]? = some (.finished result) := by
  obtain ⟨stage, hstage, hle⟩ := run_toGo (List.getElem?_eq_getElem hi) moves
  have hmost := ConfigurationStage.toGo_le_longest race.calls[i]
  have hend : stage.toGo = 0 := by omega
  obtain ⟨result, rfl⟩ := ConfigurationStage.finished_of_toGo hend
  exact ⟨result, hstage⟩

theorem run_advance (cell : ConfigurationCell) (calls : List ConfigurationStage)
    (stage : ConfigurationStage) (env : Environment) (n : Nat) :
    run ⟨cell, calls ++ [stage]⟩ (List.replicate n (.advance calls.length env)) =
      let (stage, cell) := ConfigurationStage.advanceMany env n (stage, cell)
      ⟨cell, calls ++ [stage]⟩ := by
  induction n generalizing cell stage with
  | zero => rfl
  | succ n ih =>
    have hstep : step ⟨cell, calls ++ [stage]⟩ (.advance calls.length env) =
        ⟨(stage.advance env cell).2, calls ++ [(stage.advance env cell).1]⟩ := by
      rw [step_advance List.getElem?_concat_length]
      simp
    rw [List.replicate_succ, run, List.foldl_cons, hstep]
    exact ih _ _

/-- A call that nothing comes between is a request that is run as a whole. -/
theorem run_uninterrupted (race : Race) (request : ConfigurationRequest) (env : Environment) :
    race.run (.call request ::
        List.replicate ConfigurationStage.longest (.advance race.calls.length env)) =
      let (result, cell) := request.run env race.cell
      ⟨cell, race.calls ++ [.finished result]⟩ := by
  simp only [ConfigurationRequest.run, ConfigurationStage.finished_get]
  exact run_advance race.cell race.calls (.ofRequest request) env ConfigurationStage.longest

/-- A call that fails has not stored anything. -/
theorem cell_of_failed {race : Race} {i : Nat} {env : Environment} {later : List Move}
    {e : ConfigurationError}
    (h : ((race.step (.advance i env)).run later).calls[i]? = some (.finished (.error e))) :
    (race.step (.advance i env)).cell = race.cell := by
  cases hi : race.calls[i]? with
  | none => simp only [step, hi]
  | some stage =>
    obtain hsame | ⟨-, c, hstored⟩ := ConfigurationStage.advance_cases env race.cell stage
    · rw [step_advance hi, hsame]
    · -- Having stored its own, the call can only go on to fetch what is stored.
      have hstep : race.step (.advance i env) = ⟨some c, race.calls.set i .fetching⟩ := by
        rw [step_advance hi, hstored]
      have hfetching : (race.step (.advance i env)).calls[i]? = some .fetching := by
        rw [hstep]
        exact List.getElem?_set_self (List.getElem?_eq_some_iff.1 hi).1
      obtain ⟨stage', hi', htakes⟩ :=
        run_takes (congrArg cell hstep) hfetching trivial later
      rw [h] at hi'
      cases hi'
      cases htakes

/-- Who asks for the configuration when it is stored gets it, whatever the environment is like. -/
theorem getOrLoad_of_stored {race : Race} {c : Configuration} (h : race.cell = some c)
    (later : List Move) (env : Environment) :
    (((race.step (.call .getOrLoad)).run later).step
      (.advance race.calls.length env)).calls[race.calls.length]? = some (.finished (.ok c)) := by
  have hcell := step_cell h (.call .getOrLoad)
  obtain ⟨stage, hi, htakes⟩ := run_takes hcell List.getElem?_concat_length trivial later
  rw [step_advance hi, run_cell hcell later, htakes.advance]
  exact List.getElem?_set_self (List.getElem?_eq_some_iff.1 hi).1

/-- A call that finds a configuration where it would store its own is refused. -/
theorem refused_of_stored {race : Race} {c c' : Configuration} (h : race.cell = some c) {i : Nat}
    (hi : race.calls[i]? = some (.storing true c')) (env : Environment) :
    (race.step (.advance i env)).calls[i]? = some (.finished (.error .alreadyStored)) := by
  rw [step_advance hi, h, List.getElem?_set_self (List.getElem?_eq_some_iff.1 hi).1]
  rfl

/-- The configuration is written once and agreed. After any interleaving of the steps of any calls
on an empty cell, in whatever environments they are taken:

* what is stored stays stored, and is what asking for the configuration answers;
* every call that has got a configuration has got the one that is stored;
* a call that demands to store its own is refused at the cell if a configuration is stored;
* one that takes what is stored, made after that, gets it in one step;
* no step of a call that fails changes the cell;
* every call is over after a few steps of its own. -/
theorem agreement (moves : List Move) :
    let race := start.run moves
    (∀ (c : Configuration) (later : List Move), race.cell = some c →
      (race.run later).cell = some c ∧
      ∀ s : Session, s.configuration = (race.run later).cell →
        s.runConfigurationStep .stored = (.configuration (some c), s) ∧
        s.runConfigurationStep .demand = (.configuration (some c), s)) ∧
    (∀ (i : Nat) (c : Configuration), race.calls[i]? = some (.finished (.ok c)) →
      race.cell = some c) ∧
    (∀ (i : Nat) (c c' : Configuration) (env : Environment), race.cell = some c →
      race.calls[i]? = some (.storing true c') →
      (race.step (.advance i env)).calls[i]? = some (.finished (.error .alreadyStored))) ∧
    (∀ (c : Configuration) (later : List Move) (env : Environment), race.cell = some c →
      (((race.step (.call .getOrLoad)).run later).step
        (.advance race.calls.length env)).calls[race.calls.length]? = some (.finished (.ok c))) ∧
    (∀ (i : Nat) (env : Environment) (later : List Move) (e : ConfigurationError),
      ((race.step (.advance i env)).run later).calls[i]? = some (.finished (.error e)) →
      (race.step (.advance i env)).cell = race.cell) ∧
    ∀ (i : Nat) (later : List Move), i < race.calls.length →
      ConfigurationStage.longest ≤ later.countP (Move.isStepOf i) →
      ∃ result, (race.run later).calls[i]? = some (.finished result) := by
  have hagreed : (start.run moves).Agreed := Agreed.run (by simp [Agreed, start]) moves
  refine ⟨?stored, ?agreed, ?refused, ?taken, ?failed, ?ended⟩
  case stored =>
    intro c later hcell
    have hlater := run_cell hcell later
    refine ⟨hlater, fun s hs => ?_⟩
    rw [hlater] at hs
    simp only [Session.runConfigurationStep, hs, and_self]
  case agreed =>
    intro i c hi
    exact hagreed _ (List.mem_of_getElem? hi)
  case refused =>
    intro i c c' env hcell hi
    exact refused_of_stored hcell hi env
  case taken =>
    intro c later env hcell
    exact getOrLoad_of_stored hcell later env
  case failed =>
    intro i env later e h
    exact cell_of_failed h
  case ended =>
    intro i later hi hlater
    exact run_finished hi hlater

/-- A caller that has read the environment loses to one that brings its own configuration, and both
get the same. -/
theorem agreement_overtaken :
    let race := start.run [.call .getOrLoad, .call (.initialise { traceCommands := true }),
      .advance 0 .empty, .advance 0 .empty, .advance 1 .empty, .advance 0 .empty,
      .advance 0 .empty, .advance 1 .empty]
    race.calls = [.finished (.ok { traceCommands := true }),
      .finished (.ok { traceCommands := true })] ∧
    race.cell = some { traceCommands := true } :=
  ⟨rfl, (agreement _).2.1 0 _ rfl⟩

end Race
end TensorMemory
