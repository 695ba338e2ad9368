import TensorMemory.Proofs.Outcome
import TensorMemory.Proofs.Tracing.Level
import TensorMemory.Session.Observation

/-!
Which environments a configuration can be read from. Every variable has a rule for its text: a level
and a flag may stand in blank space and in any letter case, and a path is any text but the empty
one. If all rules are kept, the configuration is what the texts mean, with a default for each absent
one (`Describes`); if not, the error is about the first variable whose rule is broken and names its
text as it stands (`FirstFault`). A value that forms no text counts as absent.
-/

namespace TensorMemory

/-! ## What the texts mean -/

/-- A spelling of the level, with any blank space around it. -/
def Level.Written (level : Level) (s : String) : Prop :=
  ∃ word, level.Spelled word ∧ Text.Padded word s

def flagWords : Bool → List String
  | true => ["1", "true", "yes", "on"]
  | false => ["0", "false", "no", "off"]

/-- One of the flag's words in any letter case. -/
def FlagSpelled (flag : Bool) (s : String) : Prop := ∃ word ∈ flagWords flag, Text.Recased word s

/-- A spelling of the flag, with any blank space around it. -/
def FlagWritten (flag : Bool) (s : String) : Prop :=
  ∃ word, FlagSpelled flag word ∧ Text.Padded word s

/-- The text itself is the path, unless it is empty. -/
def PathWritten (path : Option NativeText) (s : String) : Prop := s ≠ "" ∧ path = some (.text s)

namespace Variable

/-- The texts that the variable may hold. -/
def Accepts : Variable → String → Prop
  | logLevel, s => ∃ level : Level, level.Written s
  | metricsPath, s => s ≠ ""
  | metricsConsole, s | traceCommands, s => ∃ flag, FlagWritten flag s

/-- What is said about a text that the variable may not hold. -/
def complaint : Variable → String → ConfigurationError
  | logLevel, s => .invalidLogLevel s
  | metricsPath, s => .environment (.unreadable .metricsPath s "path must not be empty")
  | metricsConsole, s => .invalidFlag .metricsConsole s
  | traceCommands, s => .invalidFlag .traceCommands s

end Variable

namespace Environment

variable {α : Type}

/-- The variable is absent or holds a text that it may hold. -/
def WellFormed (env : Environment) (v : Variable) : Prop :=
  ∀ text, env.get v = some text → v.Accepts text

/-- The error is the complaint about the text that the variable holds and may not hold. -/
def Complains (env : Environment) (v : Variable) (e : ConfigurationError) : Prop :=
  ∃ text, env.get v = some text ∧ ¬v.Accepts text ∧ e = v.complaint text

/-- The value is what the variable's text means or, if it is absent, the default. -/
def Holds (env : Environment) (v : Variable) (means : α → String → Prop) (absent a : α) : Prop :=
  match env.get v with
  | none => a = absent
  | some text => means a text

theorem wellFormed_iff (env : Environment) (v : Variable) :
    env.WellFormed v ↔ ∀ e, ¬env.Complains v e := by
  constructor
  · rintro h e ⟨text, hget, hbad, -⟩
    exact hbad (h text hget)
  · intro h text hget
    by_contra hbad
    exact h _ ⟨text, hget, hbad, rfl⟩

end Environment

/-! ## The parsers -/

variable {s : String}

theorem parse_logLevel_eq_ok_iff {level : Level} :
    Descriptor.logLevel.parse s = .ok level ↔ level.Written s := by
  rw [Level.Written, Text.exists_padded_iff fun word => Level.Spelled.solid,
    ← Level.ofText?_eq_some_iff]
  cases h : Level.ofText? (Text.trim s) <;> simp [Descriptor.logLevel, h]

theorem flagSpelled_iff {flag : Bool} : FlagSpelled flag s ↔ Text.lower s ∈ flagWords flag := by
  have hplain : ∀ word ∈ flagWords flag, Text.lower word = word := by
    cases flag <;> decide +kernel
  constructor
  · rintro ⟨word, hword, hs⟩
    rwa [Text.lower_eq_lower_iff.2 hs, hplain word hword]
  · intro h
    exact ⟨Text.lower s, h, Text.lower_eq_lower_iff.1 (hplain _ h).symm⟩

theorem FlagSpelled.solid {flag : Bool} (h : FlagSpelled flag s) : Text.Solid s := by
  have hsolid : ∀ word ∈ flagWords flag, Text.Solid word := by cases flag <;> decide +kernel
  obtain ⟨word, hword, hs⟩ := h
  exact hs.solid (hsolid word hword)

theorem parseFlag_eq_ok_iff {flag : Bool} : parseFlag s = .ok flag ↔ FlagWritten flag s := by
  rw [FlagWritten, Text.exists_padded_iff fun word => FlagSpelled.solid, flagSpelled_iff, parseFlag]
  split <;> cases flag <;> simp_all [flagWords]

theorem parse_metricsPath_eq_ok_iff {path : NativeText} :
    Descriptor.metricsPath.parse s = .ok path ↔ s ≠ "" ∧ .text s = path := by
  by_cases h : s = "" <;> simp [Descriptor.metricsPath, h]

theorem parse_metricsPath_reason {reason : String}
    (h : Descriptor.metricsPath.parse s = .error reason) : reason = "path must not be empty" := by
  by_cases hs : s = "" <;> simp [Descriptor.metricsPath, hs] at h
  exact h.symm

/-! ## The pieces -/

namespace Configuration

variable {α β : Type} {env : Environment}

/-- A piece of the configuration is what its variable means, or the complaint about it. -/
structure ReadFrom (v : Variable) (means : β → String → Prop) (absent : β) (env : Environment)
    (r : Except ConfigurationError β) : Prop where
  ok_iff : ∀ b, r = .ok b ↔ env.Holds v means absent b
  error_iff : ∀ e, r = .error e ↔ env.Complains v e

/-- A piece passes on what its descriptor gets, and complains about what that cannot parse. -/
theorem readFrom_descriptor (d : Descriptor α) (wrap : Option α → β) {means : β → String → Prop}
    {r : Except ConfigurationError β}
    (hmeans : ∀ text b, means b text ↔ ∃ a, d.parse text = .ok a ∧ wrap (some a) = b)
    (haccepts : ∀ text, d.name.Accepts text ↔ ∃ a, d.parse text = .ok a)
    (hok : ∀ value, d.get env = .ok value → r = .ok (wrap value))
    (herror : ∀ text reason, d.parse text = .error reason →
      d.get env = .error (.unreadable d.name text reason) → r = .error (d.name.complaint text)) :
    ReadFrom d.name means (wrap none) env r := by
  cases hget : env.get d.name with
  | none =>
    rw [hok none (by simp only [Descriptor.get, hget])]
    exact ⟨fun b => by simp [Environment.Holds, hget, eq_comm],
      fun e => by simp [Environment.Complains, hget]⟩
  | some text =>
    cases hparse : d.parse text with
    | ok a =>
      have hacc : d.name.Accepts text := (haccepts text).2 ⟨a, hparse⟩
      rw [hok (some a) (by simp only [Descriptor.get, hget, hparse])]
      exact ⟨fun b => by simp [Environment.Holds, hget, hmeans, hparse],
        fun e => by simp [Environment.Complains, hget, hacc]⟩
    | error reason =>
      have hacc : ¬d.name.Accepts text := by simp [haccepts, hparse]
      rw [herror text reason hparse (by simp only [Descriptor.get, hget, hparse])]
      exact ⟨fun b => by simp [Environment.Holds, hget, hmeans, hparse],
        fun e => by simp [Environment.Complains, hget, hacc, eq_comm]⟩

theorem levelOf_readFrom (env : Environment) :
    ReadFrom .logLevel Level.Written .info env (levelOf env) := by
  refine readFrom_descriptor .logLevel (·.getD .info) ?means ?accepts ?ok ?error
  case means => simp [parse_logLevel_eq_ok_iff]
  case accepts =>
    simp only [parse_logLevel_eq_ok_iff]
    exact fun text => Iff.rfl
  case ok =>
    intro value h
    rw [levelOf, h]
  case error =>
    intro text reason hparse h
    rw [levelOf, h]
    rfl

theorem pathOf_readFrom (env : Environment) :
    ReadFrom .metricsPath PathWritten none env (pathOf env) := by
  refine readFrom_descriptor .metricsPath id ?means ?accepts ?ok ?error
  case means =>
    intro text path
    simp [parse_metricsPath_eq_ok_iff, PathWritten, and_assoc, eq_comm (a := path)]
  case accepts =>
    intro text
    simp only [parse_metricsPath_eq_ok_iff, exists_and_left, exists_eq', and_true]
    exact Iff.rfl
  case ok =>
    intro value h
    rw [pathOf, h]
    rfl
  case error =>
    intro text reason hparse h
    rw [pathOf, h, parse_metricsPath_reason hparse]
    rfl

theorem flagOf_readFrom (v : Variable) {format : Bool → Except String String} (env : Environment)
    (haccepts : ∀ text, v.Accepts text ↔ ∃ flag, FlagWritten flag text)
    (hcomplaint : ∀ text, v.complaint text = .invalidFlag v text) :
    ReadFrom v FlagWritten false env (flagOf ⟨v, parseFlag, format⟩ env) := by
  refine readFrom_descriptor ⟨v, parseFlag, format⟩ (·.getD false) ?means ?accepts ?ok ?error
  case means => simp [parseFlag_eq_ok_iff]
  case accepts => simp [haccepts, parseFlag_eq_ok_iff]
  case ok =>
    intro value h
    rw [flagOf, h]
  case error =>
    intro text reason hparse h
    rw [flagOf, h, hcomplaint]

theorem consoleOf_readFrom (env : Environment) :
    ReadFrom .metricsConsole FlagWritten false env (flagOf .metricsConsole env) :=
  flagOf_readFrom .metricsConsole env (fun _ => Iff.rfl) fun _ => rfl

theorem traceOf_readFrom (env : Environment) :
    ReadFrom .traceCommands FlagWritten false env (flagOf .traceCommands env) :=
  flagOf_readFrom .traceCommands env (fun _ => Iff.rfl) fun _ => rfl

/-! ## The whole -/

/-- Every part of the configuration is what its variable means or the default. -/
structure Describes (env : Environment) (c : Configuration) : Prop where
  logLevel : env.Holds .logLevel Level.Written .info c.logLevel
  metricsPath : env.Holds .metricsPath PathWritten none c.metricsPath
  consoleMetrics : env.Holds .metricsConsole FlagWritten false c.consoleMetrics
  traceCommands : env.Holds .traceCommands FlagWritten false c.traceCommands

/-- The complaint is about one of the variables, and the ones before it are well-formed. -/
def FirstFault (env : Environment) (order : List Variable) (e : ConfigurationError) : Prop :=
  ∃ before v after, order = before ++ v :: after ∧ (∀ w ∈ before, env.WellFormed w) ∧
    env.Complains v e

theorem firstFault_nil {e : ConfigurationError} : ¬FirstFault env [] e := by
  rintro ⟨before, v, after, horder, -⟩
  exact List.append_ne_nil_of_right_ne_nil before (List.cons_ne_nil v after) horder.symm

theorem firstFault_cons {v : Variable} {order : List Variable} {e : ConfigurationError} :
    FirstFault env (v :: order) e ↔
      env.Complains v e ∨ env.WellFormed v ∧ FirstFault env order e := by
  constructor
  · rintro ⟨_ | ⟨u, before⟩, w, after, horder, hbefore, hw⟩
    · cases horder
      exact .inl hw
    · cases horder
      exact .inr ⟨hbefore v (.head _), before, w, after, rfl,
        fun u hu => hbefore u (.tail _ hu), hw⟩
  · rintro (hv | ⟨hv, before, w, after, rfl, hbefore, hw⟩)
    · exact ⟨[], v, order, rfl, nofun, hv⟩
    · exact ⟨v :: before, w, after, rfl, List.forall_mem_cons.2 ⟨hv, hbefore⟩, hw⟩

theorem forall_not_firstFault_iff {order : List Variable} :
    (∀ e, ¬FirstFault env order e) ↔ ∀ v ∈ order, env.WellFormed v := by
  induction order with
  | nil => simp [firstFault_nil]
  | cons v order ih =>
    rw [List.forall_mem_cons, ← ih, env.wellFormed_iff]
    simp only [firstFault_cons, not_or, forall_and, not_and, env.wellFormed_iff]
    exact and_congr_right fun hv => ⟨fun h e => h e hv, fun h e _ => h e⟩

/-- A piece can be read exactly if its variable is well-formed. -/
theorem ReadFrom.exists_iff {v : Variable} {means : β → String → Prop} {absent : β}
    {r : Except ConfigurationError β} (h : ReadFrom v means absent env r) :
    (∃ b, r = .ok b) ↔ env.WellFormed v := by
  simp only [exists_eq_ok_iff, env.wellFormed_iff, ne_eq, h.error_iff]

theorem ofEnvironment_eq_ok_iff {c : Configuration} :
    ofEnvironment env = .ok c ↔ Describes env c := by
  have hpieces : ofEnvironment env = .ok c ↔ levelOf env = .ok c.logLevel ∧
      pathOf env = .ok c.metricsPath ∧ flagOf .metricsConsole env = .ok c.consoleMetrics ∧
      flagOf .traceCommands env = .ok c.traceCommands := by
    constructor
    · intro h
      simp only [ofEnvironment, bind_eq_ok_iff] at h
      obtain ⟨level, hlevel, path, hpath, console, hconsole, trace, htrace, ⟨⟩⟩ := h
      exact ⟨hlevel, hpath, hconsole, htrace⟩
    · rintro ⟨hlevel, hpath, hconsole, htrace⟩
      rw [ofEnvironment, hlevel, hpath, hconsole, htrace]
      rfl
  rw [hpieces, (levelOf_readFrom env).ok_iff, (pathOf_readFrom env).ok_iff,
    (consoleOf_readFrom env).ok_iff, (traceOf_readFrom env).ok_iff]
  exact ⟨fun ⟨hl, hp, hc, ht⟩ => ⟨hl, hp, hc, ht⟩, fun ⟨hl, hp, hc, ht⟩ => ⟨hl, hp, hc, ht⟩⟩

theorem ofEnvironment_eq_error_iff {e : ConfigurationError} :
    ofEnvironment env = .error e ↔ FirstFault env Variable.all e := by
  have hreturn : ∀ c : Configuration, (return c) ≠ Except.error e := fun c => nofun
  simp only [ofEnvironment, bind_eq_error_iff, hreturn, and_false, exists_false, or_false,
    exists_and_right, Variable.all, firstFault_cons, firstFault_nil,
    (levelOf_readFrom env).error_iff, (pathOf_readFrom env).error_iff,
    (consoleOf_readFrom env).error_iff, (traceOf_readFrom env).error_iff,
    (levelOf_readFrom env).exists_iff, (pathOf_readFrom env).exists_iff,
    (consoleOf_readFrom env).exists_iff]

theorem exists_ofEnvironment_iff :
    (∃ c, ofEnvironment env = .ok c) ↔ ∀ v, env.WellFormed v := by
  simp only [exists_eq_ok_iff, ne_eq, ofEnvironment_eq_error_iff, forall_not_firstFault_iff]
  exact ⟨fun h v => h v v.mem_all, fun h v _ => h v⟩

/-- A configuration is read from exactly the well-formed environments, whatever else the session
holds:

* it is then what the texts of the variables mean, with a default for each absent one;
* it can be read if every variable is absent or holds a text that it may hold;
* otherwise the error is the complaint about the first variable that does not;
* nothing is changed by reading it, neither the environment nor what is stored. -/
theorem reading (s : Session) :
    (∀ c, ofEnvironment s.environment = .ok c ↔ Describes s.environment c) ∧
    ((∃ c, ofEnvironment s.environment = .ok c) ↔ ∀ v, s.environment.WellFormed v) ∧
    (∀ e, ofEnvironment s.environment = .error e ↔ FirstFault s.environment Variable.all e) ∧
    s.runConfigurationStep .ofEnvironment =
      (Session.answerConfiguration (ofEnvironment s.environment), s) :=
  ⟨fun _ => ofEnvironment_eq_ok_iff, exists_ofEnvironment_iff,
    fun _ => ofEnvironment_eq_error_iff, rfl⟩

example : ofEnvironment (((Environment.empty.put .logLevel (some " +002\u2003")).put
      .metricsPath (some " ")).put .metricsConsole (some "\tYeS\n")) =
    .ok { logLevel := .warn, metricsPath := some (.text " "), consoleMetrics := true } := by
  rfl

-- Both texts are malformed, and the path comes first.
example : ofEnvironment ((Environment.empty.put .traceCommands (some " maybe ")).put
      .metricsPath (some "")) =
    .error (.environment (.unreadable .metricsPath "" "path must not be empty")) := by
  rfl

end Configuration
end TensorMemory
