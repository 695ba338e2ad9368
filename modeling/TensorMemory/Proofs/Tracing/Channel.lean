import TensorMemory.Proofs.Metric.Event
import TensorMemory.Tracing.Collector

/-!
The metric channel loses nothing. A run of a collector is a list of signals: spans that are entered
and left, the clock, and the events sent. An event that carries a metric makes one record, with the
span and the time that it meets, and every exporter takes that record once, in the order in which
the events were sent; any other event reaches no exporter. What an exporter takes shows on standard
output or in the file that it appends to.
-/

namespace TensorMemory

/-- The text of a file; of one that there is not, nothing. -/
def Files.textAt (files : Files) (location : Location) : String :=
  (files.contents.get? location).getD ""

/-- What an exporter appends to a file for a record. -/
def Exporter.writes (location : Location) (r : Record) : Exporter → String
  | .lines (.file target) => if target = location then r.line ++ "\n" else ""
  | _ => ""

namespace Collector

/-- The metric event that an event hands to the exporters. -/
def carried (e : Event) : Option MetricEvent :=
  match metricOf e with
  | some (.ok m) => some m
  | _ => none

/-- The records that an event makes: one if it carries a metric. -/
def recordsOf (c : Collector) (e : Event) : List Record := (carried e).toList.map c.enrich

/-- The logs of an event that are printed whether or not it carries a metric. -/
def remarks (c : Collector) (s : Subscriber) (e : Event) : List String :=
  (if e.target ≠ Event.metricsTarget ∧ e.level.passes s.level then [c.logLine s.level e] else []) ++
    match metricOf e with
    | some (.error ()) => [c.logLine s.level undecoded]
    | _ => []

/-- What is printed when an exporter takes a record. -/
def shows (c : Collector) (s : Subscriber) (r : Record) : Exporter → List Printed
  | .console => [.metric r]
  | .lines (.special .full) => [.log (c.logLine s.level (unappended .storageFull r.event))]
  | .lines _ => []

/-- What is printed for an event: its logs, then what each exporter shows of its record. -/
def output (c : Collector) (s : Subscriber) (e : Event) : List Printed :=
  (c.remarks s e).map .log ++ (c.recordsOf e).flatMap fun r => s.exporters.flatMap (c.shows s r)

/-- What the exporters append to a file for an event. -/
def written (c : Collector) (s : Subscriber) (location : Location) (e : Event) : List String :=
  (c.recordsOf e).flatMap fun r => s.exporters.map (·.writes location r)

/-! ## One event -/

theorem carried_eq_none_iff (e : Event) : carried e = none ↔
    e.target ≠ Event.metricsTarget ∨ (∀ f ∈ e.fields, f.1 ≠ Event.metricField) ∨
      ∃ text, e.metricText? = some text ∧ MetricEvent.decode text = none := by
  have hfield : (∀ f ∈ e.fields, f.1 ≠ Event.metricField) ↔ e.metricText? = none := by
    simp [Event.metricText?]
  rw [hfield]
  by_cases htarget : e.target = Event.metricsTarget
  · cases htext : e.metricText? with
    | none => simp [carried, metricOf, htarget, htext]
    | some text => cases hdecode : MetricEvent.decode text <;> simp [carried, metricOf, *]
  · simp [carried, metricOf, htarget]

theorem carried_log {level : Level} {target : String} {message : Option String}
    {fields : List (String × FieldValue)} (h : target ≠ Event.metricsTarget) :
    carried ⟨level, target, message, fields⟩ = none :=
  (carried_eq_none_iff _).mpr (.inl h)

theorem metricOf_ofMetric (m : MetricEvent) : metricOf (.ofMetric m) = some (.ok m) := by
  have htext : (Event.ofMetric m).metricText? = some m.encode := rfl
  have htarget : (Event.ofMetric m).target = Event.metricsTarget := rfl
  simp [metricOf, htext, htarget, MetricEvent.decode_encode]

/-- Every metric event is carried. -/
theorem carried_ofMetric (m : MetricEvent) : carried (.ofMetric m) = some m := by
  rw [carried, metricOf_ofMetric]

/-- Appending either reports a full device or puts the share of the sink behind each text. -/
theorem append_textAt (files : Files) (sink : Sink) (r : Record) :
    (sink = .special .full ∧ Exporter.appendRecord files sink r = .error .storageFull) ∨
      sink ≠ .special .full ∧ ∃ files', Exporter.appendRecord files sink r = .ok files' ∧
        ∀ location, files'.textAt location =
          files.textAt location ++ (Exporter.lines sink).writes location r := by
  match sink with
  | .special .full => exact .inl ⟨rfl, rfl⟩
  | .special .null =>
    exact .inr ⟨by decide, files, rfl, fun location => by simp [Exporter.writes]⟩
  | .file target =>
    refine .inr ⟨by simp, _, rfl, fun location => ?_⟩
    by_cases h : location = target
    · subst h
      simp [Files.textAt, Table.get?_insert, Exporter.writes]
    · simp [Files.textAt, Table.get?_insert, Exporter.writes, h, Ne.symm h]

theorem printLog_of_passes (c : Collector) {s : Subscriber} {e : Event}
    (h : e.target ≠ Event.metricsTarget ∧ e.level.passes s.level = true) :
    c.printLog s e = { c with printed := c.printed ++ [.log (c.logLine s.level e)] } :=
  if_pos h

/-- The collector's own complaints are always printed. -/
theorem printLog_error (c : Collector) (s : Subscriber) (message : String)
    (fields : List (String × FieldValue)) :
    c.printLog s ⟨.error, "instrument", some message, fields⟩ =
      { c with
        printed := c.printed ++
          [.log (c.logLine s.level ⟨.error, "instrument", some message, fields⟩)] } := by
  refine c.printLog_of_passes ⟨show "instrument" ≠ Event.metricsTarget by decide, ?_⟩
  cases s.level <;> rfl

/-- An exporter that takes a record prints and appends its share, and nothing else changes. -/
theorem deliver_eq (c : Collector) (s : Subscriber) (r : Record) (x : Exporter) :
    ∃ files, c.deliver s r x = { c with printed := c.printed ++ c.shows s r x, files } ∧
      ∀ location, files.textAt location = c.files.textAt location ++ x.writes location r := by
  cases x with
  | console => exact ⟨c.files, rfl, fun location => by simp [Exporter.writes]⟩
  | lines sink =>
    obtain ⟨rfl, happend⟩ | ⟨hfull, files, happend, htext⟩ := append_textAt c.files sink r
    · refine ⟨c.files, ?_, fun location => by simp [Exporter.writes]⟩
      simp only [deliver, happend, shows]
      exact c.printLog_error s _ _
    · have hnothing : c.shows s r (.lines sink) = [] := by
        match sink, hfull with
        | .special .null, _ | .file _, _ => rfl
      refine ⟨files, ?_, htext⟩
      simp only [deliver, happend, hnothing, List.append_nil]

/-- All exporters take the one record, each in its turn. -/
theorem deliverAll_eq (c : Collector) (s : Subscriber) (m : MetricEvent) (xs : List Exporter) :
    ∃ files, xs.foldl (fun d x => d.deliver s (d.enrich m) x) c =
        { c with printed := c.printed ++ xs.flatMap (c.shows s (c.enrich m)), files } ∧
      ∀ location, files.textAt location =
        c.files.textAt location ++ String.join (xs.map (·.writes location (c.enrich m))) := by
  induction xs generalizing c with
  | nil => exact ⟨c.files, by simp, fun location => by simp⟩
  | cons x xs ih =>
    obtain ⟨files, hdeliver, htext⟩ := deliver_eq c s (c.enrich m) x
    -- The record and the logs depend on the spans and the time only, which a delivery keeps.
    obtain ⟨files', hrest, htext'⟩ := ih (c.deliver s (c.enrich m) x)
    rw [hdeliver] at hrest htext'
    refine ⟨files', ?_, fun location => ?_⟩
    · rw [List.foldl_cons, hdeliver, hrest, List.flatMap_cons, ← List.append_assoc]
      rfl
    · rw [htext' location, List.map_cons, String.join_cons, ← String.append_assoc, ← htext location]
      rfl

theorem dispatch_scoped {c : Collector} (h : c.isScoped = true) (e : Event) :
    ∃ logged, c.dispatch e = { c with received := c.received ++ c.recordsOf e, logged } := by
  by_cases htarget : e.target = Event.metricsTarget
  · refine ⟨c.logged, ?_⟩
    simp only [dispatch, if_pos h, if_pos htarget, recordsOf, carried]
    cases metricOf e with
    | none => simp
    | some r => cases r <;> simp
  · refine ⟨c.logged ++ [e], ?_⟩
    simp [dispatch, h, htarget, recordsOf, carried, metricOf]

theorem dispatch_of_installed {c : Collector} {s : Subscriber} (h : c.isScoped = false)
    (hs : c.installed = some s) (e : Event) :
    c.dispatch e = match metricOf e with
      | none => c.printLog s e
      | some (.error ()) => (c.printLog s e).printLog s undecoded
      | some (.ok m) =>
        s.exporters.foldl (fun d x => d.deliver s (d.enrich m) x) (c.printLog s e) := by
  simp only [dispatch, h, hs]
  rfl

theorem printLog_eq (c : Collector) (s : Subscriber) (e : Event) :
    c.printLog s e = { c with
      printed := c.printed ++ (if e.target ≠ Event.metricsTarget ∧ e.level.passes s.level then
        [c.logLine s.level e] else []).map .log } := by
  unfold printLog
  split <;> simp

/-- With a subscriber in place an event prints its logs and its record goes round the exporters. -/
theorem dispatch_installed {c : Collector} {s : Subscriber} (h : c.isScoped = false)
    (hs : c.installed = some s) (e : Event) :
    ∃ files, c.dispatch e = { c with printed := c.printed ++ c.output s e, files } ∧
      ∀ location, files.textAt location =
        c.files.textAt location ++ String.join (c.written s location e) := by
  rw [dispatch_of_installed h hs]
  cases hmetric : metricOf e with
  | none =>
    refine ⟨c.files, ?_, fun location => ?_⟩
    · simp [printLog_eq, output, remarks, recordsOf, carried, hmetric]
    · simp [written, recordsOf, carried, hmetric]
  | some r =>
    cases r with
    | error =>
      refine ⟨c.files, ?_, fun location => ?_⟩
      · simp only [undecoded, printLog_error]
        simp [printLog_eq, output, remarks, recordsOf, carried, hmetric]
        rfl
      · simp [written, recordsOf, carried, hmetric]
    | ok m =>
      obtain ⟨files, hdeliver, htext⟩ := deliverAll_eq (c.printLog s e) s m s.exporters
      refine ⟨files, ?_, fun location => ?_⟩
      · simp only [hdeliver]
        simp [printLog_eq, output, remarks, recordsOf, carried, hmetric]
        rfl
      · rw [htext location, printLog_eq]
        simp [written, recordsOf, carried, hmetric]
        rfl

/-! ## A run -/

/-- What happens to a collector. -/
inductive Signal where
  | enter (name : String) (level : Level)
  | leave
  | clock (now : Instant)
  | emit (event : Event)

def Signal.event? : Signal → Option Event
  | .emit e => some e
  | _ => none

def receive (c : Collector) : Signal → Collector
  | .enter name level => c.enter name level
  | .leave => c.leave
  | .clock now => { c with now }
  | .emit e => c.dispatch e

def receiveAll (c : Collector) (signals : List Signal) : Collector := signals.foldl receive c

/-- The events of a run in order, each with the collector that it meets. -/
def arrivals : Collector → List Signal → List (Collector × Event)
  | _, [] => []
  | c, signal :: signals => signal.event?.toList.map (c, ·) ++ arrivals (c.receive signal) signals

/-- The records that a run makes, in order. -/
def records (c : Collector) (signals : List Signal) : List Record :=
  (c.arrivals signals).flatMap fun a => a.1.recordsOf a.2

theorem arrivals_events (c : Collector) (signals : List Signal) :
    (c.arrivals signals).map Prod.snd = signals.filterMap Signal.event? := by
  induction signals generalizing c with
  | nil => rfl
  | cons signal signals ih =>
    cases h : signal.event? <;> simp [arrivals, h, ih]

theorem records_events (c : Collector) (signals : List Signal) :
    (c.records signals).map (·.event) = (signals.filterMap Signal.event?).filterMap carried := by
  rw [← c.arrivals_events signals, records]
  induction c.arrivals signals with
  | nil => rfl
  | cons a as ih =>
    rw [List.flatMap_cons, List.map_append, ih]
    cases h : carried a.2 <;> simp [recordsOf, enrich, h]

/-- A scoped collector receives the records of a run; nothing is printed and no file changes. -/
theorem receiveAll_scoped {c : Collector} (h : c.isScoped = true) (signals : List Signal) :
    (c.receiveAll signals).received = c.received ++ c.records signals ∧
      (c.receiveAll signals).printed = c.printed ∧ (c.receiveAll signals).files = c.files := by
  induction signals generalizing c with
  | nil => simp [receiveAll, records, arrivals]
  | cons signal signals ih =>
    have hstep : (c.receive signal).isScoped = true ∧
        (c.receive signal).received =
          c.received ++ signal.event?.toList.flatMap c.recordsOf ∧
        (c.receive signal).printed = c.printed ∧ (c.receive signal).files = c.files := by
      cases signal with
      | emit e =>
        obtain ⟨logged, hdispatch⟩ := dispatch_scoped h e
        simp [receive, hdispatch, h, Signal.event?]
      | _ => simp [receive, enter, leave, h, Signal.event?]
    obtain ⟨hscoped, hreceived, hprinted, hfiles⟩ := hstep
    obtain ⟨ihreceived, ihprinted, ihfiles⟩ := ih hscoped
    refine ⟨?_, ihprinted.trans hprinted, ihfiles.trans hfiles⟩
    rw [receiveAll, List.foldl_cons, ← receiveAll, ihreceived, hreceived]
    simp [records, arrivals, List.flatMap_map]

/-- With a subscriber in place every event of a run prints its output, and every exporter appends
its line for each record. -/
theorem receiveAll_installed {c : Collector} {s : Subscriber} (h : c.isScoped = false)
    (hs : c.installed = some s) (signals : List Signal) :
    (c.receiveAll signals).received = c.received ∧
      (c.receiveAll signals).printed =
        c.printed ++ (c.arrivals signals).flatMap (fun a => a.1.output s a.2) ∧
      ∀ location, (c.receiveAll signals).files.textAt location = c.files.textAt location ++
        String.join ((c.records signals).flatMap fun r =>
          s.exporters.map (·.writes location r)) := by
  induction signals generalizing c with
  | nil => simp [receiveAll, records, arrivals]
  | cons signal signals ih =>
    have hstep : (c.receive signal).isScoped = false ∧ (c.receive signal).installed = some s ∧
        (c.receive signal).received = c.received ∧
        (c.receive signal).printed = c.printed ++ signal.event?.toList.flatMap (c.output s) ∧
        ∀ location, (c.receive signal).files.textAt location = c.files.textAt location ++
          String.join (signal.event?.toList.flatMap (c.written s location)) := by
      cases signal with
      | emit e =>
        obtain ⟨files, hdispatch, htext⟩ := dispatch_installed h hs e
        simp [receive, hdispatch, h, hs, Signal.event?, htext]
      | _ => simp [receive, enter, leave, h, hs, Signal.event?]
    obtain ⟨hscoped, hinstalled, hreceived, hprinted, htext⟩ := hstep
    obtain ⟨ihreceived, ihprinted, ihtext⟩ := ih hscoped hinstalled
    refine ⟨ihreceived.trans hreceived, ?_, fun location => ?_⟩
    · rw [receiveAll, List.foldl_cons, ← receiveAll, ihprinted, hprinted]
      simp [arrivals, List.flatMap_map]
    · rw [receiveAll, List.foldl_cons, ← receiveAll, ihtext location, htext location]
      cases h : signal.event? <;>
        simp [records, arrivals, written, String.append_assoc, h]

/-- Every metric event comes back from its text, and an event that is sent under another target,
without the field or with a text that is no metric event carries none. The records of a run are
those of the events that carry a metric, one for each and in order. A scoped collector receives just
them; otherwise each exporter of the subscriber takes each of them once, and of the other events
nothing but logs is printed. -/
theorem channel_lossless (c : Collector) (signals : List Signal) :
    (∀ m : MetricEvent, MetricEvent.decode m.encode = some m ∧ carried (.ofMetric m) = some m) ∧
    (∀ e : Event, carried e = none ↔
      e.target ≠ Event.metricsTarget ∨ (∀ f ∈ e.fields, f.1 ≠ Event.metricField) ∨
        ∃ text, e.metricText? = some text ∧ MetricEvent.decode text = none) ∧
    (c.records signals).map (·.event) = (signals.filterMap Signal.event?).filterMap carried ∧
    (c.isScoped = true →
      (c.receiveAll signals).received = c.received ++ c.records signals ∧
        (c.receiveAll signals).printed = c.printed ∧ (c.receiveAll signals).files = c.files) ∧
    ∀ s, c.isScoped = false → c.installed = some s →
      (c.receiveAll signals).received = c.received ∧
      (c.receiveAll signals).printed = c.printed ++ (c.arrivals signals).flatMap (fun a =>
        (a.1.remarks s a.2).map .log ++
          (a.1.recordsOf a.2).flatMap fun r => s.exporters.flatMap (a.1.shows s r)) ∧
      ∀ location, (c.receiveAll signals).files.textAt location = c.files.textAt location ++
        String.join ((c.records signals).flatMap fun r => s.exporters.map (·.writes location r)) :=
  ⟨fun m => ⟨m.decode_encode, carried_ofMetric m⟩, carried_eq_none_iff, c.records_events signals,
    fun h => receiveAll_scoped h signals, fun _ h hs => receiveAll_installed h hs signals⟩

/-- A console within a span prints one line for a metric event. -/
theorem channel_lossless_console :
    let console : Collector := { start false with installed := some ⟨.info, [.console]⟩ }
    let copy : MetricEvent := .recorded "copy" 1 64
    (console.receiveAll [.enter "op" .info, .emit (.ofMetric copy), .leave]).printed =
      [.metric ⟨⟨0, 0⟩, some 0, none, some "op", copy⟩] := by
  intro console copy
  have h := (channel_lossless console [.enter "op" .info, .emit (.ofMetric copy), .leave]).2.2.2.2
    ⟨.info, [.console]⟩ rfl rfl
  rw [h.2.1]
  simp [arrivals, Signal.event?, receive, remarks, recordsOf, metricOf_ofMetric, carried_ofMetric,
    show (Event.ofMetric copy).target = Event.metricsTarget from rfl, shows]
  rfl

end Collector
end TensorMemory
