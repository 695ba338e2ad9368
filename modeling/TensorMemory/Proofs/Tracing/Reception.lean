import TensorMemory.Proofs.Tracing.Channel

/-!
What metric events come to, whoever listens. A scoped collector receives a record of each; otherwise
the exporters of the installed subscriber take one each, and of that the records on standard output
and the lines in the files are left. `Hears` says both of two collectors, and is what one event, a
list of events and the installation of a subscriber are described with.
-/

namespace TensorMemory

def Printed.record? : Printed → Option Record
  | .metric r => some r
  | .log _ => none

/-- The records that an exporter prints for one that it takes. -/
def Exporter.prints (r : Record) : Exporter → List Record
  | .console => [r]
  | .lines _ => []

namespace Collector

def printedRecords (c : Collector) : List Record := c.printed.filterMap Printed.record?

/-- Between two collectors, records went round the exporters of a subscriber. -/
structure HandsRound (c c' : Collector) (s : Subscriber) (records : List Record) : Prop where
  printed : c'.printedRecords =
    c.printedRecords ++ records.flatMap fun r => s.exporters.flatMap (·.prints r)
  written : ∀ location, c'.files.textAt location = c.files.textAt location ++
    String.join (records.flatMap fun r => s.exporters.map (·.writes location r))

theorem HandsRound.trans {c c' c'' : Collector} {s : Subscriber} {records records' : List Record}
    (h : HandsRound c c' s records) (h' : HandsRound c' c'' s records') :
    HandsRound c c'' s (records ++ records') where
  printed := by rw [h'.printed, h.printed, List.flatMap_append, List.append_assoc]
  written location := by
    rw [h'.written, h.written, List.flatMap_append, String.join_append, String.append_assoc]

/-- Between two collectors, a list of metric events reached whoever listens. -/
structure Hears (c c' : Collector) (ms : List MetricEvent) : Prop where
  received : c.isScoped = true → c'.isScoped = true ∧
    c'.received.map (·.event) = c.received.map (·.event) ++ ms
  handed : ∀ s, c.isScoped = false → c.installed = some s →
    c'.isScoped = false ∧ c'.installed = some s ∧
      ∃ records, records.map (·.event) = ms ∧ HandsRound c c' s records

namespace Hears

variable {c c' c'' : Collector} {ms ms' : List MetricEvent}

/-- Nothing is heard while the listener and what it took stay as they are. -/
theorem of_same (hscoped : c'.isScoped = c.isScoped) (hinstalled : c'.installed = c.installed)
    (hreceived : c'.received = c.received) (hprinted : c'.printed = c.printed)
    (htext : ∀ location, c'.files.textAt location = c.files.textAt location) : Hears c c' [] where
  received h := ⟨hscoped.trans h, by simp [hreceived]⟩
  handed s h hs := ⟨hscoped.trans h, hinstalled.trans hs, [], rfl,
    ⟨by simp [printedRecords, hprinted], by simp [htext]⟩⟩

theorem refl (c : Collector) : Hears c c [] := of_same rfl rfl rfl rfl fun _ => rfl

theorem trans (h : Hears c c' ms) (h' : Hears c' c'' ms') : Hears c c'' (ms ++ ms') where
  received hc := by
    obtain ⟨hscoped, hfirst⟩ := h.received hc
    obtain ⟨hscoped', hrest⟩ := h'.received hscoped
    exact ⟨hscoped', by rw [hrest, hfirst, List.append_assoc]⟩
  handed s hc hs := by
    obtain ⟨hscoped, hinstalled, records, hevents, hround⟩ := h.handed s hc hs
    obtain ⟨hscoped', hinstalled', records', hevents', hround'⟩ :=
      h'.handed s hscoped hinstalled
    exact ⟨hscoped', hinstalled', records ++ records', by rw [List.map_append, hevents, hevents'],
      hround.trans hround'⟩

end Hears

theorem shows_records (c : Collector) (s : Subscriber) (r : Record) (x : Exporter) :
    (c.shows s r x).filterMap Printed.record? = x.prints r := by
  match x with
  | .console | .lines (.special .full) | .lines (.special .null) | .lines (.file _) => rfl

theorem output_records (c : Collector) (s : Subscriber) (e : Event) :
    (c.output s e).filterMap Printed.record? =
      (c.recordsOf e).flatMap fun r => s.exporters.flatMap (·.prints r) := by
  have hlogs : ((c.remarks s e).map Printed.log).filterMap Printed.record? = [] := by
    simp [Printed.record?]
  rw [output, List.filterMap_append, hlogs, List.nil_append, List.filterMap_flatMap]
  simp only [List.filterMap_flatMap, shows_records]

theorem recordsOf_events (c : Collector) (e : Event) :
    (c.recordsOf e).map (·.event) = (carried e).toList := by
  cases h : carried e <;> simp [recordsOf, enrich, h]

/-- One event is heard as what it carries. -/
theorem hears_dispatch (c : Collector) (e : Event) : Hears c (c.dispatch e) (carried e).toList where
  received h := by
    obtain ⟨logged, hdispatch⟩ := dispatch_scoped h e
    rw [hdispatch]
    exact ⟨h, by rw [List.map_append, recordsOf_events]⟩
  handed s h hs := by
    obtain ⟨files, hdispatch, htext⟩ := dispatch_installed h hs e
    rw [hdispatch]
    refine ⟨h, hs, c.recordsOf e, c.recordsOf_events e, ?_, htext⟩
    rw [printedRecords, List.filterMap_append, output_records]
    rfl

theorem hears_dispatchAll (c : Collector) (events : List Event) :
    Hears c (c.dispatchAll events) (events.filterMap carried) := by
  induction events generalizing c with
  | nil => exact .refl c
  | cons e events ih =>
    have h := (c.hears_dispatch e).trans (ih (c.dispatch e))
    show Hears c ((c.dispatch e).dispatchAll events) _
    cases hc : carried e <;> simpa [hc] using h

/-! ## Installation -/

theorem get?_of_node?_none {files : Files} {location : Location}
    (h : files.node? location = none) : files.contents.get? location = none := by
  unfold Files.node? at h
  split at h
  · cases h
  · split at h
    · cases h
    · exact Option.map_eq_none_iff.mp h

/-- Opening a file leaves every text as it is; a file that comes into being is empty. -/
theorem textAt_openAppend {files files' : Files} {path : NativeText} {sink : Sink}
    (h : files.openAppend path = .ok (sink, files')) (location : Location) :
    files'.textAt location = files.textAt location := by
  simp only [Files.openAppend, bind, Except.bind] at h
  split at h
  · cases h
  split at h
  · cases h
  next target _ =>
  split at h
  · cases h
  · cases h; rfl
  · cases h; rfl
  next hnode =>
  cases h
  simp only [Files.textAt, Table.get?_insert]
  split
  · next heq => rw [heq, get?_of_node?_none hnode]; rfl
  · rfl

theorem textAt_ofConfiguration {configuration : Configuration} {files files' : Files}
    {exporters : List Exporter}
    (h : Exporter.ofConfiguration configuration files = .ok (exporters, files'))
    (location : Location) : files'.textAt location = files.textAt location := by
  simp only [Exporter.ofConfiguration] at h
  cases hpath : configuration.metricsPath with
  | none =>
    rw [hpath] at h
    cases h
    rfl
  | some path =>
    rw [hpath] at h
    dsimp only at h
    cases hopen : files.openAppend path with
    | error e =>
      rw [hopen] at h
      cases h
    | ok opened =>
      rw [hopen] at h
      cases h
      exact textAt_openAppend hopen location

/-- An installation is no metric event, also where it is refused. -/
theorem hears_install (c : Collector) (configuration : Configuration) :
    Hears c (c.install configuration).2 [] := by
  unfold install
  cases hopen : Exporter.ofConfiguration configuration c.files with
  | error e => exact .refl c
  | ok opened =>
    have htext := textAt_ofConfiguration hopen
    dsimp only
    by_cases hi : c.installed.isSome = true
    · rw [if_pos hi]
      exact .of_same rfl rfl rfl rfl htext
    · rw [if_neg hi]
      -- A subscriber is installed only where there was none, so only a scoped collector can hear.
      refine ⟨fun h => ?_, fun s _ hs => absurd (hs ▸ rfl) hi⟩
      have hlog := (hears_dispatch
        { c with
          files := opened.2
          installed := some ⟨configuration.logLevel, opened.1⟩ }
        ⟨.debug, "instrument", some "tracing initialised",
          [("config", .plain configuration.text)]⟩).received h
      rw [carried_log (by decide)] at hlog
      exact hlog

end Collector
end TensorMemory
