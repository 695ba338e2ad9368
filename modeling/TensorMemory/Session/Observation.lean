import TensorMemory.Session.Basic

/-!
Steps on the global configuration and on tracing: spans, metric events, the installation of a
subscriber, and what it has printed and written.
-/

namespace TensorMemory.Session

def runRequest (s : Session) (r : ConfigurationRequest) :
    Except ConfigurationError Configuration × Session :=
  let (r, configuration) := r.run s.environment s.configuration
  (r, { s with configuration })

def answerConfiguration (r : Except ConfigurationError Configuration) : Answer :=
  .ofResult .configuration (fun c => .configuration (some c)) r

def runConfigurationStep (s : Session) : ConfigurationStep → Answer × Session
  | .ofEnvironment => (answerConfiguration (Configuration.ofEnvironment s.environment), s)
  | .default => (.configuration (some .default), s)
  | .request r =>
    let (r, s) := s.runRequest r
    (answerConfiguration r, s)
  | .demand =>
    match s.configuration with
    | some c => (.configuration (some c), s)
    | none => (.failure .configurationUnset, s)
  | .stored => (.configuration s.configuration, s)
  | .tracesCommands => (.flag s.tracesCommands, s)

def install (s : Session) (c : Configuration) : Except InstallError Unit × Session :=
  let (r, collector) := s.collector.install c
  (r, { s with collector })

/-- A line up to the words that report an undecoded event, whose reason is not kept. -/
def withoutReason (line : String) : String :=
  match line.splitOn Collector.undecodedMessage with
  | before :: _ :: _ => before ++ Collector.undecodedMessage
  | _ => line

/-- The lines of what was printed, without colours. A metric record stands without its time. -/
def printedLines (printed : List Printed) : List String :=
  let lines := printed.flatMap fun
    | .log text => textLines text
    | .metric r => textLines ("METRIC " ++ r.summary)
  lines.map fun line => withoutReason (Text.uncoloured line)

/-- The records of a written file; lines that are none are left out. -/
def writtenRecords (text : String) : List Record.Written :=
  (textLines text).filterMap Record.Written.ofLine?

def runTracingStep (s : Session) : TracingStep → Answer × Session
  | .enter name level => (.done, { s with collector := s.collector.enter name level })
  | .leave => (.done, { s with collector := s.collector.leave })
  | .metric text =>
    match MetricEvent.decode text with
    | some m => (.done, s.announce [.ofMetric m])
    | none => (.failure .notAnEvent, s)
  | .emit event => (.done, s.announce [event])
  | .install c =>
    let (r, s) := s.install c
    (.ofUnit .logging r, s)
  | .installFromEnvironment =>
    match s.runRequest .getOrLoad with
    | (.error e, s) => (.failure (.configuration e), s)
    | (.ok c, s) =>
      match s.install c with
      | (.error e, s) => (.failure (.logging e), s)
      | (.ok (), s) => (.configuration (some c), s)
  | .printed =>
    (.texts (printedLines s.collector.printed),
      { s with collector := { s.collector with printed := [] } })
  | .file name =>
    (.ofResult .file (fun text => .records (writtenRecords text))
      (s.collector.files.read (Files.inScratch name)), s)

end TensorMemory.Session
