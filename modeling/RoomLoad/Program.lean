import RoomLoad.Config.Arguments
import RoomLoad.Config.Environment
import RoomLoad.Probe.Run
import RoomLoad.Report.Document
import RoomLoad.Report.Lines
import RoomLoad.Run.MainPhase
import RoomLoad.Warmup.Tasks

/-!
# The program

From the environment and the command line to what is printed and written: the
probe, the warm-up and the main phase, one after another, and the report on them.
-/

namespace RoomLoad

/-- What can go down before there is a report, and the program with it. -/
inductive Crash where
  | probe
  | mainPhase
  /-- The concurrency cannot be reckoned. -/
  | concurrency
deriving DecidableEq

/-- Why there is no report. -/
inductive Breakdown where
  | failed (fault : Fault)
  | crashed (crash : Crash)

/-- What the program comes to.  What the runtime says of a crash is left out. -/
structure ProgramOutcome where
  code : Nat
  /-- The lines for the standard output. -/
  output : List String
  /-- The lines for the standard error output. -/
  errors : List String
  /-- The report to be written to a file, and the path of the file. -/
  file : Option (String × RunReport)

namespace Program

/-- What the probe measures, if the settings ask for it; a failure costs only that. -/
def probe (config : Config) (service : ConnectorScript) : Except Crash (Option ProbeReport) :=
  if config.probeSamples = 0 then
    .ok none
  else
    match probeService service config.probeSamples config.probeTimeout config.rooms.low with
    | some result => .ok result.toOption
    | none => .error .probe

def warmUp (config : Config) (service : ConnectorScript) : Option WarmupReport :=
  if config.warmupTasks = 0 then none
  else
    some (Warmup.report
      (Warmup.run service config.warmupTasks config.warmupMessagesPerTask config.rooms))

/-- The report on a main phase.  The concurrency is reckoned last. -/
def reportOn (config : Config) (ended : MainPhase.World) (warmed : Option WarmupReport)
    (probed : Option ProbeReport) : Except Breakdown RunReport :=
  match MainPhase.result? ended, config.concurrency? with
  | some (.ok summary), some concurrency =>
      .ok (.build summary (MainPhase.records ended) warmed probed concurrency)
  | some (.ok _), none => .error (.crashed .concurrency)
  | some (.error fault), _ => .error (.failed fault)
  | none, _ => .error (.crashed .mainPhase)

/-- A run in all its phases, with its report. -/
def report (config : Config) (service : ConnectorScript) (source : RandomSource) :
    Except Breakdown RunReport :=
  match probe config service with
  | .error crash => .error (.crashed crash)
  | .ok probed =>
      let ended := MainPhase.run none (MainPhase.start service config source false)
      reportOn config ended (warmUp config service) probed

def savedLine (path : String) : String :=
  "Results saved to: " ++ path

/-- What is said about a fault that ends the program. -/
def faultLine (fault : Fault) : String :=
  "Error: " ++ fault.message

/-- The program on a service that behaves as a script says. -/
def run (environment : Config.Environment) (arguments : List String)
    (service : ConnectorScript) (source : RandomSource) : ProgramOutcome :=
  let applied := (Config.ofEnvironment environment).applyArguments arguments
  let notices := applied.ignored.map Config.ignoredNotice
  let failed (fault : Fault) : ProgramOutcome := ⟨1, [], notices ++ [faultLine fault], none⟩
  if !applied.proceed then
    ⟨0, Config.usage, notices, none⟩
  else
    match applied.config.validate with
    | .error fault => failed fault
    | .ok () =>
        match report applied.config service source with
        | .error (.failed fault) => failed fault
        | .error (.crashed _) => ⟨101, [], notices, none⟩
        | .ok report =>
            let file := applied.config.resultsPath.map fun path => (path, report)
            ⟨0, report.lines, notices, file⟩

end Program

end RoomLoad
