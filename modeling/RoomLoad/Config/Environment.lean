import RoomLoad.Config.Basic
import RoomLoad.Text.Blank

/-!
# Settings from the environment

Every setting has a variable.  A variable that is set and holds a number in
range, blanks around it aside, replaces the standard value; any other text of a
numeric variable counts as unset.
-/

namespace RoomLoad.Config

abbrev Environment := String → Option String

def variableNames : List String :=
  ["CHATFLOW_SERVER_URL", "CHATFLOW_TOTAL_MESSAGES", "CHATFLOW_WORKERS",
    "CHATFLOW_QUEUE_CAPACITY", "CHATFLOW_MAX_ATTEMPTS", "CHATFLOW_BACKOFF_BASE_MS",
    "CHATFLOW_BACKOFF_CAP_MS", "CHATFLOW_ROOM_MAX", "CHATFLOW_USER_MAX", "CHATFLOW_POOL_SIZE",
    "CHATFLOW_CONNECT_TIMEOUT_MS", "CHATFLOW_DRAIN_TIMEOUT_SECS", "CHATFLOW_PROBE_SAMPLES",
    "CHATFLOW_PROBE_TIMEOUT_SECS", "CHATFLOW_PIPELINE_DEPTH", "CHATFLOW_WARMUP_TASKS",
    "CHATFLOW_WARMUP_MESSAGES", "CHATFLOW_RESULTS_PATH"]

def Environment.number (environment : Environment) (limit : Nat) (name : String)
    (standard : Nat) : Nat :=
  ((environment name).bind fun value =>
    Text.readBelow? limit (Text.trim value.toList)).getD standard

/-- A 64-bit number that a variable holds, or the standard one. -/
def Environment.word (environment : Environment) (name : String) (standard : Nat) : Nat :=
  environment.number Text.word64 name standard

/-- A 32-bit number that a variable holds, or the standard one. -/
def Environment.id (environment : Environment) (name : String) (standard : UInt32) : UInt32 :=
  UInt32.ofNat (environment.number Text.word32 name standard.toNat)

/-- Where the report goes: nowhere if the variable is blank. -/
def Environment.resultsPath (environment : Environment) : Option String :=
  match environment "CHATFLOW_RESULTS_PATH" with
  | none => standard.resultsPath
  | some path => if (Text.trim path.toList).isEmpty then none else some path

def ofEnvironment (environment : Environment) : Config where
  serverUrl := (environment "CHATFLOW_SERVER_URL").getD standard.serverUrl
  totalMessages := environment.word "CHATFLOW_TOTAL_MESSAGES" standard.totalMessages
  senderWorkers := environment.word "CHATFLOW_WORKERS" standard.senderWorkers
  queueCapacity := environment.word "CHATFLOW_QUEUE_CAPACITY" standard.queueCapacity
  retry :=
    { maxAttempts :=
        environment.number Text.word32 "CHATFLOW_MAX_ATTEMPTS" standard.retry.maxAttempts
      base := .ofMillis (environment.word "CHATFLOW_BACKOFF_BASE_MS" 50)
      cap := .ofMillis (environment.word "CHATFLOW_BACKOFF_CAP_MS" 2000) }
  rooms := ⟨standard.rooms.low, environment.id "CHATFLOW_ROOM_MAX" standard.rooms.high⟩
  users := ⟨standard.users.low, environment.id "CHATFLOW_USER_MAX" standard.users.high⟩
  messagePoolSize := environment.word "CHATFLOW_POOL_SIZE" standard.messagePoolSize
  connectTimeout := .ofMillis (environment.word "CHATFLOW_CONNECT_TIMEOUT_MS" 5000)
  drainTimeout := .ofSecs (environment.word "CHATFLOW_DRAIN_TIMEOUT_SECS" 120)
  drainPollInterval := standard.drainPollInterval
  probeSamples := environment.word "CHATFLOW_PROBE_SAMPLES" standard.probeSamples
  probeTimeout := .ofSecs (environment.word "CHATFLOW_PROBE_TIMEOUT_SECS" 10)
  pipelineDepth := environment.word "CHATFLOW_PIPELINE_DEPTH" standard.pipelineDepth
  warmupTasks := environment.word "CHATFLOW_WARMUP_TASKS" standard.warmupTasks
  warmupMessagesPerTask :=
    environment.word "CHATFLOW_WARMUP_MESSAGES" standard.warmupMessagesPerTask
  resultsPath := environment.resultsPath

end RoomLoad.Config
