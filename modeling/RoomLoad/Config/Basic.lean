import RoomLoad.Ids
import RoomLoad.Retry

/-!
# Configuration

Everything that a run needs to know before it starts, and the addresses that
follow from it.
-/

namespace RoomLoad

structure Config where
  /-- The address of the service; rooms live below it. -/
  serverUrl : String
  totalMessages : Nat
  senderWorkers : Nat
  queueCapacity : Nat
  retry : RetryPolicy
  rooms : IdRange
  users : IdRange
  messagePoolSize : Nat
  connectTimeout : Duration
  /-- How long the end of a run waits for outstanding acknowledgements. -/
  drainTimeout : Duration
  drainPollInterval : Duration
  /-- No samples: no probe. -/
  probeSamples : Nat
  probeTimeout : Duration
  /-- How many messages of a worker are assumed to be under way at a time. -/
  pipelineDepth : Nat
  /-- No tasks: no warm-up. -/
  warmupTasks : Nat
  warmupMessagesPerTask : Nat
  /-- Where the report is written, if anywhere. -/
  resultsPath : Option String
deriving DecidableEq

namespace Config

/-- The settings of a run that nobody configured. -/
def standard : Config where
  serverUrl := "ws://localhost:8081"
  totalMessages := 500000
  senderWorkers := 4
  queueCapacity := 20000
  retry := .standard
  rooms := ⟨1, 20⟩
  users := ⟨1, 100000⟩
  messagePoolSize := 50
  connectTimeout := .ofSecs 5
  drainTimeout := .ofSecs 120
  drainPollInterval := .ofMillis 50
  probeSamples := 200
  probeTimeout := .ofSecs 10
  pipelineDepth := 1
  warmupTasks := 32
  warmupMessagesPerTask := 1000
  resultsPath := some "load_test_results.json"

def withoutTrailingSlashes (url : List Char) : List Char :=
  (url.reverse.dropWhile (· == '/')).reverse

def chatPrefix (config : Config) : String :=
  String.ofList (withoutTrailingSlashes config.serverUrl.toList) ++ "/chat/"

def roomUrl (chatPrefix : String) (room : RoomId) : String :=
  chatPrefix ++ room.toNat.repr

/-- The address that the probe connects to: the first room. -/
def probeUrl (config : Config) : String :=
  roomUrl config.chatPrefix config.rooms.low

/-- The workers times the depth of the pipeline, if a 64-bit word can hold the product. -/
def underWay? (config : Config) : Option UInt64 :=
  let product := config.senderWorkers * config.pipelineDepth
  if product < Text.word64 then some (UInt64.ofNat product) else none

/-- The assumed concurrency of a run, if it can be reckoned. -/
def concurrency? (config : Config) : Option Float :=
  config.underWay?.map UInt64.toFloat

end Config

end RoomLoad
