import RoomLoad.Config.Basic

/-!
# Settings from the command line

The tokens of the command line are read from left to right.  A switch with a
value takes the next token as that value, whatever it looks like; any other
token stands for itself.  A value that is no number in range leaves the setting
as it was.
-/

namespace RoomLoad.Config

/-- The switches that take the next token as their value. -/
inductive ValueSwitch where
  | server
  | messages
  | workers
  | rooms
  | pipelineDepth
  | output
deriving DecidableEq

inductive Flag where
  | noOutput
  | noWarmup
  | noProbe
deriving DecidableEq

inductive Token where
  | value (switch : ValueSwitch)
  | flag (flag : Flag)
  | help
  | unknown
deriving DecidableEq

def Token.of (token : String) : Token :=
  if token == "--server" || token == "-s" then .value .server
  else if token == "--messages" || token == "-m" then .value .messages
  else if token == "--workers" || token == "-w" then .value .workers
  else if token == "--rooms" then .value .rooms
  else if token == "--pipeline-depth" then .value .pipelineDepth
  else if token == "--output" || token == "-o" then .value .output
  else if token == "--no-output" then .flag .noOutput
  else if token == "--no-warmup" then .flag .noWarmup
  else if token == "--no-probe" then .flag .noProbe
  else if token == "--help" || token == "-h" then .help
  else .unknown

/-- The number that a token spells, or the setting that it would replace. -/
def numberOr (limit : Nat) (token : String) (setting : Nat) : Nat :=
  (Text.readBelow? limit token.toList).getD setting

def ValueSwitch.apply (switch : ValueSwitch) (token : String) (config : Config) : Config :=
  match switch with
  | server => { config with serverUrl := token }
  | messages =>
      { config with totalMessages := numberOr Text.word64 token config.totalMessages }
  | workers =>
      { config with senderWorkers := numberOr Text.word64 token config.senderWorkers }
  | rooms =>
      let high := UInt32.ofNat (numberOr Text.word32 token config.rooms.high.toNat)
      { config with rooms := ⟨config.rooms.low, high⟩ }
  | pipelineDepth =>
      { config with pipelineDepth := numberOr Text.word64 token config.pipelineDepth }
  | output => { config with resultsPath := some token }

def Flag.apply (flag : Flag) (config : Config) : Config :=
  match flag with
  | noOutput => { config with resultsPath := none }
  | noWarmup => { config with warmupTasks := 0 }
  | noProbe => { config with probeSamples := 0 }

structure Applied where
  config : Config
  /-- Whether to go on; not if the usage was asked for. -/
  proceed : Bool
  /-- The tokens that meant nothing, in order. -/
  ignored : List String

def Applied.ignoring (token : String) (applied : Applied) : Applied :=
  { applied with ignored := token :: applied.ignored }

/-- The settings after the tokens of a command line. -/
def applyArguments (config : Config) : List String → Applied
  | [] => ⟨config, true, []⟩
  | token :: rest =>
      match Token.of token with
      | .help => ⟨config, false, []⟩
      | .flag flag => applyArguments (flag.apply config) rest
      | .value switch =>
          match rest with
          | value :: later => applyArguments (switch.apply value config) later
          | [] => ⟨config, true, [token]⟩
      | .unknown => (applyArguments config rest).ignoring token

/-- What is said about a token that meant nothing. -/
def ignoredNotice (token : String) : String :=
  "Ignoring unknown or incomplete argument '" ++ token ++ "'"

def usage : List String :=
  ["chatflow-load [options]",
    "  -s, --server <url>        base WebSocket URL (default ws://localhost:8081)",
    "  -m, --messages <n>        main-phase message count (default 500000)",
    "  -w, --workers <n>         sender workers (default 4)",
    "      --rooms <n>           highest room id (default 20)",
    "      --pipeline-depth <n>  assumed in-flight per worker (default 1)",
    "  -o, --output <path>       results JSON path (default load_test_results.json)",
    "      --no-output           skip the results file",
    "      --no-warmup           skip the warmup phase",
    "      --no-probe            skip the RTT probe"]

end RoomLoad.Config
