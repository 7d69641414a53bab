import RoomLoad.Config.Basic
import RoomLoad.Fault

/-!
# Valid settings

The settings that a run cannot work with, in the order in which they are looked
for: the first defect found is the one that is reported.
-/

namespace RoomLoad.Config

/-- Why settings are refused. -/
inductive Defect where
  | encryptedUrl (url : String)
  | foreignUrl (url : String)
  | noWorkers
  | noCapacity
  | noAttempts
  | backoffAboveCap (base cap : Duration)
  | badRooms (rooms : IdRange)
  | badUsers (users : IdRange)
  | noTemplates
  | noPipeline
deriving DecidableEq

def Defect.message : Defect → String
  | encryptedUrl url => "TLS endpoints are not supported, use ws://: " ++ url
  | foreignUrl url => "server URL must be ws://, got " ++ url
  | noWorkers => "at least one sender worker is required"
  | noCapacity => "queue capacity must be positive"
  | noAttempts => "max send attempts must be positive"
  | backoffAboveCap base cap => "backoff base " ++ base.text ++ " exceeds cap " ++ cap.text
  | badRooms rooms => "invalid room id range " ++ rooms.text
  | badUsers users => "invalid user id range " ++ users.text
  | noTemplates => "message pool size must be positive"
  | noPipeline => "pipeline depth must be positive"

/-- What the address of an unencrypted service starts with. -/
def openScheme : List Char := ['w', 's', ':', '/', '/']

/-- What the address of an encrypted service starts with. -/
def encryptedScheme : List Char := ['w', 's', 's', ':', '/', '/']

def defect? (config : Config) : Option Defect :=
  let url := config.serverUrl.toList
  if encryptedScheme.isPrefixOf url then some (.encryptedUrl config.serverUrl)
  else if !openScheme.isPrefixOf url then some (.foreignUrl config.serverUrl)
  else if config.senderWorkers = 0 then some .noWorkers
  else if config.queueCapacity = 0 then some .noCapacity
  else if config.retry.maxAttempts = 0 then some .noAttempts
  else if config.retry.cap.nanos < config.retry.base.nanos then
    some (.backoffAboveCap config.retry.base config.retry.cap)
  else if config.rooms.isEmpty || config.rooms.low == 0 then some (.badRooms config.rooms)
  else if config.users.isEmpty then some (.badUsers config.users)
  else if config.messagePoolSize = 0 then some .noTemplates
  else if config.pipelineDepth = 0 then some .noPipeline
  else none

def validate (config : Config) : Except Fault Unit :=
  match config.defect? with
  | some defect => .error (.config defect.message)
  | none => .ok ()

end RoomLoad.Config
