import RoomLoad.Config.Environment
import RoomLoad.Proofs.Wire.Tags

/-!
# Settings that are read back

A number can be written to a variable in many ways: with blanks around it, with a plus sign,
with zeros in front.  However it is written, the setting of the variable is that number of
its units, and whatever is no such number, or is none that fits, leaves the standard
setting.  No two variables touch the same setting, so that each can be changed without
regard to the others.
-/

namespace RoomLoad

namespace Text

variable {text digits : List Char} {number : Nat}

/-- A text that spells a number in decimal: perhaps a plus sign, zeros in front of the
digits, and blanks around it all. -/
def Spells (text : List Char) (number : Nat) : Prop :=
  ∃ before sign zeros behind, AllBlank before ∧ AllBlank behind ∧ (sign = [] ∨ sign = ['+']) ∧
    text = before ++ (sign ++ List.replicate zeros '0' ++ Text.digits number) ++ behind

theorem exists_digitChar {character : Char} (isDigit : character.isDigit = true) :
    ∃ value, value < 10 ∧ character = Nat.digitChar value ∧
      character.toNat - '0'.toNat = value := by
  have bounds : 48 ≤ character.toNat ∧ character.toNat ≤ 57 := by
    simpa [Char.isDigit, UInt32.le_iff_toNat_le] using isDigit
  obtain ⟨value, small, shift⟩ : ∃ value, value < 10 ∧ character.toNat = 48 + value :=
    ⟨character.toNat - 48, by omega, by omega⟩
  have table : ∀ value, value < 10 → Char.ofNat (48 + value) = Nat.digitChar value := by decide
  refine ⟨value, small, ?_, ?_⟩
  · rw [← table value small, ← shift, Char.ofNat_toNat]
  · rw [shift]
    exact Nat.add_sub_cancel_left 48 value

theorem digits_append (positive : 0 < number)
    (ascii : ∀ digit ∈ digits, digit.isDigit = true) :
    Text.digits number ++ digits = Text.digits (Nat.ofDigitChars 10 digits number) := by
  induction digits generalizing number with
  | nil => simp
  | cons digit digits induction =>
      obtain ⟨value, small, rfl, shift⟩ := exists_digitChar (ascii digit List.mem_cons_self)
      have longer : Text.digits number ++ [Nat.digitChar value] =
          Text.digits (10 * number + value) := by
        rw [Text.digits, Text.digits, ← Nat.toDigits_append_toDigits (by decide) positive small,
          Nat.toDigits_of_lt_base small]
      rw [Nat.ofDigitChars_cons, shift, List.append_cons, longer]
      exact induction (by omega) fun digit member => ascii digit (List.mem_cons_of_mem _ member)

theorem exists_zeros (nonempty : digits ≠ [])
    (ascii : ∀ digit ∈ digits, digit.isDigit = true) :
    ∃ zeros, digits =
      List.replicate zeros '0' ++ Text.digits (Nat.ofDigitChars 10 digits 0) := by
  induction digits with
  | nil => contradiction
  | cons digit digits induction =>
      have others : ∀ digit ∈ digits, digit.isDigit = true :=
        fun digit member => ascii digit (List.mem_cons_of_mem _ member)
      obtain ⟨value, small, rfl, shift⟩ := exists_digitChar (ascii digit List.mem_cons_self)
      rw [Nat.ofDigitChars_cons, shift, Nat.mul_zero, Nat.zero_add]
      by_cases positive : 0 < value
      · refine ⟨0, ?_⟩
        rw [← digits_append positive others, Text.digits, Nat.toDigits_of_lt_base small]
        rfl
      · obtain rfl : value = 0 := by omega
        cases digits with
        | nil => exact ⟨0, rfl⟩
        | cons next digits =>
            obtain ⟨zeros, same⟩ := induction (List.cons_ne_nil _ _) others
            refine ⟨zeros + 1, ?_⟩
            rw [List.replicate_succ, List.cons_append, ← same]
            rfl

theorem ofDigitChars_zeros (zeros number : Nat) :
    Nat.ofDigitChars 10 (List.replicate zeros '0' ++ Text.digits number) 0 = number := by
  induction zeros with
  | zero => exact Nat.ofDigitChars_ten_toDigits
  | succ zeros induction =>
      rw [List.replicate_succ, List.cons_append, Nat.ofDigitChars_cons]
      exact induction

theorem denotes_iff {numeral : List Char} :
    Denotes numeral number ↔ ∃ sign zeros, (sign = [] ∨ sign = ['+']) ∧
      numeral = sign ++ List.replicate zeros '0' ++ Text.digits number := by
  constructor
  · intro denotes
    cases denotes with
    | unsigned nonempty ascii =>
        obtain ⟨zeros, same⟩ := exists_zeros nonempty ascii
        exact ⟨[], zeros, .inl rfl, same⟩
    | signed nonempty ascii =>
        obtain ⟨zeros, same⟩ := exists_zeros nonempty ascii
        exact ⟨['+'], zeros, .inr rfl, congrArg ('+' :: ·) same⟩
  · rintro ⟨sign, zeros, plus, rfl⟩
    have nonempty : List.replicate zeros '0' ++ Text.digits number ≠ [] :=
      List.append_ne_nil_of_right_ne_nil _ (Json.digits_ne_nil number)
    have ascii : ∀ digit ∈ List.replicate zeros '0' ++ Text.digits number,
        digit.isDigit = true := by
      intro digit member
      obtain zero | own := List.mem_append.mp member
      · rw [List.eq_of_mem_replicate zero]
        rfl
      · exact Json.isDigit_of_mem_digits own
    have value := ofDigitChars_zeros zeros number
    rw [List.append_assoc]
    obtain rfl | rfl := plus
    · have denotes := Denotes.unsigned nonempty ascii
      rwa [value] at denotes
    · have denotes := Denotes.signed nonempty ascii
      rwa [value] at denotes

/-- Trimmed, exactly the texts that spell a number below the limit are read as it. -/
theorem readBelow?_trim_eq_some_iff {limit : Nat} :
    readBelow? limit (trim text) = some number ↔ Spells text number ∧ number < limit := by
  rw [readBelow?_eq_some_iff]
  refine and_congr_left fun _ => ?_
  constructor
  · intro denotes
    obtain ⟨before, behind, blankBefore, blankBehind, parts⟩ := exists_trim text
    obtain ⟨sign, zeros, plus, numeral⟩ := denotes_iff.mp denotes
    exact ⟨before, sign, zeros, behind, blankBefore, blankBehind, plus, numeral ▸ parts⟩
  · rintro ⟨before, sign, zeros, behind, blankBefore, blankBehind, plus, rfl⟩
    have denotes : Denotes (sign ++ List.replicate zeros '0' ++ Text.digits number) number :=
      denotes_iff.mpr ⟨sign, zeros, plus, rfl⟩
    rwa [trim_append blankBefore blankBehind denotes.visible denotes.ne_nil]

theorem readBelow?_trim_eq_none_iff {limit : Nat} :
    readBelow? limit (trim text) = none ↔ ∀ number, Spells text number → limit ≤ number := by
  rw [Option.eq_none_iff_forall_ne_some]
  refine forall_congr' fun number => ?_
  rw [Ne, readBelow?_trim_eq_some_iff, not_and, Nat.not_lt]

theorem isEmpty_trim_iff : (trim text).isEmpty = true ↔ AllBlank text := by
  rw [List.isEmpty_iff]
  constructor
  · intro empty
    obtain ⟨before, behind, blankBefore, blankBehind, parts⟩ := exists_trim text
    rw [empty, List.append_nil] at parts
    intro character member
    rw [parts] at member
    exact (List.mem_append.mp member).elim (blankBefore character) (blankBehind character)
  · intro blank
    have nothing : trimStart text = [] := List.dropWhile_eq_nil_iff.mpr blank
    rw [trim, nothing]
    rfl

end Text

namespace Config

/-- The numbers that variables hold. -/
inductive Quantity where
  | totalMessages
  | workers
  | queueCapacity
  | maxAttempts
  | backoffBase
  | backoffCap
  | roomMax
  | userMax
  | poolSize
  | connectTimeout
  | drainTimeout
  | probeSamples
  | probeTimeout
  | pipelineDepth
  | warmupTasks
  | warmupMessages
deriving DecidableEq

namespace Quantity

/-- The variable that holds a number. -/
def name : Quantity → String
  | totalMessages => "CHATFLOW_TOTAL_MESSAGES"
  | workers => "CHATFLOW_WORKERS"
  | queueCapacity => "CHATFLOW_QUEUE_CAPACITY"
  | maxAttempts => "CHATFLOW_MAX_ATTEMPTS"
  | backoffBase => "CHATFLOW_BACKOFF_BASE_MS"
  | backoffCap => "CHATFLOW_BACKOFF_CAP_MS"
  | roomMax => "CHATFLOW_ROOM_MAX"
  | userMax => "CHATFLOW_USER_MAX"
  | poolSize => "CHATFLOW_POOL_SIZE"
  | connectTimeout => "CHATFLOW_CONNECT_TIMEOUT_MS"
  | drainTimeout => "CHATFLOW_DRAIN_TIMEOUT_SECS"
  | probeSamples => "CHATFLOW_PROBE_SAMPLES"
  | probeTimeout => "CHATFLOW_PROBE_TIMEOUT_SECS"
  | pipelineDepth => "CHATFLOW_PIPELINE_DEPTH"
  | warmupTasks => "CHATFLOW_WARMUP_TASKS"
  | warmupMessages => "CHATFLOW_WARMUP_MESSAGES"

/-- The bound of the numbers that fit. -/
def limit : Quantity → Nat
  | maxAttempts => Text.word32
  | roomMax => Text.word32
  | userMax => Text.word32
  | _ => Text.word64

/-- What the number counts; durations are measured in nanoseconds. -/
def unit : Quantity → Nat
  | backoffBase => Duration.perMilli
  | backoffCap => Duration.perMilli
  | connectTimeout => Duration.perMilli
  | drainTimeout => Duration.perSecond
  | probeTimeout => Duration.perSecond
  | _ => 1

/-- The setting that the number is for; of a duration, its nanoseconds. -/
def setting (config : Config) : Quantity → Nat
  | totalMessages => config.totalMessages
  | workers => config.senderWorkers
  | queueCapacity => config.queueCapacity
  | maxAttempts => config.retry.maxAttempts
  | backoffBase => config.retry.base.nanos
  | backoffCap => config.retry.cap.nanos
  | roomMax => config.rooms.high.toNat
  | userMax => config.users.high.toNat
  | poolSize => config.messagePoolSize
  | connectTimeout => config.connectTimeout.nanos
  | drainTimeout => config.drainTimeout.nanos
  | probeSamples => config.probeSamples
  | probeTimeout => config.probeTimeout.nanos
  | pipelineDepth => config.pipelineDepth
  | warmupTasks => config.warmupTasks
  | warmupMessages => config.warmupMessagesPerTask

def all : List Quantity :=
  [totalMessages, workers, queueCapacity, maxAttempts, backoffBase, backoffCap, roomMax, userMax,
    poolSize, connectTimeout, drainTimeout, probeSamples, probeTimeout, pipelineDepth,
    warmupTasks, warmupMessages]

theorem find?_name (quantity : Quantity) :
    all.find? (fun other => other.name == quantity.name) = some quantity := by
  cases quantity <;> rfl

theorem name_injective {quantity other : Quantity} (same : quantity.name = other.name) :
    quantity = other := by
  have found := find?_name quantity
  rw [same, find?_name] at found
  exact (Option.some.inj found).symm

end Quantity

/-- The number that a variable holds, if it holds one that fits. -/
def Environment.number? (environment : Environment) (limit : Nat) (name : String) : Option Nat :=
  (environment name).bind fun text => Text.readBelow? limit (Text.trim text.toList)

variable {environment : Environment} {limit number old : Nat} {name : String}

namespace Environment

theorem number_eq : environment.number limit name old =
    (environment.number? limit name).getD old :=
  rfl

theorem number?_lt (found : environment.number? limit name = some number) : number < limit := by
  rw [number?, Option.bind_eq_some_iff] at found
  obtain ⟨text, _, read⟩ := found
  exact (Text.readBelow?_eq_some_iff.mp read).2

theorem number?_of_spells {text : String} (holds : environment name = some text)
    (spells : Text.Spells text.toList number) (fits : number < limit) :
    environment.number? limit name = some number := by
  rw [number?, holds]
  exact Text.readBelow?_trim_eq_some_iff.mpr ⟨spells, fits⟩

theorem number?_of_unset (unset : environment name = none) :
    environment.number? limit name = none := by
  rw [number?, unset]
  rfl

theorem number?_of_misspelled {text : String} (holds : environment name = some text)
    (misspelled : ∀ number, Text.Spells text.toList number → limit ≤ number) :
    environment.number? limit name = none := by
  rw [number?, holds]
  exact Text.readBelow?_trim_eq_none_iff.mpr misspelled

theorem toNat_id (old : UInt32) : (environment.id name old).toNat =
    (environment.number? Text.word32 name).getD old.toNat := by
  rw [id, number_eq]
  cases found : environment.number? Text.word32 name with
  | none => simp
  | some number => exact UInt32.toNat_ofNat_of_lt' (number?_lt found)

/-- So many units as a 64-bit number can count, each at most a second, make a duration. -/
theorem nanos_ofNanos_word {unit : Nat} (small : unit ≤ Duration.perSecond)
    (fits : number < Text.word64) : (Duration.ofNanos (number * unit)).nanos = number * unit := by
  have bound : number * unit ≤ (Text.word64 - 1) * Duration.perSecond :=
    Nat.mul_le_mul (Nat.le_sub_one_of_lt fits) small
  rw [Duration.nanos_ofNanos]
  exact Nat.min_eq_left (Nat.le_trans bound (by decide))

theorem nanos_ofNanos_times {unit : Nat} (small : unit ≤ Duration.perSecond)
    (environment : Environment) (name : String) (old : Nat) :
    (Duration.ofNanos (environment.word name old * unit)).nanos =
      ((environment.number? Text.word64 name).map (· * unit)).getD
        (Duration.ofNanos (old * unit)).nanos := by
  rw [word, number_eq]
  cases found : environment.number? Text.word64 name with
  | none => rw [Option.getD_none, Option.map_none, Option.getD_none]
  | some number =>
      rw [Option.getD_some, Option.map_some, Option.getD_some,
        nanos_ofNanos_word small (number?_lt found)]

theorem nanos_ofMillis (environment : Environment) (name : String) (old : Nat) :
    (Duration.ofMillis (environment.word name old)).nanos =
      ((environment.number? Text.word64 name).map (· * Duration.perMilli)).getD
        (Duration.ofMillis old).nanos := by
  rw [Duration.ofMillis, Duration.ofMillis]
  exact nanos_ofNanos_times (by decide) environment name old

theorem nanos_ofSecs (environment : Environment) (name : String) (old : Nat) :
    (Duration.ofSecs (environment.word name old)).nanos =
      ((environment.number? Text.word64 name).map (· * Duration.perSecond)).getD
        (Duration.ofSecs old).nanos := by
  rw [Duration.ofSecs, Duration.ofSecs]
  exact nanos_ofNanos_times (by decide) environment name old

end Environment

theorem setting_ofEnvironment (environment : Environment) (quantity : Quantity) :
    quantity.setting (ofEnvironment environment) =
      ((environment.number? quantity.limit quantity.name).map (· * quantity.unit)).getD
        (quantity.setting standard) := by
  cases quantity with
  | backoffBase =>
      have old : standard.retry.base = Duration.ofMillis 50 := rfl
      rw [Quantity.setting, Quantity.setting, old]
      exact environment.nanos_ofMillis "CHATFLOW_BACKOFF_BASE_MS" 50
  | backoffCap =>
      have old : standard.retry.cap = Duration.ofMillis 2000 := rfl
      rw [Quantity.setting, Quantity.setting, old]
      exact environment.nanos_ofMillis "CHATFLOW_BACKOFF_CAP_MS" 2000
  | connectTimeout =>
      have old : standard.connectTimeout = Duration.ofMillis 5000 := by decide +kernel
      rw [Quantity.setting, Quantity.setting, old]
      exact environment.nanos_ofMillis "CHATFLOW_CONNECT_TIMEOUT_MS" 5000
  | drainTimeout =>
      have old : standard.drainTimeout = Duration.ofSecs 120 := rfl
      rw [Quantity.setting, Quantity.setting, old]
      exact environment.nanos_ofSecs "CHATFLOW_DRAIN_TIMEOUT_SECS" 120
  | probeTimeout =>
      have old : standard.probeTimeout = Duration.ofSecs 10 := rfl
      rw [Quantity.setting, Quantity.setting, old]
      exact environment.nanos_ofSecs "CHATFLOW_PROBE_TIMEOUT_SECS" 10
  | roomMax =>
      simp only [Quantity.setting, ofEnvironment, Quantity.limit, Quantity.name, Quantity.unit,
        Environment.toNat_id, Nat.mul_one, Option.map_id']
  | userMax =>
      simp only [Quantity.setting, ofEnvironment, Quantity.limit, Quantity.name, Quantity.unit,
        Environment.toNat_id, Nat.mul_one, Option.map_id']
  | _ =>
      simp only [Quantity.setting, ofEnvironment, Quantity.limit, Quantity.name, Quantity.unit,
        Environment.word, Environment.number_eq, Nat.mul_one, Option.map_id']

def Environment.set (environment : Environment) (name : String) (value : Option String) :
    Environment :=
  fun other => if other = name then value else environment other

/-- Two configurations that differ at most in the setting of one number. -/
structure AgreeExcept (quantity : Quantity) (left right : Config) : Prop where
  settings : ∀ other, other ≠ quantity → other.setting left = other.setting right
  serverUrl : left.serverUrl = right.serverUrl
  resultsPath : left.resultsPath = right.resultsPath
  firstRoom : left.rooms.low = right.rooms.low
  firstUser : left.users.low = right.users.low
  drainPollInterval : left.drainPollInterval = right.drainPollInterval

/-- What the two texts of an environment, and what no variable, sets. -/
structure ReadsTexts (environment : Environment) (config : Config) : Prop where
  serverUrl : config.serverUrl = (environment "CHATFLOW_SERVER_URL").getD standard.serverUrl
  noPath : environment "CHATFLOW_RESULTS_PATH" = none →
    config.resultsPath = standard.resultsPath
  blankPath : ∀ path, environment "CHATFLOW_RESULTS_PATH" = some path →
    Text.AllBlank path.toList → config.resultsPath = none
  somePath : ∀ path, environment "CHATFLOW_RESULTS_PATH" = some path →
    ¬ Text.AllBlank path.toList → config.resultsPath = some path
  firstRoom : config.rooms.low = standard.rooms.low
  firstUser : config.users.low = standard.users.low
  drainPollInterval : config.drainPollInterval = standard.drainPollInterval

variable {quantity : Quantity} {left right : Config} {value : Option String}

/-- A configuration has no other settings. -/
theorem AgreeExcept.eq (agree : AgreeExcept quantity left right)
    (same : quantity.setting left = quantity.setting right) : left = right := by
  have settings : ∀ other : Quantity, other.setting left = other.setting right := by
    intro other
    by_cases own : other = quantity
    · rw [own, same]
    · exact agree.settings other own
  have base : left.retry.base = right.retry.base := Duration.ext (settings .backoffBase)
  have cap : left.retry.cap = right.retry.cap := Duration.ext (settings .backoffCap)
  have connect : left.connectTimeout = right.connectTimeout :=
    Duration.ext (settings .connectTimeout)
  have drain : left.drainTimeout = right.drainTimeout := Duration.ext (settings .drainTimeout)
  have probe : left.probeTimeout = right.probeTimeout := Duration.ext (settings .probeTimeout)
  have rooms : left.rooms.high = right.rooms.high := UInt32.toNat_inj.mp (settings .roomMax)
  have users : left.users.high = right.users.high := UInt32.toNat_inj.mp (settings .userMax)
  obtain ⟨_, _, _, _, ⟨_, _, _⟩, ⟨_, _⟩, ⟨_, _⟩, _, _, _, _, _, _, _, _, _, _⟩ := left
  obtain ⟨_, _, _, _, ⟨_, _, _⟩, ⟨_, _⟩, ⟨_, _⟩, _, _, _, _, _, _, _, _, _, _⟩ := right
  simp only [mk.injEq, RetryPolicy.mk.injEq, IdRange.mk.injEq]
  exact ⟨agree.serverUrl, settings .totalMessages, settings .workers, settings .queueCapacity,
    ⟨settings .maxAttempts, base, cap⟩, ⟨agree.firstRoom, rooms⟩, ⟨agree.firstUser, users⟩,
    settings .poolSize, connect, drain, agree.drainPollInterval, settings .probeSamples, probe,
    settings .pipelineDepth, settings .warmupTasks, settings .warmupMessages,
    agree.resultsPath⟩

theorem readsTexts_ofEnvironment (environment : Environment) :
    ReadsTexts environment (ofEnvironment environment) where
  serverUrl := rfl
  noPath := by
    intro unset
    simp only [ofEnvironment, Environment.resultsPath, unset]
  blankPath := by
    intro path holds blank
    simp only [ofEnvironment, Environment.resultsPath, holds, Text.isEmpty_trim_iff.mpr blank,
      if_true]
  somePath := by
    intro path holds visible
    have filled : ¬ (Text.trim path.toList).isEmpty = true :=
      fun empty => visible (Text.isEmpty_trim_iff.mp empty)
    simp only [ofEnvironment, Environment.resultsPath, holds, if_neg filled]
  firstRoom := rfl
  firstUser := rfl
  drainPollInterval := rfl

theorem Environment.set_of_ne {other : String} (different : other ≠ name) :
    environment.set name value other = environment other :=
  if_neg different

theorem Environment.set_self : environment.set name value name = value :=
  if_pos rfl

/-- What a variable holds concerns its own setting only. -/
theorem agreeExcept_of_elsewhere {first second : Environment}
    (elsewhere : ∀ name, name ≠ quantity.name → first name = second name) :
    AgreeExcept quantity (ofEnvironment first) (ofEnvironment second) where
  settings := by
    intro other different
    have apart : other.name ≠ quantity.name :=
      fun same => different (Quantity.name_injective same)
    rw [setting_ofEnvironment, setting_ofEnvironment, Environment.number?, Environment.number?,
      elsewhere other.name apart]
  serverUrl := by
    have apart : "CHATFLOW_SERVER_URL" ≠ quantity.name := by
      cases quantity <;> simp [Quantity.name]
    simp only [ofEnvironment, elsewhere _ apart]
  resultsPath := by
    have apart : "CHATFLOW_RESULTS_PATH" ≠ quantity.name := by
      cases quantity <;> simp [Quantity.name]
    simp only [ofEnvironment, Environment.resultsPath, elsewhere _ apart]
  firstRoom := rfl
  firstUser := rfl
  drainPollInterval := rfl

theorem setting_of_number?_eq_none
    (missing : environment.number? quantity.limit quantity.name = none) :
    quantity.setting (ofEnvironment environment) = quantity.setting standard := by
  rw [setting_ofEnvironment, missing, Option.map_none, Option.getD_none]

theorem ofEnvironment_set_misspelled (environment : Environment) (quantity : Quantity)
    {text : String}
    (misspelled : ∀ number, Text.Spells text.toList number → quantity.limit ≤ number) :
    ofEnvironment (environment.set quantity.name (some text)) =
      ofEnvironment (environment.set quantity.name none) := by
  have agree : AgreeExcept quantity
      (ofEnvironment (environment.set quantity.name (some text)))
      (ofEnvironment (environment.set quantity.name none)) := by
    apply agreeExcept_of_elsewhere
    intro name apart
    rw [Environment.set_of_ne apart, Environment.set_of_ne apart]
  apply agree.eq
  have passed : quantity.setting (ofEnvironment (environment.set quantity.name (some text))) =
      quantity.setting standard :=
    setting_of_number?_eq_none (Environment.number?_of_misspelled Environment.set_self misspelled)
  rw [passed, setting_of_number?_eq_none (Environment.number?_of_unset Environment.set_self)]

/-- Whatever the variables hold, each number that is spelled in decimal and that fits is read
back in its units, a variable that is not set leaves its standard setting, as does one whose
text spells no number that fits, and a number's variable concerns the number's setting only. -/
theorem ofEnvironment_reads_back (environment : Environment) :
    (∀ quantity : Quantity,
      (∀ text number, environment quantity.name = some text → Text.Spells text.toList number →
        number < quantity.limit →
        quantity.setting (ofEnvironment environment) = number * quantity.unit) ∧
      (environment quantity.name = none →
        quantity.setting (ofEnvironment environment) = quantity.setting standard)) ∧
    ReadsTexts environment (ofEnvironment environment) ∧
    ∀ (quantity : Quantity) (text : String),
      (∀ number, Text.Spells text.toList number → quantity.limit ≤ number) →
      ofEnvironment (environment.set quantity.name (some text)) =
        ofEnvironment (environment.set quantity.name none) ∧
      AgreeExcept quantity (ofEnvironment (environment.set quantity.name (some text)))
        (ofEnvironment environment) := by
  refine ⟨fun quantity => ⟨?_, ?_⟩, readsTexts_ofEnvironment environment, ?_⟩
  · intro text number holds spells fits
    rw [setting_ofEnvironment, Environment.number?_of_spells holds spells fits, Option.map_some,
      Option.getD_some]
  · intro unset
    exact setting_of_number?_eq_none (Environment.number?_of_unset unset)
  · intro quantity text misspelled
    exact ⟨ofEnvironment_set_misspelled environment quantity misspelled,
      agreeExcept_of_elsewhere fun name apart => Environment.set_of_ne apart⟩

/-- A wait is spelled with blanks, a sign and zeros, the report has a blank path, and no number
of rooms is greater than what a room's number can be. -/
theorem ofEnvironment_reads_back_of_spaced :
    let environment : Environment := fun name =>
      if name = "CHATFLOW_BACKOFF_BASE_MS" then some "\u2003+0008 "
      else if name = "CHATFLOW_RESULTS_PATH" then some "\u3000" else none
    (ofEnvironment environment).retry.base.nanos = 8 * Duration.perMilli ∧
      (ofEnvironment environment).retry.cap.nanos = standard.retry.cap.nanos ∧
      (ofEnvironment environment).resultsPath = none ∧
      ofEnvironment (environment.set "CHATFLOW_ROOM_MAX" (some "4294967296")) =
        ofEnvironment (environment.set "CHATFLOW_ROOM_MAX" none) := by
  intro environment
  obtain ⟨numbers, texts, others⟩ := ofEnvironment_reads_back environment
  have spells : Text.Spells "\u2003+0008 ".toList 8 :=
    ⟨['\u2003'], ['+'], 3, [' '], by decide, by decide, .inr rfl, by decide⟩
  have blank : Text.AllBlank "\u3000".toList := by decide
  have great : ∀ number, Text.Spells "4294967296".toList number → Text.word32 ≤ number :=
    Text.readBelow?_trim_eq_none_iff.mp (by decide +kernel)
  exact ⟨(numbers .backoffBase).1 "\u2003+0008 " 8 (by decide) spells (by decide),
    (numbers .backoffCap).2 (by decide), texts.blankPath "\u3000" (by decide) blank,
    (others .roomMax "4294967296" great).1⟩

end Config

end RoomLoad
