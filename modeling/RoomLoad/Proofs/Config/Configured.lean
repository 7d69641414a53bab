import Mathlib.Tactic.Choose
import RoomLoad.Config.Arguments
import RoomLoad.Proofs.Config.Environment

/-!
# Settings that can be configured

What the environment and the command line can ask for.  Nothing that they say takes a setting
out of the range of the numbers that it is read from, and whatever is in that range can be
asked for.
-/

namespace RoomLoad.Config

/-- Settings that some environment and some command line come to. -/
def Configured (config : Config) : Prop :=
  ∃ environment arguments, (applyArguments (ofEnvironment environment) arguments).config = config

/-- A setting is some number of its units that its variable could hold. -/
def Quantity.Fits (quantity : Quantity) (config : Config) : Prop :=
  ∃ number, number < quantity.limit ∧ quantity.setting config = number * quantity.unit

/-- Settings all of which fit, with those as they always are that nothing is read for. -/
structure InRange (config : Config) : Prop where
  fits : ∀ quantity : Quantity, quantity.Fits config
  firstRoom : config.rooms.low = standard.rooms.low
  firstUser : config.users.low = standard.users.low
  drainPollInterval : config.drainPollInterval = standard.drainPollInterval

variable {config : Config} {quantity : Quantity} {token : String}

theorem fits_standard (quantity : Quantity) : quantity.Fits standard := by
  refine ⟨quantity.setting standard / quantity.unit, ?_⟩
  cases quantity <;> decide +kernel

theorem inRange_ofEnvironment (environment : Environment) :
    InRange (ofEnvironment environment) where
  fits := by
    intro quantity
    rw [Quantity.Fits, setting_ofEnvironment]
    cases found : environment.number? quantity.limit quantity.name with
    | none => exact fits_standard quantity
    | some number => exact ⟨number, Environment.number?_lt found, rfl⟩
  firstRoom := rfl
  firstUser := rfl
  drainPollInterval := rfl

/-- A number that a token spells fits, and so does the one that it leaves as it was. -/
theorem numberOr_lt {limit old : Nat} (fits : old < limit) : numberOr limit token old < limit := by
  rw [numberOr]
  cases read : Text.readBelow? limit token.toList with
  | none => exact fits
  | some number => exact (Text.readBelow?_eq_some_iff.mp read).2

/-- A setting that counts ones fits if and only if it is below the limit. -/
theorem Quantity.fits_iff_lt (ones : quantity.unit = 1) :
    quantity.Fits config ↔ quantity.setting config < quantity.limit := by
  constructor
  · rintro ⟨number, below, same⟩
    rwa [same, ones, Nat.mul_one]
  · intro below
    exact ⟨_, below, by rw [ones, Nat.mul_one]⟩

/-- The number that a switch sets, if it sets one. -/
def ValueSwitch.quantity? : ValueSwitch → Option Quantity
  | messages => some .totalMessages
  | workers => some .workers
  | rooms => some .roomMax
  | pipelineDepth => some .pipelineDepth
  | _ => none

/-- The number that a flag sets, if it sets one. -/
def Flag.quantity? : Flag → Option Quantity
  | noOutput => none
  | noWarmup => some .warmupTasks
  | noProbe => some .probeSamples

theorem ValueSwitch.setting_apply {switch : ValueSwitch}
    (others : switch.quantity? ≠ some quantity) :
    quantity.setting (switch.apply token config) = quantity.setting config := by
  cases switch <;> cases quantity <;> first | rfl | contradiction

theorem Flag.setting_apply {flag : Flag} (others : flag.quantity? ≠ some quantity) :
    quantity.setting (flag.apply config) = quantity.setting config := by
  cases flag <;> cases quantity <;> first | rfl | contradiction

theorem ValueSwitch.fits_apply {switch : ValueSwitch} (fits : quantity.Fits config) :
    quantity.Fits (switch.apply token config) := by
  by_cases own : switch.quantity? = some quantity
  · cases switch with
    | server | output => contradiction
    | messages | workers | pipelineDepth =>
        cases own
        have below := (Quantity.fits_iff_lt rfl).mp fits
        exact (Quantity.fits_iff_lt rfl).mpr (numberOr_lt below)
    | rooms =>
        cases own
        exact (Quantity.fits_iff_lt rfl).mpr (UInt32.toNat_lt _)
  · rw [Quantity.Fits, setting_apply own]
    exact fits

theorem Flag.fits_apply {flag : Flag} (fits : quantity.Fits config) :
    quantity.Fits (flag.apply config) := by
  by_cases own : flag.quantity? = some quantity
  · cases flag with
    | noOutput => contradiction
    | noWarmup | noProbe =>
        cases own
        have positive : 0 < Text.word64 := by decide
        exact (Quantity.fits_iff_lt rfl).mpr positive
  · rw [Quantity.Fits, setting_apply own]
    exact fits

theorem InRange.applySwitch (inRange : InRange config) (switch : ValueSwitch) (token : String) :
    InRange (switch.apply token config) where
  fits := fun quantity => switch.fits_apply (inRange.fits quantity)
  firstRoom := by cases switch <;> exact inRange.firstRoom
  firstUser := by cases switch <;> exact inRange.firstUser
  drainPollInterval := by cases switch <;> exact inRange.drainPollInterval

theorem InRange.applyFlag (inRange : InRange config) (flag : Flag) :
    InRange (flag.apply config) where
  fits := fun quantity => flag.fits_apply (inRange.fits quantity)
  firstRoom := by cases flag <;> exact inRange.firstRoom
  firstUser := by cases flag <;> exact inRange.firstUser
  drainPollInterval := by cases flag <;> exact inRange.drainPollInterval

theorem InRange.applyArguments (inRange : InRange config) (tokens : List String) :
    InRange (applyArguments config tokens).config := by
  fun_induction Config.applyArguments config tokens with
  | case1 | case2 | case5 => exact inRange
  | case3 config token rest flag found induction => exact induction (inRange.applyFlag flag)
  | case4 config token switch found value later induction =>
      exact induction (inRange.applySwitch switch value)
  | case6 config token rest found induction => exact induction inRange

/-- The environment that holds some numbers, and an address. -/
def spelling (numbers : Quantity → Nat) (url : String) : Environment := fun name =>
  if name = "CHATFLOW_SERVER_URL" then some url
  else (Quantity.all.find? fun quantity => quantity.name == name).map fun quantity =>
    String.ofList (Text.digits (numbers quantity))

/-- The command line that sets where the report goes. -/
def sendingTo : Option String → List String
  | some path => ["--output", path]
  | none => ["--no-output"]

theorem spelling_name (numbers : Quantity → Nat) (url : String) (quantity : Quantity) :
    spelling numbers url quantity.name =
      some (String.ofList (Text.digits (numbers quantity))) := by
  have apart : quantity.name ≠ "CHATFLOW_SERVER_URL" := by
    cases quantity <;> simp [Quantity.name]
  rw [spelling, if_neg apart, Quantity.find?_name, Option.map_some]

theorem spells_digits (number : Nat) : Text.Spells (Text.digits number) number :=
  ⟨[], [], 0, [], nofun, nofun, .inl rfl, by simp⟩

theorem setting_spelling {numbers : Quantity → Nat} {url : String}
    (fits : numbers quantity < quantity.limit) :
    quantity.setting (ofEnvironment (spelling numbers url)) = numbers quantity * quantity.unit := by
  have spelled : Text.Spells (String.ofList (Text.digits (numbers quantity))).toList
      (numbers quantity) := by
    rw [String.toList_ofList]
    exact spells_digits _
  rw [setting_ofEnvironment,
    Environment.number?_of_spells (spelling_name numbers url quantity) spelled fits,
    Option.map_some, Option.getD_some]

theorem applyArguments_sendingTo (config : Config) (path : Option String) :
    (Config.applyArguments config (sendingTo path)).config =
      { config with resultsPath := path } := by
  cases path <;> rfl

theorem setting_resultsPath (config : Config) (path : Option String) :
    quantity.setting { config with resultsPath := path } = quantity.setting config := by
  cases quantity <;> rfl

theorem InRange.configured (inRange : InRange config) : Configured config := by
  choose numbers fits same using inRange.fits
  refine ⟨spelling numbers config.serverUrl, sendingTo config.resultsPath, ?_⟩
  rw [applyArguments_sendingTo]
  have settings : ∀ quantity : Quantity,
      quantity.setting { ofEnvironment (spelling numbers config.serverUrl) with
        resultsPath := config.resultsPath } = quantity.setting config := by
    intro quantity
    rw [setting_resultsPath, setting_spelling (fits quantity), same]
  have agree : AgreeExcept .workers
      { ofEnvironment (spelling numbers config.serverUrl) with
        resultsPath := config.resultsPath } config := by
    exact ⟨fun quantity _ => settings quantity, rfl, rfl, inRange.firstRoom.symm,
      inRange.firstUser.symm, inRange.drainPollInterval.symm⟩
  exact agree.eq (settings .workers)

/-- What can be configured is what is in range: no setting can be brought out of the range of
the numbers that it is read from, and every combination of settings in range can be reached. -/
theorem configured_iff_inRange : Configured config ↔ InRange config := by
  constructor
  · rintro ⟨environment, arguments, rfl⟩
    exact (inRange_ofEnvironment environment).applyArguments arguments
  · exact InRange.configured

end RoomLoad.Config
