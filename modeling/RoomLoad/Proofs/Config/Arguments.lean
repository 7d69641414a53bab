import RoomLoad.Config.Arguments

/-!
# How a command line is read

Whether a token is a switch or the value of one depends on all tokens before it.  Still a
command line falls into parts in exactly one way: a switch and its value, a flag, or a token
that means nothing, one after another, until the tokens are used up, the usage is asked for,
or a switch is left without a value.  The settings are changed by the parts from left to
right, so that of several parts that set the same thing the last one counts, and a command
line can be cut in two wherever no switch is parted from its value.
-/

namespace RoomLoad.Config

def ValueSwitch.spellings : ValueSwitch → List String
  | server => ["--server", "-s"]
  | messages => ["--messages", "-m"]
  | workers => ["--workers", "-w"]
  | rooms => ["--rooms"]
  | pipelineDepth => ["--pipeline-depth"]
  | output => ["--output", "-o"]

def Flag.spellings : Flag → List String
  | noOutput => ["--no-output"]
  | noWarmup => ["--no-warmup"]
  | noProbe => ["--no-probe"]

def helpSpellings : List String := ["--help", "-h"]

/-- A token that spells nothing. -/
structure Meaningless (token : String) : Prop where
  noSwitch : ∀ switch : ValueSwitch, token ∉ switch.spellings
  noFlag : ∀ flag : Flag, token ∉ flag.spellings
  noHelp : token ∉ helpSpellings

variable {token : String} {switch : ValueSwitch} {flag : Flag}

namespace Token

theorem of_eq_value_iff : Token.of token = .value switch ↔ token ∈ switch.spellings := by
  constructor
  · intro found
    unfold Token.of at found
    cases switch <;> grind [ValueSwitch.spellings]
  · intro spelled
    cases switch <;>
      simp only [ValueSwitch.spellings, List.mem_cons, List.not_mem_nil, or_false] at spelled <;>
      rcases spelled with rfl | rfl <;>
      rfl

theorem of_eq_flag_iff : Token.of token = .flag flag ↔ token ∈ flag.spellings := by
  constructor
  · intro found
    unfold Token.of at found
    cases flag <;> grind [Flag.spellings]
  · intro spelled
    cases flag <;>
      obtain rfl := List.mem_singleton.mp spelled <;>
      rfl

theorem of_eq_help_iff : Token.of token = .help ↔ token ∈ helpSpellings := by
  constructor
  · intro found
    unfold Token.of at found
    grind [helpSpellings]
  · intro spelled
    simp only [helpSpellings, List.mem_cons, List.not_mem_nil, or_false] at spelled
    rcases spelled with rfl | rfl <;>
      rfl

theorem of_eq_unknown_iff : Token.of token = .unknown ↔ Meaningless token := by
  constructor
  · intro unknown
    constructor
    case noSwitch =>
      intro switch spelled
      rw [of_eq_value_iff.mpr spelled] at unknown
      contradiction
    case noFlag =>
      intro flag spelled
      rw [of_eq_flag_iff.mpr spelled] at unknown
      contradiction
    case noHelp =>
      intro spelled
      rw [of_eq_help_iff.mpr spelled] at unknown
      contradiction
  · intro meaningless
    cases found : Token.of token with
    | value switch => exact absurd (of_eq_value_iff.mp found) (meaningless.noSwitch switch)
    | flag flag => exact absurd (of_eq_flag_iff.mp found) (meaningless.noFlag flag)
    | help => exact absurd (of_eq_help_iff.mp found) meaningless.noHelp
    | unknown => rfl

end Token

/-- The tokens that are read at once where a switch is expected. -/
inductive Part where
  /-- A switch and the token behind it, whatever that looks like. -/
  | setting (switch : ValueSwitch) (token : String) (spelled : token ∈ switch.spellings)
      (value : String)
  | flag (flag : Flag) (token : String) (spelled : token ∈ flag.spellings)
  | ignored (token : String) (meaningless : Meaningless token)

/-- Why no more parts are read. -/
inductive Ending where
  /-- All tokens are read. -/
  | complete
  /-- The last token is a switch that needs a value. -/
  | dangling (switch : ValueSwitch) (token : String) (spelled : token ∈ switch.spellings)
  /-- The usage is asked for, and the tokens behind that are not read. -/
  | help (token : String) (spelled : token ∈ helpSpellings) (unread : List String)

structure CommandLine where
  parts : List Part
  ending : Ending

def Part.tokens : Part → List String
  | setting _ token _ value => [token, value]
  | .flag _ token _ => [token]
  | ignored token _ => [token]

def Ending.tokens : Ending → List String
  | complete => []
  | dangling _ token _ => [token]
  | help token _ unread => token :: unread

namespace CommandLine

def tokens (line : CommandLine) : List String :=
  line.parts.flatMap Part.tokens ++ line.ending.tokens

def begin (part : Part) (line : CommandLine) : CommandLine :=
  { line with parts := part :: line.parts }

def ofTokens : List String → CommandLine
  | [] => ⟨[], .complete⟩
  | token :: rest =>
      match found : Token.of token with
      | .help => ⟨[], .help token (Token.of_eq_help_iff.mp found) rest⟩
      | .flag flag => begin (.flag flag token (Token.of_eq_flag_iff.mp found)) (ofTokens rest)
      | .value switch =>
          match rest with
          | value :: later =>
              begin (.setting switch token (Token.of_eq_value_iff.mp found) value)
                (ofTokens later)
          | [] => ⟨[], .dangling switch token (Token.of_eq_value_iff.mp found)⟩
      | .unknown => begin (.ignored token (Token.of_eq_unknown_iff.mp found)) (ofTokens rest)

theorem tokens_begin (part : Part) (line : CommandLine) :
    (begin part line).tokens = part.tokens ++ line.tokens := by
  simp [begin, tokens]

/-- Nothing is lost when a command line is taken apart. -/
theorem tokens_ofTokens (tokens : List String) : (ofTokens tokens).tokens = tokens := by
  fun_induction ofTokens tokens with
  | case1 => rfl
  | case2 => rfl
  | case3 token rest flag found induction => rw [tokens_begin, induction]; rfl
  | case4 token switch found value later induction => rw [tokens_begin, induction]; rfl
  | case5 => rfl
  | case6 token rest found induction => rw [tokens_begin, induction]; rfl

theorem ofTokens_append (part : Part) (rest : List String) :
    ofTokens (part.tokens ++ rest) = begin part (ofTokens rest) := by
  cases part with
  | setting switch token spelled value =>
      have means := Token.of_eq_value_iff.mpr spelled
      change ofTokens (token :: value :: rest) = _
      rw [ofTokens]
      split <;> simp_all
  | flag flag token spelled =>
      have means := Token.of_eq_flag_iff.mpr spelled
      change ofTokens (token :: rest) = _
      rw [ofTokens]
      split <;> simp_all
  | ignored token meaningless =>
      have means := Token.of_eq_unknown_iff.mpr meaningless
      change ofTokens (token :: rest) = _
      rw [ofTokens]
      split <;> simp_all

theorem ofTokens_ending (ending : Ending) : ofTokens ending.tokens = ⟨[], ending⟩ := by
  cases ending with
  | complete => rfl
  | dangling switch token spelled =>
      have means := Token.of_eq_value_iff.mpr spelled
      rw [Ending.tokens, ofTokens]
      split <;> simp_all
  | help token spelled unread =>
      have means := Token.of_eq_help_iff.mpr spelled
      rw [Ending.tokens, ofTokens]
      split <;> simp_all

/-- Tokens fall into parts in no other way. -/
theorem ofTokens_tokens (line : CommandLine) : ofTokens line.tokens = line := by
  obtain ⟨parts, ending⟩ := line
  induction parts with
  | nil => exact ofTokens_ending ending
  | cons part parts induction =>
      have whole : tokens ⟨part :: parts, ending⟩ = part.tokens ++ tokens ⟨parts, ending⟩ :=
        tokens_begin part ⟨parts, ending⟩
      rw [whole, ofTokens_append, induction, begin]

end CommandLine

def Part.apply (part : Part) (config : Config) : Config :=
  match part with
  | .setting switch _ _ value => switch.apply value config
  | .flag flag _ _ => flag.apply config
  | .ignored _ _ => config

def applyParts (parts : List Part) (config : Config) : Config :=
  parts.foldl (fun config part => part.apply config) config

def Part.ignored? : Part → Option String
  | ignored token _ => some token
  | _ => none

def Ending.ignored : Ending → List String
  | dangling _ token _ => [token]
  | _ => []

def Ending.proceeds : Ending → Bool
  | help _ _ _ => false
  | _ => true

/-- What some tokens come to if others that mean nothing came before them. -/
def Applied.behind (ignored : List String) (applied : Applied) : Applied :=
  { applied with ignored := ignored ++ applied.ignored }

variable {config : Config}

theorem applyArguments_part (part : Part) (rest : List String) (config : Config) :
    applyArguments config (part.tokens ++ rest) =
      (applyArguments (part.apply config) rest).behind part.ignored?.toList := by
  cases part with
  | setting switch token spelled value =>
      simp [Part.tokens, applyArguments, Token.of_eq_value_iff.mpr spelled, Part.apply,
        Part.ignored?, Applied.behind]
  | flag flag token spelled =>
      simp [Part.tokens, applyArguments, Token.of_eq_flag_iff.mpr spelled, Part.apply,
        Part.ignored?, Applied.behind]
  | ignored token meaningless =>
      simp [Part.tokens, applyArguments, Token.of_eq_unknown_iff.mpr meaningless, Part.apply,
        Part.ignored?, Applied.behind, Applied.ignoring]

/-- Parts are applied from left to right, and what follows them is read as if it stood
alone. -/
theorem applyArguments_parts (parts : List Part) (rest : List String) (config : Config) :
    applyArguments config (parts.flatMap Part.tokens ++ rest) =
      (applyArguments (applyParts parts config) rest).behind (parts.filterMap Part.ignored?) := by
  induction parts generalizing config with
  | nil => rfl
  | cons part parts induction =>
      rw [List.flatMap_cons, List.append_assoc, applyArguments_part, induction]
      cases found : part.ignored? <;>
        simp [found, Applied.behind, applyParts]

theorem applyArguments_ending (ending : Ending) (config : Config) :
    applyArguments config ending.tokens = ⟨config, ending.proceeds, ending.ignored⟩ := by
  cases ending with
  | complete => rfl
  | dangling switch token spelled =>
      simp [Ending.tokens, applyArguments, Token.of_eq_value_iff.mpr spelled, Ending.proceeds,
        Ending.ignored]
  | help token spelled unread =>
      simp [Ending.tokens, applyArguments, Token.of_eq_help_iff.mpr spelled, Ending.proceeds,
        Ending.ignored]

theorem applyArguments_tokens (line : CommandLine) (config : Config) :
    applyArguments config line.tokens =
      ⟨applyParts line.parts config, line.ending.proceeds,
        line.parts.filterMap Part.ignored? ++ line.ending.ignored⟩ := by
  rw [CommandLine.tokens, applyArguments_parts, applyArguments_ending, Applied.behind]

def Part.value? (wanted : ValueSwitch) : Part → Option String
  | .setting switch _ _ value => if switch = wanted then some value else none
  | _ => none

def Part.number? (wanted : ValueSwitch) (limit : Nat) (part : Part) : Option Nat :=
  (part.value? wanted).bind fun value => Text.readBelow? limit value.toList

def Part.id? (wanted : ValueSwitch) (part : Part) : Option UInt32 :=
  (part.number? wanted Text.word32).map UInt32.ofNat

/-- The nothing that a part sets a number to by a flag. -/
def Part.zero? (wanted : Flag) : Part → Option Nat
  | .flag flag _ _ => if flag = wanted then some 0 else none
  | _ => none

/-- The path that a part gives to the report, or its wish that there be none. -/
def Part.path? : Part → Option (Option String)
  | .setting .output _ _ path => some (some path)
  | .flag .noOutput _ _ => some none
  | _ => none

/-- What the last part that sets something sets it to, or the old setting if no part does. -/
def lastSet {α : Type} (set? : Part → Option α) (parts : List Part) (old : α) : α :=
  (parts.filterMap set?).getLast?.getD old

/-- The settings if of several parts that set the same thing the last one counts, and nothing
else changes. -/
def outcome (parts : List Part) (config : Config) : Config :=
  { config with
    serverUrl := lastSet (Part.value? .server) parts config.serverUrl
    totalMessages := lastSet (Part.number? .messages Text.word64) parts config.totalMessages
    senderWorkers := lastSet (Part.number? .workers Text.word64) parts config.senderWorkers
    rooms := ⟨config.rooms.low, lastSet (Part.id? .rooms) parts config.rooms.high⟩
    pipelineDepth := lastSet (Part.number? .pipelineDepth Text.word64) parts config.pipelineDepth
    resultsPath := lastSet Part.path? parts config.resultsPath
    warmupTasks := lastSet (Part.zero? .noWarmup) parts config.warmupTasks
    probeSamples := lastSet (Part.zero? .noProbe) parts config.probeSamples }

theorem lastSet_cons {α : Type} {set? : Part → Option α} {part : Part} {parts : List Part}
    {old : α} : lastSet set? (part :: parts) old = lastSet set? parts ((set? part).getD old) := by
  rw [lastSet, lastSet]
  cases found : set? part with
  | none => simp [found]
  | some value => simp [found, List.getLast?_cons]

theorem ofNat_numberOr (token : String) (old : UInt32) :
    UInt32.ofNat (numberOr Text.word32 token old.toNat) =
      ((Text.readBelow? Text.word32 token.toList).map UInt32.ofNat).getD old := by
  rw [numberOr]
  cases Text.readBelow? Text.word32 token.toList with
  | none => exact UInt32.ofNat_toNat
  | some number => rfl

/-- A first part only gives the others something else to start from. -/
theorem outcome_cons (part : Part) (parts : List Part) (config : Config) :
    outcome (part :: parts) config = outcome parts (part.apply config) := by
  simp only [outcome, lastSet_cons]
  cases part with
  | setting switch token spelled value =>
      cases switch with
      | rooms =>
          simp [Part.apply, ValueSwitch.apply, Part.value?, Part.number?, Part.id?, Part.zero?,
            Part.path?, ofNat_numberOr]
      | _ =>
          simp [Part.apply, ValueSwitch.apply, Part.value?, Part.number?, Part.id?, Part.zero?,
            Part.path?, numberOr]
  | flag flag token spelled =>
      cases flag <;>
        simp [Part.apply, Flag.apply, Part.value?, Part.number?, Part.id?, Part.zero?, Part.path?]
  | ignored token meaningless => rfl

theorem applyParts_eq (parts : List Part) (config : Config) :
    applyParts parts config = outcome parts config := by
  induction parts generalizing config with
  | nil => rfl
  | cons part parts induction =>
      rw [outcome_cons, ← induction]
      rfl

/-- Whether the last token is a switch that needs a value. -/
def Ending.isDangling : Ending → Bool
  | dangling _ _ _ => true
  | _ => false

/-- What some tokens come to if more follow: these are read with the settings reached, unless
the usage was asked for. -/
def Applied.followedBy (applied : Applied) (later : List String) : Applied :=
  if applied.proceed then (applyArguments applied.config later).behind applied.ignored
  else applied

/-- Where the last switch has its value, what follows is read as if it stood alone. -/
theorem applyArguments_append {line : CommandLine} (whole : line.ending.isDangling = false)
    (later : List String) (config : Config) :
    applyArguments config (line.tokens ++ later) =
      (applyArguments config line.tokens).followedBy later := by
  rw [applyArguments_tokens, CommandLine.tokens, List.append_assoc, applyArguments_parts,
    Applied.followedBy]
  generalize applyParts line.parts config = reached
  cases ending : line.ending with
  | complete => simp [Ending.tokens, Ending.proceeds, Ending.ignored]
  | dangling switch token spelled =>
      rw [ending] at whole
      contradiction
  | help token spelled unread =>
      simp [Ending.tokens, Ending.proceeds, Ending.ignored, Applied.behind, applyArguments,
        Token.of_eq_help_iff.mpr spelled]

theorem Ending.proceeds_eq_false_iff {ending : Ending} :
    ending.proceeds = false ↔ ∃ token spelled unread, ending = .help token spelled unread := by
  cases ending with
  | complete => simp [proceeds]
  | dangling => simp [proceeds]
  | help token spelled unread => exact iff_of_true rfl ⟨token, spelled, unread, rfl⟩

/-- Every command line falls into parts in exactly one way.  Its parts are applied from left
to right, which leaves every setting as the last part leaves it that sets it, and it is not
gone on exactly if they end where the usage is asked for.  Unless they end with a switch that
lacks its value, more tokens are read as if they stood alone, with the settings reached. -/
theorem applyArguments_reads (tokens : List String) :
    ∃ line : CommandLine, line.tokens = tokens ∧
      (∀ other : CommandLine, other.tokens = tokens → other = line) ∧
      ∀ config : Config,
        applyArguments config tokens =
            ⟨applyParts line.parts config, line.ending.proceeds,
              line.parts.filterMap Part.ignored? ++ line.ending.ignored⟩ ∧
          applyParts line.parts config = outcome line.parts config ∧
          ((applyArguments config tokens).proceed = false ↔
            ∃ token spelled unread, line.ending = .help token spelled unread) ∧
          (line.ending.isDangling = false → ∀ later,
            applyArguments config (tokens ++ later) =
              (applyArguments config tokens).followedBy later) := by
  refine ⟨.ofTokens tokens, CommandLine.tokens_ofTokens tokens, ?_, ?_⟩
  case refine_1 =>
    rintro other rfl
    exact (CommandLine.ofTokens_tokens other).symm
  case refine_2 =>
    intro config
    have read := applyArguments_tokens (.ofTokens tokens) config
    rw [CommandLine.tokens_ofTokens] at read
    refine ⟨read, applyParts_eq _ _, ?_, ?_⟩
    · rw [read]
      exact Ending.proceeds_eq_false_iff
    · intro whole later
      have cut := applyArguments_append whole later config
      rwa [CommandLine.tokens_ofTokens] at cut

/-- A call for the usage that is taken for a number, a number of workers that is one and a
later one that is none, and a switch behind the cut. -/
theorem applyArguments_reads_of_tangled :
    let tokens := ["--messages", "--help", "-w", "+8", "-w", "many", "--no-output"]
    let applied := applyArguments standard tokens
    (∃ line : CommandLine, line.tokens = tokens ∧ line.ending.isDangling = false ∧
      applied.config = outcome line.parts standard) ∧
      applied.proceed = true ∧
      applied.config = { standard with senderWorkers := 8, resultsPath := none } ∧
      applyArguments standard (tokens ++ ["--rooms", "5"]) =
        applied.followedBy ["--rooms", "5"] := by
  intro tokens applied
  obtain ⟨line, whole, only, reads⟩ := applyArguments_reads tokens
  obtain ⟨read, last, -, cut⟩ := reads standard
  have same : CommandLine.ofTokens tokens = line := only _ (CommandLine.tokens_ofTokens tokens)
  have finished : line.ending.isDangling = false := by
    rw [← same]
    rfl
  refine ⟨⟨line, whole, finished, ?_⟩, rfl, rfl, cut finished _⟩
  exact (congrArg Applied.config read).trans last

end RoomLoad.Config
