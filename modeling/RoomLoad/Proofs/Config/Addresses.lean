import Mathlib.Data.List.DropRight
import RoomLoad.Proofs.Config.Acceptance

/-!
# The addresses of rooms

The address of a room is that of the service, less the slashes at its end, with the path of
the room behind it.  Slashes at the end make no difference, and no two rooms share an
address.  An accepted address starts with the scheme of an unencrypted service; the addresses
of the rooms keep it as long as something else than slashes stands behind it.  Otherwise the
scheme's own slashes are taken for slashes at the end, and one of them stays away.
-/

namespace RoomLoad.Config

/-- What stands between the address of the service and the number of a room. -/
def roomsPath : List Char := ['/', 'c', 'h', 'a', 't', '/']

/-- Whether anything but slashes stands behind the scheme of the address. -/
def NamesHost (config : Config) : Prop :=
  ∃ character ∈ config.serverUrl.toList.drop openScheme.length, character ≠ '/'

instance (config : Config) : Decidable config.NamesHost :=
  List.decidableBEx _ _

/-- The settings with more slashes at the end of the address. -/
def withSlashes (config : Config) (slashes : Nat) : Config :=
  { config with serverUrl := config.serverUrl ++ String.ofList (List.replicate slashes '/') }

variable {config : Config} {url rest : List Char} {slashes : Nat}

theorem withoutTrailingSlashes_eq_rdropWhile :
    withoutTrailingSlashes url = url.rdropWhile (· == '/') :=
  rfl

theorem withoutTrailingSlashes_eq_nil_iff :
    withoutTrailingSlashes url = [] ↔ ∀ character ∈ url, character = '/' := by
  simp [withoutTrailingSlashes_eq_rdropWhile]

theorem withoutTrailingSlashes_append :
    withoutTrailingSlashes (url ++ rest) =
      if withoutTrailingSlashes rest = [] then withoutTrailingSlashes url
      else url ++ withoutTrailingSlashes rest := by
  simp only [withoutTrailingSlashes, List.reverse_append, List.dropWhile_append,
    List.isEmpty_iff, List.reverse_eq_nil_iff]
  split
  case isTrue => rfl
  case isFalse => rw [List.reverse_append, List.reverse_reverse]

theorem withoutTrailingSlashes_append_slashes :
    withoutTrailingSlashes (url ++ List.replicate slashes '/') = withoutTrailingSlashes url := by
  have nothing : withoutTrailingSlashes (List.replicate slashes '/') = [] :=
    withoutTrailingSlashes_eq_nil_iff.mpr fun _ => List.eq_of_mem_replicate
  rw [withoutTrailingSlashes_append, if_pos nothing]

theorem exists_slashes (url : List Char) :
    ∃ slashes, url = withoutTrailingSlashes url ++ List.replicate slashes '/' := by
  have slashes : ∀ character ∈ url.rtakeWhile (· == '/'), character = '/' := by
    intro character member
    simpa using List.mem_rtakeWhile_imp member
  refine ⟨(url.rtakeWhile (· == '/')).length, ?_⟩
  rw [withoutTrailingSlashes_eq_rdropWhile, ← List.eq_replicate_of_mem slashes]
  exact List.rdropWhile_append_rtakeWhile.symm

theorem getLast?_withoutTrailingSlashes_ne (url : List Char) :
    (withoutTrailingSlashes url).getLast? ≠ some '/' := by
  intro ends
  have nonempty : withoutTrailingSlashes url ≠ [] := by
    rintro empty
    rw [empty] at ends
    contradiction
  rw [List.getLast?_eq_some_getLast nonempty, Option.some.injEq] at ends
  exact List.rdropWhile_last_not (· == '/') url nonempty (beq_iff_eq.mpr ends)

/-- The scheme is kept exactly if something else than slashes stands behind it. -/
theorem withoutTrailingSlashes_of_scheme (scheme : openScheme <+: config.serverUrl.toList) :
    withoutTrailingSlashes config.serverUrl.toList =
      if config.NamesHost then
        openScheme ++ withoutTrailingSlashes (config.serverUrl.toList.drop openScheme.length)
      else ['w', 's', ':'] := by
  have bare : withoutTrailingSlashes openScheme = ['w', 's', ':'] := rfl
  have hostless :
      withoutTrailingSlashes (config.serverUrl.toList.drop openScheme.length) = [] ↔
        ¬ config.NamesHost := by
    rw [withoutTrailingSlashes_eq_nil_iff, NamesHost]
    simp only [ne_eq, not_exists, not_and, not_not]
  conv_lhs => rw [List.prefix_iff_eq_append.mp scheme |>.symm]
  rw [withoutTrailingSlashes_append, bare, if_congr hostless rfl rfl, ite_not]

theorem toList_chatPrefix :
    config.chatPrefix.toList =
      withoutTrailingSlashes config.serverUrl.toList ++ roomsPath := by
  rw [chatPrefix, String.toList_append, String.toList_ofList]
  rfl

theorem toList_roomUrl (room : RoomId) :
    (roomUrl config.chatPrefix room).toList =
      config.chatPrefix.toList ++ Text.digits room.toNat := by
  rw [roomUrl, String.toList_append, Nat.repr_eq_ofList_toDigits, String.toList_ofList]
  rfl

/-- What follows the scheme does not matter, as long as it starts with a path. -/
theorem openScheme_prefix_iff (scheme : openScheme <+: config.serverUrl.toList)
    (behind : List Char) :
    openScheme <+: config.chatPrefix.toList ++ behind ↔ config.NamesHost := by
  rw [toList_chatPrefix, withoutTrailingSlashes_of_scheme scheme]
  split
  case isTrue host =>
    rw [List.append_assoc, List.append_assoc]
    exact iff_of_true (List.prefix_append _ _) host
  case isFalse hostless =>
    refine iff_of_false ?_ hostless
    simp [openScheme, roomsPath]

theorem chatPrefix_of_hostless (scheme : openScheme <+: config.serverUrl.toList)
    (hostless : ¬ config.NamesHost) : config.chatPrefix = "ws:/chat/" := by
  rw [← String.toList_inj, toList_chatPrefix, withoutTrailingSlashes_of_scheme scheme,
    if_neg hostless]
  rfl

theorem toList_serverUrl_withSlashes :
    (config.withSlashes slashes).serverUrl.toList =
      config.serverUrl.toList ++ List.replicate slashes '/' := by
  rw [withSlashes, String.toList_append, String.toList_ofList]

theorem chatPrefix_withSlashes : (config.withSlashes slashes).chatPrefix = config.chatPrefix := by
  rw [← String.toList_inj, toList_chatPrefix, toList_chatPrefix, toList_serverUrl_withSlashes,
    withoutTrailingSlashes_append_slashes]

theorem Accepted.withSlashes (accepted : config.Accepted) :
    (config.withSlashes slashes).Accepted where
  scheme := by
    rw [toList_serverUrl_withSlashes]
    exact List.prefix_append_of_prefix accepted.scheme
  manned := accepted.manned
  roomy := accepted.roomy
  persistent := accepted.persistent
  capped := accepted.capped
  someRoom := accepted.someRoom
  roomsFromOne := accepted.roomsFromOne
  someUser := accepted.someUser
  someTemplate := accepted.someTemplate
  somePipeline := accepted.somePipeline

theorem roomUrl_injective {room other : RoomId}
    (same : roomUrl config.chatPrefix room = roomUrl config.chatPrefix other) :
    room = other := by
  rw [← String.toList_inj, toList_roomUrl, toList_roomUrl, List.append_cancel_left_eq] at same
  have numbers := congrArg Text.readNat? same
  rw [Text.readNat?_digits, Text.readNat?_digits, Option.some.injEq] at numbers
  exact UInt32.toNat_inj.mp numbers

/-- Accepted settings make the address of a room from what is left of the service's without the
slashes at its end; more slashes there are accepted as well and change nothing.  The probe goes
to the first room, and no two rooms share an address.  The addresses start with the scheme that
was accepted exactly if something else than slashes stands behind it; if not, the scheme itself
loses its slashes and gets back one of them. -/
theorem addresses_of_validate (valid : config.validate = .ok ()) :
    (∃ base slashes, config.serverUrl.toList = base ++ List.replicate slashes '/' ∧
      base.getLast? ≠ some '/' ∧ config.chatPrefix.toList = base ++ roomsPath) ∧
    "/chat/".toList <:+ config.chatPrefix.toList ∧
    (openScheme <+: config.chatPrefix.toList ↔ config.NamesHost) ∧
    (∀ room, openScheme <+: (roomUrl config.chatPrefix room).toList ↔ config.NamesHost) ∧
    (¬ config.NamesHost → config.chatPrefix = "ws:/chat/") ∧
    (∀ slashes, (config.withSlashes slashes).validate = .ok () ∧
      (config.withSlashes slashes).chatPrefix = config.chatPrefix) ∧
    config.probeUrl = roomUrl config.chatPrefix config.rooms.low ∧
    (∀ room other,
      roomUrl config.chatPrefix room = roomUrl config.chatPrefix other → room = other) := by
  have accepted := validate_eq_ok_iff.mp valid
  refine ⟨?_, ?_, ?_, ?_, ?_, ?_, rfl, fun _ _ => roomUrl_injective⟩
  · obtain ⟨slashes, parts⟩ := exists_slashes config.serverUrl.toList
    exact ⟨_, slashes, parts, getLast?_withoutTrailingSlashes_ne _, toList_chatPrefix⟩
  · rw [toList_chatPrefix]
    exact List.suffix_append _ _
  · have alone := openScheme_prefix_iff accepted.scheme []
    rwa [List.append_nil] at alone
  · intro room
    rw [toList_roomUrl]
    exact openScheme_prefix_iff accepted.scheme _
  · exact chatPrefix_of_hostless accepted.scheme
  · intro slashes
    exact ⟨validate_eq_ok_iff.mpr accepted.withSlashes, chatPrefix_withSlashes⟩

/-- An address that is nothing but a scheme, and one with slashes on both sides of its host. -/
theorem addresses_of_validate_of_bare :
    let bare := { standard with serverUrl := "ws://" }
    let hosted := { standard with serverUrl := "ws:////é//" }
    bare.validate = .ok () ∧ ¬ bare.NamesHost ∧ bare.chatPrefix = "ws:/chat/" ∧
      ¬ openScheme <+: bare.probeUrl.toList ∧
      hosted.validate = .ok () ∧ hosted.NamesHost ∧ openScheme <+: hosted.probeUrl.toList := by
  intro bare hosted
  have validBare : bare.validate = .ok () := validate_eq_ok_iff.mpr
    (defect?_eq_none_iff.mp (by decide +kernel))
  have validHosted : hosted.validate = .ok () := validate_eq_ok_iff.mpr
    (defect?_eq_none_iff.mp (by decide +kernel))
  have hostless : ¬ bare.NamesHost := by decide +kernel
  have host : hosted.NamesHost := by decide +kernel
  obtain ⟨_, _, _, lost, fallsBack, _, first, _⟩ := addresses_of_validate validBare
  obtain ⟨_, _, _, kept, _, _, firstHosted, _⟩ := addresses_of_validate validHosted
  refine ⟨validBare, hostless, fallsBack hostless, ?_, validHosted, host, ?_⟩
  · rw [first, lost]
    exact hostless
  · rw [firstHosted, kept]
    exact host

end RoomLoad.Config
