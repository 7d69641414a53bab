import RoomLoad.Config.Validity

/-!
# Settings that are accepted

Settings are accepted if none of the defects is found in them.  Each defect is looked for
only where the ones before it are absent; what is left in the end has none of them,
whatever the order.
-/

namespace RoomLoad.Config

/-- Settings that a run can work with. -/
structure Accepted (config : Config) : Prop where
  scheme : openScheme <+: config.serverUrl.toList
  manned : 1 ≤ config.senderWorkers
  roomy : 1 ≤ config.queueCapacity
  persistent : 1 ≤ config.retry.maxAttempts
  capped : config.retry.base.nanos ≤ config.retry.cap.nanos
  someRoom : config.rooms.isEmpty = false
  roomsFromOne : config.rooms.low ≠ 0
  someUser : config.users.isEmpty = false
  someTemplate : 1 ≤ config.messagePoolSize
  somePipeline : 1 ≤ config.pipelineDepth

theorem not_encryptedScheme {url : List Char} (scheme : openScheme <+: url) :
    ¬ encryptedScheme <+: url := by
  intro encrypted
  have openPart : openScheme <+: encryptedScheme :=
    List.prefix_of_prefix_length_le scheme encrypted (by decide)
  exact absurd openPart (by decide)

private theorem ite_some_eq_none_iff {α : Type} {condition : Prop} [Decidable condition]
    {found : α} {rest : Option α} :
    (if condition then some found else rest) = none ↔ ¬ condition ∧ rest = none := by
  split
  case isTrue present => simp [present]
  case isFalse absent => simp [absent]

theorem defect?_eq_none_iff {config : Config} : config.defect? = none ↔ config.Accepted := by
  simp only [defect?, ite_some_eq_none_iff, List.isPrefixOf_iff_prefix, Bool.not_eq_true',
    Bool.not_eq_true, Bool.not_eq_false, Bool.or_eq_false_iff, beq_eq_false_iff_ne, Nat.not_lt,
    and_true]
  constructor
  · rintro ⟨-, scheme, workers, capacity, attempts, capped, ⟨someRoom, fromOne⟩, someUser,
      templates, pipeline⟩
    exact ⟨scheme, Nat.pos_of_ne_zero workers, Nat.pos_of_ne_zero capacity,
      Nat.pos_of_ne_zero attempts, capped, someRoom, fromOne, someUser,
      Nat.pos_of_ne_zero templates, Nat.pos_of_ne_zero pipeline⟩
  · intro accepted
    exact ⟨not_encryptedScheme accepted.scheme, accepted.scheme,
      Nat.pos_iff_ne_zero.mp accepted.manned, Nat.pos_iff_ne_zero.mp accepted.roomy,
      Nat.pos_iff_ne_zero.mp accepted.persistent, accepted.capped,
      ⟨accepted.someRoom, accepted.roomsFromOne⟩, accepted.someUser,
      Nat.pos_iff_ne_zero.mp accepted.someTemplate, Nat.pos_iff_ne_zero.mp accepted.somePipeline⟩

theorem validate_eq_ok_iff {config : Config} :
    config.validate = .ok () ↔ config.Accepted := by
  rw [← defect?_eq_none_iff, validate]
  cases config.defect? with
  | none => simp
  | some defect => simp

theorem accepted_standard : standard.Accepted :=
  defect?_eq_none_iff.mp (by decide +kernel)

end RoomLoad.Config
