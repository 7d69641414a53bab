import RoomLoad.Probe.Session
import RoomLoad.Proofs.Runs.Basic

/-!
# What a probe session makes of its history

Messages that go out and frames that come in make up the history of a probe session.  The
history alone tells the round trip of an id: from the moment when its message goes out to
the first frame after it that carries the id.  What a session counts are these round trips,
whatever frames arrive in whatever order.
-/

namespace RoomLoad

/-- What a probe session is told. -/
inductive ProbeEvent where
  /-- A message has gone out. -/
  | mark (seq : SeqId) (moment : Instant)
  | frame (text : String) (moment : Instant)
deriving DecidableEq

/-- The sequence id that a frame carries, if it has a tag. -/
def carried? (text : String) : Option SeqId :=
  (AckFrame.parse? text).bind AckFrame.seq?

namespace ProbeEvent

def mark? : ProbeEvent → Option (SeqId × Instant)
  | mark seq moment => some (seq, moment)
  | frame _ _ => none

/-- When an event brings the echo of an id. -/
def echo? (seq : SeqId) : ProbeEvent → Option Instant
  | mark _ _ => none
  | frame text moment => if carried? text = some seq then some moment else none

/-- Whether an event is a frame without a tag. -/
def isNoise : ProbeEvent → Bool
  | mark _ _ => false
  | frame text _ => (carried? text).isNone

end ProbeEvent

/-- The messages that have gone out, each with its moment. -/
def marks (history : List ProbeEvent) : List (SeqId × Instant) :=
  history.filterMap ProbeEvent.mark?

def marked (history : List ProbeEvent) : List SeqId :=
  (marks history).map Prod.fst

/-- The round trip of an id, in nanoseconds. -/
def trip? (seq : SeqId) : List ProbeEvent → Option Nat
  | [] => none
  | .mark other sent :: later =>
      if other = seq then (later.findSome? (ProbeEvent.echo? seq)).map (· - sent)
      else trip? seq later
  | .frame _ _ :: later => trip? seq later

/-- Since when an id is out: its message has gone out and has not been echoed. -/
def outSince? (seq : SeqId) (history : List ProbeEvent) : Option Instant :=
  if (trip? seq history).isSome then none else (marks history).lookup seq

section History

variable {history : List ProbeEvent} {seq other : SeqId} {text : String} {now : Instant}

@[simp]
theorem marks_mark :
    marks (.mark seq now :: history) = (seq, now) :: marks history := rfl

@[simp]
theorem marks_frame : marks (.frame text now :: history) = marks history := rfl

@[simp]
theorem marks_append_mark :
    marks (history ++ [.mark seq now]) = marks history ++ [(seq, now)] := by
  simp [marks, ProbeEvent.mark?]

@[simp]
theorem marks_append_frame : marks (history ++ [.frame text now]) = marks history := by
  simp [marks, ProbeEvent.mark?]

@[simp]
theorem marked_append_mark :
    marked (history ++ [.mark seq now]) = marked history ++ [seq] := by
  simp [marked]

@[simp]
theorem marked_append_frame : marked (history ++ [.frame text now]) = marked history := by
  simp [marked]

/-- A message that goes out ends no round trip. -/
@[simp]
theorem trip?_append_mark : trip? seq (history ++ [.mark other now]) = trip? seq history := by
  induction history with
  | nil => simp [trip?]
  | cons event later induction =>
      cases event with
      | mark marking sent => simp [trip?, induction, List.findSome?_append, ProbeEvent.echo?]
      | frame text moment => simp [trip?, induction]

/-- A frame ends the round trip of the id that it carries, if that id is out. -/
theorem trip?_append_frame :
    trip? seq (history ++ [.frame text now]) =
      (trip? seq history).or
        (if carried? text = some seq then ((marks history).lookup seq).map (now - ·)
        else none) := by
  induction history with
  | nil => simp [trip?, marks]
  | cons event later induction =>
      cases event with
      | mark marking sent =>
          by_cases same : marking = seq
          · subst same
            rw [List.cons_append, trip?, if_pos rfl, trip?, if_pos rfl, List.findSome?_append]
            rw [marks_mark, List.lookup_cons_self]
            cases later.findSome? (ProbeEvent.echo? marking) with
            | some arrived => simp
            | none => by_cases carries : carried? text = some marking <;>
                simp [ProbeEvent.echo?, carries]
          · rw [List.cons_append, trip?, if_neg same, trip?, if_neg same, induction, marks_mark,
              List.lookup_cons, beq_false_of_ne (Ne.symm same)]
      | frame earlier moment => rw [List.cons_append, trip?, trip?, induction, marks_frame]

theorem mem_marked_of_trip? (tripped : (trip? seq history).isSome) : seq ∈ marked history := by
  induction history with
  | nil => contradiction
  | cons event later induction =>
      cases event with
      | mark marking sent =>
          rw [marked, marks_mark, List.map_cons, List.mem_cons]
          by_cases same : marking = seq
          · exact .inl same.symm
          · rw [trip?, if_neg same] at tripped
            exact .inr (induction tripped)
      | frame text moment =>
          exact induction tripped

theorem outSince?_eq_some_iff {sent : Instant} :
    outSince? seq history = some sent ↔
      trip? seq history = none ∧ (marks history).lookup seq = some sent := by
  unfold outSince?
  cases trip? seq history <;> simp

theorem trip?_append_frame_of_not_out
    (notOut : ∀ carried, carried? text = some carried → outSince? carried history = none) :
    trip? seq (history ++ [.frame text now]) = trip? seq history := by
  rw [trip?_append_frame]
  cases tripped : trip? seq history with
  | some nanos => rfl
  | none =>
      by_cases carries : carried? text = some seq
      · have unmarked := notOut seq carries
        rw [outSince?, tripped, Option.isSome_none, if_neg (by simp)] at unmarked
        simp [unmarked]
      · simp [carries]

theorem trip?_append_frame_of_out {sent : Instant} (carries : carried? text = some seq)
    (out : outSince? seq history = some sent) :
    trip? other (history ++ [.frame text now]) =
      if other = seq then some (now - sent) else trip? other history := by
  obtain ⟨untripped, looked⟩ := outSince?_eq_some_iff.mp out
  rw [trip?_append_frame]
  by_cases same : other = seq
  · subst same
    simp [untripped, carries, looked]
  · have different : carried? text ≠ some other := by
      rw [carries]
      exact fun equal => same (Option.some.inj equal).symm
    simp [same, different]

end History

theorem length_filter_add_total {κ : Type} (holds : κ → Bool) (keys : List κ) :
    (keys.filter fun key => !holds key).length + total (fun key => (holds key).toNat) keys =
      keys.length := by
  rw [total_toNat, ← List.countP_eq_length_filter, Nat.add_comm,
    List.length_eq_countP_add_countP holds]
  simp only [Bool.not_eq_true, Bool.decide_eq_false]

/-- Under different keys, what is filed under a key is what is found there. -/
theorem lookup_eq_some_iff_mem {κ α : Type} [BEq κ] [LawfulBEq κ] {entries : List (κ × α)}
    {key : κ} {value : α} (distinct : (entries.map Prod.fst).Nodup) :
    entries.lookup key = some value ↔ (key, value) ∈ entries := by
  induction entries with
  | nil => simp
  | cons first rest induction =>
      obtain ⟨firstKey, firstValue⟩ := first
      obtain ⟨absent, restDistinct⟩ := List.nodup_cons.mp distinct
      by_cases same : key = firstKey
      · subst same
        have notLater : (key, value) ∉ rest :=
          fun member => absent (List.mem_map.mpr ⟨_, member, rfl⟩)
        simp [notLater, eq_comm]
      · rw [List.lookup_cons, beq_false_of_ne same, List.mem_cons, ← induction restDistinct]
        simp [same]

/-- Whether an id has been echoed, as a number. -/
def echoes (history : List ProbeEvent) (seq : SeqId) : Nat :=
  (trip? seq history).isSome.toNat

/-- The round trip of an id, as far as a word can hold it. -/
def wordTrip (history : List ProbeEvent) (seq : SeqId) : Nat :=
  min ((trip? seq history).getD 0) (Text.word64 - 1)

@[simp]
theorem echoes_append_mark {history : List ProbeEvent} {seq : SeqId} {now : Instant} :
    echoes (history ++ [.mark seq now]) = echoes history :=
  funext fun _ => by simp [echoes]

@[simp]
theorem wordTrip_append_mark {history : List ProbeEvent} {seq : SeqId} {now : Instant} :
    wordTrip (history ++ [.mark seq now]) = wordTrip history :=
  funext fun _ => by simp [wordTrip]

namespace ProbeSession

/-- A session counts its history: so many samples are to be echoed, and every id has gone
out at most once. -/
structure Counts (session : ProbeSession) (samples : Nat) (history : List ProbeEvent) :
    Prop where
  distinct : (marked history).Nodup
  few : (marked history).length ≤ samples
  /-- What is out, the latest in front. -/
  out : session.sentAt =
    ((marks history).filter fun mark => (trip? mark.1 history).isNone).reverse
  matched : session.matched = total (echoes history) (marked history)
  remaining : session.matched + session.remaining = samples
  unparseable : session.unparseable = history.countP ProbeEvent.isNoise
  nanos : session.totalNanos = UInt64.ofNat (total (wordTrip history) (marked history))

theorem counts_fresh : fresh.Counts 0 [] where
  distinct := .nil
  few := Nat.le_refl 0
  out := rfl
  matched := rfl
  remaining := rfl
  unparseable := rfl
  nanos := rfl

theorem counts_begin (session : ProbeSession) (samples : Nat) :
    (session.begin samples).Counts samples [] where
  distinct := .nil
  few := Nat.zero_le samples
  out := rfl
  matched := rfl
  remaining := Nat.zero_add samples
  unparseable := rfl
  nanos := rfl

variable {session : ProbeSession} {samples : Nat} {history : List ProbeEvent} {seq : SeqId}
  {text : String} {now : Instant}

theorem Counts.takePermit (counts : session.Counts samples history) :
    session.takePermit.Counts samples history where
  distinct := counts.distinct
  few := counts.few
  out := counts.out
  matched := counts.matched
  remaining := counts.remaining
  unparseable := counts.unparseable
  nanos := counts.nanos

private theorem mem_sentAt_iff (counts : session.Counts samples history) {sent : Instant} :
    (seq, sent) ∈ session.sentAt ↔ (seq, sent) ∈ marks history ∧ trip? seq history = none := by
  simp [counts.out]

theorem Counts.lookup_eq (counts : session.Counts samples history) :
    session.sentAt.lookup seq = outSince? seq history := by
  have distinct : (session.sentAt.map Prod.fst).Nodup := by
    rw [counts.out, List.map_reverse]
    exact ((counts.distinct.sublist (List.filter_sublist.map Prod.fst)).perm
      (List.reverse_perm _).symm)
  refine Option.ext fun sent => ?_
  rw [lookup_eq_some_iff_mem distinct, mem_sentAt_iff counts, outSince?_eq_some_iff,
    lookup_eq_some_iff_mem counts.distinct, and_comm]

theorem Counts.length_eq (counts : session.Counts samples history) :
    session.sentAt.length + session.matched = (marked history).length := by
  have split := length_filter_add_total (fun mark => (trip? mark.1 history).isSome) (marks history)
  simp only [Option.not_isSome] at split
  rw [counts.out, counts.matched, List.length_reverse, marked, total_map, List.length_map]
  exact split

theorem Counts.length_le (counts : session.Counts samples history) :
    session.sentAt.length ≤ session.remaining := by
  have lengths := counts.length_eq
  have few := counts.few
  have sum := counts.remaining
  omega

theorem Counts.remaining_pos (counts : session.Counts samples history) {sent : Instant}
    (out : outSince? seq history = some sent) : 0 < session.remaining := by
  rw [← counts.lookup_eq] at out
  have nonempty : session.sentAt ≠ [] := fun empty => by simp [empty] at out
  have positive := List.length_pos_iff.mpr nonempty
  have few := counts.length_le
  omega

theorem Counts.mark (counts : session.Counts samples history) (new : seq ∉ marked history)
    (room : (marked history).length < samples) :
    (session.mark seq now).Counts samples (history ++ [.mark seq now]) := by
  have untripped : trip? seq history = none :=
    Option.not_isSome_iff_eq_none.mp fun tripped => new (mem_marked_of_trip? tripped)
  have others : session.sentAt.filter (fun entry => entry.1 != seq) = session.sentAt := by
    refine List.filter_eq_self.mpr fun entry member => ?_
    have out := ((mem_sentAt_iff counts).mp member).1
    simp only [bne_iff_ne]
    rintro rfl
    exact new (List.mem_map_of_mem out)
  constructor
  case distinct =>
    rw [marked_append_mark]
    refine List.nodup_append.mpr ⟨counts.distinct, by simp, ?_⟩
    rintro other member _ isNew rfl
    exact new (List.mem_singleton.mp isNew ▸ member)
  case few =>
    rw [marked_append_mark, List.length_append, List.length_singleton]
    omega
  case out =>
    rw [ProbeSession.mark, others, counts.out]
    simp [untripped]
  case matched => exact counts.matched.trans (by simp [total, echoes, untripped])
  case remaining => exact counts.remaining
  case unparseable =>
    rw [List.countP_append]
    exact counts.unparseable
  case nanos => exact counts.nanos.trans (by simp [total, wordTrip, untripped])

theorem onFrame_of_noise (noise : carried? text = none) :
    session.onFrame now text = { session with unparseable := session.unparseable + 1 } := by
  unfold onFrame
  rw [← carried?, noise]

theorem onFrame_of_stray (carries : carried? text = some seq)
    (stray : session.sentAt.lookup seq = none) : session.onFrame now text = session := by
  unfold onFrame
  rw [← carried?, carries]
  simp only [stray]

theorem onFrame_of_echo {sent : Instant} (carries : carried? text = some seq)
    (out : session.sentAt.lookup seq = some sent) :
    session.onFrame now text =
      { session with
        sentAt := session.sentAt.filter fun entry => entry.1 != seq
        totalNanos := session.totalNanos + roundTrip sent now
        matched := session.matched + 1
        remaining := session.remaining - 1
        permit := session.permit || session.remaining == 1 } := by
  unfold onFrame
  rw [← carried?, carries]
  simp only [out]

/-- A frame that is no echo of what is out leaves all round trips alone. -/
private theorem Counts.pass (now : Instant) (counts : session.Counts samples history)
    (notOut : ∀ carried, carried? text = some carried → outSince? carried history = none) :
    Counts
      { session with unparseable := session.unparseable + (carried? text).isNone.toNat }
      samples (history ++ [.frame text now]) := by
  have trips : ∀ seq, trip? seq (history ++ [.frame text now]) = trip? seq history :=
    fun _ => trip?_append_frame_of_not_out notOut
  have sameEchoes : echoes (history ++ [.frame text now]) = echoes history :=
    funext fun seq => by simp [echoes, trips seq]
  have sameNanos : wordTrip (history ++ [.frame text now]) = wordTrip history :=
    funext fun seq => by simp [wordTrip, trips seq]
  constructor
  case distinct => simpa using counts.distinct
  case few => simpa using counts.few
  case out => simpa [trips] using counts.out
  case matched => simpa [sameEchoes] using counts.matched
  case remaining => exact counts.remaining
  case unparseable =>
    rw [List.countP_append, List.countP_singleton, counts.unparseable, ProbeEvent.isNoise]
    cases carried? text <;> rfl
  case nanos => simpa [sameNanos] using counts.nanos

private theorem Counts.echo (now : Instant) (counts : session.Counts samples history)
    {sent : Instant}
    (carries : carried? text = some seq) (out : outSince? seq history = some sent) :
    Counts
      { session with
        sentAt := session.sentAt.filter fun entry => entry.1 != seq
        totalNanos := session.totalNanos + roundTrip sent now
        matched := session.matched + 1
        remaining := session.remaining - 1
        permit := session.permit || session.remaining == 1 }
      samples (history ++ [.frame text now]) := by
  have trips : ∀ other, trip? other (history ++ [.frame text now]) =
      if other = seq then some (now - sent) else trip? other history :=
    fun _ => trip?_append_frame_of_out carries out
  obtain ⟨untripped, looked⟩ := outSince?_eq_some_iff.mp out
  have member : seq ∈ marked history :=
    List.mem_map_of_mem ((lookup_eq_some_iff_mem counts.distinct).mp looked)
  have positive := counts.remaining_pos out
  have sum := counts.remaining
  constructor
  case distinct => simpa using counts.distinct
  case few => simpa using counts.few
  case out =>
    rw [marks_append_frame, counts.out, List.filter_reverse, List.filter_filter]
    refine congrArg List.reverse (List.filter_congr fun mark _ => ?_)
    by_cases same : mark.1 = seq <;> simp [trips, same]
  case matched =>
    have others : ∀ other ∈ marked history, other ≠ seq →
        echoes (history ++ [.frame text now]) other = echoes history other :=
      fun other _ different => by simp [echoes, trips, different]
    -- the sums run through the ids, and only the summand of this one changes
    have change := total_of_key counts.distinct member others
    have before : echoes history seq = 0 := by simp [echoes, untripped]
    have after : echoes (history ++ [.frame text now]) seq = 1 := by simp [echoes, trips]
    rw [marked_append_frame]
    have matched := counts.matched
    simp only
    omega
  case remaining =>
    simp only
    omega
  case unparseable =>
    simpa [List.countP_append, ProbeEvent.isNoise, carries] using counts.unparseable
  case nanos =>
    have others : ∀ other ∈ marked history, other ≠ seq →
        wordTrip (history ++ [.frame text now]) other = wordTrip history other :=
      fun other _ different => by simp [wordTrip, trips, different]
    have change := total_of_key counts.distinct member others
    have before : wordTrip history seq = 0 := by simp [wordTrip, untripped]
    have after : wordTrip (history ++ [.frame text now]) seq =
        min (now - sent) (Text.word64 - 1) := by simp [wordTrip, trips]
    rw [before, after, Nat.add_zero] at change
    rw [marked_append_frame, change, UInt64.ofNat_add, ← counts.nanos]
    rfl

theorem Counts.onFrame (counts : session.Counts samples history) :
    (session.onFrame now text).Counts samples (history ++ [.frame text now]) := by
  cases carries : carried? text with
  | none =>
      have notOut : ∀ seq, carried? text = some seq → outSince? seq history = none := by
        intro seq carried
        rw [carries] at carried
        contradiction
      rw [onFrame_of_noise carries]
      simpa [carries] using counts.pass now notOut
  | some seq =>
      have looked : session.sentAt.lookup seq = outSince? seq history := counts.lookup_eq
      cases out : outSince? seq history with
      | none =>
          have notOut : ∀ other, carried? text = some other → outSince? other history = none := by
            intro other carried
            rw [carries, Option.some.injEq] at carried
            exact carried ▸ out
          rw [onFrame_of_stray carries (looked.trans out)]
          simpa [carries] using counts.pass now notOut
      | some sent =>
          rw [onFrame_of_echo carries (looked.trans out)]
          exact counts.echo now carries out

end ProbeSession

end RoomLoad
