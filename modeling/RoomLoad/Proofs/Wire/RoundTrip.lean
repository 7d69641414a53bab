import RoomLoad.Message.Ack
import RoomLoad.Message.Unit
import RoomLoad.Proofs.Wire.Trees

/-!
# Payloads and acknowledgements over the wire

A payload that was written is read back as it was, and so is the frame that echoes it.
The sequence id of the unit survives both, whatever the user's name and text hold: the
first tag in the message is the one that was attached, and its number ends at the first
delimiter behind it.
-/

namespace RoomLoad

namespace Text

theorem isBlank_of_isDigit {character : Char} (isDigit : character.isDigit = true) :
    isBlank character = false := by
  simp only [Char.isDigit, Bool.and_eq_true, decide_eq_true_eq] at isDigit
  have low : 48 ≤ character.toNat := isDigit.1
  have high : character.toNat ≤ 57 := isDigit.2
  simp [isBlank, blankRanges]
  omega

theorem trimStart_of_visible {text : List Char}
    (visible : ∀ character ∈ text, isBlank character = false) : trimStart text = text := by
  cases text with
  | nil => rfl
  | cons character text => simp [trimStart, visible character]

theorem trim_of_visible {text : List Char}
    (visible : ∀ character ∈ text, isBlank character = false) : trim text = text := by
  rw [trim, trimStart_of_visible visible, trimEnd, trimStart_of_visible, List.reverse_reverse]
  intro character member
  exact visible character (List.mem_reverse.mp member)

theorem before?_append {delimiter : Char} {front : List Char} (free : delimiter ∉ front)
    (rest : List Char) : before? delimiter (front ++ delimiter :: rest) = some front := by
  have contained : (front ++ delimiter :: rest).contains delimiter = true := by
    simp
  have apart : ∀ character ∈ front, (character != delimiter) = true := by
    intro character member
    rw [bne_iff_ne]
    rintro rfl
    exact free member
  rw [before?, if_pos contained, List.takeWhile_append_of_pos apart]
  simp

end Text

theorem Tag.find?_attach (seq : SeqId) (text : String) :
    Tag.find? (Tag.attach seq text) = some seq := by
  have free : Tag.closing ∉ Text.digits seq.toNat := by
    intro member
    have isDigit := Json.isDigit_of_mem_digits member
    contradiction
  have visible : ∀ character ∈ Text.digits seq.toNat, Text.isBlank character = false :=
    fun character member => Text.isBlank_of_isDigit (Json.isDigit_of_mem_digits member)
  have after : Text.after? Tag.opening
      (Tag.opening ++ Text.digits seq.toNat ++ Tag.closing :: text.toList) =
        some (Text.digits seq.toNat ++ Tag.closing :: text.toList) := rfl
  have fits : seq.toNat < Text.word64 := seq.toNat_lt
  simp only [Tag.find?, Tag.attach, String.toList_ofList, Tag.read?, after, Option.bind_eq_bind,
    Option.bind_some, Text.before?_append free, Text.trim_of_visible visible,
    Text.readBelow?_digits fits, Option.pure_def, UInt64.ofNat_toNat]

namespace Json

theorem keyed?_memberTrees (members : List (String × Value)) :
    keyed? (Value.memberTrees members) =
      some (members.map fun member => (member.1, member.2.tree)) := by
  induction members with
  | nil => rfl
  | cons member members induction =>
      rw [Value.memberTrees, keyed?, stringOf?_map_pieceOf, induction]
      rfl

theorem Tree.fields?_tree (keys : List String) (members : List (String × Value)) :
    (Value.object members).tree.fields? keys =
      fieldsOf? (members.map fun member => (member.1, member.2.tree)) keys := by
  rw [Value.tree, Tree.fields?, keyed?_memberTrees]
  rfl

theorem insertMember_nil (key : String) (value : Value) :
    insertMember key value [] = [(key, value)] :=
  rfl

theorem insertMember_of_lt {key other : String} (before : key < other) (value held : Value)
    (members : List (String × Value)) :
    insertMember key value ((other, held) :: members) =
      (key, value) :: (other, held) :: members :=
  if_pos before

theorem insertMember_of_not_lt {key other : String} (behind : ¬ key < other)
    (different : key ≠ other) (value held : Value) (members : List (String × Value)) :
    insertMember key value ((other, held) :: members) =
      (other, held) :: insertMember key value members := by
  rw [insertMember, if_neg behind, if_neg different]

theorem perm_insertMember {key : String} {members : List (String × Value)}
    (new : key ∉ members.map Prod.fst) (value : Value) :
    (insertMember key value members).Perm ((key, value) :: members) := by
  induction members with
  | nil => exact .rfl
  | cons member members induction =>
      obtain ⟨other, held⟩ := member
      simp only [List.map_cons, List.mem_cons, not_or] at new
      by_cases before : key < other
      · rw [insertMember_of_lt before]
      · rw [insertMember_of_not_lt before new.1]
        exact ((induction new.2).cons _).trans (.swap _ _ _)

theorem perm_sortMembers {members : List (String × Value)}
    (distinct : (members.map Prod.fst).Nodup) : (sortMembers members).Perm members := by
  have grows : ∀ (members sorted : List (String × Value)),
      ((members ++ sorted).map Prod.fst).Nodup →
      (members.foldl (fun sorted member => insertMember member.1 member.2 sorted) sorted).Perm
        (members ++ sorted) := by
    intro members
    induction members with
    | nil =>
        intro sorted _
        exact .rfl
    | cons member members induction =>
        intro sorted distinct
        rw [List.cons_append, List.map_cons, List.nodup_cons] at distinct
        have inserted : (insertMember member.1 member.2 sorted).Perm (member :: sorted) := by
          apply perm_insertMember
          intro present
          exact distinct.1 (by simp_all)
        have moved : (members ++ insertMember member.1 member.2 sorted).Perm
            (member :: (members ++ sorted)) :=
          (inserted.append_left members).trans List.perm_middle
        refine (induction _ ?_).trans moved
        rw [(moved.map Prod.fst).nodup_iff, List.map_cons, List.nodup_cons]
        exact distinct
  have all := grows members []
  rw [List.append_nil] at all
  exact all distinct

theorem Tree.string?_tree (text : String) : (Value.string text).tree.string? = some text :=
  stringOf?_map_pieceOf text

theorem Tree.strings?_tree (texts : List String) :
    (Value.array (texts.map .string)).tree.strings? = some texts := by
  rw [Value.tree, Tree.strings?]
  induction texts with
  | nil => rfl
  | cons text texts induction =>
      rw [List.map_cons, Value.trees, List.mapM_cons, string?_tree, induction]
      rfl

theorem Value.areExact_map_string (texts : List String) :
    areExact (texts.map .string) = true := by
  induction texts with
  | nil => rfl
  | cons text texts induction => exact induction

theorem Value.tree_ne_null {value : Value} (exact : value.isExact = true)
    (present : value ≠ .null) : value.tree ≠ .null := by
  cases value with
  | null => contradiction
  | real => contradiction
  | _ => exact Tree.noConfusion

theorem Value.isExact_orNull {α : Type} {write : α → Value} {field : Option α}
    (exact : ∀ inner, field = some inner → (write inner).isExact = true) :
    (orNull write field).isExact = true := by
  cases field with
  | none => rfl
  | some inner => exact exact inner rfl

/-- A field is read back from what was written for it, null standing for none. -/
theorem optional?_orNull {α : Type} {write : α → Value} {read : Tree → Option α}
    {field : Option α} (present : ∀ inner, field = some inner → (write inner).tree ≠ .null)
    (reads : ∀ inner, field = some inner → read (write inner).tree = some inner) :
    optional? read (some (Value.orNull write field).tree) = some field := by
  cases field with
  | none => rfl
  | some inner =>
      rw [Value.orNull, optional?, reads inner rfl]
      · rfl
      · exact present inner rfl

end Json

namespace ChatPayload

open Json

theorem kindOf?_tree (kind : MessageKind) :
    kindOf? (Value.string kind.name).tree = some kind := by
  rw [Value.tree, kindOf?, stringOf?_map_pieceOf]
  exact MessageKind.ofName?_name kind

theorem parse?_wireText (payload : ChatPayload) : parse? payload.wireText = some payload := by
  have exact : (Value.object payload.members).isExact = true := rfl
  have fields : (Value.object payload.members).tree.fields? keys =
      some [some (Value.string payload.userId).tree, some (Value.string payload.username).tree,
        some (Value.string payload.message).tree, some (Value.string payload.timestamp).tree,
        some (Value.string payload.kind.name).tree] := by
    rw [Tree.fields?_tree]
    rfl
  rw [parse?, wireText, Tree.read?_text exact, Option.bind_some, ofTree?, fields]
  simp only [Option.bind_eq_bind, Option.bind_some, Tree.string?_tree, kindOf?_tree,
    Option.pure_def]

def sortedMembers (payload : ChatPayload) : List (String × Value) :=
  [("message", .string payload.message), ("messageType", .string payload.kind.name),
    ("timestamp", .string payload.timestamp), ("userId", .string payload.userId),
    ("username", .string payload.username)]

theorem sortMembers_members (payload : ChatPayload) :
    sortMembers payload.members = payload.sortedMembers := by
  simp (disch := decide) only [sortMembers, members, sortedMembers, List.foldl, insertMember_nil,
    insertMember_of_lt, insertMember_of_not_lt]

theorem value_regular (payload : ChatPayload) (depth : Nat) :
    payload.value.Regular (depth + 1) := by
  have sorted : sortMembers payload.sortedMembers = payload.sortedMembers := by
    simp (disch := decide) only [sortMembers, sortedMembers, List.foldl, insertMember_nil,
      insertMember_of_not_lt]
  rw [value, sortMembers_members, Value.Regular]
  exact ⟨sorted, trivial, trivial, trivial, trivial, trivial, trivial⟩

theorem perm_sortedMembers (payload : ChatPayload) :
    payload.sortedMembers.Perm payload.members := by
  rw [← sortMembers_members]
  apply perm_sortMembers
  simp [members]

end ChatPayload

namespace AckFrame

open Json

variable {frame : AckFrame}

/-- Whether a frame's data, if there is any, comes back from being printed and read. -/
def Survives (frame : AckFrame) : Prop :=
  ∀ data, frame.data = some data →
    data ≠ .null ∧ data.isExact = true ∧ data.Regular (depthLimit - 1)

theorem Survives.isExact_value (survives : frame.Survives) : frame.value.isExact = true := by
  have status : (Value.orNull .string frame.status).isExact = true :=
    Value.isExact_orNull fun _ _ => rfl
  have stamp : (Value.orNull .string frame.serverTimestamp).isExact = true :=
    Value.isExact_orNull fun _ _ => rfl
  have data : (Value.orNull id frame.data).isExact = true :=
    Value.isExact_orNull fun data held => (survives data held).2.1
  have errors : (Value.orNull (fun errors => .array (errors.map .string))
      frame.errors).isExact = true :=
    Value.isExact_orNull fun errors _ => Value.areExact_map_string errors
  simp [value, Value.isExact, Value.areExactMembers, status, stamp, data, errors]

/-- A frame whose data survives is read back as it was written. -/
theorem Survives.parse?_wireText (survives : frame.Survives) :
    parse? frame.wireText = some frame := by
  have fields : frame.value.tree.fields? keys =
      some [some (Value.orNull .string frame.status).tree,
        some (Value.orNull .string frame.serverTimestamp).tree,
        some (Value.orNull id frame.data).tree,
        some (Value.orNull (fun errors => .array (errors.map .string)) frame.errors).tree] := by
    rw [value, Tree.fields?_tree]
    rfl
  have word : ∀ text : Option String,
      optional? Tree.string? (some (Value.orNull .string text).tree) = some text :=
    fun _ => optional?_orNull (fun _ _ => Tree.noConfusion) fun text _ => Tree.string?_tree text
  have data : optional? (Value.ofTree? (depthLimit - 1))
      (some (Value.orNull id frame.data).tree) = some frame.data := by
    apply optional?_orNull
    · intro data held
      exact Value.tree_ne_null (survives data held).2.1 (survives data held).1
    · intro data held
      exact data.ofTree?_tree _ (survives data held).2.2
  have errors : optional? Tree.strings?
      (some (Value.orNull (fun errors => .array (errors.map .string)) frame.errors).tree) =
        some frame.errors :=
    optional?_orNull (fun _ _ => Tree.noConfusion) fun errors _ => Tree.strings?_tree errors
  rw [parse?, wireText, Tree.read?_text survives.isExact_value, Option.bind_some, ofTree?, fields]
  simp only [Option.bind_eq_bind, Option.bind_some, word, data, errors, Option.pure_def]

theorem survives_echo (payload : ChatPayload) (answeredAt : Timestamp) :
    (echo payload answeredAt).Survives := by
  rintro data ⟨⟩
  refine ⟨Value.noConfusion, ?_, payload.value_regular _⟩
  rw [ChatPayload.value, ChatPayload.sortMembers_members]
  rfl

/-- The frame that echoes a payload is read back as it was written. -/
theorem parse?_wireText_echo (payload : ChatPayload) (answeredAt : Timestamp) :
    parse? (echo payload answeredAt).wireText = some (echo payload answeredAt) :=
  (survives_echo payload answeredAt).parse?_wireText

theorem seq?_echo (payload : ChatPayload) (answeredAt : Timestamp) :
    (echo payload answeredAt).seq? = Tag.find? payload.message := by
  rw [seq?, echo, ChatPayload.value, ChatPayload.sortMembers_members]
  rfl

end AckFrame

/-- Whatever a unit says and whatever its attempt, its text is read as its payload, and the
frame that echoes the payload is read as an acceptance of the unit with the payload's five
fields. -/
theorem OutboundUnit.wire_round_trip (unit : OutboundUnit) (answeredAt : Timestamp) :
    ChatPayload.parse unit.wireText = .ok unit.payload ∧
      (∃ frame members,
        AckFrame.parse (AckFrame.echo unit.payload answeredAt).wireText = .ok frame ∧
        frame.seq? = some unit.seq ∧ frame.ackStatus = .ok ∧
        frame.data = some (.object members) ∧
        members.Perm
          [("userId", .string unit.payload.userId), ("username", .string unit.payload.username),
            ("message", .string unit.payload.message),
            ("timestamp", .string unit.payload.timestamp),
            ("messageType", .string unit.payload.kind.name)]) ∧
      ∀ attempt, { unit with attempt := attempt }.wireText = unit.wireText := by
  refine ⟨?_, ⟨AckFrame.echo unit.payload answeredAt, unit.payload.sortedMembers, ?_, ?_, rfl, ?_,
    unit.payload.perm_sortedMembers⟩, ?_⟩
  · rw [ChatPayload.parse, wireText, ChatPayload.parse?_wireText]
  · rw [AckFrame.parse, AckFrame.parse?_wireText_echo]
  · rw [AckFrame.seq?_echo]
    exact Tag.find?_attach unit.seq unit.text
  · rw [AckFrame.echo, ChatPayload.value, ChatPayload.sortMembers_members]
  · intro attempt
    rfl

end RoomLoad
