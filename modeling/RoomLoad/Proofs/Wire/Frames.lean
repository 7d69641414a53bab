import RoomLoad.Proofs.Wire.RoundTrip

/-!
# The normal form of acknowledgements

A frame may be written in many ways: as an object or an array, with fields that are absent
or null, with members that nobody knows and with keys in its data that repeat.  Once read
and written again it has one text, which is read as the same frame.  What has been read
already has everything that makes a value come back: the members of its objects are in
the order of their keys, its integers fit in 64 bits, and it is not nested too deeply.
-/

namespace RoomLoad

namespace Json

/-- Whether members are in the order of their keys, none of which repeats. -/
def InKeyOrder (members : List (String × Value)) : Prop :=
  members.Pairwise fun left right => left.1 < right.1

variable {key : String} {value : Value} {member : String × Value}
  {members : List (String × Value)}

theorem mem_of_mem_insertMember (inserted : member ∈ insertMember key value members) :
    member = (key, value) ∨ member ∈ members := by
  induction members with
  | nil => exact .inl (List.mem_singleton.mp inserted)
  | cons first members induction =>
      obtain ⟨other, held⟩ := first
      rw [insertMember] at inserted
      split at inserted
      case isTrue => exact List.mem_cons.mp inserted
      case isFalse =>
        split at inserted
        case isTrue =>
          exact (List.mem_cons.mp inserted).imp id (List.mem_cons_of_mem _)
        case isFalse =>
          obtain rfl | later := List.mem_cons.mp inserted
          · exact .inr List.mem_cons_self
          · exact (induction later).imp id (List.mem_cons_of_mem _)

theorem mem_of_mem_sortMembers (sorted : member ∈ sortMembers members) : member ∈ members := by
  have given : ∀ member ∈ sortMembers members, member ∈ members := by
    refine List.foldlRecOn members _ (motive := fun held => ∀ member ∈ held, member ∈ members)
      (by simp) ?_
    intro held within added isAdded member inserted
    obtain rfl | isHeld := mem_of_mem_insertMember inserted
    · exact isAdded
    · exact within member isHeld
  exact given member sorted

theorem InKeyOrder.insertMember (ordered : InKeyOrder members) (key : String) (value : Value) :
    InKeyOrder (insertMember key value members) := by
  induction members with
  | nil => exact List.pairwise_singleton _ _
  | cons first members induction =>
      obtain ⟨other, held⟩ := first
      obtain ⟨before, others⟩ := List.pairwise_cons.mp ordered
      rw [Json.insertMember]
      split
      case isTrue less =>
        refine .cons ?_ (.cons before others)
        intro later member
        obtain rfl | behind := List.mem_cons.mp member
        · exact less
        · exact String.lt_trans less (before later behind)
      case isFalse notLess =>
        split
        case isTrue same =>
          subst same
          exact .cons before others
        case isFalse different =>
          refine .cons ?_ (induction others)
          intro later member
          obtain rfl | behind := mem_of_mem_insertMember member
          · exact Std.lt_of_le_of_ne notLess (Ne.symm different)
          · exact before later behind

theorem inKeyOrder_sortMembers (members : List (String × Value)) :
    InKeyOrder (sortMembers members) :=
  List.foldlRecOn members _ (motive := InKeyOrder) .nil fun _ ordered added _ =>
    ordered.insertMember added.1 added.2

theorem insertMember_of_forall_lt (behind : ∀ other ∈ members, other.1 < key) :
    insertMember key value members = members ++ [(key, value)] := by
  induction members with
  | nil => rfl
  | cons first members induction =>
      obtain ⟨other, held⟩ := first
      have less : other < key := behind _ List.mem_cons_self
      have different : key ≠ other := by
        rintro rfl
        exact String.lt_irrefl key less
      rw [insertMember_of_not_lt (String.lt_asymm less) different,
        induction fun later member => behind later (List.mem_cons_of_mem _ member)]
      rfl

theorem InKeyOrder.sortMembers_eq (ordered : InKeyOrder members) :
    sortMembers members = members := by
  have grows : ∀ (members held : List (String × Value)), InKeyOrder (held ++ members) →
      members.foldl (fun sorted added => Json.insertMember added.1 added.2 sorted) held =
        held ++ members := by
    intro members
    induction members with
    | nil => exact fun held _ => (List.append_nil held).symm
    | cons added members induction =>
        intro held ordered
        have behind : ∀ other ∈ held, other.1 < added.1 := fun other isHeld =>
          (List.pairwise_append.mp ordered).2.2 other isHeld added List.mem_cons_self
        rw [List.foldl_cons, insertMember_of_forall_lt behind, induction]
        · simp
        · simpa using ordered
  exact grows members [] ordered

theorem Value.areRegularMembers_iff {depth : Nat} :
    AreRegularMembers depth members ↔ ∀ member ∈ members, member.2.Regular depth := by
  induction members with
  | nil => simp [AreRegularMembers]
  | cons member members induction => simp [AreRegularMembers, induction]

theorem Value.areExactMembers_iff :
    areExactMembers members = true ↔ ∀ member ∈ members, member.2.isExact = true := by
  induction members with
  | nil => simp [areExactMembers]
  | cons member members induction => simp [areExactMembers, induction]

/-- A numeral means an integer of 64 bits or a double. -/
theorem Numeral.regular_of_value? {numeral : Numeral} {value : Value} {depth : Nat}
    (found : numeral.value? = some value) (exact : value.isExact = true) :
    value.Regular depth := by
  have limit : Text.word64 = 18446744073709551616 := rfl
  simp only [Numeral.value?] at found
  split at found
  case isTrue plain =>
    cases found
    simp only [Bool.and_eq_true, decide_eq_true_eq, limit] at plain
    simp only [Value.Regular, limit]
    omega
  case isFalse =>
    split at found
    case isTrue plain =>
      cases found
      simp only [Bool.and_eq_true, decide_eq_true_eq, limit] at plain
      simp only [Value.Regular, limit]
      omega
    case isFalse =>
      obtain ⟨double, _, rfl⟩ := Option.map_eq_some_iff.mp found
      contradiction

mutual

/-- A value without doubles that a text has given is regular. -/
theorem Value.regular_of_ofTree? : (tree : Tree) → ∀ (depth : Nat) (value : Value),
    ofTree? depth tree = some value → value.isExact = true → value.Regular depth
  | .null => by
      rintro depth value ⟨⟩ _
      trivial
  | .bool _ => by
      rintro depth value ⟨⟩ _
      trivial
  | .number numeral => fun _ _ found exact => Numeral.regular_of_value? found exact
  | .string pieces => by
      intro depth value found _
      obtain ⟨text, _, rfl⟩ := Option.map_eq_some_iff.mp found
      trivial
  | .array items => by
      intro depth value found exact
      cases depth with
      | zero => contradiction
      | succ inner =>
          obtain ⟨values, itemsFound, rfl⟩ := Option.map_eq_some_iff.mp found
          exact areRegular_of_ofItems? items inner values itemsFound exact
  | .object members => by
      intro depth value found exact
      cases depth with
      | zero => contradiction
      | succ inner =>
          obtain ⟨read, membersFound, rfl⟩ := Option.map_eq_some_iff.mp found
          have exactMembers := areExactMembers_iff.mp exact
          refine ⟨(inKeyOrder_sortMembers read).sortMembers_eq, areRegularMembers_iff.mpr ?_⟩
          -- A member whose key came again is gone, so that only those left need be exact.
          intro member left
          exact regular_of_ofMembers? members inner read membersFound member
            (mem_of_mem_sortMembers left) (exactMembers member left)

theorem Value.areRegular_of_ofItems? : (items : List Tree) → ∀ (depth : Nat)
    (values : List Value), ofItems? depth items = some values → areExact values = true →
      AreRegular depth values
  | [] => by
      rintro depth values ⟨⟩ _
      trivial
  | item :: items => by
      intro depth values found exact
      simp only [ofItems?, Option.bind_eq_bind, Option.bind_eq_some_iff, Option.pure_def,
        Option.some.injEq] at found
      obtain ⟨value, valueFound, others, othersFound, rfl⟩ := found
      rw [areExact, Bool.and_eq_true] at exact
      exact ⟨regular_of_ofTree? item depth value valueFound exact.1,
        areRegular_of_ofItems? items depth others othersFound exact.2⟩

theorem Value.regular_of_ofMembers? : (members : List (List Piece × Tree)) → ∀ (depth : Nat)
    (found : List (String × Value)), ofMembers? depth members = some found →
      ∀ member ∈ found, member.2.isExact = true → member.2.Regular depth
  | [] => by
      rintro depth found ⟨⟩ member ⟨⟩
  | (pieces, tree) :: members => by
      intro depth found read member isFound exact
      simp only [ofMembers?, Option.bind_eq_bind, Option.bind_eq_some_iff, Option.pure_def,
        Option.some.injEq] at read
      obtain ⟨key, _, value, valueFound, others, othersFound, rfl⟩ := read
      obtain rfl | later := List.mem_cons.mp isFound
      · exact regular_of_ofTree? tree depth value valueFound exact
      · exact regular_of_ofMembers? members depth others othersFound member later exact

end

theorem Value.eq_null_of_ofTree? {depth : Nat} {tree : Tree}
    (found : ofTree? depth tree = some .null) : tree = .null := by
  cases tree with
  | null => rfl
  | bool => cases found
  | number numeral =>
      simp only [ofTree?, Numeral.value?] at found
      split at found
      case isTrue => cases found
      case isFalse =>
        split at found
        case isTrue => cases found
        case isFalse => simp at found
  | string => simp [ofTree?] at found
  | array => cases depth <;> simp [ofTree?] at found
  | object => cases depth <;> simp [ofTree?] at found

theorem exists_of_optional? {α : Type} {read : Tree → Option α} {field : Option Tree} {inner : α}
    (found : optional? read field = some (some inner)) :
    ∃ tree, tree ≠ .null ∧ read tree = some inner := by
  unfold optional? at found
  split at found
  case h_1 => cases found
  case h_2 => cases found
  case h_3 tree present =>
    obtain ⟨same, isRead, ⟨⟩⟩ := Option.map_eq_some_iff.mp found
    exact ⟨tree, present, isRead⟩

end Json

namespace AckFrame

open Json

variable {text : String} {frame : AckFrame}

theorem exists_data_of_parse? (accepted : parse? text = some frame) {data : Value}
    (held : frame.data = some data) :
    ∃ tree, tree ≠ .null ∧ Value.ofTree? (depthLimit - 1) tree = some data := by
  obtain ⟨tree, _, described⟩ := Option.bind_eq_some_iff.mp accepted
  simp only [ofTree?, Option.bind_eq_bind, Option.bind_eq_some_iff] at described
  obtain ⟨fields, _, described⟩ := described
  split at described
  case h_1 status stamp dataField errors =>
    simp only [Option.bind_eq_some_iff, Option.pure_def, Option.some.injEq] at described
    obtain ⟨_, _, _, _, read, dataFound, _, _, rfl⟩ := described
    rw [show read = some data from held] at dataFound
    exact exists_of_optional? dataFound
  case h_2 => contradiction

theorem survives_of_parse? (accepted : parse? text = some frame)
    (exact : ∀ data, frame.data = some data → data.isExact = true) : frame.Survives := by
  intro data held
  obtain ⟨tree, present, meaning⟩ := exists_data_of_parse? accepted held
  refine ⟨?_, exact data held, Value.regular_of_ofTree? tree _ data meaning (exact data held)⟩
  rintro rfl
  exact present (Value.eq_null_of_ofTree? meaning)

theorem parse_eq_ok_iff : parse text = .ok frame ↔ parse? text = some frame := by
  rw [parse]
  split
  case h_1 found isFound => rw [isFound, Option.some.injEq, Except.ok.injEq]
  case h_2 missing => simp [missing]

/-- Whatever the text of a frame looked like, the frame is read again from the text that is
written for it, field by field, and is then written in the same way.  Its data must hold
no double: every number in it is an integer of 64 bits. -/
theorem normal_form (accepted : parse text = .ok frame)
    (exact : ∀ data, frame.data = some data → data.isExact = true) :
    ∃ again, parse frame.wireText = .ok again ∧
      again.status = frame.status ∧ again.serverTimestamp = frame.serverTimestamp ∧
      again.data = frame.data ∧ again.errors = frame.errors ∧
      again.seq? = frame.seq? ∧ again.ackStatus = frame.ackStatus ∧
      again.wireText = frame.wireText := by
  have survives : frame.Survives := survives_of_parse? (parse_eq_ok_iff.mp accepted) exact
  have again : parse frame.wireText = .ok frame := parse_eq_ok_iff.mpr survives.parse?_wireText
  exact ⟨frame, again, rfl, rfl, rfl, rfl, rfl, rfl, rfl⟩

/-- A frame in the form of an array, with blanks, a pair of halves, the least and the
largest integer, and a key that comes twice in its data; it is written in another way. -/
theorem normal_form_of_listed :
    let text := "[ \"ERROR\", null, \x7b\"b\": 1, \"message\": \"seq:7|\\ud83d\\ude00\", " ++
      "\"a\": [-9223372036854775808, null], \"b\": 18446744073709551615\x7d ]"
    let frame : AckFrame :=
      { status := some "ERROR"
        serverTimestamp := none
        data := some (.object
          [("a", .array [.integer (-9223372036854775808), .null]),
            ("b", .integer 18446744073709551615), ("message", .string "seq:7|😀")])
        errors := none }
    parse text = .ok frame ∧ (∀ data, frame.data = some data → data.isExact = true) ∧
      frame.wireText ≠ text ∧
      ∃ again, parse frame.wireText = .ok again ∧
        again.status = frame.status ∧ again.serverTimestamp = frame.serverTimestamp ∧
        again.data = frame.data ∧ again.errors = frame.errors ∧
        again.seq? = frame.seq? ∧ again.ackStatus = frame.ackStatus ∧
        again.wireText = frame.wireText := by
  intro text frame
  have tokens : tokens? text.toList = some
      [.openArray, .string ("ERROR".toList.map .char), .comma, .null, .comma, .openObject,
        .string [.char 'b'], .colon, .number ⟨false, ['1'], none, none⟩, .comma,
        .string ("message".toList.map .char), .colon,
        .string ("seq:7|".toList.map .char ++ [.unit 0xd83d, .unit 0xde00]), .comma,
        .string [.char 'a'], .colon, .openArray,
        .number ⟨true, "9223372036854775808".toList, none, none⟩, .comma, .null, .closeArray,
        .comma, .string [.char 'b'], .colon,
        .number ⟨false, "18446744073709551615".toList, none, none⟩, .closeObject,
        .closeArray] := by
    decide +kernel
  have accepted : parse text = .ok frame := by
    rw [parse, parse?, Tree.read?, tokens]
    rfl
  have exact : ∀ data, frame.data = some data → data.isExact = true := by
    rintro data ⟨⟩
    rfl
  have different : frame.wireText ≠ text := by decide +kernel
  exact ⟨accepted, exact, different, normal_form accepted exact⟩

end AckFrame

end RoomLoad
