import RoomLoad.Json.Fields
import RoomLoad.Proofs.Wire.Literals

/-!
# Printed values read back

A value without doubles that is printed on one line is read as its own tree, and the tree
means the value again if the members of every object are in the order of their keys and
the nesting is not too deep.  The reader is followed token by token: whatever has been
opened before a value is still open behind it.
-/

namespace RoomLoad.Json

mutual

def Value.isExact : Value → Bool
  | .real _ => false
  | .array items => Value.areExact items
  | .object members => Value.areExactMembers members
  | _ => true

def Value.areExact : List Value → Bool
  | [] => true
  | item :: items => item.isExact && Value.areExact items

def Value.areExactMembers : List (String × Value) → Bool
  | [] => true
  | (_, value) :: members => value.isExact && Value.areExactMembers members

end

mutual

/-- The tree that a printed value is read as, doubles aside. -/
def Value.tree : Value → Tree
  | .null => .null
  | .bool value => .bool value
  | .integer value => .number (numeralOf value)
  | .real _ => .null
  | .string value => .string (value.toList.map pieceOf)
  | .array items => .array (Value.trees items)
  | .object members => .object (Value.memberTrees members)

def Value.trees : List Value → List Tree
  | [] => []
  | item :: items => item.tree :: Value.trees items

def Value.memberTrees : List (String × Value) → List (List Piece × Tree)
  | [] => []
  | (key, value) :: members => (key.toList.map pieceOf, value.tree) :: Value.memberTrees members

end

def Progress.readOn (progress : Progress) (text : List Char) : Option Progress :=
  (tokens? text).bind progress.run

variable {progress next : Progress} {opened : List Opened} {due : Due} {text : List Char}

theorem Progress.readOn_token {character : Char} {rest : List Char} {token : Token}
    (visible : isGap character = false)
    (found : readToken (character :: text) = some (token, rest))
    (steps : progress.step token = some next) :
    progress.readOn (character :: text) = next.readOn rest := by
  have tokens : tokens? (character :: text) = (tokens? rest).map (token :: ·) := by
    rw [tokens?, if_neg (by simp [visible])]
    split
    case h_1 missing =>
      rw [found] at missing
      contradiction
    case h_2 other left isFound =>
      rw [found] at isFound
      cases isFound
      rfl
  rw [readOn, readOn, tokens, Option.bind_map]
  congr 1
  funext later
  simp only [Function.comp_apply, run, steps, Option.bind_some]

theorem Progress.step_starts (starts : due = .value ∨ due = .item) {token : Token}
    (opens : token ≠ .closeArray) :
    Progress.step ⟨due, opened⟩ token = startValue opened token := by
  rcases starts with rfl | rfl
  · rfl
  · cases token <;> first | rfl | contradiction

theorem Progress.readOn_null (starts : due = .value ∨ due = .item) :
    readOn ⟨due, opened⟩ ('n' :: 'u' :: 'l' :: 'l' :: text) = readOn ⟨.after .null, opened⟩ text :=
  readOn_token (by decide) rfl (step_starts starts Token.noConfusion)

theorem Progress.readOn_bool (starts : due = .value ∨ due = .item) (value : Bool) :
    readOn ⟨due, opened⟩ (boolText value ++ text) = readOn ⟨.after (.bool value), opened⟩ text := by
  cases value with
  | false => exact readOn_token (by decide) rfl (step_starts starts Token.noConfusion)
  | true => exact readOn_token (by decide) rfl (step_starts starts Token.noConfusion)

theorem Progress.readOn_quote {value : String}
    (steps : progress.step (.string (value.toList.map pieceOf)) = some next) :
    progress.readOn (quote value ++ text) = next.readOn text := by
  have found : readToken ('"' :: (value.toList.flatMap escape ++ '"' :: text)) =
      some (.string (value.toList.map pieceOf), text) := by
    rw [readToken, readPieces_quoted]
    rfl
  rw [quote, List.cons_append, List.cons_append, List.append_assoc]
  exact readOn_token (by decide) found steps

theorem Progress.readOn_key {key : String} {read : Members}
    (steps : progress.step (.string (key.toList.map pieceOf)) =
      some ⟨.colon read (key.toList.map pieceOf), opened⟩) :
    progress.readOn (quote key ++ ':' :: text) =
      readOn ⟨.value, .object read (key.toList.map pieceOf) :: opened⟩ text := by
  rw [readOn_quote steps]
  exact readOn_token (by decide) rfl rfl

theorem readToken_of_numeral {character : Char}
    (starts : character.isDigit = true ∨ character = '-') (text : List Char) :
    isGap character = false ∧ readToken (character :: text) =
      (readNumeral (character :: text)).map fun found => (.number found.1, found.2) := by
  have different : ∀ other : Char, other.isDigit = false → other ≠ '-' → character ≠ other := by
    rintro other noDigit noMinus rfl
    rcases starts with isDigit | isMinus
    · rw [noDigit] at isDigit
      contradiction
    · exact noMinus isMinus
  constructor
  · simp [isGap, different]
  · rw [readToken] <;> (intros; simp_all)

theorem Progress.readOn_integer (starts : due = .value ∨ due = .item) (value : Int)
    (ends : EndsNumeral text) :
    readOn ⟨due, opened⟩ (integerText value ++ text) =
      readOn ⟨.after (.number (numeralOf value)), opened⟩ text := by
  obtain ⟨first, more, written, isFirst⟩ : ∃ first more, integerText value = first :: more ∧
      (first.isDigit = true ∨ first = '-') := by
    unfold integerText
    split
    case isTrue => exact ⟨_, _, rfl, .inr rfl⟩
    case isFalse =>
      obtain ⟨first, more, digits⟩ := List.exists_cons_of_ne_nil (digits_ne_nil value.natAbs)
      exact ⟨first, more, digits, .inl (isDigit_of_mem_digits (digits ▸ List.mem_cons_self))⟩
  have found := readNumeral_integerText value ends
  rw [written, List.cons_append] at found ⊢
  obtain ⟨visible, token⟩ := readToken_of_numeral isFirst (more ++ text)
  rw [found] at token
  exact readOn_token visible token (step_starts starts Token.noConfusion)

theorem endsNumeral_of_mark {character : Char} (mark : character ∈ [',', ']', '\x7d']) :
    EndsNumeral (character :: text) := by
  intro other member
  cases member
  simp only [List.mem_cons, List.not_mem_nil, or_false] at mark
  obtain rfl | rfl | rfl := mark <;> decide

theorem endsNumeral_compactItems (items : List Value) :
    EndsNumeral (Value.compactItems items ++ text) := by
  cases items <;> exact endsNumeral_of_mark (by decide)

theorem endsNumeral_compactMembers (members : List (String × Value)) :
    EndsNumeral (Value.compactMembers members ++ text) := by
  cases members <;> exact endsNumeral_of_mark (by decide)

mutual

theorem Value.readOn_compact : (value : Value) → value.isExact = true →
    ∀ (due : Due) (opened : List Opened) (text : List Char), due = .value ∨ due = .item →
      EndsNumeral text →
      Progress.readOn ⟨due, opened⟩ (value.compact ++ text) =
        Progress.readOn ⟨.after value.tree, opened⟩ text
  | .null, _ => fun _ _ _ starts _ => Progress.readOn_null starts
  | .bool value, _ => fun _ _ _ starts _ => Progress.readOn_bool starts value
  | .integer value, _ => fun _ _ _ starts ends => Progress.readOn_integer starts value ends
  | .string _, _ => fun _ _ _ starts _ =>
      Progress.readOn_quote (Progress.step_starts starts Token.noConfusion)
  | .array [], _ => by
      intro due opened text starts ends
      calc Progress.readOn ⟨due, opened⟩ ('[' :: ']' :: text)
        _ = Progress.readOn ⟨.item, .array [] :: opened⟩ (']' :: text) :=
          Progress.readOn_token (by decide) rfl (Progress.step_starts starts Token.noConfusion)
        _ = Progress.readOn ⟨.after (.array []), opened⟩ text :=
          Progress.readOn_token (by decide) rfl rfl
  | .array (item :: items), exact => by
      intro due opened text starts ends
      rw [isExact, areExact, Bool.and_eq_true] at exact
      have first := item.readOn_compact exact.1 .item (.array [] :: opened)
        (compactItems items ++ text) (.inr rfl) (endsNumeral_compactItems items)
      have others := readOn_compactItems items exact.2 item.tree [] opened text
      rw [compact, List.cons_append, List.append_assoc]
      calc Progress.readOn ⟨due, opened⟩ ('[' :: (item.compact ++ (compactItems items ++ text)))
        _ = Progress.readOn ⟨.item, .array [] :: opened⟩
              (item.compact ++ (compactItems items ++ text)) :=
          Progress.readOn_token (by decide) rfl (Progress.step_starts starts Token.noConfusion)
        _ = Progress.readOn ⟨.after item.tree, .array [] :: opened⟩ (compactItems items ++ text) :=
          first
        _ = Progress.readOn ⟨.after (.array (item.tree :: trees items)), opened⟩ text := others
  | .object [], _ => by
      intro due opened text starts ends
      calc Progress.readOn ⟨due, opened⟩ ('\x7b' :: '\x7d' :: text)
        _ = Progress.readOn ⟨.firstKey, opened⟩ ('\x7d' :: text) :=
          Progress.readOn_token (by decide) rfl (Progress.step_starts starts Token.noConfusion)
        _ = Progress.readOn ⟨.after (.object []), opened⟩ text :=
          Progress.readOn_token (by decide) rfl rfl
  | .object ((key, value) :: members), exact => by
      intro due opened text starts ends
      rw [isExact, areExactMembers, Bool.and_eq_true] at exact
      have first := value.readOn_compact exact.1 .value
        (.object [] (key.toList.map pieceOf) :: opened) (compactMembers members ++ text)
        (.inl rfl) (endsNumeral_compactMembers members)
      have others := readOn_compactMembers members exact.2 value.tree []
        (key.toList.map pieceOf) opened text
      rw [compact, List.cons_append, List.append_assoc, List.cons_append, List.append_assoc]
      calc Progress.readOn ⟨due, opened⟩
            ('\x7b' :: (quote key ++ ':' :: (value.compact ++ (compactMembers members ++ text))))
        _ = Progress.readOn ⟨.firstKey, opened⟩
              (quote key ++ ':' :: (value.compact ++ (compactMembers members ++ text))) :=
          Progress.readOn_token (by decide) rfl (Progress.step_starts starts Token.noConfusion)
        _ = Progress.readOn ⟨.value, .object [] (key.toList.map pieceOf) :: opened⟩
              (value.compact ++ (compactMembers members ++ text)) := Progress.readOn_key rfl
        _ = Progress.readOn ⟨.after value.tree, .object [] (key.toList.map pieceOf) :: opened⟩
              (compactMembers members ++ text) := first
        _ = Progress.readOn ⟨.after (.object (memberTrees ((key, value) :: members))), opened⟩
              text := others

theorem Value.readOn_compactItems : (items : List Value) → Value.areExact items = true →
    ∀ (first : Tree) (read : List Tree) (opened : List Opened) (text : List Char),
      Progress.readOn ⟨.after first, .array read :: opened⟩ (Value.compactItems items ++ text) =
        Progress.readOn ⟨.after (.array ((first :: read).reverse ++ Value.trees items)), opened⟩
          text
  | [], _ => by
      intro first read opened text
      rw [trees, List.append_nil]
      exact Progress.readOn_token (by decide) rfl rfl
  | item :: items, exact => by
      intro first read opened text
      rw [areExact, Bool.and_eq_true] at exact
      have second := item.readOn_compact exact.1 .value (.array (first :: read) :: opened)
        (compactItems items ++ text) (.inl rfl) (endsNumeral_compactItems items)
      have others := readOn_compactItems items exact.2 item.tree (first :: read) opened text
      rw [compactItems, List.cons_append, List.append_assoc]
      calc Progress.readOn ⟨.after first, .array read :: opened⟩
            (',' :: (item.compact ++ (compactItems items ++ text)))
        _ = Progress.readOn ⟨.value, .array (first :: read) :: opened⟩
              (item.compact ++ (compactItems items ++ text)) :=
          Progress.readOn_token (by decide) rfl rfl
        _ = Progress.readOn ⟨.after item.tree, .array (first :: read) :: opened⟩
              (compactItems items ++ text) := second
        _ = _ := others
        _ = _ := by rw [trees, List.reverse_cons (a := item.tree), List.append_assoc]; rfl

theorem Value.readOn_compactMembers : (members : List (String × Value)) →
    Value.areExactMembers members = true →
    ∀ (first : Tree) (read : Members) (key : List Piece) (opened : List Opened)
      (text : List Char),
      Progress.readOn ⟨.after first, .object read key :: opened⟩
          (Value.compactMembers members ++ text) =
        Progress.readOn ⟨.after (.object (((key, first) :: read).reverse ++
          Value.memberTrees members)), opened⟩ text
  | [], _ => by
      intro first read key opened text
      rw [memberTrees, List.append_nil]
      exact Progress.readOn_token (by decide) rfl rfl
  | (nextKey, value) :: members, exact => by
      intro first read key opened text
      rw [areExactMembers, Bool.and_eq_true] at exact
      have second := value.readOn_compact exact.1 .value
        (.object ((key, first) :: read) (nextKey.toList.map pieceOf) :: opened)
        (compactMembers members ++ text) (.inl rfl) (endsNumeral_compactMembers members)
      have others := readOn_compactMembers members exact.2 value.tree ((key, first) :: read)
        (nextKey.toList.map pieceOf) opened text
      rw [compactMembers, List.cons_append, List.append_assoc, List.cons_append,
        List.append_assoc]
      calc Progress.readOn ⟨.after first, .object read key :: opened⟩
            (',' :: (quote nextKey ++ ':' ::
              (value.compact ++ (compactMembers members ++ text))))
        _ = Progress.readOn ⟨.key ((key, first) :: read), opened⟩
              (quote nextKey ++ ':' :: (value.compact ++ (compactMembers members ++ text))) :=
          Progress.readOn_token (by decide) rfl rfl
        _ = Progress.readOn
              ⟨.value, .object ((key, first) :: read) (nextKey.toList.map pieceOf) :: opened⟩
              (value.compact ++ (compactMembers members ++ text)) := Progress.readOn_key rfl
        _ = Progress.readOn
              ⟨.after value.tree,
                .object ((key, first) :: read) (nextKey.toList.map pieceOf) :: opened⟩
              (compactMembers members ++ text) := second
        _ = _ := others
        _ = _ := by
          rw [memberTrees, List.reverse_cons (a := (nextKey.toList.map pieceOf, value.tree)),
            List.append_assoc]
          rfl

end

theorem Tree.read?_text {value : Value} (exact : value.isExact = true) :
    Tree.read? value.text = some value.tree := by
  have whole := value.readOn_compact exact .value [] [] (.inl rfl) endsNumeral_nil
  rw [List.append_nil] at whole
  have read : Tree.read? value.text =
      (Progress.readOn ⟨.value, []⟩ value.compact).bind Progress.finished? := by
    rw [Tree.read?, Value.text, String.toList_ofList, Progress.readOn, Option.bind_assoc]
    rfl
  rw [read, whole, Progress.readOn, tokens?]
  rfl

mutual

/-- Whether a value survives being printed and read: no double, integers of 64 bits, the
members of objects in the order of their keys, and not more than `depth` levels. -/
def Value.Regular (depth : Nat) : Value → Prop
  | .null => True
  | .bool _ => True
  | .integer value => -(Text.word64 / 2 : Nat) ≤ value ∧ value < (Text.word64 : Nat)
  | .real _ => False
  | .string _ => True
  | .array items =>
      match depth with
      | 0 => False
      | inner + 1 => Value.AreRegular inner items
  | .object members =>
      match depth with
      | 0 => False
      | inner + 1 => sortMembers members = members ∧ Value.AreRegularMembers inner members

def Value.AreRegular (depth : Nat) : List Value → Prop
  | [] => True
  | item :: items => item.Regular depth ∧ Value.AreRegular depth items

def Value.AreRegularMembers (depth : Nat) : List (String × Value) → Prop
  | [] => True
  | (_, value) :: members => value.Regular depth ∧ Value.AreRegularMembers depth members

end

theorem value?_numeralOf {value : Int} (low : -(Text.word64 / 2 : Nat) ≤ value)
    (high : value < (Text.word64 : Nat)) : (numeralOf value).value? = some (.integer value) := by
  have size : Nat.ofDigitChars 10 (Text.digits value.natAbs) 0 = value.natAbs :=
    Nat.ofDigitChars_ten_toDigits
  have limit : Text.word64 = 18446744073709551616 := rfl
  simp only [Numeral.value?, numeralOf, size, limit] at low high ⊢
  by_cases negative : value < 0
  · have positive : 0 < value.natAbs := by omega
    have small : value.natAbs ≤ 9223372036854775808 := by omega
    have back : -(value.natAbs : Int) = value := by omega
    rw [if_neg (by simp [negative]), if_pos (by simp [negative, positive, small]), back]
  · have small : value.natAbs < 18446744073709551616 := by omega
    have back : (value.natAbs : Int) = value := by omega
    rw [if_pos (by simp [negative, small]), back]

mutual

theorem Value.ofTree?_tree : (value : Value) → (depth : Nat) → value.Regular depth →
    Value.ofTree? depth value.tree = some value
  | .null, _, _ => rfl
  | .bool _, _, _ => rfl
  | .integer value, depth, regular => value?_numeralOf regular.1 regular.2
  | .string value, depth, _ => by
      rw [tree, ofTree?, stringOf?_map_pieceOf]
      rfl
  | .array items, depth, regular => by
      cases depth with
      | zero => exact regular.elim
      | succ inner =>
          rw [tree, ofTree?, ofItems?_trees items inner regular]
          rfl
  | .object members, depth, regular => by
      cases depth with
      | zero => exact regular.elim
      | succ inner =>
          obtain ⟨sorted, regular⟩ := regular
          rw [tree, ofTree?, ofMembers?_memberTrees members inner regular, Option.map_some, sorted]

theorem Value.ofItems?_trees : (items : List Value) → (depth : Nat) →
    Value.AreRegular depth items → Value.ofItems? depth (Value.trees items) = some items
  | [], _, _ => rfl
  | item :: items, depth, regular => by
      rw [trees, ofItems?, item.ofTree?_tree depth regular.1, ofItems?_trees items depth regular.2]
      rfl

theorem Value.ofMembers?_memberTrees : (members : List (String × Value)) → (depth : Nat) →
    Value.AreRegularMembers depth members →
    Value.ofMembers? depth (Value.memberTrees members) = some members
  | [], _, _ => rfl
  | (key, value) :: members, depth, regular => by
      rw [memberTrees, ofMembers?, stringOf?_map_pieceOf, value.ofTree?_tree depth regular.1,
        ofMembers?_memberTrees members depth regular.2]
      rfl

end

end RoomLoad.Json
