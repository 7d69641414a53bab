import RoomLoad.Json.Printer

/-!
# Printed literals read back

A string that was printed is read as pieces that spell it, whatever characters it holds:
a quote or a backslash inside it never ends it, and a control character comes back from
its number.  An integer that was printed is read as its digits, as long as nothing that
could belong to a number follows.
-/

namespace RoomLoad.Json

def pieceOf (character : Char) : Piece :=
  if (escape character).length = 6 then .unit character.toNat else .char character

theorem hexValue?_hexDigit : ∀ value < 16, hexValue? (hexDigit value) = some value := by
  decide

private theorem unit?_control {character : Char} (control : character.toNat < 0x20) :
    unit? '0' '0' (hexDigit (character.toNat / 16)) (hexDigit (character.toNat % 16)) =
      some character.toNat := by
  have high := hexValue?_hexDigit (character.toNat / 16) (by omega)
  have low := hexValue?_hexDigit (character.toNat % 16) (by omega)
  have zero : hexValue? '0' = some 0 := by decide
  simp only [unit?, high, low, zero, Option.bind_eq_bind, Option.bind_some, Option.pure_def,
    Option.some.injEq]
  omega

private theorem readPieces_letter {character letter : Char} (text : List Char)
    (written : escape character = ['\\', letter]) (notUnit : letter ≠ 'u')
    (stands : escaped? letter = some character) :
    readPieces (escape character ++ text) =
      (readPieces text).map fun found => (pieceOf character :: found.1, found.2) := by
  have piece : pieceOf character = .char character := by
    simp [pieceOf, written]
  rw [written, piece]
  simp only [List.cons_append, List.nil_append]
  rw [readPieces, stands]
  · cases readPieces text <;> rfl
  · intro first second third fourth rest isUnit
    exact absurd isUnit notUnit

theorem readPieces_escape (character : Char) (text : List Char) :
    readPieces (escape character ++ text) =
      (readPieces text).map fun found => (pieceOf character :: found.1, found.2) := by
  by_cases quote : character = '"'
  · subst quote
    exact readPieces_letter text rfl (by decide) rfl
  by_cases backslash : character = '\\'
  · subst backslash
    exact readPieces_letter text rfl (by decide) rfl
  by_cases control : character.toNat < 0x20
  · by_cases lettered : character ∈ ['\x08', '\x0c', '\n', '\r', '\t']
    · simp only [List.mem_cons, List.not_mem_nil, or_false] at lettered
      obtain rfl | rfl | rfl | rfl | rfl := lettered
      · exact readPieces_letter text rfl (by decide) rfl
      · exact readPieces_letter text rfl (by decide) rfl
      · exact readPieces_letter text rfl (by decide) rfl
      · exact readPieces_letter text rfl (by decide) rfl
      · exact readPieces_letter text rfl (by decide) rfl
    · have written : escape character = ['\\', 'u', '0', '0', hexDigit (character.toNat / 16),
          hexDigit (character.toNat % 16)] := by
        simp only [List.mem_cons, List.not_mem_nil, or_false, not_or] at lettered
        simp [escape, quote, backslash, lettered, control]
      have piece : pieceOf character = .unit character.toNat := by
        simp [pieceOf, written]
      rw [written, piece]
      simp only [List.cons_append, List.nil_append]
      rw [readPieces, unit?_control control]
      cases readPieces text <;> rfl
  · have plain : ∀ other : Char, other.toNat < 0x20 → character ≠ other := by
      rintro other below rfl
      exact control below
    have written : escape character = [character] := by
      simp [escape, quote, backslash, control, plain]
    have piece : pieceOf character = .char character := by
      simp [pieceOf, written]
    rw [written, piece]
    simp only [List.cons_append, List.nil_append]
    rw [readPieces]
    · have allowed : (character == '\\' || decide (character.toNat < 0x20)) = false := by
        simp [backslash, control]
      rw [allowed]
      cases readPieces text <;> rfl
    · exact quote
    · intro first second third fourth rest isBackslash
      exact absurd isBackslash backslash
    · intro letter rest isBackslash
      exact absurd isBackslash backslash

/-- What is printed between quotes is read up to the closing quote and no further. -/
theorem readPieces_quoted (characters text : List Char) :
    readPieces (characters.flatMap escape ++ '"' :: text) =
      some (characters.map pieceOf, text) := by
  induction characters with
  | nil => rfl
  | cons character characters induction =>
      rw [List.flatMap_cons, List.append_assoc, readPieces_escape, induction]
      rfl

theorem spelled?_cons_pieceOf (character : Char) (pieces : List Piece) :
    spelled? (pieceOf character :: pieces) = (spelled? pieces).map (character :: ·) := by
  unfold pieceOf
  split
  case isFalse => rfl
  case isTrue numbered =>
    have control : character.toNat < 0x20 := by
      unfold escape at numbered
      grind
    have notFirst : isFirstHalf character.toNat = false := by
      simp [isFirstHalf]
      omega
    have notSecond : isSecondHalf character.toNat = false := by
      simp [isSecondHalf]
      omega
    have same : Char.ofNat character.toNat = character := Char.ofNat_toNat character
    cases pieces with
    | nil => simp [spelled?, notFirst, notSecond, same]
    | cons piece pieces =>
        cases piece <;> simp [spelled?, notFirst, notSecond, same]

theorem spelled?_map_pieceOf (characters : List Char) :
    spelled? (characters.map pieceOf) = some characters := by
  induction characters with
  | nil => rfl
  | cons character characters induction =>
      rw [List.map_cons, spelled?_cons_pieceOf, induction]
      rfl

/-- The characters of a printed string come back. -/
theorem stringOf?_map_pieceOf (text : String) :
    stringOf? (text.toList.map pieceOf) = some text := by
  rw [stringOf?, spelled?_map_pieceOf, Option.map_some, String.ofList_toList]

/-- Whether a text starts with nothing that could belong to a number. -/
def EndsNumeral (text : List Char) : Prop :=
  ∀ character ∈ text.head?,
    character.isDigit = false ∧ character ≠ '.' ∧ character ≠ 'e' ∧ character ≠ 'E'

theorem endsNumeral_nil : EndsNumeral [] := by
  intro character member
  cases member

/-- The numeral that a printed integer is read as. -/
def numeralOf (value : Int) : Numeral :=
  ⟨value < 0, Text.digits value.natAbs, none, none⟩

theorem isDigit_of_mem_digits {value : Nat} {character : Char}
    (member : character ∈ Text.digits value) : character.isDigit = true :=
  Nat.isDigit_of_mem_toDigits (by decide) (by decide) member

theorem digits_ne_nil (value : Nat) : Text.digits value ≠ [] :=
  Nat.toDigits_ne_nil

/-- A printed number starts with a zero only if it is nothing else. -/
theorem head?_digits_ne_zero {value : Nat} (large : 1 < (Text.digits value).length) :
    (Text.digits value).head? ≠ some '0' := by
  have positive : ∀ number, 0 < number → (Nat.toDigits 10 number).head? ≠ some '0' := by
    intro number
    induction number using Nat.strongRecOn with
    | ind number induction =>
        intro nonzero
        rw [Nat.toDigits_eq_if (by decide)]
        split
        case isTrue small =>
          have single : ∀ digit < 10, 0 < digit → Nat.digitChar digit ≠ '0' := by decide
          simpa using single number small nonzero
        case isFalse big =>
          have shorter := induction (number / 10) (by omega) (by omega)
          obtain ⟨first, more, digits⟩ := List.exists_cons_of_ne_nil
            (Nat.toDigits_ne_nil (b := 10) (n := number / 10))
          rw [digits] at shorter ⊢
          exact shorter
  apply positive
  apply Nat.pos_of_ne_zero
  rintro rfl
  exact absurd large (by decide)

theorem readDigits_digits (value : Nat) {text : List Char} (ends : EndsNumeral text) :
    readDigits (Text.digits value ++ text) = some (Text.digits value, text) := by
  have rest : text.takeWhile Char.isDigit = [] ∧ text.dropWhile Char.isDigit = text := by
    cases text with
    | nil => exact ⟨rfl, rfl⟩
    | cons character text => simp [(ends character rfl).1]
  have whole : ∀ character ∈ Text.digits value, character.isDigit = true :=
    fun character member => isDigit_of_mem_digits member
  have nonempty : (Text.digits value).isEmpty = false := by
    simp [digits_ne_nil]
  rw [readDigits, List.takeWhile_append_of_pos whole, List.dropWhile_append_of_pos whole, rest.1,
    rest.2, List.append_nil, nonempty]
  rfl

theorem readFraction_of_endsNumeral {text : List Char} (ends : EndsNumeral text) :
    readFraction text = some (none, text) := by
  cases text with
  | nil => rfl
  | cons character text =>
      rw [readFraction]
      intro rest starts
      exact absurd (List.cons.inj starts).1 (ends character rfl).2.1

theorem readExponent_of_endsNumeral {text : List Char} (ends : EndsNumeral text) :
    readExponent text = some (none, text) := by
  cases text with
  | nil => rfl
  | cons character text =>
      obtain ⟨_, _, notLower, notUpper⟩ := ends character rfl
      simp [readExponent, notLower, notUpper]

theorem readUnsigned_digits (negative : Bool) (value : Nat) {text : List Char}
    (ends : EndsNumeral text) :
    readUnsigned negative (Text.digits value ++ text) =
      some (⟨negative, Text.digits value, none, none⟩, text) := by
  have allowed : ((Text.digits value).head? == some '0' &&
      decide ((Text.digits value).length > 1)) = false := by
    rw [Bool.and_eq_false_iff, beq_eq_false_iff_ne, decide_eq_false_iff_not]
    by_cases large : 1 < (Text.digits value).length
    · exact .inl (head?_digits_ne_zero large)
    · exact .inr large
  simp only [readUnsigned, readDigits_digits value ends, Option.bind_eq_bind, Option.bind_some,
    allowed, readFraction_of_endsNumeral ends, readExponent_of_endsNumeral ends]
  rfl

theorem readNumeral_integerText (value : Int) {text : List Char} (ends : EndsNumeral text) :
    readNumeral (integerText value ++ text) = some (numeralOf value, text) := by
  unfold integerText numeralOf
  split
  case isTrue negative => simp [readNumeral, readUnsigned_digits _ _ ends, negative]
  case isFalse notNegative =>
    rw [readNumeral, readUnsigned_digits _ _ ends]
    · simp [notNegative]
    · intro rest starts
      obtain ⟨first, more, digits⟩ := List.exists_cons_of_ne_nil (digits_ne_nil value.natAbs)
      rw [digits] at starts
      have written : first ∈ Text.digits value.natAbs := digits ▸ List.mem_cons_self
      have isDigit : first.isDigit = true := isDigit_of_mem_digits written
      rw [(List.cons.inj starts).1] at isDigit
      contradiction

end RoomLoad.Json
