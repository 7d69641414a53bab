import RoomLoad.Json.Literal

/-!
# Tokens of JSON texts

A text is first cut into tokens.  Each token takes at least one character, so
the text that is left gets shorter with every step.
-/

namespace RoomLoad.Json

/-- The smallest parts of a JSON text that have a meaning. -/
inductive Token where
  | openArray
  | closeArray
  | openObject
  | closeObject
  | colon
  | comma
  | null
  | bool (value : Bool)
  | number (numeral : Numeral)
  | string (pieces : List Piece)
deriving DecidableEq

/-- Whether a character may stand between tokens. -/
def isGap (character : Char) : Bool :=
  character == ' ' || character == '\t' || character == '\n' || character == '\r'

/-- The token at the start of a text that does not start with a gap, and the
rest. -/
def readToken : List Char → Option (Token × List Char)
  | '[' :: rest => some (.openArray, rest)
  | ']' :: rest => some (.closeArray, rest)
  | '\x7b' :: rest => some (.openObject, rest)
  | '\x7d' :: rest => some (.closeObject, rest)
  | ':' :: rest => some (.colon, rest)
  | ',' :: rest => some (.comma, rest)
  | '"' :: rest => (readPieces rest).map fun (pieces, rest) => (.string pieces, rest)
  | 'n' :: 'u' :: 'l' :: 'l' :: rest => some (.null, rest)
  | 't' :: 'r' :: 'u' :: 'e' :: rest => some (.bool true, rest)
  | 'f' :: 'a' :: 'l' :: 's' :: 'e' :: rest => some (.bool false, rest)
  | text => (readNumeral text).map fun (numeral, rest) => (.number numeral, rest)

theorem length_of_readDigits {text digits rest : List Char}
    (found : readDigits text = some (digits, rest)) : rest.length < text.length := by
  simp only [readDigits] at found
  split at found
  case isTrue => simp at found
  case isFalse nonempty =>
    simp only [Option.some.injEq, Prod.mk.injEq] at found
    have parts : (text.takeWhile Char.isDigit ++ text.dropWhile Char.isDigit).length =
        text.length := by rw [List.takeWhile_append_dropWhile]
    rw [found.1, found.2, List.length_append] at parts
    have positive : digits ≠ [] := by
      rintro rfl
      simp [found.1] at nonempty
    have := List.length_pos_iff.mpr positive
    omega

theorem length_of_readFraction {text rest : List Char} {fraction : Option (List Char)}
    (found : readFraction text = some (fraction, rest)) : rest.length ≤ text.length := by
  unfold readFraction at found
  split at found
  case h_1 inner =>
    obtain ⟨⟨digits, left⟩, digitsFound, same⟩ := Option.map_eq_some_iff.mp found
    simp only [Prod.mk.injEq] at same
    have shorter := length_of_readDigits digitsFound
    rw [same.2] at shorter
    simp only [List.length_cons]
    omega
  case h_2 =>
    simp only [Option.some.injEq, Prod.mk.injEq] at found
    simp [found.2]

theorem length_of_readSign (text : List Char) : (readSign text).2.length ≤ text.length := by
  unfold readSign
  split <;> simp

theorem length_of_readExponent {text rest : List Char} {exponent : Option (Bool × List Char)}
    (found : readExponent text = some (exponent, rest)) : rest.length ≤ text.length := by
  unfold readExponent at found
  split at found
  case h_1 mark tail =>
    split at found
    case isTrue =>
      obtain ⟨⟨digits, left⟩, digitsFound, same⟩ := Option.map_eq_some_iff.mp found
      simp only [Prod.mk.injEq] at same
      have shorter := length_of_readDigits digitsFound
      have unsigned := length_of_readSign tail
      rw [same.2] at shorter
      simp only [List.length_cons]
      omega
    case isFalse =>
      simp only [Option.some.injEq, Prod.mk.injEq] at found
      simp [← found.2]
  case h_2 =>
    simp only [Option.some.injEq, Prod.mk.injEq] at found
    simp [← found.2]

theorem length_of_readUnsigned {negative : Bool} {text rest : List Char} {numeral : Numeral}
    (found : readUnsigned negative text = some (numeral, rest)) :
    rest.length < text.length := by
  simp only [readUnsigned, bind, Option.bind_eq_some_iff] at found
  obtain ⟨⟨whole, afterWhole⟩, wholeFound, found⟩ := found
  have wholeShorter := length_of_readDigits wholeFound
  split at found
  case isTrue => simp at found
  case isFalse =>
    simp only [Option.bind_eq_some_iff] at found
    obtain ⟨⟨fraction, afterFraction⟩, fractionFound, found⟩ := found
    obtain ⟨⟨exponent, left⟩, exponentFound, found⟩ := found
    simp only [pure, Option.some.injEq, Prod.mk.injEq] at found
    have fractionShorter := length_of_readFraction fractionFound
    have exponentShorter := length_of_readExponent exponentFound
    simp only [found.2] at exponentShorter
    omega

theorem length_of_readNumeral {text rest : List Char} {numeral : Numeral}
    (found : readNumeral text = some (numeral, rest)) : rest.length < text.length := by
  unfold readNumeral at found
  split at found
  case h_1 inner =>
    have := length_of_readUnsigned found
    simp only [List.length_cons]
    omega
  case h_2 => exact length_of_readUnsigned found

theorem length_of_readPieces {text rest : List Char} {pieces : List Piece}
    (found : readPieces text = some (pieces, rest)) : rest.length < text.length := by
  fun_induction readPieces text generalizing pieces rest
  case case1 => simp at found
  case case2 inner =>
    simp only [Option.some.injEq, Prod.mk.injEq] at found
    simp [← found.2]
  case case3 first second third fourth inner hypothesis =>
    simp only [bind, Option.bind_eq_some_iff, pure, Option.some.injEq] at found
    obtain ⟨code, _, ⟨more, left⟩, moreFound, same⟩ := found
    simp only [Prod.mk.injEq] at same
    have shorter := hypothesis moreFound
    simp only [List.length_cons, ← same.2]
    omega
  case case4 letter inner _ hypothesis =>
    simp only [bind, Option.bind_eq_some_iff, pure, Option.some.injEq] at found
    obtain ⟨character, _, ⟨more, left⟩, moreFound, same⟩ := found
    simp only [Prod.mk.injEq] at same
    have shorter := hypothesis moreFound
    simp only [List.length_cons, ← same.2]
    omega
  case case5 => simp at found
  case case6 character inner _ _ _ _ hypothesis =>
    simp only [bind, Option.bind_eq_some_iff, pure, Option.some.injEq] at found
    obtain ⟨⟨more, left⟩, moreFound, same⟩ := found
    simp only [Prod.mk.injEq] at same
    have shorter := hypothesis moreFound
    simp only [List.length_cons, ← same.2]
    omega

theorem length_of_readToken {text rest : List Char} {token : Token}
    (found : readToken text = some (token, rest)) : rest.length < text.length := by
  unfold readToken at found
  split at found
  case h_7 inner =>
    obtain ⟨⟨pieces, left⟩, piecesFound, same⟩ := Option.map_eq_some_iff.mp found
    simp only [Prod.mk.injEq] at same
    have shorter := length_of_readPieces piecesFound
    rw [same.2] at shorter
    simp only [List.length_cons]
    omega
  case h_11 =>
    obtain ⟨⟨numeral, left⟩, numeralFound, same⟩ := Option.map_eq_some_iff.mp found
    simp only [Prod.mk.injEq] at same
    have shorter := length_of_readNumeral numeralFound
    rwa [same.2] at shorter
  all_goals
    simp only [Option.some.injEq, Prod.mk.injEq] at found
    simp only [List.length_cons, ← found.2]
    omega

def tokens? (text : List Char) : Option (List Token) :=
  match text with
  | [] => some []
  | character :: rest =>
      if isGap character then
        tokens? rest
      else
        match _found : readToken (character :: rest) with
        | none => none
        | some (token, left) => (tokens? left).map (token :: ·)
termination_by text.length
decreasing_by
  · simp
  · exact length_of_readToken _found

end RoomLoad.Json
