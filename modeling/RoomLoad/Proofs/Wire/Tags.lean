import Mathlib.Data.List.TakeWhile
import RoomLoad.Proofs.Wire.RoundTrip

/-!
# The grammar of sequence tags

A message carries a sequence id exactly if a numeral stands between its first opening and
a closing behind it, with nothing but blanks around.  Here each part of the reader is
matched with what it accepts, searching, cutting, trimming and reading apart, and the
parts are put together.  What is written in front of a text keeps to the grammar, so that
the id and the text can both be told from it.
-/

namespace RoomLoad

namespace Text

/-- A text is cut at the first occurrence of a mark: none has less in front of it. -/
structure CutAtFirst (mark text front rest : List Char) : Prop where
  whole : text = front ++ mark ++ rest
  first : ∀ otherFront otherRest, text = otherFront ++ mark ++ otherRest →
    front.length ≤ otherFront.length

variable {mark text front rest : List Char} {character : Char}

theorem cutAtFirst_of_starts (starts : text = mark ++ rest) : CutAtFirst mark text [] rest :=
  ⟨starts, fun _ _ _ => Nat.zero_le _⟩

theorem CutAtFirst.front_eq_nil (cut : CutAtFirst mark text front rest)
    (starts : mark <+: text) : front = [] := by
  obtain ⟨behind, starts⟩ := starts
  exact List.length_eq_zero_iff.mp (Nat.le_zero.mp (cut.first [] behind starts.symm))

/-- Where the mark does not start, a cut of the text is a cut of all but its first
character. -/
theorem cutAtFirst_cons (elsewhere : ¬ mark <+: character :: text) :
    CutAtFirst mark (character :: text) (character :: front) rest ↔
      CutAtFirst mark text front rest := by
  constructor
  · rintro ⟨whole, first⟩
    constructor
    case whole => simpa using whole
    case first =>
      intro otherFront otherRest otherWhole
      have longer := first (character :: otherFront) otherRest (by simp [otherWhole])
      simpa using longer
  · rintro ⟨whole, first⟩
    constructor
    case whole => simp [whole]
    case first =>
      intro otherFront otherRest otherWhole
      cases otherFront with
      | nil => exact absurd ⟨otherRest, otherWhole.symm⟩ elsewhere
      | cons other otherFront =>
          have same := first otherFront otherRest (List.cons.inj otherWhole).2
          simpa using same

/-- The search finds what is behind the first occurrence and fails only where there is
none. -/
theorem after?_eq_some_iff :
    after? mark text = some rest ↔ ∃ front, CutAtFirst mark text front rest := by
  induction text with
  | nil =>
      simp only [after?, List.isEmpty_iff]
      constructor
      · intro found
        split at found
        case isTrue empty =>
          cases found
          exact ⟨[], cutAtFirst_of_starts (by simp [empty])⟩
        case isFalse => contradiction
      · rintro ⟨front, whole, _⟩
        simp only [List.nil_eq, List.append_eq_nil_iff] at whole
        rw [if_pos whole.1.2, whole.2]
  | cons character text induction =>
      rw [after?]
      split
      case isTrue found =>
        have starts := List.isPrefixOf_iff_prefix.mp found
        have drops := List.prefix_iff_eq_append.mp starts
        constructor
        · rintro ⟨⟩
          exact ⟨[], cutAtFirst_of_starts drops.symm⟩
        · rintro ⟨front, cut⟩
          have whole := cut.whole
          rw [cut.front_eq_nil starts, List.nil_append] at whole
          rw [whole, List.drop_left]
      case isFalse missed =>
        have elsewhere : ¬ mark <+: character :: text :=
          fun starts => missed (List.isPrefixOf_iff_prefix.mpr starts)
        rw [induction]
        constructor
        · rintro ⟨front, cut⟩
          exact ⟨character :: front, (cutAtFirst_cons elsewhere).mpr cut⟩
        · rintro ⟨front, cut⟩
          cases front with
          | nil => exact absurd ⟨rest, by simpa using cut.whole.symm⟩ elsewhere
          | cons other front =>
              obtain rfl : character = other := (List.cons.inj cut.whole).1
              exact ⟨front, (cutAtFirst_cons elsewhere).mp cut⟩

theorem before?_eq_some_iff {delimiter : Char} :
    before? delimiter text = some front ↔
      delimiter ∉ front ∧ ∃ rest, text = front ++ delimiter :: rest := by
  constructor
  · intro found
    rw [before?] at found
    split at found
    case isFalse => contradiction
    case isTrue contained =>
      cases found
      constructor
      · intro member
        simpa using List.mem_takeWhile_imp member
      · cases behind : text.dropWhile (· != delimiter) with
        | nil =>
            have free := List.dropWhile_eq_nil_iff.mp behind delimiter (by simpa using contained)
            simp at free
        | cons found rest =>
            have ends := List.head?_dropWhile_not (· != delimiter) text
            rw [behind] at ends
            obtain rfl : found = delimiter := by simpa using ends
            exact ⟨rest, by rw [← behind, List.takeWhile_append_dropWhile]⟩
  · rintro ⟨free, rest, rfl⟩
    exact before?_append free rest

def AllBlank (text : List Char) : Prop :=
  ∀ character ∈ text, isBlank character = true

instance (text : List Char) : Decidable (AllBlank text) :=
  decidable_of_iff (text.all isBlank = true) List.all_eq_true

theorem trimStart_append (blank : AllBlank front) : trimStart (front ++ text) = trimStart text :=
  List.dropWhile_append_of_pos blank

theorem exists_trimStart (text : List Char) :
    ∃ blanks, AllBlank blanks ∧ text = blanks ++ trimStart text :=
  ⟨text.takeWhile isBlank, fun _ member => List.mem_takeWhile_imp member,
    List.takeWhile_append_dropWhile.symm⟩

theorem exists_trim (text : List Char) :
    ∃ before behind, AllBlank before ∧ AllBlank behind ∧
      text = before ++ trim text ++ behind := by
  obtain ⟨before, blankBefore, start⟩ := exists_trimStart text
  obtain ⟨behind, blankBehind, stop⟩ := exists_trimStart (trimStart text).reverse
  refine ⟨before, behind.reverse, blankBefore, ?_, ?_⟩
  · intro character member
    exact blankBehind character (List.mem_reverse.mp member)
  · have whole := congrArg List.reverse stop
    rw [List.reverse_append, List.reverse_reverse] at whole
    rw [List.append_assoc, trim, trimEnd, ← whole]
    exact start

/-- Only the blanks at the two ends go, if what is between them holds none. -/
theorem trim_append {before core behind : List Char} (blankBefore : AllBlank before)
    (blankBehind : AllBlank behind) (visible : ∀ character ∈ core, isBlank character = false)
    (nonempty : core ≠ []) : trim (before ++ core ++ behind) = core := by
  have visibleEnd : ∀ character ∈ core.reverse, isBlank character = false :=
    fun character member => visible character (List.mem_reverse.mp member)
  have blankEnd : AllBlank behind.reverse :=
    fun character member => blankBehind character (List.mem_reverse.mp member)
  obtain ⟨first, others, rfl⟩ := List.exists_cons_of_ne_nil nonempty
  have start : trimStart (before ++ (first :: others ++ behind)) = first :: others ++ behind := by
    rw [trimStart_append blankBefore]
    simp [trimStart, visible first]
  rw [trim, List.append_assoc, start, trimEnd, List.reverse_append, trimStart_append blankEnd,
    trimStart_of_visible visibleEnd, List.reverse_reverse]

/-- What a numeral denotes: its digits, of which there must be some, behind at most one
plus sign. -/
inductive Denotes : List Char → Nat → Prop where
  | unsigned {digits : List Char} (nonempty : digits ≠ [])
      (ascii : ∀ digit ∈ digits, digit.isDigit = true) :
      Denotes digits (Nat.ofDigitChars 10 digits 0)
  | signed {digits : List Char} (nonempty : digits ≠ [])
      (ascii : ∀ digit ∈ digits, digit.isDigit = true) :
      Denotes ('+' :: digits) (Nat.ofDigitChars 10 digits 0)

variable {numeral : List Char} {value : Nat}

theorem readDigits?_eq_some_iff :
    readDigits? numeral = some value ↔
      numeral ≠ [] ∧ (∀ digit ∈ numeral, digit.isDigit = true) ∧
        Nat.ofDigitChars 10 numeral 0 = value := by
  simp [readDigits?, and_assoc]

theorem readNat?_eq_some_iff : readNat? numeral = some value ↔ Denotes numeral value := by
  constructor
  · intro found
    unfold readNat? at found
    split at found
    case h_1 digits =>
      obtain ⟨nonempty, ascii, rfl⟩ := readDigits?_eq_some_iff.mp found
      exact .signed nonempty ascii
    case h_2 =>
      obtain ⟨nonempty, ascii, rfl⟩ := readDigits?_eq_some_iff.mp found
      exact .unsigned nonempty ascii
  · intro denotes
    cases denotes with
    | signed nonempty ascii => exact readDigits?_eq_some_iff.mpr ⟨nonempty, ascii, rfl⟩
    | unsigned nonempty ascii =>
        rw [readNat?]
        · exact readDigits?_eq_some_iff.mpr ⟨nonempty, ascii, rfl⟩
        · rintro rest rfl
          exact absurd (ascii '+' List.mem_cons_self) (by decide)

theorem readBelow?_eq_some_iff {limit : Nat} :
    readBelow? limit numeral = some value ↔ Denotes numeral value ∧ value < limit := by
  rw [readBelow?, Option.filter_eq_some_iff, readNat?_eq_some_iff, decide_eq_true_iff]

theorem Denotes.ne_nil (denotes : Denotes numeral value) : numeral ≠ [] := by
  cases denotes with
  | unsigned nonempty _ => exact nonempty
  | signed => exact List.cons_ne_nil _ _

theorem Denotes.sign_or_digit (denotes : Denotes numeral value) :
    ∀ character ∈ numeral, character = '+' ∨ character.isDigit = true := by
  intro character member
  cases denotes with
  | unsigned _ ascii => exact .inr (ascii character member)
  | signed _ ascii => exact (List.mem_cons.mp member).imp id (ascii character)

theorem Denotes.visible (denotes : Denotes numeral value) :
    ∀ character ∈ numeral, isBlank character = false := by
  intro character member
  obtain rfl | isDigit := denotes.sign_or_digit character member
  · decide
  · exact isBlank_of_isDigit isDigit

end Text

namespace Tag

open Text

/-- A message carries a sequence id: its first opening is followed by blanks, a numeral
that denotes the id, blanks, and a closing. -/
def Carries (message : List Char) (seq : SeqId) : Prop :=
  ∃ front before numeral behind rest,
    CutAtFirst opening message front (before ++ numeral ++ behind ++ closing :: rest) ∧
      AllBlank before ∧ Denotes numeral seq.toNat ∧ AllBlank behind

/-- The part between the opening and the closing holds no closing itself. -/
theorem closing_not_mem {before numeral behind : List Char} {value : Nat}
    (blankBefore : AllBlank before) (denotes : Denotes numeral value)
    (blankBehind : AllBlank behind) : closing ∉ before ++ numeral ++ behind := by
  have visible : isBlank closing = false := by decide
  have inNumeral : closing ∉ numeral := by
    intro member
    obtain sign | isDigit := denotes.sign_or_digit closing member
    · exact absurd sign (by decide)
    · exact absurd isDigit (by decide)
  have outside : ∀ {text : List Char}, AllBlank text → closing ∉ text := by
    intro text blank member
    rw [blank closing member] at visible
    contradiction
  simp [outside blankBefore, inNumeral, outside blankBehind]

theorem read?_eq_some_iff {message : List Char} {seq : SeqId} :
    read? message = some seq ↔ Carries message seq := by
  simp only [read?, Option.bind_eq_bind, Option.bind_eq_some_iff, Option.pure_def,
    Option.some.injEq]
  constructor
  · rintro ⟨found, searched, body, delimited, value, read, rfl⟩
    obtain ⟨front, cut⟩ := after?_eq_some_iff.mp searched
    obtain ⟨-, rest, rfl⟩ := before?_eq_some_iff.mp delimited
    obtain ⟨denotes, fits⟩ := readBelow?_eq_some_iff.mp read
    obtain ⟨before, behind, blankBefore, blankBehind, parts⟩ := exists_trim body
    have same : (UInt64.ofNat value).toNat = value := UInt64.toNat_ofNat_of_lt' fits
    rw [parts] at cut
    exact ⟨front, before, trim body, behind, rest, cut, blankBefore, same.symm ▸ denotes,
      blankBehind⟩
  · rintro ⟨front, before, numeral, behind, rest, cut, blankBefore, denotes, blankBehind⟩
    have trimmed : trim (before ++ numeral ++ behind) = numeral :=
      trim_append blankBefore blankBehind denotes.visible denotes.ne_nil
    refine ⟨_, after?_eq_some_iff.mpr ⟨front, cut⟩, before ++ numeral ++ behind,
      before?_eq_some_iff.mpr ⟨closing_not_mem blankBefore denotes blankBehind, rest, rfl⟩,
      seq.toNat, ?_, UInt64.ofNat_toNat⟩
    rw [trimmed]
    exact readBelow?_eq_some_iff.mpr ⟨denotes, seq.toNat_lt⟩

theorem attach_inj {seq otherSeq : SeqId} {text otherText : String}
    (same : attach seq text = attach otherSeq otherText) :
    seq = otherSeq ∧ text = otherText := by
  have found : some seq = some otherSeq := by
    rw [← find?_attach seq text, same, find?_attach]
  cases found
  have characters := congrArg String.toList same
  simp only [attach, String.toList_ofList, List.append_cancel_left_eq, List.cons.injEq,
    true_and] at characters
  exact ⟨rfl, String.toList_inj.mp characters⟩

/-- A message carries a sequence id exactly if it keeps to the grammar, and then only this
one; every other message carries none.  What is attached to a text is found again, and
neither two ids nor two texts give the same message. -/
theorem find?_grammar :
    (∀ message seq, find? message = some seq ↔ Carries message.toList seq) ∧
      (∀ message, find? message = none ↔ ¬ ∃ seq, Carries message.toList seq) ∧
      (∀ seq text, find? (attach seq text) = some seq) ∧
      ∀ seq otherSeq text otherText,
        attach seq text = attach otherSeq otherText ↔ seq = otherSeq ∧ text = otherText := by
  have accepts : ∀ message seq, find? message = some seq ↔ Carries message.toList seq :=
    fun message seq => read?_eq_some_iff
  refine ⟨accepts, ?_, find?_attach, ?_⟩
  · intro message
    rw [Option.eq_none_iff_forall_ne_some, not_exists]
    exact forall_congr' fun seq => not_congr (accepts message seq)
  · intro seq otherSeq text otherText
    constructor
    · exact attach_inj
    · rintro ⟨rfl, rfl⟩
      rfl

/-- A first opening that is malformed hides a later tag. -/
example : find? "seq:one| seq:2|" = none := by decide

end Tag

end RoomLoad
