import RoomLoad.Ids

/-!
# Random draws

An endless stream of 64-bit words and uniform draws from it.  A draw scales a
word down to the range and rejects the words that would favour some of its
numbers.
-/

namespace RoomLoad

/-- A stream of words and how many of them are used up. -/
structure RandomSource where
  word : Nat → UInt64
  drawn : Nat
  /-- How many words one draw may reject; it settles for the least number of its
  range then. -/
  patience : Nat

namespace RandomSource

/-- The distance between two states of the mixing generator. -/
def mixingStep : UInt64 := 0x9E3779B97F4A7C15

/-- The word that a state of the mixing generator gives. -/
def mix (state : UInt64) : UInt64 :=
  let first := (state ^^^ (state >>> 30)) * 0xBF58476D1CE4E5B9
  let second := (first ^^^ (first >>> 27)) * 0x94D049BB133111EB
  second ^^^ (second >>> 31)

/-- The given words in order, and the words of the mixing generator behind
them. -/
def scripted (words : List UInt64) (seed : UInt64) : RandomSource where
  word index :=
    match words[index]? with
    | some word => word
    | none => mix (seed + UInt64.ofNat (index - words.length + 1) * mixingStep)
  drawn := 0
  patience := words.length + 128

def next (source : RandomSource) : UInt64 × RandomSource :=
  (source.word source.drawn, { source with drawn := source.drawn + 1 })

/-- The largest remainder that a draw from a range of `size` numbers accepts:
one below the largest multiple of the size by a power of two that fits in
`width` bits. -/
def acceptedRemainder (width size : Nat) : Nat :=
  size * Nat.pow 2 (width - 1 - Nat.log2 size) - 1

/-- Draws below `size` until a word is accepted or the tries are used up. -/
def drawBelow (width size : Nat) : Nat → RandomSource → Nat × RandomSource
  | 0, source => (0, source)
  | tries + 1, source =>
      let (word, rest) := source.next
      let product := word.toNat % Nat.pow 2 width * size
      if product % Nat.pow 2 width ≤ acceptedRemainder width size then
        (product / Nat.pow 2 width, rest)
      else
        drawBelow width size tries rest

/-- A number from `low` to `high` of `width` bits; a range that holds every
number of that width takes a word as it is. -/
def within (width low high : Nat) (source : RandomSource) : Nat × RandomSource :=
  let size := (high - low + 1) % Nat.pow 2 width
  if size = 0 then
    let (word, rest) := source.next
    (word.toNat % Nat.pow 2 width, rest)
  else
    let (offset, rest) := drawBelow width size (source.patience + 1) source
    (low + offset, rest)

def ofRange (range : IdRange) (source : RandomSource) : UInt32 × RandomSource :=
  let (value, rest) := source.within 32 range.low.toNat range.high.toNat
  (UInt32.ofNat value, rest)

theorem drawBelow_lt {width size tries : Nat} {source : RandomSource} (positive : 0 < size) :
    (drawBelow width size tries source).1 < size := by
  induction tries generalizing source with
  | zero => exact positive
  | succ tries induction =>
      simp only [drawBelow]
      split
      case isTrue accepted =>
        have bounded := Nat.mod_lt (source.next.1.toNat) (Nat.two_pow_pos width)
        apply Nat.div_lt_of_lt_mul
        exact Nat.mul_lt_mul_of_pos_right bounded positive
      case isFalse rejected => exact induction

end RandomSource

end RoomLoad
