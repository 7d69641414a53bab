/-!
# Tallies

The different numbers of a list in increasing order, each with how often it
occurs.
-/

namespace RoomLoad

def tallyOne (number : Nat) : List (Nat × Nat) → List (Nat × Nat)
  | [] => [(number, 1)]
  | (other, count) :: rest =>
      if number < other then (number, 1) :: (other, count) :: rest
      else if number = other then (other, count + 1) :: rest
      else (other, count) :: tallyOne number rest

def tally (numbers : List Nat) : List (Nat × Nat) :=
  numbers.foldl (fun counts number => tallyOne number counts) []

def tallied : List (Nat × Nat) → Nat
  | [] => 0
  | (_, count) :: rest => count + tallied rest

theorem tallied_tallyOne (number : Nat) (counts : List (Nat × Nat)) :
    tallied (tallyOne number counts) = tallied counts + 1 := by
  induction counts with
  | nil => rfl
  | cons first rest induction =>
      obtain ⟨other, count⟩ := first
      simp only [tallyOne]
      split
      case isTrue smaller => simp only [tallied]; omega
      case isFalse notSmaller =>
        split
        case isTrue same => simp only [tallied]; omega
        case isFalse larger => simp only [tallied, induction]; omega

end RoomLoad
