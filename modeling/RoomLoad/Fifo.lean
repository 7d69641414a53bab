/-!
# First in, first out

Sequences that take items in at one end and give them out at the other, each in
constant time on average.  Everything that can be said about one is said about the
list of its items.
-/

namespace RoomLoad

structure Fifo (α : Type) where
  /-- The items that are given out next. -/
  front : List α
  /-- The items behind these, the last one first. -/
  back : List α
  size : Nat
  size_eq : size = front.length + back.length

namespace Fifo

variable {α : Type}

def ofList (items : List α) : Fifo α := ⟨items, [], items.length, rfl⟩

def empty : Fifo α := ofList []

def toList (fifo : Fifo α) : List α :=
  fifo.front ++ fifo.back.reverse

def push (fifo : Fifo α) (item : α) : Fifo α :=
  ⟨fifo.front, item :: fifo.back, fifo.size + 1, by
    have size := fifo.size_eq
    simp only [List.length_cons]
    omega⟩

def append (fifo : Fifo α) (items : List α) : Fifo α :=
  items.foldl push fifo

def filter (keep : α → Bool) (fifo : Fifo α) : Fifo α :=
  ofList (fifo.toList.filter keep)

def pop? (fifo : Fifo α) : Option (α × Fifo α) :=
  match front : fifo.front with
  | item :: rest =>
      some (item, ⟨rest, fifo.back, fifo.size - 1, by
        have size := fifo.size_eq
        simp only [front, List.length_cons] at size
        omega⟩)
  | [] =>
      match fifo.back.reverse with
      | item :: rest => some (item, ofList rest)
      | [] => none

@[simp]
theorem toList_ofList (items : List α) : (ofList items).toList = items := by
  simp [ofList, toList]

@[simp]
theorem toList_push (fifo : Fifo α) (item : α) :
    (fifo.push item).toList = fifo.toList ++ [item] := by
  simp [push, toList]

@[simp]
theorem toList_append (fifo : Fifo α) (items : List α) :
    (fifo.append items).toList = fifo.toList ++ items := by
  induction items generalizing fifo with
  | nil => simp [append]
  | cons item items induction =>
      have pushed := induction (fifo.push item)
      simpa [append] using pushed

@[simp]
theorem toList_filter (keep : α → Bool) (fifo : Fifo α) :
    (fifo.filter keep).toList = fifo.toList.filter keep :=
  toList_ofList _

theorem size_eq_length (fifo : Fifo α) : fifo.size = fifo.toList.length := by
  rw [fifo.size_eq, toList, List.length_append, List.length_reverse]

theorem toList_of_pop? {fifo rest : Fifo α} {item : α} (popped : fifo.pop? = some (item, rest)) :
    fifo.toList = item :: rest.toList := by
  unfold pop? at popped
  split at popped
  case h_1 first others front =>
    cases popped
    simp [toList, front]
  case h_2 front =>
    split at popped
    case h_1 first others back =>
      cases popped
      rw [toList_ofList, toList, front, back]
      rfl
    case h_2 => contradiction

theorem pop?_eq_none_iff {fifo : Fifo α} : fifo.pop? = none ↔ fifo.toList = [] := by
  constructor
  · intro none
    unfold pop? at none
    split at none
    case h_1 => contradiction
    case h_2 front =>
      split at none
      case h_1 => contradiction
      case h_2 back => rw [toList, front, back]; rfl
  · intro noItems
    cases popped : fifo.pop? with
    | none => rfl
    | some found =>
        have items : fifo.toList = found.1 :: found.2.toList := toList_of_pop? popped
        rw [noItems] at items
        contradiction

end Fifo

end RoomLoad
