import Avatar.Text

/-! # Punycode

    A text is written in ASCII by its ASCII characters, a hyphen, and
    numbers that say where each of the others is put in, the smaller ones
    first.  The numbers have a variable length in base 36; how soon they
    end adapts to the sizes of those before. -/

namespace Avatar.Punycode

/-- The lower-case digit of base 36 with a value: the letters come
    first. -/
def digit (value : Nat) : CodePoint :=
  .ofNat (if value < 26 then 'a'.toNat + value else '0'.toNat + (value - 26))

/-- The least value of a digit at a place that does not end its number. -/
def threshold (place bias : Nat) : Nat := min 26 (max 1 (place - bias))

/-- A digit that ends a number may be zero, so a threshold is not. -/
theorem one_le_threshold (place bias : Nat) : 1 ≤ threshold place bias := by
  unfold threshold
  omega

/-- The digits of a number from a place on. -/
def digits (bias place n : Nat) : Text :=
  if n < threshold place bias then [digit n]
  else
    let excess := n - threshold place bias
    let base := 36 - threshold place bias
    digit (threshold place bias + excess % base) :: digits bias (place + 36) (excess / base)
termination_by n
decreasing_by
  have := one_le_threshold place bias
  exact Nat.lt_of_le_of_lt (Nat.div_le_self _ _) (by omega)

/-- Divides a distance until it is small, counting the divisions. -/
def reduce (distance : Nat) : Nat × Nat :=
  if distance ≤ 455 then (distance, 0)
  else
    let (small, count) := reduce (distance / 35)
    (small, count + 1)
termination_by distance

/-- The bias after a number, among `count` characters that are in
    place. -/
def adapt (isFirst : Bool) (distance count : Nat) : Nat :=
  let halved := if isFirst then distance / 700 else distance / 2
  let (small, divisions) := reduce (halved + halved / count)
  36 * divisions + 36 * small / (small + 38)

/-- What is known while the characters are put in: the numbers written so
    far, the distance from the last one, the bias, how many characters
    are in place, and whether any of them was put in. -/
structure State where
  written : Text
  distance : Nat
  bias : Nat
  count : Nat
  isFirst : Bool

/-- Passes a character on the way through the text while the occurrences
    of `current` are put in. -/
def State.pass (current : Nat) (state : State) (c : CodePoint) : State :=
  if c.val < current then { state with distance := state.distance + 1 }
  else if c.val = current then
    { written := state.written ++ digits state.bias 36 state.distance
      distance := 0
      bias := adapt state.isFirst state.distance (state.count + 1)
      count := state.count + 1
      isFirst := false }
  else state

/-- Puts in the occurrences of each of some characters, in increasing
    order; `next` is the least one that may still come. -/
def State.insertAll (s : Text) : Nat → List Nat → State → State
  | _, [], state => state
  | next, current :: later, state =>
    let start := { state with distance := state.distance + (current - next) * (state.count + 1) }
    let done := s.foldl (State.pass current) start
    insertAll s (current + 1) later { done with distance := done.distance + 1 }

/-- The numbers of some characters in increasing order, each once. -/
def inOrder (s : Text) : List Nat :=
  ((s.map CodePoint.val).mergeSort (· ≤ ·)).eraseDups

/-- A text in ASCII. -/
def encode (s : Text) : Text :=
  let basic := s.filter (·.val < 0x80)
  let others := s.filter (0x80 ≤ ·.val)
  let start : State := ⟨[], 0, 72, basic.length, true⟩
  basic ++ (if basic.isEmpty then [] else Text.ofString "-")
    ++ (State.insertAll s 0x80 (inOrder others) start).written

end Avatar.Punycode
