import Avatar.Address

/-! # Addresses in writing

    Every address has one shortest form.  In version six the groups are
    written without leading zeros, and the longest run of at least two
    groups of zero, the first of several, is left out. -/

namespace Avatar.Address

/-- The last `count` groups of an address of version six. -/
def groupsOf : Nat → Nat → List Nat
  | 0, _ => []
  | count + 1, n => groupsOf count (n / 0x10000) ++ [n % 0x10000]

/-- There are as many groups as are asked for. -/
theorem length_groupsOf (count n : Nat) : (groupsOf count n).length = count := by
  induction count generalizing n with
  | zero => rfl
  | succ count ih => simp [groupsOf, ih]

/-- The number of zeros that some groups start with. -/
def zerosAt (groups : List Nat) : Nat := (groups.takeWhile (· = 0)).length

/-- The longest run of zeros, as its place and its length; of several the
    first one. -/
def longestZeros : List Nat → Nat × Nat
  | [] => (0, 0)
  | group :: groups =>
    let here := zerosAt (group :: groups)
    let later := longestZeros groups
    if later.2 ≤ here then (0, here) else (later.1 + 1, later.2)

/-- A group without leading zeros. -/
def groupText (group : Nat) : Text := (Nat.toDigits 16 group).map CodePoint.ofChar

/-- Groups with colons between them. -/
def groupsText (groups : List Nat) : Text := Text.join ":" (groups.map groupText)

/-- The shortest form of eight groups. -/
def shortest (groups : List Nat) : Text :=
  let (start, length) := longestZeros groups
  if length < 2 then groupsText groups
  else groupsText (groups.take start) ++ "::" ++ groupsText (groups.drop (start + length))

/-- The one form of an address. -/
def written : Address → Text
  | .v4 value =>
    Text.join "." ([24, 16, 8, 0].map fun shift => Text.ofNat (value.toNat >>> shift % 0x100))
  | .v6 value => shortest (groupsOf 8 value.toNat)

end Avatar.Address
