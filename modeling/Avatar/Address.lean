import Avatar.Text.Digit
import Avatar.Text.Parts

/-! # Internet addresses

    The value of an address and its textual form.  An address of version
    four is four decimal octets; one of version six is eight groups of
    hexadecimal digits, of which one run of zeros may be left out and the
    last two may be written as an address of version four.  A scope after
    a percent sign names a link and is not part of the value. -/

namespace Avatar

/-- The value of an internet address. -/
inductive Address
  | v4 (value : BitVec 32)
  | v6 (value : BitVec 128)
deriving DecidableEq

namespace Address

/-- The number that digits in a base stand for. -/
def ofDigitsIn (base : Nat) (digits : List Nat) : Nat := digits.foldl (fun n d => base * n + d) 0

/-- A decimal octet: at most three digits, the first of them no zero
    unless it is alone. -/
def octet? (s : Text) : Option Nat :=
  if s.isEmpty || 3 < s.length || !s.all CodePoint.isDigit then none
  else if 1 < s.length && Text.startsWith "0" s then none
  else
    let n := ofDigitsIn 10 (s.map fun c => c.val - '0'.toNat)
    if n ≤ 255 then some n else none

/-- Four decimal octets between dots. -/
def parse4? (s : Text) : Option (BitVec 32) :=
  match (s.splitOn '.').mapM octet? with
  | some [a, b, c, d] => some (BitVec.ofNat 32 (ofDigitsIn 0x100 [a, b, c, d]))
  | _ => none

/-- A group of one to four hexadecimal digits. -/
def group? (s : Text) : Option Nat :=
  if s.isEmpty || 4 < s.length then none
  else (s.mapM CodePoint.hexValue?).map (ofDigitsIn 0x10)

/-- The two groups that an address of version four takes the place of. -/
def dottedGroups? (s : Text) : Option (List Nat) :=
  (parse4? s).map fun a => [a.toNat / 0x10000, a.toNat % 0x10000]

/-- Groups between colons.  `dotted` says whether the last one may be an
    address of version four. -/
def groups? (dotted : Bool) : List Text → Option (List Nat)
  | [] => some []
  | [last] =>
    if dotted && last.contains (CodePoint.ofChar '.') then dottedGroups? last
    else (group? last).map ([·])
  | piece :: pieces =>
    match group? piece, groups? dotted pieces with
    | some g, some gs => some (g :: gs)
    | _, _ => none

/-- The groups of one side of a gap, which may have none. -/
def side? (dotted : Bool) (s : Text) : Option (List Nat) :=
  if s.isEmpty then some [] else groups? dotted (s.splitOn ':')

/-- What stands before and after the first pair of colons. -/
def gap? : Text → Option (Text × Text)
  | [] => none
  | c :: rest =>
    match Text.after? "::" (c :: rest) with
    | some right => some ([], right)
    | none => (gap? rest).map fun sides => (c :: sides.1, sides.2)

/-- The eight groups of an address of version six. -/
def eightGroups? (s : Text) : Option (List Nat) :=
  match gap? s with
  | none =>
    match groups? true (s.splitOn ':') with
    | some gs => if gs.length = 8 then some gs else none
    | none => none
  | some (left, right) =>
    match side? false left, side? true right with
    | some high, some low =>
      if high.length + low.length < 8 then
        some (high ++ List.replicate (8 - (high.length + low.length)) 0 ++ low)
      else none
    | _, _ => none

/-- The address without its scope; a scope has to be there after a
    percent sign, and no second percent sign. -/
def withoutScope? (s : Text) : Option Text :=
  match s.cut '%' with
  | (address, none) => some address
  | (address, some scope) =>
    if scope.isEmpty || scope.contains (CodePoint.ofChar '%') then none else some address

/-- The value of an address of version six.  A slash, which would begin
    the length of a network, is refused even in the scope. -/
def parse6? (s : Text) : Option (BitVec 128) :=
  if s.contains (CodePoint.ofChar '/') then none
  else
    match withoutScope? s with
    | none => none
    | some address => (eightGroups? address).map fun gs => BitVec.ofNat 128 (ofDigitsIn 0x10000 gs)

/-- The value of an address of either version. -/
def parse? (s : Text) : Option Address :=
  match parse4? s with
  | some value => some (.v4 value)
  | none => (parse6? s).map .v6

end Address

end Avatar
