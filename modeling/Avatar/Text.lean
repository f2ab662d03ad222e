/-! # Text — sequences of code points

    Names, URLs and documents arrive from the network and may hold lone
    surrogates, which no `Char` can be.  A text is therefore a list of
    code points, surrogates included; a string literal stands for its
    code points through a coercion. -/

namespace Avatar

/-- A Unicode code point.  Unlike a `Char` it may be a surrogate. -/
structure CodePoint where
  /-- The number of the code point. -/
  val : Nat
  /-- The number is in the Unicode range. -/
  isLt : val < 0x110000
deriving DecidableEq

/-- A sequence of code points. -/
abbrev Text := List CodePoint

namespace CodePoint

/-- The code point of a character. -/
def ofChar (c : Char) : CodePoint :=
  ⟨c.toNat, by
    have h := c.valid
    simp only [UInt32.isValidChar, Nat.isValidChar] at h
    show c.val.toNat < 0x110000
    omega⟩

instance : Coe Char CodePoint := ⟨ofChar⟩

theorem ofChar_inj {c d : Char} : ofChar c = ofChar d ↔ c = d := by
  rw [← Char.toNat_inj]
  exact CodePoint.mk.injEq .. ▸ Iff.rfl

/-- The replacement character U+FFFD. -/
def replacement : CodePoint := ⟨0xFFFD, by decide⟩

/-- The code point of a number, and U+FFFD for a number that is out of
    range. -/
def ofNat (n : Nat) : CodePoint :=
  if h : n < 0x110000 then ⟨n, h⟩ else replacement

theorem ofNat_val (c : CodePoint) : ofNat c.val = c := dif_pos c.isLt

/-- The first half of a surrogate pair. -/
def isHighSurrogate (c : CodePoint) : Bool := 0xD800 ≤ c.val && c.val < 0xDC00

/-- The second half of a surrogate pair. -/
def isLowSurrogate (c : CodePoint) : Bool := 0xDC00 ≤ c.val && c.val < 0xE000

/-- A code point that stands for no character. -/
def isSurrogate (c : CodePoint) : Bool := 0xD800 ≤ c.val && c.val < 0xE000

/-- No character is a surrogate. -/
theorem isSurrogate_ofChar (c : Char) : (ofChar c).isSurrogate = false := by
  have h := c.valid
  simp only [UInt32.isValidChar, Nat.isValidChar] at h
  have hval : (ofChar c).val = c.val.toNat := rfl
  simp only [isSurrogate, hval, Bool.and_eq_false_iff, decide_eq_false_iff_not]
  omega

/-- The code point that a surrogate pair stands for. -/
def ofSurrogates (high low : CodePoint) : CodePoint :=
  ofNat (0x10000 + (high.val - 0xD800) * 0x400 + (low.val - 0xDC00))

/-- Whether a code point lies between two characters, both included. -/
def isBetween (c : CodePoint) (first last : Char) : Bool :=
  first.toNat ≤ c.val && c.val ≤ last.toNat

/-- An ASCII digit. -/
def isDigit (c : CodePoint) : Bool := c.isBetween '0' '9'

/-- The code point of a digit is a digit. -/
theorem isDigit_ofChar {c : Char} (h : c.isDigit = true) : (ofChar c).isDigit = true := by
  simp only [Char.isDigit, Bool.and_eq_true, decide_eq_true_eq, ge_iff_le,
    UInt32.le_iff_toNat_le] at h
  simp only [isDigit, isBetween, Bool.and_eq_true, decide_eq_true_eq]
  exact h

/-- A lower-case ASCII letter. -/
def isLower (c : CodePoint) : Bool := c.isBetween 'a' 'z'

/-- An upper-case ASCII letter. -/
def isUpper (c : CodePoint) : Bool := c.isBetween 'A' 'Z'

/-- The value of a hexadecimal digit, of either letter case. -/
def hexValue? (c : CodePoint) : Option Nat :=
  if c.isDigit then some (c.val - '0'.toNat)
  else if c.isBetween 'a' 'f' then some (c.val - 'a'.toNat + 10)
  else if c.isBetween 'A' 'F' then some (c.val - 'A'.toNat + 10)
  else none

/-- The lower-case form of an ASCII letter; every other code point is
    left alone. -/
def asciiLowercase (c : CodePoint) : CodePoint :=
  if c.isUpper then ofNat (c.val + 32) else c

end CodePoint

namespace Text

/-- The code points of a string. -/
def ofString (s : String) : Text := s.toList.map CodePoint.ofChar

instance : Coe String Text := ⟨ofString⟩

/-- The text as a string, each surrogate shown as a null character. -/
def toString (s : Text) : String := String.ofList (s.map fun c => Char.ofNat c.val)

/-- Decimal digits of a natural number. -/
def ofNat (n : Nat) : Text := (Nat.toDigits 10 n).map CodePoint.ofChar

/-- Decimal digits of an integer, after a minus sign if it is negative. -/
def ofInt : Int → Text
  | .ofNat n => ofNat n
  | .negSucc n => "-" ++ ofNat (n + 1)

theorem isDigit_of_mem_ofNat {n : Nat} {c : CodePoint} (h : c ∈ ofNat n) : c.isDigit = true := by
  obtain ⟨digit, hdigit, rfl⟩ := List.mem_map.mp h
  exact CodePoint.isDigit_ofChar (Nat.isDigit_of_mem_toDigits (by decide) (by decide) hdigit)

theorem isDigit_or_of_mem_ofInt {n : Int} {c : CodePoint} (h : c ∈ ofInt n) :
    c.isDigit = true ∨ c = .ofChar '-' := by
  cases n with
  | ofNat n => exact .inl (isDigit_of_mem_ofNat h)
  | negSucc n =>
      rcases List.mem_cons.mp h with hminus | hdigit
      · exact .inr hminus
      · exact .inl (isDigit_of_mem_ofNat hdigit)

/-- Digits tell which number they are of. -/
theorem ofNat_inj {m n : Nat} : ofNat m = ofNat n ↔ m = n := by
  constructor
  · intro h
    have hdigits : Nat.toDigits 10 m = Nat.toDigits 10 n :=
      (List.map_inj_right fun _ _ => CodePoint.ofChar_inj.mp).mp h
    calc m = Nat.ofDigitChars 10 (Nat.toDigits 10 m) 0 := Nat.ofDigitChars_ten_toDigits.symm
      _ = Nat.ofDigitChars 10 (Nat.toDigits 10 n) 0 := by rw [hdigits]
      _ = n := Nat.ofDigitChars_ten_toDigits
  · exact congrArg ofNat

theorem minus_append_ofNat_ne {m n : Nat} : "-" ++ ofNat m ≠ ofNat n := by
  intro h
  have hminus : CodePoint.ofChar '-' ∈ ofNat n := h ▸ List.mem_cons_self
  exact absurd (isDigit_of_mem_ofNat hminus) (by decide)

/-- So do they behind a sign. -/
theorem ofInt_inj {m n : Int} : ofInt m = ofInt n ↔ m = n := by
  constructor
  · intro h
    cases m with
    | ofNat m =>
        cases n with
        | ofNat n => exact congrArg Int.ofNat (ofNat_inj.mp h)
        | negSucc n => exact absurd h.symm minus_append_ofNat_ne
    | negSucc m =>
        cases n with
        | ofNat n => exact absurd h minus_append_ofNat_ne
        | negSucc n =>
            have hdigits : ofNat (m + 1) = ofNat (n + 1) := List.append_cancel_left h
            exact congrArg Int.negSucc (Nat.succ.inj (ofNat_inj.mp hdigits))
  · exact congrArg ofInt

/-- The code points of characters are no surrogates. -/
theorem isSurrogate_of_mem_map_ofChar {chars : List Char} {c : CodePoint}
    (h : c ∈ chars.map CodePoint.ofChar) : c.isSurrogate = false := by
  obtain ⟨char, -, rfl⟩ := List.mem_map.mp h
  exact CodePoint.isSurrogate_ofChar char

/-- The text with its ASCII letters in lower case. -/
def asciiLowercase (s : Text) : Text := s.map CodePoint.asciiLowercase

/-- The order of two texts by their first difference in code points. -/
def le : Text → Text → Bool
  | [], _ => true
  | _ :: _, [] => false
  | a :: s, b :: t => a.val < b.val || (a.val == b.val && le s t)

end Text

end Avatar
