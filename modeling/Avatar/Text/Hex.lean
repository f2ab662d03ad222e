import Avatar.Text.Utf8

/-! # Hexadecimal

    Octets are written as two lower-case digits each.  Reading accepts
    both letter cases, and nothing but pairs of digits. -/

namespace Avatar

/-- The lower-case hexadecimal digit of a value. -/
def CodePoint.hexDigit (value : Nat) : CodePoint :=
  .ofNat (if value < 10 then '0'.toNat + value else 'a'.toNat + (value - 10))

/-- The last `width` hexadecimal digits of a number. -/
def Text.hexDigits : Nat → Nat → Text
  | 0, _ => []
  | width + 1, n => hexDigits width (n / 16) ++ [.hexDigit (n % 16)]

/-- A hexadecimal digit is no surrogate. -/
theorem CodePoint.isSurrogate_hexDigit {value : Nat} (h : value < 16) :
    (hexDigit value).isSurrogate = false := by
  have hdigits : ∀ digit : Fin 16, (hexDigit digit).isSurrogate = false := by decide
  exact hdigits ⟨value, h⟩

/-- Only hexadecimal digits are written. -/
theorem Text.exists_of_mem_hexDigits {width n : Nat} {c : CodePoint} (h : c ∈ hexDigits width n) :
    ∃ value, value < 16 ∧ c = .hexDigit value := by
  induction width generalizing n with
  | zero => exact nomatch h
  | succ width ih =>
      rcases List.mem_append.mp h with hearlier | hlast
      · exact ih hearlier
      · exact ⟨n % 16, Nat.mod_lt n (by decide), List.mem_singleton.mp hlast⟩

/-- None of them is a surrogate. -/
theorem Text.isSurrogate_of_mem_hexDigits {width n : Nat} {c : CodePoint}
    (h : c ∈ hexDigits width n) : c.isSurrogate = false := by
  obtain ⟨value, hvalue, rfl⟩ := exists_of_mem_hexDigits h
  exact CodePoint.isSurrogate_hexDigit hvalue

/-- Octets in hexadecimal. -/
def Text.ofOctets (bytes : Bytes) : Text := bytes.flatMap fun b => hexDigits 2 b.toNat

/-- The octets that pairs of hexadecimal digits stand for. -/
def Text.octets? : Text → Option Bytes
  | [] => some []
  | high :: low :: rest =>
    match high.hexValue?, low.hexValue?, octets? rest with
    | some h, some l, some bytes => some ((h * 16 + l).toUInt8 :: bytes)
    | _, _, _ => none
  | _ => none

/-- A digit of either letter case is, in lower case, the digit of its
    value. -/
theorem CodePoint.asciiLowercase_of_hexValue? {c : CodePoint} {value : Nat}
    (h : c.hexValue? = some value) : value < 16 ∧ c.asciiLowercase = hexDigit value := by
  simp only [hexValue?, isDigit, isBetween, Bool.and_eq_true, decide_eq_true_eq,
    Char.reduceToNat] at h
  simp only [asciiLowercase, isUpper, isBetween, hexDigit, Bool.and_eq_true, decide_eq_true_eq,
    Char.reduceToNat]
  split at h
  · obtain rfl := Option.some.inj h
    rw [if_neg (by omega), if_pos (by omega), show 48 + (c.val - 48) = c.val by omega, ofNat_val]
    exact ⟨by omega, rfl⟩
  · split at h
    · obtain rfl := Option.some.inj h
      rw [if_neg (by omega), if_neg (by omega),
        show 97 + (c.val - 97 + 10 - 10) = c.val by omega, ofNat_val]
      exact ⟨by omega, rfl⟩
    · split at h
      · obtain rfl := Option.some.inj h
        rw [if_pos (by omega), if_neg (by omega),
          show 97 + (c.val - 65 + 10 - 10) = c.val + 32 by omega]
        exact ⟨by omega, rfl⟩
      · cases h

/-- A code point has the same value in either letter case, or none. -/
theorem CodePoint.hexValue?_asciiLowercase (c : CodePoint) :
    c.asciiLowercase.hexValue? = c.hexValue? := by
  rw [asciiLowercase]
  split
  · rename_i hupper
    simp only [isUpper, isBetween, Bool.and_eq_true, decide_eq_true_eq,
      Char.reduceToNat] at hupper
    have hval : (ofNat (c.val + 32)).val = c.val + 32 := by
      rw [ofNat, dif_pos (by omega)]
    simp only [hexValue?, isDigit, isBetween, hval, Bool.and_eq_true, decide_eq_true_eq,
      Char.reduceToNat]
    grind
  · rfl

theorem CodePoint.hexValue?_hexDigit {value : Nat} (h : value < 16) :
    (hexDigit value).hexValue? = some value := by
  have hdigits : ∀ digit : Fin 16, (hexDigit digit).hexValue? = some digit.val := by decide
  exact hdigits ⟨value, h⟩

/-- A code point has a value if it is, in lower case, the digit of it. -/
theorem CodePoint.hexValue?_eq_some_iff (c : CodePoint) (value : Nat) :
    c.hexValue? = some value ↔ value < 16 ∧ c.asciiLowercase = hexDigit value := by
  constructor
  · exact asciiLowercase_of_hexValue?
  · rintro ⟨hvalue, hdigit⟩
    rw [← hexValue?_asciiLowercase, hdigit, hexValue?_hexDigit hvalue]

theorem CodePoint.ofChar_digitChar {value : Nat} (h : value < 16) :
    ofChar (Nat.digitChar value) = hexDigit value := by
  have hdigits : ∀ digit : Fin 16, ofChar (Nat.digitChar digit) = hexDigit digit := by decide
  exact hdigits ⟨value, h⟩

/-- A number is written in digits that stand for it. -/
theorem Text.exists_digits {base : Nat} (hbase : 1 < base) (hle : base ≤ 16) (n : Nat) :
    ∃ digits : List Nat, digits ≠ [] ∧ (∀ d ∈ digits, d < base)
      ∧ (Nat.toDigits base n).map CodePoint.ofChar = digits.map CodePoint.hexDigit
      ∧ digits.foldl (fun n d => base * n + d) 0 = n := by
  induction n using Nat.base_induction base hbase with
  | single d hd =>
      refine ⟨[d], List.cons_ne_nil d [], ?_, ?_, ?_⟩
      · intro other hother
        rwa [List.mem_singleton.mp hother]
      · rw [Nat.toDigits_of_lt_base hd, List.map_singleton, List.map_singleton,
          CodePoint.ofChar_digitChar (Nat.lt_of_lt_of_le hd hle)]
      · simp
  | digit m d hd hm ih =>
      obtain ⟨digits, -, hlt, htext, hvalue⟩ := ih
      refine ⟨digits ++ [d], List.concat_ne_nil d digits, ?_, ?_, ?_⟩
      · rw [List.forall_mem_append]
        exact ⟨hlt, fun other hother => by rwa [List.mem_singleton.mp hother]⟩
      · rw [← Nat.toDigits_append_toDigits hbase hm hd, List.map_append, List.map_append, htext,
          Nat.toDigits_of_lt_base hd, List.map_singleton, List.map_singleton,
          CodePoint.ofChar_digitChar (Nat.lt_of_lt_of_le hd hle)]
      · rw [List.foldl_append, hvalue]
        rfl

/-- Octets are read back as they were written. -/
theorem Text.octets?_ofOctets (bytes : Bytes) : octets? (ofOctets bytes) = some bytes := by
  induction bytes with
  | nil => rfl
  | cons b rest ih =>
      have hlt : b.toNat < 256 := b.toNat_lt
      have hhigh : (CodePoint.hexDigit (b.toNat / 16 % 16)).hexValue? = some (b.toNat / 16 % 16) :=
        CodePoint.hexValue?_hexDigit (Nat.mod_lt _ (by decide))
      have hlow : (CodePoint.hexDigit (b.toNat % 16)).hexValue? = some (b.toNat % 16) :=
        CodePoint.hexValue?_hexDigit (Nat.mod_lt _ (by decide))
      have hbyte : (b.toNat / 16 % 16 * 16 + b.toNat % 16).toUInt8 = b := by
        rw [show b.toNat / 16 % 16 * 16 + b.toNat % 16 = b.toNat by omega]
        exact UInt8.ofNat_toNat
      show octets? (.hexDigit (b.toNat / 16 % 16) :: .hexDigit (b.toNat % 16) :: ofOctets rest) = _
      rw [octets?, hhigh, hlow, ih]
      exact congrArg (fun byte => some (byte :: rest)) hbyte

/-- Digits tell which octets they are of. -/
theorem Text.ofOctets_inj {xs ys : Bytes} : ofOctets xs = ofOctets ys ↔ xs = ys := by
  constructor
  · intro h
    have hread := octets?_ofOctets xs
    rw [h, octets?_ofOctets] at hread
    exact (Option.some.inj hread).symm
  · exact congrArg ofOctets

theorem Text.octets?_asciiLowercase : ∀ s : Text, octets? s.asciiLowercase = octets? s
  | [] => rfl
  | [_] => rfl
  | high :: low :: rest => by
      show octets? (high.asciiLowercase :: low.asciiLowercase :: asciiLowercase rest)
        = octets? (high :: low :: rest)
      rw [octets?, octets?, CodePoint.hexValue?_asciiLowercase,
        CodePoint.hexValue?_asciiLowercase, octets?_asciiLowercase rest]

/-- What is read as octets is, in lower case, what is written for them. -/
theorem Text.asciiLowercase_of_octets? :
    ∀ {s : Text} {bytes : Bytes}, octets? s = some bytes → s.asciiLowercase = ofOctets bytes
  | [], bytes, hread => by
      obtain rfl := Option.some.inj hread
      rfl
  | [_], bytes, hread => nomatch hread
  | high :: low :: rest, bytes, hread => by
      rw [octets?] at hread
      split at hread
      · rename_i h l later hhigh hlow hrest
        obtain rfl := Option.some.inj hread
        obtain ⟨hh, hhighDigit⟩ := CodePoint.asciiLowercase_of_hexValue? hhigh
        obtain ⟨hl, hlowDigit⟩ := CodePoint.asciiLowercase_of_hexValue? hlow
        have hbyte : (h * 16 + l).toUInt8.toNat = h * 16 + l :=
          UInt8.toNat_ofNat_of_lt' (by simp only [UInt8.size]; omega)
        show high.asciiLowercase :: low.asciiLowercase :: asciiLowercase rest
          = .hexDigit ((h * 16 + l).toUInt8.toNat / 16 % 16)
            :: .hexDigit ((h * 16 + l).toUInt8.toNat % 16) :: ofOctets later
        rw [hbyte, show (h * 16 + l) / 16 % 16 = h by omega, show (h * 16 + l) % 16 = l by omega,
          hhighDigit, hlowDigit, asciiLowercase_of_octets? hrest]
      · exact nomatch hread

/-- The texts that are read as some octets are the one that is written for
    them and those that differ from it in letter case. -/
theorem Text.octets?_eq_some_iff {s : Text} {bytes : Bytes} :
    octets? s = some bytes ↔ s.asciiLowercase = ofOctets bytes := by
  constructor
  · exact asciiLowercase_of_octets?
  · intro h
    rw [← octets?_asciiLowercase, h, octets?_ofOctets]

/-- Octets are written in hexadecimal digits. -/
theorem Text.exists_of_mem_ofOctets {bytes : Bytes} {c : CodePoint} (h : c ∈ ofOctets bytes) :
    ∃ value, value < 16 ∧ c = .hexDigit value := by
  obtain ⟨b, -, hc⟩ := List.mem_flatMap.mp h
  exact exists_of_mem_hexDigits hc

/-- Two digits are written for each octet. -/
theorem Text.length_ofOctets (bytes : Bytes) : (ofOctets bytes).length = 2 * bytes.length := by
  induction bytes with
  | nil => rfl
  | cons b rest ih =>
    simp only [ofOctets, List.flatMap_cons, List.length_append, List.length_cons] at ih ⊢
    rw [ih]
    simp [hexDigits]
    omega

end Avatar
