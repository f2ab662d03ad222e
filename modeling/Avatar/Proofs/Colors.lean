import Mathlib.Algebra.BigOperators.Fin
import Mathlib.Data.Int.ModEq
import Mathlib.Tactic.Ring
import Avatar.Placeholder

/-! # The colour of an actor

    The hash of a text is a polynomial over its units in powers of
    thirty-one.  Each unit makes it wrap around three times
    (`toInt_mix`), but wrapping only takes multiples of 2 ^ 32 away, so
    that all of it may be put off until the end:

    * a unit adds itself to thirty-one times the hash, modulo 2 ^ 32
      (`mix_modEq`), and many units add their polynomial
      (`foldl_mix_modEq`);
    * an octet of the hash up to the third is the same octet of the
      polynomial, also where the hash is negative (`octet_hash`).

    `hash_is_polynomial` says so of the hash and the colour of a text. -/

namespace Avatar

/-! ## Units of sixteen bits -/

namespace Text

/-- What a text is in UTF-16: a code point is a unit of its own, or two
    units that together say how far above U+10000 it is. -/
inductive IsUtf16 : Text → List UInt16 → Prop
  | nil : IsUtf16 [] []
  | unit {c : CodePoint} {s : Text} {unit : UInt16} {units : List UInt16} :
      unit.toNat = c.val → IsUtf16 s units → IsUtf16 (c :: s) (unit :: units)
  | pair {c : CodePoint} {s : Text} {high low : UInt16} {units : List UInt16} :
      0xD800 ≤ high.toNat → high.toNat < 0xDC00 → 0xDC00 ≤ low.toNat → low.toNat < 0xE000 →
      c.val = 0x10000 + (high.toNat - 0xD800) * 0x400 + (low.toNat - 0xDC00) →
      IsUtf16 s units → IsUtf16 (c :: s) (high :: low :: units)

theorem isUtf16_units16 (s : Text) : s.IsUtf16 s.units16 := by
  induction s with
  | nil => exact .nil
  | cons c s ih =>
      have hc := c.isLt
      show IsUtf16 (c :: s) (c.units16 ++ units16 s)
      rw [CodePoint.units16]
      split
      · exact .unit (UInt16.toNat_ofNat_of_lt' (by simpa)) ih
      · have hhigh : (0xD800 + (c.val - 0x10000) / 0x400).toUInt16.toNat
            = 0xD800 + (c.val - 0x10000) / 0x400 :=
          UInt16.toNat_ofNat_of_lt' (by simp only [UInt16.size]; omega)
        have hlow : (0xDC00 + (c.val - 0x10000) % 0x400).toUInt16.toNat
            = 0xDC00 + (c.val - 0x10000) % 0x400 :=
          UInt16.toNat_ofNat_of_lt' (by simp only [UInt16.size]; omega)
        refine .pair ?_ ?_ ?_ ?_ ?_ ih
        all_goals
          simp only [hhigh, hlow]
          omega

/-- A text has one form in UTF-16. -/
theorem isUtf16_iff {s : Text} {units : List UInt16} : s.IsUtf16 units ↔ units = s.units16 := by
  constructor
  · intro h
    induction h with
    | nil => rfl
    | @unit c s unit units hunit _ ih =>
        have hlt := unit.toNat_lt
        have hc : c.units16 = [unit] := by
          rw [CodePoint.units16, if_pos (by omega), ← hunit]
          exact congrArg (fun u => [u]) UInt16.ofNat_toNat
        show unit :: units = c.units16 ++ units16 s
        rw [hc, ih]
        rfl
    | @pair c s high low units hhigh hhigh' hlow hlow' hval _ ih =>
        have hc : c.units16 = [high, low] := by
          rw [CodePoint.units16, if_neg (by omega),
            show 0xD800 + (c.val - 0x10000) / 0x400 = high.toNat by omega,
            show 0xDC00 + (c.val - 0x10000) % 0x400 = low.toNat by omega]
          exact congrArg₂ (fun u v => [u, v]) UInt16.ofNat_toNat UInt16.ofNat_toNat
        show high :: low :: units = c.units16 ++ units16 s
        rw [hc, ih]
        rfl
  · rintro rfl
    exact isUtf16_units16 s

end Text

namespace Placeholder

/-! ## The polynomial -/

/-- The sum of some units in powers of thirty-one: the last one as it is,
    the one before it thirty-one times, and so on. -/
def polynomial (units : List UInt16) : Nat :=
  ∑ i : Fin units.length, units[i].toNat * 31 ^ (units.length - 1 - i)

theorem polynomial_cons (unit : UInt16) (units : List UInt16) :
    polynomial (unit :: units) = unit.toNat * 31 ^ units.length + polynomial units := by
  show ∑ i : Fin (units.length + 1), (unit :: units)[i].toNat * 31 ^ (units.length + 1 - 1 - i) = _
  rw [Fin.sum_univ_succ]
  refine congrArg₂ (· + ·) rfl (Finset.sum_congr rfl fun i _ => ?_)
  have hpower : units.length + 1 - 1 - (i.val + 1) = units.length - 1 - i.val := by omega
  exact congrArg (units[i].toNat * 31 ^ ·) hpower

/-! ## One unit and many -/

theorem toInt_shift (hash : Int32) : (hash <<< 5).toInt = (hash.toInt * 32).bmod (2 ^ 32) := by
  have hshift : (hash <<< 5).toInt = (hash.toBitVec <<< 5).toInt := by
    rw [← Int32.toInt_toBitVec, Int32.toBitVec_shiftLeft]
    rfl
  rw [hshift, BitVec.toInt_shiftLeft, ← Int32.toInt_toBitVec, BitVec.toInt_eq_toNat_bmod,
    Int.bmod_mul_bmod, Nat.shiftLeft_eq]
  push_cast
  rfl

theorem toInt_unit (unit : UInt16) : unit.toUInt32.toInt32.toInt = unit.toNat := by
  have hlt := unit.toNat_lt
  show unit.toUInt32.toBitVec.toInt = _
  rw [BitVec.toInt_eq_toNat_of_lt]
  · simp
  · simp only [UInt32.toNat_toBitVec, UInt16.toNat_toUInt32]
    omega

/-- What a unit makes of a hash wraps around three times. -/
theorem toInt_mix (hash : Int32) (unit : UInt16) :
    (mix hash unit).toInt
      = (unit.toNat + ((hash.toInt * 32).bmod (2 ^ 32) - hash.toInt).bmod (2 ^ 32)).bmod (2 ^ 32) := by
  rw [mix, Int32.toInt_add, Int32.toInt_sub, toInt_shift, toInt_unit]

/-- Modulo 2 ^ 32, the two inner ones leave no trace. -/
theorem mix_modEq (hash : Int32) (unit : UInt16) :
    (mix hash unit).toInt ≡ hash.toInt * 31 + unit.toNat [ZMOD 2 ^ 32] := by
  have hsum : unit.toNat + (hash.toInt * 32 - hash.toInt) = hash.toInt * 31 + unit.toNat := by
    ring
  rw [toInt_mix, Int.bmod_sub_bmod, Int.add_bmod_bmod, hsum]
  exact Int.bmod_emod

/-- Some units multiply a hash by as many powers of thirty-one and add
    their polynomial. -/
theorem foldl_mix_modEq (hash : Int32) (units : List UInt16) :
    (units.foldl mix hash).toInt
      ≡ hash.toInt * 31 ^ units.length + polynomial units [ZMOD 2 ^ 32] := by
  induction units generalizing hash with
  | nil => simp [polynomial]
  | cons unit units ih =>
      -- the hash so far is multiplied once more for each unit that follows
      calc (units.foldl mix (mix hash unit)).toInt
          ≡ (mix hash unit).toInt * 31 ^ units.length + polynomial units [ZMOD 2 ^ 32] :=
            ih (mix hash unit)
        _ ≡ (hash.toInt * 31 + unit.toNat) * 31 ^ units.length + polynomial units [ZMOD 2 ^ 32] :=
            ((mix_modEq hash unit).mul_right _).add_right _
        _ = hash.toInt * 31 ^ (unit :: units).length + polynomial (unit :: units) := by
            rw [polynomial_cons, List.length_cons]
            push_cast
            ring

theorem hash_modEq (s : Text) : (hash s).toInt ≡ polynomial s.units16 [ZMOD 2 ^ 32] := by
  have h := foldl_mix_modEq 0 s.units16
  rwa [Int32.toInt_zero, zero_mul, zero_add] at h

/-- In the signed range there is one number for each remainder. -/
theorem eq_toInt_iff {hash : Int32} {value n : ℤ} (h : hash.toInt ≡ value [ZMOD 2 ^ 32]) :
    n = hash.toInt ↔ -2 ^ 31 ≤ n ∧ n < 2 ^ 31 ∧ n ≡ value [ZMOD 2 ^ 32] := by
  have hlow := hash.le_toInt
  have hhigh := hash.toInt_lt
  constructor
  · rintro rfl
    exact ⟨hlow, hhigh, h⟩
  · rintro ⟨hnlow, hnhigh, hn⟩
    have hsame : n % 2 ^ 32 = hash.toInt % 2 ^ 32 := hn.trans h.symm
    omega

/-! ## Octets -/

/-- A shift divides and rounds down, whatever the sign, and the octet is
    what is left modulo 2 ^ 8. -/
theorem toNat_octet (hash : Int32) {places : Nat} (h : places < 32) :
    ((octet hash (.ofNat places)).toNat : ℤ) = hash.toInt / 2 ^ places % 2 ^ 8 := by
  have hplaces : ∀ places : Fin 32,
      ((Int32.ofNat places).toBitVec.smod 32).toNat = places := by decide
  have hshift : (hash >>> Int32.ofNat places).toInt = hash.toInt / 2 ^ places := by
    rw [← Int32.toInt_toBitVec, Int32.toBitVec_shiftRight, BitVec.toInt_sshiftRight',
      hplaces ⟨places, h⟩, Int32.toInt_toBitVec, Int.shiftRight_eq_div_pow]
    push_cast
    rfl
  -- the bits of a number are the number itself, modulo 2 ^ 32
  have hbits (shifted : Int32) :
      (shifted.toUInt32.toNat : ℤ) % 2 ^ 8 = shifted.toInt % 2 ^ 8 := by
    have hmod : (shifted.toUInt32.toNat : ℤ) % 2 ^ 32 = shifted.toInt % 2 ^ 32 := by
      rw [← Int32.toInt_toBitVec, BitVec.toInt_eq_toNat_bmod]
      exact Int.bmod_emod.symm
    omega
  rw [octet, UInt32.toNat_toUInt8, ← hshift, ← hbits]
  push_cast
  rfl

theorem ediv_emod_of_modEq {x y : ℤ} (h : x ≡ y [ZMOD 2 ^ 32]) {places : Nat}
    (hplaces : places ≤ 24) : x / 2 ^ places % 2 ^ 8 = y / 2 ^ places % 2 ^ 8 := by
  obtain ⟨multiple, hmultiple⟩ := h.symm.dvd
  -- shifted by no more than 24 places, a multiple of 2 ^ 32 is still one of 2 ^ 8
  have hx : x = y + 2 ^ places * (2 ^ 8 * (2 ^ (24 - places) * multiple)) := by
    have hpower : (2 : ℤ) ^ 32 = 2 ^ places * 2 ^ 8 * 2 ^ (24 - places) := by
      rw [← pow_add, ← pow_add]
      congr 1
      omega
    rw [← sub_eq_iff_eq_add', hmultiple, hpower]
    ring
  rw [hx, Int.add_mul_ediv_left y _ (pow_ne_zero places two_ne_zero), Int.add_mul_emod_self_left]

theorem octet_hash (s : Text) {places : Nat} (h : places ≤ 24) :
    octet (hash s) (.ofNat places) = (polynomial s.units16 / 2 ^ places).toUInt8 := by
  have hoctet : ((octet (hash s) (.ofNat places)).toNat : ℤ)
      = (polynomial s.units16 / 2 ^ places % 2 ^ 8 : Nat) := by
    rw [toNat_octet (hash s) (by omega), ediv_emod_of_modEq (hash_modEq s) h]
    push_cast
    rfl
  rw [← UInt8.toNat_inj, Nat.toUInt8_eq, UInt8.toNat_ofNat']
  exact Int.ofNat.inj hoctet

/-! ## Colours -/

/-- The colour of the three lowest octets of a number. -/
def colorOf (n : Nat) : Text :=
  "#" ++ Text.ofOctets [n.toUInt8, (n / 0x100).toUInt8, (n / 0x10000).toUInt8]

theorem colorOf_eq (n : Nat) :
    colorOf n = "#" ++ Text.hexDigits 2 (n % 0x100) ++ Text.hexDigits 2 (n / 0x100 % 0x100)
      ++ Text.hexDigits 2 (n / 0x10000 % 0x100) := by
  have hoctet (m : Nat) : m.toUInt8.toNat = m % 0x100 := UInt8.toNat_ofNat'
  simp only [colorOf, Text.ofOctets, List.flatMap_cons, List.flatMap_nil, hoctet, List.append_nil,
    List.append_assoc]

/-- Numbers have the same colour if they are the same in twenty-four
    bits. -/
theorem colorOf_inj {m n : Nat} : colorOf m = colorOf n ↔ m ≡ n [MOD 2 ^ 24] := by
  have hoctets : colorOf m = colorOf n
      ↔ m.toUInt8 = n.toUInt8 ∧ (m / 0x100).toUInt8 = (n / 0x100).toUInt8
        ∧ (m / 0x10000).toUInt8 = (n / 0x10000).toUInt8 := by
    rw [colorOf, colorOf, List.append_cancel_left_eq, Text.ofOctets_inj]
    simp only [List.cons.injEq, and_true]
  simp only [hoctets, ← UInt8.toNat_inj, Nat.toUInt8_eq, UInt8.toNat_ofNat', Nat.ModEq]
  omega

theorem color_eq (s : Text) : color s = colorOf (polynomial s.units16) := by
  have hlow := octet_hash s (show 0 ≤ 24 by decide)
  have hmiddle := octet_hash s (show 8 ≤ 24 by decide)
  have hhigh := octet_hash s (show 16 ≤ 24 by decide)
  rw [pow_zero, Nat.div_one] at hlow
  show "#" ++ Text.ofOctets [octet (hash s) (.ofNat 0), octet (hash s) (.ofNat 8),
    octet (hash s) (.ofNat 16)] = _
  rw [hlow, hmiddle, hhigh]
  rfl

/-- A text has one form in UTF-16.  Its hash is the number of the signed
    range that is, modulo 2 ^ 32, the sum of those units in powers of
    thirty-one.  Its colour is made of the three lowest octets of that sum,
    the lowest first, in two lower-case digits each. -/
theorem hash_is_polynomial (s : Text) :
    ∃ units, (∀ other, s.IsUtf16 other ↔ other = units)
      ∧ (∀ n : ℤ, n = (hash s).toInt
          ↔ -2 ^ 31 ≤ n ∧ n < 2 ^ 31 ∧ n ≡ polynomial units [ZMOD 2 ^ 32])
      ∧ color s = "#" ++ Text.hexDigits 2 (polynomial units % 2 ^ 32 % 0x100)
          ++ Text.hexDigits 2 (polynomial units % 2 ^ 32 / 0x100 % 0x100)
          ++ Text.hexDigits 2 (polynomial units % 2 ^ 32 / 0x10000 % 0x100) := by
  refine ⟨s.units16, fun other => Text.isUtf16_iff, fun n => eq_toInt_iff (hash_modEq s), ?_⟩
  have hbits : polynomial s.units16 ≡ polynomial s.units16 % 2 ^ 32 [MOD 2 ^ 24] :=
    ((Nat.mod_modEq _ _).of_dvd (pow_dvd_pow 2 (by decide))).symm
  rw [color_eq, colorOf_inj.mpr hbits, colorOf_eq]

/-- A negative hash. -/
example : hash "alice.test" = -600901824 ∧ color "alice.test" = "#40f72e" := by decide +kernel

end Placeholder

end Avatar
