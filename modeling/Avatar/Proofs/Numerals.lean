import Mathlib.Algebra.Group.Nat.Defs
import Mathlib.Data.List.Induction
import Avatar.Address.Written
import Avatar.Text.Hex

/-! # Numbers in addresses

    What digits stand for and what is written for a number are two
    directions of one thing, but for zeros at the front, which may be
    written and never are (`spells_number_iff`).  The same holds of the
    groups of an address, of which there are always as many. -/

namespace Avatar.Address

/-! ## Digits -/

theorem ofDigitsIn_concat (base : Nat) (digits : List Nat) (d : Nat) :
    ofDigitsIn base (digits ++ [d]) = base * ofDigitsIn base digits + d := by
  rw [ofDigitsIn, List.foldl_append]
  rfl

theorem ofDigitsIn_zeros_append (base zeros : Nat) (digits : List Nat) :
    ofDigitsIn base (List.replicate zeros 0 ++ digits) = ofDigitsIn base digits := by
  induction zeros with
  | zero => rfl
  | succ zeros ih =>
      rw [List.replicate_succ, List.cons_append, ofDigitsIn, List.foldl_cons, Nat.mul_zero]
      exact ih

theorem ofDigitsIn_lt {base : Nat} {digits : List Nat} (h : ∀ d ∈ digits, d < base) :
    ofDigitsIn base digits < base ^ digits.length := by
  induction digits using List.reverseRecOn with
  | nil => exact Nat.zero_lt_one
  | append_singleton digits d ih =>
      obtain ⟨hdigits, hd⟩ := List.forall_mem_append.mp h
      have hd : d < base := hd d List.mem_cons_self
      have hlt := ih hdigits
      rw [ofDigitsIn_concat, List.length_append, List.length_singleton, Nat.pow_succ']
      calc base * ofDigitsIn base digits + d < base * ofDigitsIn base digits + base := by omega
        _ = base * (ofDigitsIn base digits + 1) := rfl
        _ ≤ base * base ^ digits.length := Nat.mul_le_mul_left base hlt

/-- Digits are the ones in which the number is written that they stand for,
    with zeros before them. -/
theorem exists_zeros_of_digits {base : Nat} (hbase : 1 < base) (hle : base ≤ 16)
    {digits : List Nat} (hne : digits ≠ []) (hlt : ∀ d ∈ digits, d < base) :
    ∃ zeros, digits.map CodePoint.hexDigit = List.replicate zeros (CodePoint.ofChar '0')
      ++ (Nat.toDigits base (ofDigitsIn base digits)).map CodePoint.ofChar := by
  -- the last digit is written last, unless all before it are zeros
  induction digits using List.reverseRecOn with
  | nil => exact absurd rfl hne
  | append_singleton digits d ih =>
      obtain ⟨hdigits, hd⟩ := List.forall_mem_append.mp hlt
      have hd : d < base := hd d List.mem_cons_self
      have hlast : (Nat.toDigits base d).map CodePoint.ofChar = [CodePoint.hexDigit d] := by
        rw [Nat.toDigits_of_lt_base hd, List.map_singleton,
          CodePoint.ofChar_digitChar (Nat.lt_of_lt_of_le hd hle)]
      rw [ofDigitsIn_concat, List.map_append, List.map_singleton]
      by_cases hnone : digits = []
      · subst hnone
        exact ⟨0, by simpa [ofDigitsIn] using hlast.symm⟩
      · obtain ⟨zeros, hzeros⟩ := ih hnone hdigits
        rcases Nat.eq_zero_or_pos (ofDigitsIn base digits) with hnull | hpos
        · refine ⟨zeros + 1, ?_⟩
          rw [hzeros, hnull, Nat.mul_zero, Nat.zero_add, hlast, Nat.toDigits_zero,
            List.map_singleton, List.replicate_succ']
        · refine ⟨zeros, ?_⟩
          rw [hzeros, ← Nat.toDigits_append_toDigits hbase hpos hd, List.map_append, hlast,
            List.append_assoc]

/-- A text consists of digits that stand for a number if it is that number
    in writing, with zeros before it. -/
theorem spells_number_iff {base : Nat} (hbase : 1 < base) (hle : base ≤ 16) {s : Text} {n : Nat} :
    (∃ digits : List Nat, digits ≠ [] ∧ (∀ d ∈ digits, d < base)
      ∧ s = digits.map CodePoint.hexDigit ∧ ofDigitsIn base digits = n) ↔
      ∃ zeros, s = List.replicate zeros (CodePoint.ofChar '0')
        ++ (Nat.toDigits base n).map CodePoint.ofChar := by
  constructor
  · rintro ⟨digits, hne, hlt, rfl, rfl⟩
    exact exists_zeros_of_digits hbase hle hne hlt
  · rintro ⟨zeros, rfl⟩
    obtain ⟨digits, hne, hlt, htext, hvalue⟩ := Text.exists_digits hbase hle n
    have hzero : CodePoint.hexDigit 0 = CodePoint.ofChar '0' := by decide
    refine ⟨List.replicate zeros 0 ++ digits, ?_, ?_, ?_, ?_⟩
    · exact List.append_ne_nil_of_right_ne_nil _ hne
    · rw [List.forall_mem_append]
      refine ⟨fun d hd => ?_, hlt⟩
      rw [List.eq_of_mem_replicate hd]
      exact Nat.lt_trans Nat.zero_lt_one hbase
    · rw [List.map_append, List.map_replicate, hzero, htext]
    · rw [ofDigitsIn_zeros_append]
      exact hvalue

/-! ## Lists of digits -/

/-- A list is read if each element is one of the ways to write what it is
    read as. -/
theorem mapM_eq_some_iff {α β γ : Type} {read : α → Option β} {norm : α → γ} {write : β → γ}
    {p : β → Prop} (h : ∀ x y, read x = some y ↔ p y ∧ norm x = write y) {xs : List α}
    {ys : List β} :
    xs.mapM read = some ys ↔ (∀ y ∈ ys, p y) ∧ xs.map norm = ys.map write := by
  induction xs generalizing ys with
  | nil =>
      rw [List.mapM_nil]
      constructor
      · intro hread
        obtain rfl := Option.some.inj hread
        exact ⟨List.forall_mem_nil _, rfl⟩
      · rintro ⟨-, hwritten⟩
        rw [List.map_eq_nil_iff.mp hwritten.symm]
        rfl
  | cons x xs ih =>
      rw [List.mapM_cons]
      constructor
      · intro hread
        obtain ⟨y, hy, hread⟩ := Option.bind_eq_some_iff.mp hread
        obtain ⟨rest, hrest, hread⟩ := Option.bind_eq_some_iff.mp hread
        obtain rfl := Option.some.inj hread
        obtain ⟨hp, hwritten⟩ := (h x y).mp hy
        obtain ⟨hall, hwrittenRest⟩ := ih.mp hrest
        exact ⟨List.forall_mem_cons.mpr ⟨hp, hall⟩, congrArg₂ List.cons hwritten hwrittenRest⟩
      · rintro ⟨hall, hwritten⟩
        obtain ⟨y, rest, rfl, hy, hrest⟩ := List.map_eq_cons_iff.mp hwritten.symm
        obtain ⟨hp, hall⟩ := List.forall_mem_cons.mp hall
        rw [(h x y).mpr ⟨hp, hy.symm⟩, ih.mpr ⟨hall, hrest.symm⟩]
        rfl

theorem mapM_hexValue?_eq_some_iff {s : Text} {digits : List Nat} :
    s.mapM CodePoint.hexValue? = some digits ↔
      (∀ d ∈ digits, d < 16) ∧ s.asciiLowercase = digits.map CodePoint.hexDigit :=
  mapM_eq_some_iff CodePoint.hexValue?_eq_some_iff

theorem hexDigit_of_isDigit {c : CodePoint} (h : c.isDigit = true) :
    c.val - '0'.toNat < 10 ∧ CodePoint.hexDigit (c.val - '0'.toNat) = c := by
  simp only [CodePoint.isDigit, CodePoint.isBetween, Bool.and_eq_true, decide_eq_true_eq,
    Char.reduceToNat] at h
  have hlt : c.val - '0'.toNat < 10 := by
    simp only [Char.reduceToNat]
    omega
  refine ⟨hlt, ?_⟩
  rw [CodePoint.hexDigit, if_pos hlt, show '0'.toNat + (c.val - '0'.toNat) = c.val from
    Nat.add_sub_of_le h.1, CodePoint.ofNat_val]

/-- The values of decimal digits, from which the digits come back. -/
theorem digits_of_isDigit {s : Text} (h : ∀ c ∈ s, c.isDigit = true) :
    (∀ d ∈ s.map (·.val - '0'.toNat), d < 10)
      ∧ s = (s.map (·.val - '0'.toNat)).map CodePoint.hexDigit := by
  refine ⟨fun d hd => ?_, ?_⟩
  · obtain ⟨c, hc, rfl⟩ := List.mem_map.mp hd
    exact (hexDigit_of_isDigit (h c hc)).1
  · rw [List.map_map]
    calc s = s.map id := (List.map_id s).symm
      _ = s.map (CodePoint.hexDigit ∘ (·.val - '0'.toNat)) :=
        List.map_congr_left fun c hc => (hexDigit_of_isDigit (h c hc)).2.symm

/-! ## Groups -/

/-- A number has the groups that stand for it. -/
theorem groupsOf_ofDigitsIn {gs : List Nat} (h : ∀ g ∈ gs, g < 0x10000) :
    groupsOf gs.length (ofDigitsIn 0x10000 gs) = gs := by
  induction gs using List.reverseRecOn with
  | nil => rfl
  | append_singleton gs g ih =>
      obtain ⟨hgs, hg⟩ := List.forall_mem_append.mp h
      have hg : g < 0x10000 := hg g List.mem_cons_self
      rw [ofDigitsIn_concat, List.length_append, List.length_singleton, groupsOf,
        Nat.mul_add_div (by decide), Nat.div_eq_of_lt hg, Nat.add_zero, ih hgs, Nat.mul_add_mod,
        Nat.mod_eq_of_lt hg]

theorem ofDigitsIn_groupsOf {count n : Nat} (h : n < 0x10000 ^ count) :
    ofDigitsIn 0x10000 (groupsOf count n) = n := by
  induction count generalizing n with
  | zero => exact (Nat.lt_one_iff.mp h).symm
  | succ count ih =>
      have hhigh : n / 0x10000 < 0x10000 ^ count := by
        rw [Nat.pow_succ] at h
        exact Nat.div_lt_of_lt_mul (by rwa [Nat.mul_comm])
      rw [groupsOf, ofDigitsIn_concat, ih hhigh]
      exact Nat.div_add_mod n 0x10000

theorem groupsOf_lt (count n : Nat) : ∀ g ∈ groupsOf count n, g < 0x10000 := by
  induction count generalizing n with
  | zero => exact List.forall_mem_nil _
  | succ count ih =>
      rw [groupsOf, List.forall_mem_append, List.forall_mem_singleton]
      exact ⟨ih _, Nat.mod_lt n (by decide)⟩

/-- The zeros that are left out are where they are said to be. -/
theorem eq_take_longestZeros (gs : List Nat) :
    gs = gs.take (longestZeros gs).1 ++ List.replicate (longestZeros gs).2 0
      ++ gs.drop ((longestZeros gs).1 + (longestZeros gs).2) := by
  induction gs with
  | nil => rfl
  | cons g gs ih =>
      rw [longestZeros]
      split
      · have hzeros : (g :: gs).takeWhile (· = 0) = List.replicate (zerosAt (g :: gs)) 0 :=
          List.eq_replicate_of_mem fun d hd =>
            of_decide_eq_true (List.all_eq_true.mp List.all_takeWhile d hd)
        have hwhole : (g :: gs).takeWhile (· = 0) ++ (g :: gs).dropWhile (· = 0) = g :: gs :=
          List.takeWhile_append_dropWhile
        have hrest : ((g :: gs).takeWhile (· = 0) ++ (g :: gs).dropWhile (· = 0)).drop
            (zerosAt (g :: gs)) = (g :: gs).dropWhile (· = 0) := List.drop_left' rfl
        rw [hwhole] at hrest
        rw [List.take_zero, List.nil_append, Nat.zero_add, hrest, ← hzeros, hwhole]
      · rw [List.take_succ_cons, Nat.succ_add, List.drop_succ_cons, List.cons_append,
          List.cons_append, ← ih]

end Avatar.Address
