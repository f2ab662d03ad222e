import Mathlib.Data.List.Basic
import Avatar.Proofs.Mapped
import Avatar.Proofs.Numerals

/-! # Spellings of an address

    An address of version four is spelled in one way.  One of version six
    is spelled in many: with leading zeros, in either letter case, with a
    run of zeros left out, with the last two groups as an address of
    version four, and with any scope.  The grammar of the spellings is
    written down apart from the reader, and the reader accepts exactly
    what the grammar gives (`parse?_eq_some_iff`). -/

namespace Avatar.Address

/-! ## The grammar -/

/-- A group may have leading zeros as long as there are four digits at
    most, and its letters may be in either case. -/
def SpellsGroup (g : Nat) (s : Text) : Prop :=
  s.length ≤ 4 ∧ ∃ zeros,
    s.asciiLowercase = List.replicate zeros (CodePoint.ofChar '0') ++ groupText g

/-- Groups stand between colons.  At the end of an address, the last two
    may be an address of version four. -/
inductive SpellsGroups (isEnd : Bool) : List Nat → Text → Prop
  /-- One group. -/
  | one {g : Nat} {s : Text} (h : SpellsGroup g s) : SpellsGroups isEnd [g] s
  /-- The last two groups, as an address of version four. -/
  | dotted (a : BitVec 32) (hend : isEnd = true) :
      SpellsGroups isEnd [a.toNat / 0x10000, a.toNat % 0x10000] (written (.v4 a))
  /-- A group and others behind it. -/
  | more {g : Nat} {gs : List Nat} {s rest : Text} (h : SpellsGroup g s)
      (hrest : SpellsGroups isEnd gs rest) :
      SpellsGroups isEnd (g :: gs) (s ++ CodePoint.ofChar ':' :: rest)

/-- On one side of a gap there may be groups or none. -/
def SpellsSide (isEnd : Bool) (gs : List Nat) (s : Text) : Prop :=
  gs = [] ∧ s = [] ∨ SpellsGroups isEnd gs s

/-- Eight groups may all be there, or two colons stand for some that are
    zero. -/
inductive SpellsEight : List Nat → Text → Prop
  /-- All groups are there. -/
  | whole {gs : List Nat} {s : Text} (h : SpellsGroups true gs s) (hlength : gs.length = 8) :
      SpellsEight gs s
  /-- At least one group is left out. -/
  | short {high low : List Nat} {left right : Text} (zeros : Nat)
      (hleft : SpellsSide false high left) (hright : SpellsSide true low right)
      (hlength : high.length + (zeros + 1) + low.length = 8) :
      SpellsEight (high ++ List.replicate (zeros + 1) 0 ++ low)
        (left ++ (Text.ofString "::" ++ right))

/-- The spellings of an address. -/
inductive Spells : Address → Text → Prop
  /-- Four decimal octets. -/
  | four (a : BitVec 32) : Spells (.v4 a) (written (.v4 a))
  /-- Eight groups. -/
  | six {a : BitVec 128} {s : Text} (h : SpellsEight (groupsOf 8 a.toNat) s) : Spells (.v6 a) s
  /-- Eight groups and a scope. -/
  | withScope {a : BitVec 128} {s scope : Text} (h : SpellsEight (groupsOf 8 a.toNat) s)
      (hne : scope ≠ []) (hpercent : CodePoint.ofChar '%' ∉ scope)
      (hslash : CodePoint.ofChar '/' ∉ scope) :
      Spells (.v6 a) (s ++ CodePoint.ofChar '%' :: scope)

/-! ## Groups and octets -/

/-- A group is read from its spellings. -/
theorem group?_eq_some_iff {s : Text} {g : Nat} : group? s = some g ↔ SpellsGroup g s := by
  rw [SpellsGroup, groupText, ← spells_number_iff (by decide) (by decide), group?]
  constructor
  · intro h
    split at h
    · exact nomatch h
    · rename_i hshape
      rw [Bool.or_eq_true, not_or, List.isEmpty_iff, decide_eq_true_eq, Nat.not_lt] at hshape
      obtain ⟨digits, hdigits, hvalue⟩ := Option.map_eq_some_iff.mp h
      obtain ⟨hlt, htext⟩ := mapM_hexValue?_eq_some_iff.mp hdigits
      refine ⟨hshape.2, digits, ?_, hlt, htext, hvalue⟩
      rintro rfl
      exact hshape.1 (List.map_eq_nil_iff.mp htext)
  · rintro ⟨hlength, digits, hne, hlt, htext, hvalue⟩
    have hnonempty : s ≠ [] := by
      rintro rfl
      exact hne (List.map_eq_nil_iff.mp htext.symm)
    have hshape : ¬ (s.isEmpty || decide (4 < s.length)) = true := by
      rw [Bool.or_eq_true, not_or, List.isEmpty_iff, decide_eq_true_eq, Nat.not_lt]
      exact ⟨hnonempty, hlength⟩
    rw [if_neg hshape, mapM_hexValue?_eq_some_iff.mpr ⟨hlt, htext⟩, Option.map_some, hvalue]

/-- An octet is read from the one way to write it. -/
theorem octet?_eq_some_iff {s : Text} {n : Nat} :
    octet? s = some n ↔ n ≤ 255 ∧ s = Text.ofNat n := by
  constructor
  · intro h
    have hdigit := octet?_isDigit h
    rw [octet?] at h
    split at h
    · cases h
    · rename_i hshape
      split at h
      · cases h
      · rename_i hleading
        obtain ⟨hle, hvalue⟩ := Option.ite_none_right_eq_some.mp h
        have hvalue : ofDigitsIn 10 (s.map (·.val - '0'.toNat)) = n := Option.some.inj hvalue
        refine ⟨hvalue ▸ hle, ?_⟩
        have hne : s ≠ [] := by
          rintro rfl
          exact hshape rfl
        obtain ⟨hlt, htext⟩ := digits_of_isDigit hdigit
        obtain ⟨zeros, hzeros⟩ := (spells_number_iff (show 1 < 10 by decide) (by decide)).mp
          ⟨_, mt List.map_eq_nil_iff.mp hne, hlt, htext, hvalue⟩
        cases zeros with
        | zero => exact hzeros
        | succ zeros =>
            -- no zero is read before another digit
            exfalso
            apply hleading
            have hlast : 0 < (Nat.toDigits 10 n).length := Nat.length_toDigits_pos
            rw [Bool.and_eq_true, decide_eq_true_eq, Text.startsWith_iff, hzeros,
              List.length_append, List.length_replicate, List.length_map]
            exact ⟨by omega, _, rfl⟩
  · rintro ⟨hle, rfl⟩
    have hread : ∀ n : Fin 256, octet? (Text.ofNat n) = some n.val := by decide +kernel
    exact hread ⟨n, Nat.lt_succ_of_le hle⟩

/-! ## Version four -/

/-- The four octets of an address of version four. -/
def octetsOf (a : BitVec 32) : List Nat := [24, 16, 8, 0].map fun shift => a.toNat >>> shift % 0x100

theorem octetsOf_le (a : BitVec 32) : ∀ n ∈ octetsOf a, n ≤ 255 := by
  intro n hn
  obtain ⟨shift, -, rfl⟩ := List.mem_map.mp hn
  exact Nat.le_of_lt_succ (Nat.mod_lt _ (by decide))

theorem ofDigitsIn_octetsOf (a : BitVec 32) :
    BitVec.ofNat 32 (ofDigitsIn 0x100 (octetsOf a)) = a := by
  apply BitVec.eq_of_toNat_eq
  have hlt := a.isLt
  simp only [octetsOf, ofDigitsIn, List.map_cons, List.map_nil, List.foldl_cons, List.foldl_nil,
    BitVec.toNat_ofNat, Nat.shiftRight_eq_div_pow]
  omega

theorem octetsOf_ofDigitsIn {w x y z : Nat} (h : ∀ n ∈ [w, x, y, z], n ≤ 255) :
    octetsOf (BitVec.ofNat 32 (ofDigitsIn 0x100 [w, x, y, z])) = [w, x, y, z] := by
  simp only [List.forall_mem_cons, List.not_mem_nil, false_imp_iff, implies_true, and_true] at h
  simp only [octetsOf, ofDigitsIn, List.map_cons, List.map_nil, List.foldl_cons, List.foldl_nil,
    BitVec.toNat_ofNat, Nat.shiftRight_eq_div_pow, List.cons.injEq, and_true]
  omega

theorem written_v4 (a : BitVec 32) :
    written (.v4 a) = Text.join [CodePoint.ofChar '.'] ((octetsOf a).map Text.ofNat) := rfl

/-- An address of version four is read from the one way to write it. -/
theorem parse4?_eq_some_iff {s : Text} {a : BitVec 32} :
    parse4? s = some a ↔ s = written (.v4 a) := by
  have hoctets {pieces : List Text} {ns : List Nat} :
      pieces.mapM octet? = some ns ↔ (∀ n ∈ ns, n ≤ 255) ∧ pieces.map id = ns.map Text.ofNat :=
    mapM_eq_some_iff fun _ _ => octet?_eq_some_iff
  rw [parse4?, written_v4]
  constructor
  · intro h
    split at h
    · rename_i w x y z hpieces
      obtain ⟨hle, hpieces⟩ := hoctets.mp hpieces
      rw [List.map_id] at hpieces
      obtain rfl := Option.some.inj h
      rw [octetsOf_ofDigitsIn hle, ← hpieces, Text.join_splitOn]
    · cases h
  · rintro rfl
    have hdot : ∀ piece ∈ (octetsOf a).map Text.ofNat, CodePoint.ofChar '.' ∉ piece := by
      intro piece hpiece hmem
      obtain ⟨n, hn, rfl⟩ := List.mem_map.mp hpiece
      have hdigit := octet?_isDigit (octet?_eq_some_iff.mpr ⟨octetsOf_le a n hn, rfl⟩) _ hmem
      exact absurd hdigit (by decide)
    have hne : (octetsOf a).map Text.ofNat ≠ [] := List.cons_ne_nil _ _
    have hread : ((octetsOf a).map Text.ofNat).mapM octet? = some (octetsOf a) :=
      hoctets.mpr ⟨octetsOf_le a, List.map_id _⟩
    rw [Text.splitOn_join hne hdot, hread]
    exact congrArg some (ofDigitsIn_octetsOf a)

theorem parse4?_written (a : BitVec 32) : parse4? (written (.v4 a)) = some a :=
  parse4?_eq_some_iff.mpr rfl

/-! ## Groups between colons -/

section
variable {isEnd : Bool} {g : Nat} {gs : List Nat} {s t : Text}

theorem SpellsGroup.ne_nil (h : SpellsGroup g s) : s ≠ [] := by
  rintro rfl
  exact nomatch group?_eq_some_iff.mpr h

/-- A group is spelled with hexadecimal digits only. -/
theorem SpellsGroup.not_mem (h : SpellsGroup g s) {c : CodePoint} (hc : c.hexValue? = none) :
    c ∉ s := by
  have hread := group?_eq_some_iff.mpr h
  rw [group?] at hread
  split at hread
  · exact nomatch hread
  · obtain ⟨digits, hdigits, -⟩ := Option.map_eq_some_iff.mp hread
    intro hmem
    obtain ⟨d, hd⟩ := exists_of_mem_of_mapM hdigits c hmem
    rw [hc] at hd
    exact nomatch hd

theorem SpellsGroup.not_mem_colon (h : SpellsGroup g s) : CodePoint.ofChar ':' ∉ s :=
  h.not_mem (by decide)

theorem not_mem_colon_written (a : BitVec 32) : CodePoint.ofChar ':' ∉ written (.v4 a) :=
  not_mem_of_parse4? (parse4?_written a) (by decide) (by decide)

/-- What is read between colons is spelled there. -/
theorem spellsGroups_of_groups? {pieces : List Text} (hne : pieces ≠ [])
    (h : groups? isEnd pieces = some gs) :
    SpellsGroups isEnd gs (Text.join [CodePoint.ofChar ':'] pieces) := by
  induction pieces generalizing gs with
  | nil => exact absurd rfl hne
  | cons piece pieces ih =>
      cases pieces with
      | nil =>
          rw [groups?] at h
          split at h
          · rename_i hdotted
            rw [Bool.and_eq_true] at hdotted
            obtain ⟨a, ha, rfl⟩ := Option.map_eq_some_iff.mp h
            obtain rfl := parse4?_eq_some_iff.mp ha
            exact .dotted a hdotted.1
          · obtain ⟨g, hg, rfl⟩ := Option.map_eq_some_iff.mp h
            exact .one (group?_eq_some_iff.mp hg)
      | cons next more =>
          have hmore : next :: more ≠ [] := List.cons_ne_nil next more
          rw [groups?] at h
          · split at h
            · rename_i g rest hg hrest
              obtain rfl := Option.some.inj h
              rw [Text.join, List.append_assoc, List.singleton_append]
              · exact .more (group?_eq_some_iff.mp hg) (ih hmore hrest)
              · exact hmore
            · cases h
          · exact hmore

/-- What is spelled is read piece by piece. -/
theorem groups?_of_spellsGroups (h : SpellsGroups isEnd gs s) :
    groups? isEnd (s.splitOn ':') = some gs := by
  induction h with
  | one hgroup =>
      have hdot := hgroup.not_mem (c := CodePoint.ofChar '.') (by decide)
      rw [Text.splitOn_of_not_mem hgroup.not_mem_colon, groups?, if_neg,
        group?_eq_some_iff.mpr hgroup]
      · rfl
      · rw [Bool.and_eq_true, List.contains_iff_mem]
        exact fun h => hdot h.2
  | dotted a hend =>
      rw [Text.splitOn_of_not_mem (not_mem_colon_written a), hend]
      exact groups?_of_parse4? (parse4?_written a)
  | more hgroup hrest ih =>
      rw [Text.splitOn_append_cons hgroup.not_mem_colon, groups?, group?_eq_some_iff.mpr hgroup, ih]
      exact Text.splitOn_ne_nil _ _

theorem groups?_eq_some_iff :
    groups? isEnd (s.splitOn ':') = some gs ↔ SpellsGroups isEnd gs s := by
  constructor
  · intro h
    have hspells := spellsGroups_of_groups? (Text.splitOn_ne_nil _ _) h
    rwa [Text.join_splitOn] at hspells
  · exact groups?_of_spellsGroups

theorem SpellsGroups.ne_nil (h : SpellsGroups isEnd gs s) : s ≠ [] := by
  cases h with
  | one hgroup => exact hgroup.ne_nil
  | dotted a => exact List.ne_nil_of_mem (parse4?_spelling (parse4?_written a)).1
  | more hgroup => exact List.append_ne_nil_of_left_ne_nil hgroup.ne_nil _

theorem side?_eq_some_iff : side? isEnd s = some gs ↔ SpellsSide isEnd gs s := by
  rw [side?, SpellsSide]
  cases s with
  | nil =>
      constructor
      · intro h
        exact .inl ⟨(Option.some.inj h).symm, rfl⟩
      · rintro (⟨rfl, -⟩ | h)
        · rfl
        · exact absurd rfl h.ne_nil
  | cons c s =>
      rw [List.isEmpty_cons, if_neg Bool.false_ne_true, groups?_eq_some_iff]
      constructor
      · exact .inr
      · rintro (⟨-, h⟩ | h)
        · exact nomatch h
        · exact h

/-! ## Gaps -/

theorem eq_of_gap? {left right : Text} (h : gap? s = some (left, right)) :
    s = left ++ (Text.ofString "::" ++ right) := by
  induction s generalizing left with
  | nil => exact nomatch h
  | cons c s ih =>
      rw [gap?] at h
      split at h
      · rename_i after hafter
        obtain ⟨rfl, rfl⟩ := Prod.mk.inj (Option.some.inj h)
        have hsplit := Text.after?_eq_some_iff.mp hafter
        exact hsplit
      · obtain ⟨⟨before, behind⟩, hsides, hpair⟩ := Option.map_eq_some_iff.mp h
        obtain ⟨rfl, rfl⟩ := Prod.mk.inj hpair
        rw [ih hsides]
        rfl

/-- Two colons begin only at a colon that another one follows. -/
theorem gap?_cons {c : CodePoint} (h : c ≠ CodePoint.ofChar ':' ∨ s.head? ≠ CodePoint.ofChar ':') :
    gap? (c :: s) = (gap? s).map fun sides => (c :: sides.1, sides.2) := by
  cases hafter : Text.after? "::" (c :: s) with
  | none => rw [gap?, hafter]
  | some right =>
      have hsplit := Text.after?_eq_some_iff.mp hafter
      obtain ⟨rfl, rfl⟩ := List.cons.inj hsplit
      rcases h with hc | hs
      · exact absurd rfl hc
      · exact absurd rfl hs

theorem gap?_append_of_not_mem (h : CodePoint.ofChar ':' ∉ s) (t : Text) :
    gap? (s ++ t) = (gap? t).map fun sides => (s ++ sides.1, sides.2) := by
  induction s with
  | nil => exact (congrFun Option.map_id (gap? t)).symm
  | cons c s ih =>
      rw [List.mem_cons, not_or] at h
      rw [List.cons_append, gap?_cons (.inl (Ne.symm h.1)), ih h.2, Option.map_map]
      rfl

/-- Groups do not begin with a colon. -/
theorem SpellsGroups.head?_append_ne (h : SpellsGroups isEnd gs s) (t : Text) :
    (s ++ t).head? ≠ CodePoint.ofChar ':' := by
  have hpiece {piece : Text} (hne : piece ≠ []) (hcolon : CodePoint.ofChar ':' ∉ piece) (t : Text) :
      (piece ++ t).head? ≠ CodePoint.ofChar ':' := by
    rw [List.head?_append_of_ne_nil _ hne]
    exact fun hhead => hcolon (List.mem_of_head? hhead)
  cases h with
  | one hgroup => exact hpiece hgroup.ne_nil hgroup.not_mem_colon t
  | dotted a hend => exact hpiece (SpellsGroups.dotted a hend).ne_nil (not_mem_colon_written a) t
  | more hgroup =>
      rw [List.append_assoc]
      exact hpiece hgroup.ne_nil hgroup.not_mem_colon _

/-- No two colons stand next to each other in groups, so the first ones are
    found behind them. -/
theorem SpellsGroups.gap?_append (h : SpellsGroups isEnd gs s) (t : Text) :
    gap? (s ++ t) = (gap? t).map fun sides => (s ++ sides.1, sides.2) := by
  induction h with
  | one hgroup => exact gap?_append_of_not_mem hgroup.not_mem_colon t
  | dotted a => exact gap?_append_of_not_mem (not_mem_colon_written a) t
  | more hgroup hrest ih =>
      rw [List.append_assoc, gap?_append_of_not_mem hgroup.not_mem_colon, List.cons_append,
        gap?_cons (.inr (hrest.head?_append_ne t)), ih, Option.map_map, Option.map_map]
      congr 1
      funext sides
      simp

theorem SpellsGroups.gap?_eq_none (h : SpellsGroups isEnd gs s) : gap? s = none := by
  have hgap := h.gap?_append []
  rwa [List.append_nil] at hgap

theorem SpellsSide.gap?_append (h : SpellsSide isEnd gs s) (right : Text) :
    gap? (s ++ (Text.ofString "::" ++ right)) = some (s, right) := by
  rcases h with ⟨-, rfl⟩ | h
  · rfl
  · rw [h.gap?_append]
    show some (s ++ [], right) = some (s, right)
    rw [List.append_nil]

/-- Eight groups are read from their spellings. -/
theorem eightGroups?_eq_some_iff : eightGroups? s = some gs ↔ SpellsEight gs s := by
  rw [eightGroups?]
  constructor
  · intro h
    split at h
    · split at h
      · rename_i groups hgroups
        obtain ⟨hlength, hsame⟩ := Option.ite_none_right_eq_some.mp h
        obtain rfl := Option.some.inj hsame
        exact .whole (groups?_eq_some_iff.mp hgroups) hlength
      · cases h
    · rename_i left right hgap
      split at h
      · rename_i high low hhigh hlow
        obtain ⟨hlength, hsame⟩ := Option.ite_none_right_eq_some.mp h
        obtain ⟨zeros, hzeros⟩ : ∃ zeros, 8 - (high.length + low.length) = zeros + 1 :=
          Nat.exists_eq_add_one.mpr (by omega)
        obtain rfl := Option.some.inj hsame
        rw [hzeros, eq_of_gap? hgap]
        exact .short zeros (side?_eq_some_iff.mp hhigh) (side?_eq_some_iff.mp hlow) (by omega)
      · cases h
  · intro h
    cases h with
    | whole h hlength => simp only [h.gap?_eq_none, groups?_eq_some_iff.mpr h, if_pos hlength]
    | short zeros hleft hright hlength =>
        rename_i high low left right
        have hzeros : 8 - (high.length + low.length) = zeros + 1 := by omega
        simp only [hleft.gap?_append, side?_eq_some_iff.mpr hleft, side?_eq_some_iff.mpr hright,
          hzeros]
        exact if_pos (by omega)

/-- Groups are spelled with hexadecimal digits, colons and dots. -/
theorem SpellsGroups.not_mem (h : SpellsGroups isEnd gs s) {c : CodePoint}
    (hc : c.hexValue? = none) (hcolon : c ≠ CodePoint.ofChar ':')
    (hdot : c ≠ CodePoint.ofChar '.') : c ∉ s := by
  induction h with
  | one hgroup => exact hgroup.not_mem hc
  | dotted a =>
      have hdigit : c.isDigit = false := by
        rw [CodePoint.hexValue?] at hc
        split at hc
        · cases hc
        · rename_i hnot
          exact Bool.eq_false_iff.mpr hnot
      exact not_mem_of_parse4? (parse4?_written a) hdigit hdot
  | more hgroup _ ih =>
      rw [List.mem_append, List.mem_cons, not_or, not_or]
      exact ⟨hgroup.not_mem hc, hcolon, ih⟩

theorem SpellsEight.not_mem (h : SpellsEight gs s) {c : CodePoint} (hc : c.hexValue? = none)
    (hcolon : c ≠ CodePoint.ofChar ':') (hdot : c ≠ CodePoint.ofChar '.') : c ∉ s := by
  have hside {isEnd : Bool} {gs : List Nat} {s : Text} (h : SpellsSide isEnd gs s) : c ∉ s := by
    rcases h with ⟨-, rfl⟩ | h
    · exact List.not_mem_nil
    · exact h.not_mem hc hcolon hdot
  cases h with
  | whole h => exact h.not_mem hc hcolon hdot
  | short zeros hleft hright =>
      have hgap : ∀ d ∈ Text.ofString "::", d = CodePoint.ofChar ':' := by decide
      rw [List.mem_append, List.mem_append, not_or, not_or]
      exact ⟨hside hleft, mt (hgap c) hcolon, hside hright⟩

theorem SpellsEight.mem_colon (h : SpellsEight gs s) : CodePoint.ofChar ':' ∈ s := by
  cases h with
  | whole h hlength =>
      cases h with
      | one => exact nomatch hlength
      | dotted => exact nomatch hlength
      | more => exact List.mem_append_right _ List.mem_cons_self
  | short => exact List.mem_append_right _ List.mem_cons_self

/-! ## Values -/

theorem SpellsGroup.lt (h : SpellsGroup g s) : g < 0x10000 := by
  obtain ⟨hlength, hzeros⟩ := h
  obtain ⟨digits, -, hlt, htext, rfl⟩ :=
    (spells_number_iff (by decide) (Nat.le_refl 16)).mpr hzeros
  have hcount : digits.length = s.length := by
    rw [← List.length_map CodePoint.hexDigit, ← htext, Text.asciiLowercase, List.length_map]
  calc ofDigitsIn 16 digits < 16 ^ digits.length := ofDigitsIn_lt hlt
    _ ≤ 16 ^ 4 := Nat.pow_le_pow_right (by decide) (hcount ▸ hlength)

theorem SpellsGroups.lt (h : SpellsGroups isEnd gs s) : ∀ g ∈ gs, g < 0x10000 := by
  induction h with
  | one hgroup =>
      intro g hg
      rw [List.mem_singleton.mp hg]
      exact hgroup.lt
  | dotted a =>
      have hlt := a.isLt
      rw [List.forall_mem_cons, List.forall_mem_singleton]
      omega
  | more hgroup _ ih => exact List.forall_mem_cons.mpr ⟨hgroup.lt, ih⟩

theorem SpellsEight.lt (h : SpellsEight gs s) : ∀ g ∈ gs, g < 0x10000 := by
  have hside {isEnd : Bool} {gs : List Nat} {s : Text} (h : SpellsSide isEnd gs s) :
      ∀ g ∈ gs, g < 0x10000 := by
    rcases h with ⟨rfl, -⟩ | h
    · exact List.forall_mem_nil _
    · exact h.lt
  cases h with
  | whole h => exact h.lt
  | short zeros hleft hright =>
      rw [List.forall_mem_append, List.forall_mem_append]
      refine ⟨⟨hside hleft, fun g hg => ?_⟩, hside hright⟩
      rw [List.eq_of_mem_replicate hg]
      decide

theorem SpellsEight.length_eq (h : SpellsEight gs s) : gs.length = 8 := by
  cases h with
  | whole h hlength => exact hlength
  | short zeros hleft hright hlength =>
      rw [List.length_append, List.length_append, List.length_replicate]
      exact hlength

/-- Eight groups that are spelled are those of the number that they stand
    for. -/
theorem SpellsEight.groupsOf_eq (h : SpellsEight gs s) :
    groupsOf 8 (BitVec.ofNat 128 (ofDigitsIn 0x10000 gs)).toNat = gs := by
  have hlt : ofDigitsIn 0x10000 gs < 2 ^ 128 := by
    calc ofDigitsIn 0x10000 gs < 0x10000 ^ gs.length := ofDigitsIn_lt h.lt
      _ = 2 ^ 128 := congrArg (0x10000 ^ ·) h.length_eq
  rw [BitVec.toNat_ofNat, Nat.mod_eq_of_lt hlt]
  have hgroups := groupsOf_ofDigitsIn h.lt
  rwa [h.length_eq] at hgroups

end

/-! ## Version six -/

/-- A scope is what stands behind the first percent sign. -/
theorem withoutScope?_eq_some_iff {s address : Text} :
    withoutScope? s = some address ↔ CodePoint.ofChar '%' ∉ address
      ∧ (s = address ∨ ∃ scope, s = address ++ CodePoint.ofChar '%' :: scope ∧ scope ≠ []
        ∧ CodePoint.ofChar '%' ∉ scope) := by
  rw [withoutScope?]
  constructor
  · intro h
    by_cases hpercent : CodePoint.ofChar '%' ∈ s
    · obtain ⟨before, scope, rfl, hbefore⟩ := List.eq_append_cons_of_mem hpercent
      rw [Text.cut_append_cons hbefore] at h
      dsimp only at h
      split at h
      · cases h
      · rename_i hscope
        obtain rfl := Option.some.inj h
        rw [Bool.or_eq_true, not_or, List.isEmpty_iff, List.contains_iff_mem] at hscope
        exact ⟨hbefore, .inr ⟨scope, rfl, hscope⟩⟩
    · rw [Text.cut_of_not_mem hpercent] at h
      obtain rfl := Option.some.inj h
      exact ⟨hpercent, .inl rfl⟩
  · rintro ⟨hpercent, rfl | ⟨scope, rfl, hne, hscope⟩⟩
    · rw [Text.cut_of_not_mem hpercent]
    · rw [Text.cut_append_cons hpercent]
      refine if_neg ?_
      rw [Bool.or_eq_true, not_or, List.isEmpty_iff, List.contains_iff_mem]
      exact ⟨hne, hscope⟩

/-- The groups that are spelled stand for a number, and those of the number
    are spelled. -/
theorem eightGroups?_map_eq_some_iff {s : Text} {a : BitVec 128} :
    (eightGroups? s).map (fun gs => BitVec.ofNat 128 (ofDigitsIn 0x10000 gs)) = some a ↔
      SpellsEight (groupsOf 8 a.toNat) s := by
  rw [Option.map_eq_some_iff]
  constructor
  · rintro ⟨gs, hgs, rfl⟩
    have hspells := eightGroups?_eq_some_iff.mp hgs
    rwa [hspells.groupsOf_eq]
  · intro h
    refine ⟨_, eightGroups?_eq_some_iff.mpr h, ?_⟩
    rw [ofDigitsIn_groupsOf a.isLt, BitVec.ofNat_toNat, BitVec.setWidth_eq]

/-- An address of version six is read from its spellings. -/
theorem parse6?_eq_some_iff {s : Text} {a : BitVec 128} :
    parse6? s = some a ↔ Spells (.v6 a) s := by
  rw [parse6?]
  constructor
  · intro h
    split at h
    · cases h
    · rename_i hslash
      rw [List.contains_iff_mem] at hslash
      split at h
      · cases h
      · rename_i address hscope
        have hspells := eightGroups?_map_eq_some_iff.mp h
        obtain ⟨-, rfl | ⟨scope, rfl, hne, hpercent⟩⟩ := withoutScope?_eq_some_iff.mp hscope
        · exact .six hspells
        · refine .withScope hspells hne hpercent fun hmem => hslash ?_
          exact List.mem_append_right address (List.mem_cons_of_mem _ hmem)
  · intro h
    cases h with
    | six h =>
        have hslash : CodePoint.ofChar '/' ∉ s := h.not_mem (by decide) (by decide) (by decide)
        have hpercent : CodePoint.ofChar '%' ∉ s := h.not_mem (by decide) (by decide) (by decide)
        rw [if_neg (by rwa [List.contains_iff_mem]),
          withoutScope?_eq_some_iff.mpr ⟨hpercent, .inl rfl⟩]
        exact eightGroups?_map_eq_some_iff.mpr h
    | withScope h hne hscope hslash =>
        rename_i address scope
        have hpercent : CodePoint.ofChar '%' ∉ address :=
          h.not_mem (by decide) (by decide) (by decide)
        have hnone : CodePoint.ofChar '/' ∉ address ++ CodePoint.ofChar '%' :: scope := by
          rw [List.mem_append, List.mem_cons, not_or, not_or]
          exact ⟨h.not_mem (by decide) (by decide) (by decide), by decide, hslash⟩
        rw [if_neg (by rwa [List.contains_iff_mem]),
          withoutScope?_eq_some_iff.mpr ⟨hpercent, .inr ⟨scope, rfl, hne, hscope⟩⟩]
        exact eightGroups?_map_eq_some_iff.mpr h

theorem Spells.mem_colon {s : Text} {a : BitVec 128} (h : Spells (.v6 a) s) :
    CodePoint.ofChar ':' ∈ s := by
  cases h with
  | six h => exact h.mem_colon
  | withScope h => exact List.mem_append_left _ h.mem_colon

/-- An address is read from its spellings. -/
theorem parse?_eq_some_iff {s : Text} {address : Address} :
    parse? s = some address ↔ Spells address s := by
  cases address with
  | v4 a =>
      have hspells : Spells (.v4 a) s ↔ s = written (.v4 a) := by
        constructor
        · rintro ⟨⟩
          rfl
        · rintro rfl
          exact .four a
      rw [hspells, ← parse4?_eq_some_iff, parse?]
      cases parse4? s with
      | none => simp
      | some b => simp
  | v6 a =>
      rw [← parse6?_eq_some_iff, parse?]
      cases hfour : parse4? s with
      | none => simp
      | some b =>
          -- there is no colon in an address of version four
          refine iff_of_false (by simp) fun hsix => ?_
          have hcolon := (parse6?_eq_some_iff.mp hsix).mem_colon
          exact not_mem_of_parse4? hfour (by decide) (by decide) hcolon

/-- A text spells one address at most. -/
theorem Spells.unique {s : Text} {a b : Address} (ha : Spells a s) (hb : Spells b s) : a = b := by
  rw [← parse?_eq_some_iff] at ha hb
  exact Option.some.inj (ha.symm.trans hb)

end Avatar.Address
