import Mathlib.Data.List.Forall2
import Avatar.Proofs.Spellings

/-! # How a list of addresses is judged

    A list is let through if every text in it spells an address that is
    public; otherwise its first other text decides what is said.  Nothing
    depends on how an address is spelled: not on letter case, zeros, the
    place of a gap, a dotted tail or a scope (`judged_by_value`). -/

namespace Avatar.Address

/-! ## The one form of an address -/

theorem spellsGroup_groupText {g : Nat} (h : g < 0x10000) : SpellsGroup g (groupText g) := by
  have hdigit : ∀ d : Fin 16, (CodePoint.hexDigit d).asciiLowercase = CodePoint.hexDigit d := by
    decide
  obtain ⟨digits, -, hlt, htext, -⟩ := Text.exists_digits (show 1 < 16 by decide) (Nat.le_refl 16) g
  refine ⟨?_, 0, ?_⟩
  · rw [groupText, List.length_map]
    exact (Nat.length_toDigits_le_iff (by decide) (by decide)).mpr h
  · rw [List.replicate_zero, List.nil_append, groupText, htext, Text.asciiLowercase, List.map_map]
    exact List.map_congr_left fun d hd => hdigit ⟨d, hlt d hd⟩

theorem spellsGroups_groupsText (isEnd : Bool) {gs : List Nat} (hne : gs ≠ [])
    (h : ∀ g ∈ gs, g < 0x10000) : SpellsGroups isEnd gs (groupsText gs) := by
  induction gs with
  | nil => exact absurd rfl hne
  | cons g gs ih =>
      obtain ⟨hg, hgs⟩ := List.forall_mem_cons.mp h
      cases gs with
      | nil => exact .one (spellsGroup_groupText hg)
      | cons next more =>
          have hmore : next :: more ≠ [] := List.cons_ne_nil next more
          have hjoin : groupsText (g :: next :: more)
              = groupText g ++ CodePoint.ofChar ':' :: groupsText (next :: more) :=
            List.append_assoc ..
          rw [hjoin]
          exact .more (spellsGroup_groupText hg) (ih hmore hgs)

theorem spellsSide_groupsText (isEnd : Bool) {gs : List Nat} (h : ∀ g ∈ gs, g < 0x10000) :
    SpellsSide isEnd gs (groupsText gs) := by
  cases gs with
  | nil => exact .inl ⟨rfl, rfl⟩
  | cons g gs => exact .inr (spellsGroups_groupsText isEnd (List.cons_ne_nil g gs) h)

/-- Eight groups are spelled by their shortest form. -/
theorem spellsEight_shortest {gs : List Nat} (hlength : gs.length = 8)
    (h : ∀ g ∈ gs, g < 0x10000) : SpellsEight gs (shortest gs) := by
  have hsplit := eq_take_longestZeros gs
  rw [shortest]
  generalize longestZeros gs = run at hsplit ⊢
  obtain ⟨start, count⟩ := run
  dsimp only at hsplit ⊢
  split
  · have hne : gs ≠ [] := by
      rintro rfl
      exact nomatch hlength
    exact .whole (spellsGroups_groupsText true hne h) hlength
  · rename_i hcount
    obtain ⟨zeros, rfl⟩ : ∃ zeros, count = zeros + 1 := Nat.exists_eq_add_one.mpr (by omega)
    have hleft : SpellsSide false (gs.take start) (groupsText (gs.take start)) :=
      spellsSide_groupsText false fun g hg => h g (List.mem_of_mem_take hg)
    have hright : SpellsSide true (gs.drop (start + (zeros + 1)))
        (groupsText (gs.drop (start + (zeros + 1)))) :=
      spellsSide_groupsText true fun g hg => h g (List.mem_of_mem_drop hg)
    have hcounted := congrArg List.length hsplit
    rw [hlength, List.length_append, List.length_append, List.length_replicate] at hcounted
    rw [List.append_assoc]
    have hspells := SpellsEight.short zeros hleft hright hcounted.symm
    rwa [← hsplit] at hspells

/-- Every address is spelled by its one form. -/
theorem spells_written (address : Address) : Spells address (written address) := by
  cases address with
  | v4 a => exact .four a
  | v6 a => exact .six (spellsEight_shortest (length_groupsOf 8 a.toNat) (groupsOf_lt 8 a.toNat))

/-! ## Lists of addresses -/

/-- A text spells an address that is public. -/
def SpellsPublic (text : Text) : Prop := ∃ address, Spells address text ∧ address.isGlobal = true

theorem check_eq_ok_iff_spellsPublic {text : Text} : check text = .ok () ↔ SpellsPublic text := by
  simp only [check_eq_ok_iff, parse?_eq_some_iff, SpellsPublic]

theorem check_eq_error_iff {text : Text} {failure : Failure} :
    check text = .error failure ↔
      (∃ address, Spells address text ∧ address.isGlobal = false)
          ∧ failure = .nonPublicAddress text
        ∨ (∀ address, ¬ Spells address text) ∧ failure = .notAnAddress text := by
  simp only [← parse?_eq_some_iff, ← ne_eq, ← Option.eq_none_iff_forall_ne_some]
  rw [check]
  constructor
  · intro h
    split at h
    · rename_i hparse
      exact .inr ⟨hparse, (Except.error.inj h).symm⟩
    · rename_i address hparse
      split at h
      · cases h
      · rename_i hglobal
        exact .inl ⟨⟨address, hparse, Bool.eq_false_iff.mpr hglobal⟩, (Except.error.inj h).symm⟩
  · rintro (⟨⟨address, hparse, hglobal⟩, rfl⟩ | ⟨hparse, rfl⟩)
    · rw [hparse]
      exact if_neg (Bool.eq_false_iff.mp hglobal)
    · rw [hparse]

/-- A text is another spelling of the address that the first one spells, or
    the same text. -/
def SpelledAlike (text other : Text) : Prop :=
  text = other ∨ ∃ address, Spells address text ∧ Spells address other

theorem SpelledAlike.symm {text other : Text} (h : SpelledAlike text other) :
    SpelledAlike other text := by
  rcases h with rfl | ⟨address, htext, hother⟩
  · exact .inl rfl
  · exact .inr ⟨address, hother, htext⟩

theorem SpelledAlike.spellsPublic {text other : Text} (h : SpelledAlike text other)
    (htext : SpellsPublic text) : SpellsPublic other := by
  rcases h with rfl | ⟨address, hspells, hother⟩
  · exact htext
  · obtain ⟨spelled, hspelled, hglobal⟩ := htext
    have hsame : spelled = address := hspelled.unique hspells
    exact ⟨address, hother, hsame ▸ hglobal⟩

theorem screen_eq_ok_self_iff {texts : List Text} :
    screen texts = .ok texts ↔ ∀ text ∈ texts, SpellsPublic text := by
  simp only [screen_eq_ok_iff, check_eq_ok_iff_spellsPublic, true_and]

theorem screen_of_spelledAlike {texts others : List Text}
    (h : List.Forall₂ SpelledAlike texts others) :
    screen others = .ok others ↔ screen texts = .ok texts := by
  rw [screen_eq_ok_self_iff, screen_eq_ok_self_iff]
  induction h with
  | nil => exact Iff.rfl
  | cons hfirst _ ih =>
      rw [List.forall_mem_cons, List.forall_mem_cons, ih]
      exact and_congr_left fun _ => ⟨hfirst.symm.spellsPublic, hfirst.spellsPublic⟩

theorem spelledAlike_written {addresses : List Address} {texts : List Text}
    (h : List.Forall₂ Spells addresses texts) :
    List.Forall₂ SpelledAlike texts (addresses.map written) := by
  induction h with
  | nil => exact .nil
  | cons hfirst _ ih => exact .cons (.inr ⟨_, hfirst, spells_written _⟩) ih

/-- How a list of addresses is judged. -/
structure IsJudgedByValue (texts : List Text) : Prop where
  /-- It is let through if each text spells an address that is public. -/
  passes : screen texts = .ok texts ↔ ∀ text ∈ texts, SpellsPublic text
  /-- Nothing else comes out of it. -/
  unchanged (result : List Text) : screen texts = .ok result → result = texts
  /-- Otherwise the first text that does not decides what is said: that the
      address is not public, or that there is no address. -/
  fails (failure : Failure) : screen texts = .error failure ↔
    ∃ before text after, texts = before ++ text :: after
      ∧ (∀ earlier ∈ before, SpellsPublic earlier)
      ∧ ((∃ address, Spells address text ∧ address.isGlobal = false)
            ∧ failure = .nonPublicAddress text
          ∨ (∀ address, ¬ Spells address text) ∧ failure = .notAnAddress text)
  /-- The text is named. -/
  named (text : Text) : (Failure.nonPublicAddress text).message
    = Text.ofString "Attempted SSRF to non-public IP: " ++ text
  /-- A list with other spellings of the same addresses is let through
      where this one is. -/
  respelled (others : List Text) : List.Forall₂ SpelledAlike texts others →
    (screen others = .ok others ↔ screen texts = .ok texts)
  /-- So is the list with the one form of each address. -/
  normal (addresses : List Address) : List.Forall₂ Spells addresses texts →
    (screen (addresses.map written) = .ok (addresses.map written) ↔ screen texts = .ok texts)

/-- A list of addresses is judged by what the addresses are. -/
theorem judged_by_value (texts : List Text) : IsJudgedByValue texts := by
  constructor
  case passes => exact screen_eq_ok_self_iff
  case unchanged =>
    intro result hscreen
    exact (screen_eq_ok_iff.mp hscreen).1
  case fails =>
    intro failure
    simp only [screen_eq_error_iff, check_eq_ok_iff_spellsPublic, check_eq_error_iff]
  case named =>
    intro text
    rfl
  case respelled =>
    intro others halike
    exact screen_of_spelledAlike halike
  case normal =>
    intro addresses hspells
    exact screen_of_spelledAlike (spelledAlike_written hspells)

/-- Capital letters, a dotted tail and a scope do not hide a private host
    behind one that is public. -/
example : screen ["1.1.1.1", "::FFFF:10.0.0.1%eth0", "localhost"]
    = .error (.nonPublicAddress "::FFFF:10.0.0.1%eth0") := by rfl

end Avatar.Address
