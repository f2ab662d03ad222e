import Avatar.Address
import Avatar.Failure

/-! # Public addresses

    An address is public unless it lies in a block that is set aside, and
    a few blocks inside those are public after all.  An address of
    version six that stands for one of version four is judged by that
    one, where the block shared by carriers counts as public.  A name
    that resolves to any address that is not public is refused. -/

namespace Avatar.Address

/-- The addresses that agree with `base` in their first `length` bits. -/
structure Block (width : Nat) where
  base : BitVec width
  length : Nat

/-- Whether an address lies in a block. -/
def Block.contains {width : Nat} (block : Block width) (a : BitVec width) : Bool :=
  a >>> (width - block.length) == block.base >>> (width - block.length)

/-- The block of an address of version four. -/
def block4 (a b c d : Nat) (length : Nat) : Block 32 :=
  ⟨BitVec.ofNat 32 (ofDigitsIn 0x100 [a, b, c, d]), length⟩

/-- The block of an address of version six with the given first groups. -/
def block6 (groups : List Nat) (length : Nat) : Block 128 :=
  let padded := groups ++ List.replicate (8 - groups.length) 0
  ⟨BitVec.ofNat 128 (ofDigitsIn 0x10000 padded), length⟩

/-- The blocks of version four that are set aside. -/
def private4 : List (Block 32) := [
  block4 0 0 0 0 8, block4 10 0 0 0 8, block4 127 0 0 0 8, block4 169 254 0 0 16,
  block4 172 16 0 0 12, block4 192 0 0 0 24, block4 192 0 2 0 24, block4 192 168 0 0 16,
  block4 198 18 0 0 15, block4 198 51 100 0 24, block4 203 0 113 0 24, block4 240 0 0 0 4]

/-- The blocks inside those that are public after all. -/
def public4 : List (Block 32) := [block4 192 0 0 9 32, block4 192 0 0 10 32]

/-- The block that carriers share among their customers. -/
def shared4 : Block 32 := block4 100 64 0 0 10

/-- The blocks of version six that are set aside. -/
def private6 : List (Block 128) := [
  block6 [0, 0, 0, 0, 0, 0, 0, 1] 128, block6 [] 128, block6 [0x64, 0xff9b, 1] 48,
  block6 [0x100] 64, block6 [0x2001] 23, block6 [0x2001, 0xdb8] 32, block6 [0x2002] 16,
  block6 [0xfc00] 7, block6 [0xfe80] 10]

/-- The blocks inside those that are public after all. -/
def public6 : List (Block 128) := [
  block6 [0x2001, 1, 0, 0, 0, 0, 0, 1] 128, block6 [0x2001, 1, 0, 0, 0, 0, 0, 2] 128,
  block6 [0x2001, 3] 32, block6 [0x2001, 4, 0x112] 48, block6 [0x2001, 0x20] 28,
  block6 [0x2001, 0x30] 28]

/-- The addresses of version six that stand for one of version four. -/
def mapped : Block 128 := block6 [0, 0, 0, 0, 0, 0xffff] 96

/-- Whether an address is set aside, by blocks and their exceptions. -/
def isSetAside {width : Nat} (blocks exceptions : List (Block width)) (a : BitVec width) : Bool :=
  blocks.any (·.contains a) && !exceptions.any (·.contains a)

/-- Whether an address of version four is set aside for private use. -/
def isPrivate4 (a : BitVec 32) : Bool := isSetAside private4 public4 a

/-- Whether an address can be reached from everywhere. -/
def isGlobal : Address → Bool
  | .v4 a => !shared4.contains a && !isPrivate4 a
  | .v6 a =>
    if mapped.contains a then !isPrivate4 (a.setWidth 32) else !isSetAside private6 public6 a

/-- Refuses a text that is no address, or an address that is not
    public. -/
def check (text : Text) : Except Failure Unit :=
  match parse? text with
  | none => .error (.notAnAddress text)
  | some address =>
    if address.isGlobal then .ok () else .error (.nonPublicAddress text)

/-- Lets the addresses of a name through if every one is public; the
    first that is not decides the failure. -/
def screen (texts : List Text) : Except Failure (List Text) := do
  texts.forM check
  return texts

/-- A text passes if it is an address that is public. -/
theorem check_eq_ok_iff {text : Text} :
    check text = .ok () ↔ ∃ address, parse? text = some address ∧ address.isGlobal = true := by
  rw [check]
  cases parse? text with
  | none => simp
  | some address =>
      by_cases hglobal : address.isGlobal = true
      · simp [hglobal]
      · simp [hglobal]

/-- A list passes, and unchanged, if each text does. -/
theorem screen_eq_ok_iff {texts result : List Text} :
    screen texts = .ok result ↔ result = texts ∧ ∀ text ∈ texts, check text = .ok () := by
  have hforM : texts.forM check = .ok () ↔ ∀ text ∈ texts, check text = .ok () := by
    induction texts with
    | nil => exact ⟨fun _ text htext => (nomatch htext), fun _ => rfl⟩
    | cons text rest ih =>
        show (check text >>= fun _ => rest.forM check) = .ok () ↔ _
        rw [bind_eq_ok_iff, List.forall_mem_cons, ← ih]
        exact ⟨fun ⟨_, hfirst, hrest⟩ => ⟨hfirst, hrest⟩, fun ⟨hfirst, hrest⟩ => ⟨(), hfirst, hrest⟩⟩
  rw [screen, bind_eq_ok_iff, ← hforM]
  constructor
  · rintro ⟨_, hpass, hresult⟩
    exact ⟨(Except.ok.inj hresult).symm, hpass⟩
  · rintro ⟨rfl, hpass⟩
    exact ⟨(), hpass, rfl⟩

/-- Texts that pass do not stop the check of those behind them. -/
theorem forM_check_append {before : List Text} (h : ∀ text ∈ before, check text = .ok ())
    (rest : List Text) : (before ++ rest).forM check = rest.forM check := by
  induction before with
  | nil => rfl
  | cons first before ih =>
      obtain ⟨hfirst, hbefore⟩ := List.forall_mem_cons.mp h
      show (check first >>= fun _ => (before ++ rest).forM check) = rest.forM check
      rw [hfirst]
      exact ih hbefore

/-- A check of several texts fails at the first that does not pass. -/
theorem exists_first_refused {texts : List Text} {failure : Failure}
    (h : texts.forM check = .error failure) : ∃ before text after,
      texts = before ++ text :: after ∧ (∀ earlier ∈ before, check earlier = .ok ())
        ∧ check text = .error failure := by
  induction texts with
  | nil => exact nomatch h
  | cons first rest ih =>
      replace h : (check first >>= fun _ => rest.forM check) = .error failure := h
      cases hfirst : check first with
      | error other =>
          rw [hfirst] at h
          exact ⟨[], first, rest, rfl, List.forall_mem_nil _, hfirst.trans h⟩
      | ok _ =>
          rw [hfirst] at h
          obtain ⟨before, text, after, rfl, hbefore, htext⟩ := ih h
          exact ⟨first :: before, text, after, rfl, List.forall_mem_cons.mpr ⟨hfirst, hbefore⟩,
            htext⟩

/-- A list is refused on account of its first text that does not pass. -/
theorem screen_eq_error_iff {texts : List Text} {failure : Failure} :
    screen texts = .error failure ↔ ∃ before text after, texts = before ++ text :: after
      ∧ (∀ earlier ∈ before, check earlier = .ok ()) ∧ check text = .error failure := by
  constructor
  · intro h
    refine exists_first_refused ?_
    rw [screen] at h
    cases hpass : texts.forM check with
    | error other =>
        rw [hpass] at h
        exact congrArg Except.error (Except.error.inj h)
    | ok _ =>
        rw [hpass] at h
        exact nomatch h
  · rintro ⟨before, text, after, rfl, hbefore, htext⟩
    rw [screen, forM_check_append hbefore]
    show ((check text >>= fun _ => after.forM check) >>= fun _ => _) = _
    rw [htext]
    rfl

end Avatar.Address
