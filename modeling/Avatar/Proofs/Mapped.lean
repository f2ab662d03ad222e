import Avatar.Address.Global

/-! # Addresses that stand for one of version four

    A host of version four can also be named by the address of version six
    that stands for it.  The two are judged by different lists: the block
    that carriers share is refused beside the private ones if it is named
    in version four, and let through if it is named in version six.  Apart
    from that block the verdicts agree, wherever in a list the address
    stands and however it is spelled (`judged_by_either_name`). -/

namespace Avatar.Address

/-! ## Blocks that do not meet -/

variable {width : Nat}

/-- Two blocks have the same bits as far as the shorter prefix goes. -/
def Block.meets (b c : Block width) : Bool :=
  b.base >>> (width - min b.length c.length) == c.base >>> (width - min b.length c.length)

/-- An address of a block starts as the block does, also if fewer bits are
    compared. -/
theorem Block.shift_of_contains {b : Block width} {a : BitVec width} {n : Nat}
    (h : b.contains a = true) (hn : n ≤ b.length) :
    a >>> (width - n) = b.base >>> (width - n) := by
  have hprefix : a >>> (width - b.length) = b.base >>> (width - b.length) := beq_iff_eq.mp h
  obtain ⟨k, hk⟩ : ∃ k, width - n = (width - b.length) + k :=
    ⟨(width - n) - (width - b.length), by omega⟩
  rw [hk, BitVec.shiftRight_add, BitVec.shiftRight_add, hprefix]

theorem Block.meets_of_contains {b c : Block width} {a : BitVec width}
    (hb : b.contains a = true) (hc : c.contains a = true) : b.meets c = true := by
  rw [Block.meets, beq_iff_eq, ← Block.shift_of_contains hb (Nat.min_le_left _ _),
    ← Block.shift_of_contains hc (Nat.min_le_right _ _)]

/-- The block that carriers share is not among the private ones. -/
theorem isPrivate4_of_shared {a : BitVec 32} (h : shared4.contains a = true) :
    isPrivate4 a = false := by
  have hapart : ∀ block ∈ private4, shared4.meets block = false := by decide
  have hnone : private4.any (·.contains a) = false := by
    rw [List.any_eq_false]
    intro block hblock hcontains
    have hmeets := Block.meets_of_contains h hcontains
    rw [hapart block hblock] at hmeets
    exact nomatch hmeets
  rw [isPrivate4, isSetAside, hnone, Bool.false_and]

/-! ## The verdict on an address that stands for another -/

/-- The address of version six that stands for one of version four. -/
def standingFor (a : BitVec 32) : Address := .v6 (BitVec.ofNat 128 (0xffff00000000 + a.toNat))

theorem isGlobal_v4 (a : BitVec 32) :
    (Address.v4 a).isGlobal = (!shared4.contains a && !isPrivate4 a) := rfl

theorem isGlobal_standingFor (a : BitVec 32) : (standingFor a).isGlobal = !isPrivate4 a := by
  have hlt := a.isLt
  have hmapped : mapped.contains (BitVec.ofNat 128 (0xffff00000000 + a.toNat)) = true := by
    rw [Block.contains, beq_iff_eq]
    apply BitVec.eq_of_toNat_eq
    rw [BitVec.toNat_ushiftRight, Nat.shiftRight_eq_div_pow, BitVec.toNat_ofNat]
    show (0xffff00000000 + a.toNat) % 2 ^ 128 / 2 ^ 32 = 0xffff
    omega
  have hlow : (BitVec.ofNat 128 (0xffff00000000 + a.toNat)).setWidth 32 = a := by
    apply BitVec.eq_of_toNat_eq
    rw [BitVec.toNat_setWidth, BitVec.toNat_ofNat]
    omega
  rw [standingFor, isGlobal, if_pos hmapped, hlow]

/-- What stands for an address is judged as the address itself, unless
    that is shared by carriers. -/
theorem isGlobal_standingFor_iff (a : BitVec 32) :
    (standingFor a).isGlobal = (Address.v4 a).isGlobal ↔ shared4.contains a = false := by
  rw [isGlobal_standingFor, isGlobal_v4]
  cases hshared : shared4.contains a with
  | false => simp
  | true => simp [isPrivate4_of_shared hshared]

/-! ## How an address that stands for another is spelled -/

theorem octet?_isDigit {s : Text} {n : Nat} (h : octet? s = some n) : ∀ c ∈ s, c.isDigit = true := by
  rw [octet?] at h
  split at h
  · exact nomatch h
  · rename_i hrefused
    simp only [Bool.or_eq_true, not_or, Bool.not_eq_true', Bool.not_eq_false,
      List.all_eq_true] at hrefused
    exact hrefused.2

theorem exists_of_mem_of_mapM {α β : Type} {f : α → Option β} {xs : List α} {ys : List β}
    (h : xs.mapM f = some ys) : ∀ x ∈ xs, ∃ y, f x = some y := by
  induction xs generalizing ys with
  | nil =>
      intro x hx
      exact nomatch hx
  | cons head tail ih =>
      rw [List.mapM_cons] at h
      obtain ⟨first, hfirst, h⟩ := Option.bind_eq_some_iff.mp h
      obtain ⟨rest, hrest, -⟩ := Option.bind_eq_some_iff.mp h
      intro x hx
      rcases List.mem_cons.mp hx with rfl | htail
      · exact ⟨first, hfirst⟩
      · exact ih hrest x htail

/-- An address of version four is spelled with digits and dots, at least
    one dot among them. -/
theorem parse4?_spelling {s : Text} {a : BitVec 32} (h : parse4? s = some a) :
    CodePoint.ofChar '.' ∈ s ∧ ∀ c ∈ s, c.isDigit = true ∨ c = CodePoint.ofChar '.' := by
  rw [parse4?] at h
  split at h
  · rename_i w x y z hpieces
    constructor
    · by_cases hdot : CodePoint.ofChar '.' ∈ s
      · exact hdot
      · -- without a dot there would be one piece and not four
        rw [Text.splitOn_of_not_mem hdot, List.mapM_cons] at hpieces
        obtain ⟨first, -, hrest⟩ := Option.bind_eq_some_iff.mp hpieces
        exact nomatch hrest
    · intro c hc
      rw [← Text.join_splitOn (CodePoint.ofChar '.') s] at hc
      rcases Text.mem_join hc with rfl | ⟨piece, hpiece, hmem⟩
      · exact .inr rfl
      · obtain ⟨n, hn⟩ := exists_of_mem_of_mapM hpieces piece hpiece
        exact .inl (octet?_isDigit hn c hmem)
  · exact nomatch h

theorem not_mem_of_parse4? {s : Text} {a : BitVec 32} (h : parse4? s = some a) {c : CodePoint}
    (hdigit : c.isDigit = false) (hdot : c ≠ CodePoint.ofChar '.') : c ∉ s := by
  intro hc
  rcases (parse4?_spelling h).2 c hc with htrue | heq
  · rw [hdigit] at htrue
    exact nomatch htrue
  · exact hdot heq

/-- At the end of an address of version six, one of version four takes the
    place of two groups. -/
theorem groups?_of_parse4? {s : Text} {a : BitVec 32} (h : parse4? s = some a) :
    groups? true [s] = some [a.toNat / 0x10000, a.toNat % 0x10000] := by
  have hdotted : (true && s.contains (CodePoint.ofChar '.')) = true := by
    rw [Bool.true_and, List.contains_iff_mem]
    exact (parse4?_spelling h).1
  rw [groups?, if_pos hdotted, dottedGroups?, h]
  rfl

theorem side?_of_parse4? {s : Text} {a : BitVec 32} (h : parse4? s = some a) :
    side? true ("ffff:" ++ s) = some [0xffff, a.toNat / 0x10000, a.toNat % 0x10000] := by
  have hcolon : CodePoint.ofChar ':' ∉ s := not_mem_of_parse4? h (by decide) (by decide)
  have hpieces : Text.splitOn (CodePoint.ofChar ':') ("ffff:" ++ s)
      = [Text.ofString "ffff", s] := by
    have hfirst : CodePoint.ofChar ':' ∉ Text.ofString "ffff" := by decide
    have hsplit := Text.splitOn_append_cons hfirst s
    rw [Text.splitOn_of_not_mem hcolon] at hsplit
    exact hsplit
  have hfirst : group? "ffff" = some 0xffff := by decide
  show groups? true (Text.splitOn (CodePoint.ofChar ':') ("ffff:" ++ s)) = _
  rw [hpieces, groups?, hfirst, groups?_of_parse4? h]
  intro hnil
  exact nomatch hnil

theorem eightGroups?_of_parse4? {s : Text} {a : BitVec 32} (h : parse4? s = some a) :
    eightGroups? ("::ffff:" ++ s)
      = some [0, 0, 0, 0, 0, 0xffff, a.toNat / 0x10000, a.toNat % 0x10000] := by
  have hgap : gap? ("::ffff:" ++ s) = some ([], "ffff:" ++ s) := rfl
  have hhigh : side? false [] = some [] := rfl
  rw [eightGroups?, hgap]
  simp only [hhigh, side?_of_parse4? h]
  rfl

/-- Written after two colons, four `f` and a colon, an address of version
    four spells the one that stands for it. -/
theorem parse?_mapped {s : Text} {a : BitVec 32} (h : parse4? s = some a) :
    parse? ("::ffff:" ++ s) = some (standingFor a) := by
  have habsent {c : CodePoint} (hdigit : c.isDigit = false) (hdot : c ≠ CodePoint.ofChar '.')
      (hstart : c ∉ Text.ofString "::ffff:") : c ∉ Text.ofString "::ffff:" ++ s := by
    rw [List.mem_append, not_or]
    exact ⟨hstart, not_mem_of_parse4? h hdigit hdot⟩
  have hslash := habsent (c := CodePoint.ofChar '/') (by decide) (by decide) (by decide)
  have hpercent := habsent (c := CodePoint.ofChar '%') (by decide) (by decide) (by decide)
  have hvalue : ofDigitsIn 0x10000
      [0, 0, 0, 0, 0, 0xffff, a.toNat / 0x10000, a.toNat % 0x10000]
        = 0xffff00000000 + a.toNat := by
    simp only [ofDigitsIn, List.foldl_cons, List.foldl_nil]
    omega
  have hfour : parse4? ("::ffff:" ++ s) = none := by
    cases hparse : parse4? ("::ffff:" ++ s) with
    | none => rfl
    | some b =>
        have hcolon := not_mem_of_parse4? hparse (c := CodePoint.ofChar ':') (by decide) (by decide)
        exact absurd List.mem_cons_self hcolon
  have hsix : parse6? ("::ffff:" ++ s) = some (BitVec.ofNat 128 (0xffff00000000 + a.toNat)) := by
    have hscope : withoutScope? ("::ffff:" ++ s) = some ("::ffff:" ++ s) := by
      rw [withoutScope?, Text.cut_of_not_mem hpercent]
    rw [parse6?, if_neg (by rw [List.contains_iff_mem]; exact hslash), hscope]
    show (eightGroups? ("::ffff:" ++ s)).map _ = _
    rw [eightGroups?_of_parse4? h, Option.map_some, hvalue]
  rw [parse?, hfour]
  show (parse6? ("::ffff:" ++ s)).map Address.v6 = _
  rw [hsix]
  rfl

/-! ## Lists of addresses -/

/-- A list of texts is refused. -/
def Refused (texts : List Text) : Prop := ∃ failure, screen texts = .error failure

theorem refused_iff {texts : List Text} : Refused texts ↔ ∃ text ∈ texts, check text ≠ .ok () := by
  constructor
  · rintro ⟨failure, hscreen⟩
    by_cases hall : ∀ text ∈ texts, check text = .ok ()
    · rw [screen_eq_ok_iff.mpr ⟨rfl, hall⟩] at hscreen
      exact nomatch hscreen
    · simpa using hall
  · rintro ⟨text, htext, hcheck⟩
    cases hscreen : screen texts with
    | error failure => exact ⟨failure, hscreen⟩
    | ok result => exact absurd ((screen_eq_ok_iff.mp hscreen).2 text htext) hcheck

/-- One text more is one reason more to refuse a list. -/
theorem refused_insert_iff (before after : List Text) (text : Text) :
    Refused (before ++ text :: after) ↔ check text ≠ .ok () ∨ Refused (before ++ after) := by
  rw [refused_iff, refused_iff]
  constructor
  · rintro ⟨other, hother, hcheck⟩
    rcases List.mem_append.mp hother with hbefore | hrest
    · exact .inr ⟨other, List.mem_append_left after hbefore, hcheck⟩
    · rcases List.mem_cons.mp hrest with rfl | hafter
      · exact .inl hcheck
      · exact .inr ⟨other, List.mem_append_right before hafter, hcheck⟩
  · rintro (hcheck | ⟨other, hother, hcheck⟩)
    · exact ⟨text, List.mem_append_right before List.mem_cons_self, hcheck⟩
    · refine ⟨other, ?_, hcheck⟩
      rcases List.mem_append.mp hother with hbefore | hafter
      · exact List.mem_append_left _ hbefore
      · exact List.mem_append_right before (List.mem_cons_of_mem text hafter)

theorem check_of_parse? {text : Text} {address : Address} (h : parse? text = some address) :
    check text = .ok () ↔ address.isGlobal = true := by
  rw [check_eq_ok_iff, h]
  constructor
  · rintro ⟨_, heq, hglobal⟩
    rw [Option.some.inj heq]
    exact hglobal
  · intro hglobal
    exact ⟨address, rfl, hglobal⟩

/-- How an address is judged under its own name and under the name of what
    stands for it. -/
structure JudgedByEitherName (a : BitVec 32) : Prop where
  /-- Each spelling of the address gives one of what stands for it. -/
  spelled : ∀ own, parse4? own = some a → parse? ("::ffff:" ++ own) = some (standingFor a)
  /-- At any place in a list, however they are spelled, the two have the
      same verdict, unless carriers share the address and nothing else in
      the list is refused. -/
  alike : ∀ own other before after,
    parse? own = some (.v4 a) → parse? other = some (standingFor a) →
    ((Refused (before ++ other :: after) ↔ Refused (before ++ own :: after))
      ↔ shared4.contains a = false ∨ Refused (before ++ after))
  /-- A list that is let through has no private host under either name, and
      one that carriers share only under the name of what stands for it. -/
  passed : ∀ texts text, screen texts = .ok texts → text ∈ texts →
    parse? text = some (.v4 a) ∨ parse? text = some (standingFor a) →
    (Address.v4 a).isGlobal = true
      ∨ parse? text = some (standingFor a) ∧ shared4.contains a = true

/-- The verdict depends on the name of a host exactly where carriers share
    its address. -/
theorem judged_by_either_name (a : BitVec 32) : JudgedByEitherName a := by
  constructor
  case spelled =>
    intro own hown
    exact parse?_mapped hown
  case alike =>
    intro own other before after hown hother
    rw [refused_insert_iff, refused_insert_iff, Ne, Ne, check_of_parse? hown,
      check_of_parse? hother, ← isGlobal_standingFor_iff]
    by_cases hrest : Refused (before ++ after)
    · simp [hrest]
    · simp only [hrest, or_false]
      cases (standingFor a).isGlobal <;> cases (Address.v4 a).isGlobal <;> simp
  case passed =>
    intro texts text hscreen htext hname
    have hcheck := (screen_eq_ok_iff.mp hscreen).2 text htext
    rcases hname with hown | hother
    · exact .inl ((check_of_parse? hown).mp hcheck)
    · have hglobal := (check_of_parse? hother).mp hcheck
      cases hshared : shared4.contains a with
      | true => exact .inr ⟨hother, rfl⟩
      | false =>
          rw [(isGlobal_standingFor_iff a).mpr hshared] at hglobal
          exact .inl hglobal

/-- A private host is refused in the second place, too, and in capital
    letters with a scope. -/
theorem private_judged_by_either_name :
    JudgedByEitherName 0xc0a8000a ∧ Refused ["1.1.1.1", "192.168.0.10"]
      ∧ Refused ["1.1.1.1", "::FFFF:c0a8:a%eth0"] := by
  have hjudged : JudgedByEitherName 0xc0a8000a := judged_by_either_name 0xc0a8000a
  have hname : parse? "192.168.0.10" = some (.v4 0xc0a8000a) := by decide +kernel
  have hown : Refused ["1.1.1.1", "192.168.0.10"] := by
    refine refused_iff.mpr ⟨"192.168.0.10", List.mem_cons_of_mem _ List.mem_cons_self, ?_⟩
    rw [Ne, check_of_parse? hname]
    decide
  have halike := hjudged.alike "192.168.0.10" "::FFFF:c0a8:a%eth0" ["1.1.1.1"] [] hname
    (by decide +kernel)
  exact ⟨hjudged, hown, (halike.mpr (.inl (by decide))).mpr hown⟩

/-- A host that carriers share is refused under its own name, and let
    through under the name of what stands for it. -/
theorem not_every_host_judged_alike :
    ¬ ∀ (a : BitVec 32) (own other : Text) (before after : List Text),
      parse? own = some (.v4 a) → parse? other = some (standingFor a) →
      (Refused (before ++ other :: after) ↔ Refused (before ++ own :: after)) := by
  intro halike
  have hown : parse? "100.64.0.1" = some (.v4 0x64400001) := by decide +kernel
  have hother : parse? "::ffff:100.64.0.1" = some (standingFor 0x64400001) := by decide +kernel
  have hrefused : Refused ["100.64.0.1"] := by
    refine refused_iff.mpr ⟨"100.64.0.1", List.mem_cons_self, ?_⟩
    rw [Ne, check_of_parse? hown]
    decide
  obtain ⟨text, htext, hcheck⟩ :=
    refused_iff.mp ((halike _ _ "::ffff:100.64.0.1" [] [] hown hother).mpr hrefused)
  obtain rfl := List.mem_singleton.mp htext
  rw [Ne, check_of_parse? hother] at hcheck
  exact absurd hcheck (by decide)

end Avatar.Address
