import Avatar.Text

/-! # Parts of a text

    Beginnings, endings, and the pieces between separators.  Splitting at
    a separator loses nothing: joining the pieces gives the text back, and
    a piece ends where the next separator stands. -/

namespace Avatar.Text

/-! ## Beginnings and endings -/

/-- What follows `start` in a text that begins with it. -/
def after? (start : Text) (s : Text) : Option Text := start.isPrefixOf? s

/-- Whether a text begins with `start`. -/
def startsWith (start : Text) (s : Text) : Bool := start.isPrefixOf s

/-- Whether a text ends in `ending`. -/
def endsWith (ending : Text) (s : Text) : Bool := ending.isSuffixOf s

/-- Whether a text has another one as a part. -/
def hasPart (part : Text) : Text → Bool
  | [] => part.isEmpty
  | c :: rest => startsWith part (c :: rest) || hasPart part rest

/-- The text without `ending`, if it ends in it. -/
def withoutEnding (ending : Text) (s : Text) : Text :=
  if endsWith ending s then s.take (s.length - ending.length) else s

/-- The text without the line feed that it may end in. -/
def withoutFinalNewline (s : Text) : Text := withoutEnding "\n" s

/-- The text without the leading and trailing code points of a class. -/
def trim (p : CodePoint → Bool) (s : Text) : Text :=
  ((s.dropWhile p).reverse.dropWhile p).reverse

/-- A text begins with `start` exactly when it is `start` and a rest. -/
theorem after?_eq_some_iff {start s rest : Text} :
    after? start s = some rest ↔ s = start ++ rest := by
  induction start generalizing s with
  | nil => exact ⟨fun h => Option.some.inj h, fun h => congrArg some h⟩
  | cons a start ih =>
      cases s with
      | nil =>
          constructor
          · intro h
            cases h
          · intro h
            cases h
      | cons c s =>
          show (if a == c then after? start s else none) = some rest ↔ c :: s = a :: (start ++ rest)
          rw [List.cons.injEq]
          by_cases hac : a = c
          · subst hac
            rw [if_pos (beq_self_eq_true a), ih]
            exact ⟨fun h => ⟨rfl, h⟩, fun h => h.2⟩
          · rw [if_neg (fun h => hac (beq_iff_eq.mp h))]
            constructor
            · intro h
              cases h
            · intro h
              exact absurd h.1.symm hac

/-- `startsWith` holds exactly of the texts that have a rest. -/
theorem startsWith_iff {start s : Text} :
    startsWith start s = true ↔ ∃ rest, s = start ++ rest := by
  unfold startsWith
  rw [List.isPrefixOf_iff_prefix]
  exact ⟨fun ⟨rest, h⟩ => ⟨rest, h.symm⟩, fun ⟨rest, h⟩ => ⟨rest, h.symm⟩⟩

/-- A beginning without a separator stands before the first one. -/
theorem startsWith_append_cons {start s : Text} {separator : CodePoint} (h : separator ∉ start)
    (t : Text) : startsWith start (s ++ separator :: t) = startsWith start s := by
  rw [Bool.eq_iff_iff, startsWith_iff, startsWith_iff]
  constructor
  · rintro ⟨rest, hrest⟩
    rcases List.append_eq_append_iff.mp hrest with ⟨behind, hstart, hbehind⟩ | ⟨behind, rfl, -⟩
    · cases behind with
      | nil => exact ⟨[], by rw [hstart, List.append_nil, List.append_nil]⟩
      | cons c behind =>
          obtain ⟨rfl, -⟩ := List.cons.inj hbehind
          exact absurd (hstart ▸ List.mem_append_right s List.mem_cons_self) h
    · exact ⟨behind, rfl⟩
  · rintro ⟨rest, rfl⟩
    exact ⟨rest ++ separator :: t, List.append_assoc ..⟩

theorem hasPart_iff {part s : Text} :
    hasPart part s = true ↔ ∃ before after, s = before ++ part ++ after := by
  induction s with
  | nil =>
      rw [hasPart, List.isEmpty_iff]
      constructor
      · rintro rfl
        exact ⟨[], [], rfl⟩
      · rintro ⟨before, after, h⟩
        exact (List.append_eq_nil_iff.mp (List.append_eq_nil_iff.mp h.symm).1).2
  | cons c rest ih =>
      rw [hasPart, Bool.or_eq_true, startsWith_iff, ih]
      constructor
      · rintro (⟨after, h⟩ | ⟨before, after, rfl⟩)
        · exact ⟨[], after, h⟩
        · exact ⟨c :: before, after, rfl⟩
      · rintro ⟨before, after, h⟩
        cases before with
        | nil => exact .inl ⟨after, h⟩
        | cons d before => exact .inr ⟨before, after, (List.cons.inj h).2⟩

/-- A part without a separator stands before it or behind it. -/
theorem hasPart_append_cons {part s : Text} {separator : CodePoint} (hpart : part ≠ [])
    (h : separator ∉ part) (t : Text) :
    hasPart part (s ++ separator :: t) = (hasPart part s || hasPart part t) := by
  have hnil : hasPart part [] = false := List.isEmpty_eq_false_iff.mpr hpart
  induction s with
  | nil =>
      have hstart : startsWith part (separator :: t) = false := by
        have hempty := startsWith_append_cons (s := []) h t
        cases part with
        | nil => exact absurd rfl hpart
        | cons c part => exact hempty
      rw [List.nil_append, hnil, hasPart, hstart]
  | cons c s ih =>
      rw [List.cons_append, hasPart, hasPart, ih, ← List.cons_append, startsWith_append_cons h,
        Bool.or_assoc]

theorem endsWith_iff {ending s : Text} :
    endsWith ending s = true ↔ ∃ start, s = start ++ ending := by
  unfold endsWith
  rw [List.isSuffixOf_iff_suffix]
  exact ⟨fun ⟨start, h⟩ => ⟨start, h.symm⟩, fun ⟨start, h⟩ => ⟨start, h.symm⟩⟩

/-- One ending is taken off, and nothing from a text that ends otherwise. -/
theorem withoutEnding_eq_iff {ending s rest : Text} :
    withoutEnding ending s = rest
      ↔ s = rest ++ ending ∨ s = rest ∧ ¬ ∃ start, s = start ++ ending := by
  rw [withoutEnding]
  split
  · rename_i hends
    obtain ⟨start, rfl⟩ := endsWith_iff.mp hends
    rw [List.length_append, Nat.add_sub_cancel, List.take_left]
    constructor
    · rintro rfl
      exact .inl rfl
    · rintro (h | ⟨-, hnot⟩)
      · exact List.append_cancel_right h
      · exact absurd ⟨start, rfl⟩ hnot
  · rename_i hends
    rw [endsWith_iff] at hends
    constructor
    · rintro rfl
      exact .inr ⟨rfl, hends⟩
    · rintro (h | ⟨h, -⟩)
      · exact absurd ⟨rest, h⟩ hends
      · exact h

/-- A text is what is left without an ending, or that and the ending. -/
theorem eq_withoutEnding_or (ending s : Text) :
    s = withoutEnding ending s ∨ s = withoutEnding ending s ++ ending := by
  rcases withoutEnding_eq_iff.mp (Eq.refl (withoutEnding ending s)) with hends | ⟨hsame, -⟩
  · exact .inr hends
  · exact .inl hsame

/-- What is dropped is all of a class, and what follows does not begin
    with one of it. -/
theorem dropWhile_eq_iff {p : CodePoint → Bool} {s rest : Text} :
    s.dropWhile p = rest ↔ ∃ left, s = left ++ rest ∧ (∀ c ∈ left, p c = true)
      ∧ ∀ c, rest.head? = some c → p c = false := by
  constructor
  · rintro rfl
    refine ⟨s.takeWhile p, List.takeWhile_append_dropWhile.symm, ?_, ?_⟩
    · exact List.all_eq_true.mp List.all_takeWhile
    · intro c hc
      have hfirst := List.head?_dropWhile_not p s
      rw [hc] at hfirst
      exact hfirst
  · rintro ⟨left, rfl, hleft, hfirst⟩
    rw [List.dropWhile_append_of_pos hleft]
    cases rest with
    | nil => rfl
    | cons c rest =>
        have hc : p c = false := hfirst c rfl
        exact List.dropWhile_cons_of_neg (by simp [hc])

/-- What stands before the first code point outside of a class is known,
    and so is what follows. -/
theorem append_cons_inj {p : CodePoint → Bool} {left left' rest rest' : Text} {c : CodePoint}
    (hleft : ∀ d ∈ left, p d = true) (hleft' : ∀ d ∈ left', p d = true)
    (hc : p c = false) (h : left ++ c :: rest = left' ++ c :: rest') :
    left = left' ∧ rest = rest' := by
  have hhead : ∀ tail : Text, ∀ d, (c :: tail).head? = some d → p d = false := by
    intro tail d hd
    rw [← Option.some.inj hd]
    exact hc
  have hdropped := dropWhile_eq_iff.mpr ⟨left, rfl, hleft, hhead rest⟩
  have hdropped' := dropWhile_eq_iff.mpr ⟨left', rfl, hleft', hhead rest'⟩
  rw [h, hdropped'] at hdropped
  rw [hdropped] at h
  exact ⟨List.append_cancel_right h, (List.cons.inj hdropped).2.symm⟩

/-- A class of code points is trimmed off down to a part that neither
    begins nor ends with one of the class. -/
theorem trim_eq_iff {p : CodePoint → Bool} {s core : Text} :
    trim p s = core ↔ ∃ left right, s = left ++ core ++ right
      ∧ (∀ c ∈ left, p c = true) ∧ (∀ c ∈ right, p c = true)
      ∧ (∀ c, core.head? = some c → p c = false) ∧ ∀ c, core.getLast? = some c → p c = false := by
  have htrim : trim p s = core ↔ (s.dropWhile p).reverse.dropWhile p = core.reverse := by
    rw [trim, List.reverse_eq_iff]
  rw [htrim, dropWhile_eq_iff]
  constructor
  · rintro ⟨back, hback, hright, hlast⟩
    have hdropped : s.dropWhile p = core ++ back.reverse := by
      rw [List.reverse_eq_iff] at hback
      rw [hback, List.reverse_append, List.reverse_reverse]
    obtain ⟨left, hs, hleft, hfirst⟩ := dropWhile_eq_iff.mp hdropped
    refine ⟨left, back.reverse, ?_, hleft, ?_, ?_, ?_⟩
    · rw [hs, List.append_assoc]
    · intro c hc
      exact hright c (List.mem_reverse.mp hc)
    · intro c hc
      exact hfirst c (by rw [List.head?_append, hc]; rfl)
    · intro c hc
      exact hlast c (by rw [List.head?_reverse, hc])
  · rintro ⟨left, right, rfl, hleft, hright, hfirst, hlast⟩
    cases core with
    | nil =>
        have hdropped : (left ++ [] ++ right).dropWhile p = [] := by
          refine dropWhile_eq_iff.mpr ⟨left ++ right, by simp, ?_, fun c hc => nomatch hc⟩
          exact List.forall_mem_append.mpr ⟨hleft, hright⟩
        rw [hdropped]
        exact ⟨[], rfl, by simp, by simp⟩
    | cons c core =>
        have hdropped : (left ++ c :: core ++ right).dropWhile p = c :: core ++ right := by
          exact dropWhile_eq_iff.mpr ⟨left, List.append_assoc .., hleft, hfirst⟩
        rw [hdropped]
        refine ⟨right.reverse, List.reverse_append, ?_, ?_⟩
        · intro d hd
          exact hright d (List.mem_reverse.mp hd)
        · intro d hd
          rw [List.head?_reverse] at hd
          exact hlast d hd

/-! ## Pieces between separators -/

/-- The pieces between the occurrences of a separator; there is always
    one more piece than there are separators. -/
def splitOn (separator : CodePoint) : Text → List Text
  | [] => [[]]
  | c :: rest =>
    match splitOn separator rest with
    | [] => [[c]]
    | piece :: pieces =>
      if c = separator then [] :: piece :: pieces
      else (c :: piece) :: pieces

/-- The pieces with a separator between each two neighbours. -/
def join (separator : Text) : List Text → Text
  | [] => []
  | [piece] => piece
  | piece :: pieces => piece ++ separator ++ join separator pieces

/-- The part before the first separator, and the part after it if there
    is one. -/
def cut (separator : CodePoint) : Text → Text × Option Text
  | [] => ([], none)
  | c :: rest =>
    if c = separator then ([], some rest)
    else ((c :: (cut separator rest).1), (cut separator rest).2)

/-- There is always a piece. -/
theorem splitOn_ne_nil (separator : CodePoint) (s : Text) : splitOn separator s ≠ [] := by
  cases s with
  | nil => exact List.cons_ne_nil _ _
  | cons c rest =>
      unfold splitOn
      split
      · exact List.cons_ne_nil _ _
      · split <;> exact List.cons_ne_nil _ _

/-- A separator starts a new piece. -/
theorem splitOn_cons_self (separator : CodePoint) (s : Text) :
    splitOn separator (separator :: s) = [] :: splitOn separator s := by
  rw [splitOn]
  cases h : splitOn separator s with
  | nil => exact absurd h (splitOn_ne_nil separator s)
  | cons piece pieces => exact if_pos rfl

/-- Another code point goes to the front of the first piece. -/
theorem splitOn_cons_of_ne {separator c : CodePoint} {s piece : Text} {pieces : List Text}
    (hc : c ≠ separator) (h : splitOn separator s = piece :: pieces) :
    splitOn separator (c :: s) = (c :: piece) :: pieces := by
  rw [splitOn, h]
  exact if_neg hc

/-- Before the first separator stands the first piece. -/
theorem splitOn_append_cons {separator : CodePoint} {s : Text} (h : separator ∉ s) (t : Text) :
    splitOn separator (s ++ separator :: t) = s :: splitOn separator t := by
  induction s with
  | nil => exact splitOn_cons_self separator t
  | cons c rest ih =>
      rw [List.mem_cons, not_or] at h
      exact splitOn_cons_of_ne (Ne.symm h.1) (ih h.2)

/-- A text without separators is the only piece. -/
theorem splitOn_of_not_mem {separator : CodePoint} {s : Text} (h : separator ∉ s) :
    splitOn separator s = [s] := by
  induction s with
  | nil => rfl
  | cons c rest ih =>
      rw [List.mem_cons, not_or] at h
      exact splitOn_cons_of_ne (Ne.symm h.1) (ih h.2)

/-- Pieces that are put one after the other, with a separator before each
    but the first, are split again. -/
theorem splitOn_append_flatMap {separator : CodePoint} {first : Text} {rest : List Text}
    (hfirst : separator ∉ first) (hrest : ∀ piece ∈ rest, separator ∉ piece) :
    splitOn separator (first ++ rest.flatMap (separator :: ·)) = first :: rest := by
  induction rest generalizing first with
  | nil => rw [List.flatMap_nil, List.append_nil, splitOn_of_not_mem hfirst]
  | cons next rest ih =>
      obtain ⟨hnext, hrest⟩ := List.forall_mem_cons.mp hrest
      rw [List.flatMap_cons, List.cons_append, splitOn_append_cons hfirst, ih hnext hrest]

/-- Joining the pieces gives the text back. -/
theorem join_splitOn (separator : CodePoint) (s : Text) :
    join [separator] (splitOn separator s) = s := by
  induction s with
  | nil => rfl
  | cons c rest ih =>
      obtain ⟨piece, pieces, h⟩ := List.exists_cons_of_ne_nil (splitOn_ne_nil separator rest)
      rw [h] at ih
      by_cases hc : c = separator
      · subst hc
        rw [splitOn_cons_self, h, join, ih]
        · rfl
        · exact fun h => List.cons_ne_nil _ _ h
      · rw [splitOn_cons_of_ne hc h]
        cases pieces with
        | nil =>
            rw [join] at ih ⊢
            rw [ih]
        | cons next more =>
            rw [join] at ih ⊢
            · rw [List.cons_append, List.cons_append, ih]
            · exact fun h => List.cons_ne_nil _ _ h
            · exact fun h => List.cons_ne_nil _ _ h

/-- A piece holds no separator, and nothing that is not in the text. -/
theorem mem_of_mem_splitOn {separator c : CodePoint} {s piece : Text}
    (hpiece : piece ∈ splitOn separator s) (hc : c ∈ piece) : c ≠ separator ∧ c ∈ s := by
  induction s generalizing piece with
  | nil =>
      rw [splitOn, List.mem_singleton] at hpiece
      subst hpiece
      exact nomatch hc
  | cons first rest ih =>
      obtain ⟨head, pieces, h⟩ := List.exists_cons_of_ne_nil (splitOn_ne_nil separator rest)
      by_cases hfirst : first = separator
      · subst hfirst
        rw [splitOn_cons_self] at hpiece
        rcases List.mem_cons.mp hpiece with rfl | hmem
        · exact nomatch hc
        · exact (ih hmem hc).imp_right (List.mem_cons_of_mem first)
      · rw [splitOn_cons_of_ne hfirst h] at hpiece
        rcases List.mem_cons.mp hpiece with rfl | hmem
        · rcases List.mem_cons.mp hc with rfl | hhead
          · exact ⟨hfirst, List.mem_cons_self⟩
          · exact (ih (h ▸ List.mem_cons_self) hhead).imp_right (List.mem_cons_of_mem first)
        · exact (ih (h ▸ List.mem_cons_of_mem head hmem) hc).imp_right (List.mem_cons_of_mem first)

/-- What is joined consists of the separators and the pieces. -/
theorem mem_join {separator c : CodePoint} {pieces : List Text}
    (h : c ∈ join [separator] pieces) : c = separator ∨ ∃ piece ∈ pieces, c ∈ piece := by
  induction pieces with
  | nil => exact nomatch h
  | cons piece pieces ih =>
      cases pieces with
      | nil => exact .inr ⟨piece, List.mem_cons_self, h⟩
      | cons next more =>
          rw [join, List.append_assoc, List.mem_append, List.singleton_append,
            List.mem_cons] at h
          · rcases h with hpiece | rfl | hrest
            · exact .inr ⟨piece, List.mem_cons_self, hpiece⟩
            · exact .inl rfl
            · rcases ih hrest with rfl | ⟨other, hother, hc⟩
              · exact .inl rfl
              · exact .inr ⟨other, List.mem_cons_of_mem piece hother, hc⟩
          · exact fun h => List.cons_ne_nil _ _ h

/-- Pieces that are joined are split again. -/
theorem splitOn_join {separator : CodePoint} {pieces : List Text} (hne : pieces ≠ [])
    (h : ∀ piece ∈ pieces, separator ∉ piece) :
    splitOn separator (join [separator] pieces) = pieces := by
  induction pieces with
  | nil => exact absurd rfl hne
  | cons piece pieces ih =>
      obtain ⟨hpiece, hpieces⟩ := List.forall_mem_cons.mp h
      cases pieces with
      | nil => exact splitOn_of_not_mem hpiece
      | cons next more =>
          have hmore : next :: more ≠ [] := List.cons_ne_nil next more
          rw [join, List.append_assoc, List.singleton_append, splitOn_append_cons hpiece,
            ih hmore hpieces]
          exact hmore

/-- Before the last piece stands each other one with a separator behind
    it. -/
theorem join_concat (separator : Text) (pieces : List Text) (last : Text) :
    join separator (pieces ++ [last]) = pieces.flatMap (· ++ separator) ++ last := by
  induction pieces with
  | nil => rfl
  | cons piece pieces ih =>
      have hne : pieces ++ [last] ≠ [] := List.concat_ne_nil last pieces
      rw [List.cons_append, join, ih, List.flatMap_cons, List.append_assoc, List.append_assoc,
        List.append_assoc]
      exact hne

/-- No separator stands before the first one. -/
theorem not_mem_cut (separator : CodePoint) (s : Text) : separator ∉ (cut separator s).1 := by
  induction s with
  | nil => exact List.not_mem_nil
  | cons c rest ih =>
      rw [cut]
      split
      · exact List.not_mem_nil
      · rename_i hc
        rw [List.mem_cons, not_or]
        exact ⟨Ne.symm hc, ih⟩

/-- What stands before the first separator is part of the text. -/
theorem mem_of_mem_cut {separator c : CodePoint} {s : Text} (h : c ∈ (cut separator s).1) :
    c ∈ s := by
  induction s with
  | nil => exact h
  | cons first rest ih =>
      rw [cut] at h
      split at h
      · exact nomatch h
      · rcases List.mem_cons.mp h with rfl | hrest
        · exact List.mem_cons_self
        · exact List.mem_cons_of_mem first (ih hrest)

/-- Before the first separator and after it stand the two parts. -/
theorem cut_append_cons {separator : CodePoint} {s : Text} (h : separator ∉ s) (t : Text) :
    cut separator (s ++ separator :: t) = (s, some t) := by
  induction s with
  | nil => exact if_pos rfl
  | cons c rest ih =>
      rw [List.mem_cons, not_or] at h
      rw [List.cons_append, cut, if_neg (Ne.symm h.1), ih h.2]

/-- A text without separators has no second part. -/
theorem cut_of_not_mem {separator : CodePoint} {s : Text} (h : separator ∉ s) :
    cut separator s = (s, none) := by
  induction s with
  | nil => rfl
  | cons c rest ih =>
      rw [List.mem_cons, not_or] at h
      rw [cut, if_neg (Ne.symm h.1), ih h.2]

end Avatar.Text
