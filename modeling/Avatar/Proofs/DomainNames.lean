import Mathlib.Data.List.Basic
import Avatar.Proofs.Handles
import Avatar.Proofs.Matching
import Avatar.Proofs.Validation

/-! # Which handles are domain names

    The pattern of a handle tries labels and their repetitions at every
    length.  What it comes to is the grammar of domain names: at least two
    labels with single dots between them (`isValid_iff`).  A handle is
    asked for if it is one in lower case, where one line feed at the end
    is not looked at, and any other handle is turned away before anything
    is asked for (`asked_iff_domain_name`). -/

namespace Avatar.Handle

/-! ## Labels -/

/-- One to sixty-three lower-case letters, digits and hyphens, with a
    letter or digit at both ends. -/
structure IsLabel (s : Text) : Prop where
  nonempty : 1 ≤ s.length
  short : s.length ≤ 63
  points : ∀ c ∈ s, c.isLower = true ∨ c.isDigit = true ∨ c = CodePoint.ofChar '-'
  begins : ∀ c, s.head? = some c → c.isLower = true ∨ c.isDigit = true
  ends : ∀ c, s.getLast? = some c → c.isLower = true ∨ c.isDigit = true

/-- Two or more labels joined by single dots, of which the last one begins
    with a letter. -/
def IsDomainName (s : Text) : Prop :=
  ∃ labels : List Text, 2 ≤ labels.length ∧ s = Text.join "." labels
    ∧ (∀ label ∈ labels, IsLabel label)
    ∧ ∀ last c, labels.getLast? = some last → last.head? = some c → c.isLower = true

theorem isLabelEnd_iff {c : CodePoint} :
    isLabelEnd c = true ↔ c.isLower = true ∨ c.isDigit = true := by
  rw [isLabelEnd, Bool.or_eq_true]

theorem isLabelPoint_iff {c : CodePoint} :
    isLabelPoint c = true
      ↔ c.isLower = true ∨ c.isDigit = true ∨ c = CodePoint.ofChar '-' := by
  rw [isLabelPoint, Bool.or_eq_true, isLabelEnd_iff, decide_eq_true_eq, or_assoc]

theorem isLabel_singleton_iff {c : CodePoint} : IsLabel [c] ↔ isLabelEnd c = true := by
  rw [isLabelEnd_iff]
  constructor
  · intro h
    exact h.begins c rfl
  · intro hc
    refine ⟨Nat.le_refl 1, Nat.succ_le_succ (Nat.zero_le 62), ?_, ?_, ?_⟩
    · intro d hd
      obtain rfl := List.mem_singleton.mp hd
      exact hc.imp_right .inl
    · rintro _ ⟨⟩
      exact hc
    · rintro _ ⟨⟩
      exact hc

/-- A longer label has two ends, and at most sixty-one code points between
    them. -/
theorem isLabel_cons_concat_iff {c d : CodePoint} {middle : Text} :
    IsLabel (c :: (middle ++ [d])) ↔ isLabelEnd c = true ∧ middle.length ≤ 61
      ∧ (∀ e ∈ middle, isLabelPoint e = true) ∧ isLabelEnd d = true := by
  have hlength : (c :: (middle ++ [d])).length = middle.length + 2 := by
    rw [List.length_cons, List.length_append, List.length_singleton]
  have hlast : (c :: (middle ++ [d])).getLast? = some d := by
    rw [← List.cons_append, List.getLast?_concat]
  constructor
  · intro h
    have hshort := h.short
    refine ⟨isLabelEnd_iff.mpr (h.begins c rfl), by omega, ?_, isLabelEnd_iff.mpr (h.ends d hlast)⟩
    intro e he
    exact isLabelPoint_iff.mpr
      (h.points e (List.mem_cons_of_mem c (List.mem_append_left [d] he)))
  · rintro ⟨hc, hmiddle, hpoints, hd⟩
    rw [isLabelEnd_iff] at hc hd
    refine ⟨by omega, by omega, ?_, ?_, ?_⟩
    · intro e he
      rcases List.mem_cons.mp he with rfl | he
      · exact hc.imp_right .inl
      · rcases List.mem_append.mp he with he | he
        · exact isLabelPoint_iff.mp (hpoints e he)
        · obtain rfl := List.mem_singleton.mp he
          exact hd.imp_right .inl
    · rintro _ ⟨⟩
      exact hc
    · intro e he
      rw [hlast] at he
      obtain rfl := Option.some.inj he
      exact hd

theorem IsLabel.not_mem_newline {s : Text} (h : IsLabel s) : CodePoint.ofChar '\n' ∉ s := by
  intro hmem
  exact absurd (isLabelPoint_iff.mpr (h.points _ hmem)) (by decide)

/-! ## What the pattern spells -/

variable {isStart : Bool} {part rest : Text}

/-- A first code point, and then nothing or more code points and a last
    one: these are the labels that begin so. -/
theorem spells_label_iff {begins : CodePoint → Bool}
    (hbegins : ∀ c, begins c = true → isLabelEnd c = true) :
    (label begins).Spells isStart part rest ↔
      IsLabel part ∧ ∀ c, part.head? = some c → begins c = true := by
  rw [label, Pattern.spells_seq]
  constructor
  · rintro ⟨_, tail, rfl, ⟨c, hc, rfl⟩, ⟨middle, _, rfl, hmiddle, d, hd, rfl⟩ | rfl⟩
    · obtain ⟨hlength, hpoints⟩ := Pattern.repeats_point_iff.mp hmiddle
      refine ⟨isLabel_cons_concat_iff.mpr ⟨hbegins c hc, hlength, hpoints, hd⟩, ?_⟩
      rintro _ ⟨⟩
      exact hc
    · refine ⟨isLabel_singleton_iff.mpr (hbegins c hc), ?_⟩
      rintro _ ⟨⟩
      exact hc
  · rintro ⟨hlabel, hfirst⟩
    cases part with
    | nil => exact absurd hlabel.nonempty (by decide)
    | cons c tail =>
        refine ⟨[c], tail, rfl, ⟨c, hfirst c rfl, rfl⟩, ?_⟩
        rcases List.eq_nil_or_concat' tail with rfl | ⟨middle, d, rfl⟩
        · exact .inr rfl
        · obtain ⟨-, hlength, hpoints, hd⟩ := isLabel_cons_concat_iff.mp hlabel
          exact .inl ⟨middle, [d], rfl, Pattern.repeats_point_iff.mpr ⟨hlength, hpoints⟩, d, hd,
            rfl⟩

theorem spells_dotted_iff :
    (Pattern.seq (label isLabelEnd) (.point (· = '.'))).Spells isStart part rest ↔
      ∃ label, IsLabel label ∧ part = label ++ Text.ofString "." := by
  rw [Pattern.spells_seq]
  constructor
  · rintro ⟨label, _, rfl, hlabel, c, hc, rfl⟩
    obtain rfl := of_decide_eq_true hc
    exact ⟨label, ((spells_label_iff fun _ h => h).mp hlabel).1, rfl⟩
  · rintro ⟨label, hlabel, rfl⟩
    refine ⟨label, Text.ofString ".", rfl, (spells_label_iff fun _ h => h).mpr ⟨hlabel, ?_⟩, ?_⟩
    · intro c hc
      exact isLabelEnd_iff.mpr (hlabel.begins c hc)
    · exact ⟨'.', decide_eq_true rfl, rfl⟩

/-- One repetition of the pattern is one label with its dot. -/
theorem exists_repeats_dotted_iff :
    (∃ bound, Pattern.Repeats (Pattern.seq (label isLabelEnd) (.point (· = '.'))).Spells
        bound isStart part rest) ↔
      ∃ labels : List Text, part = labels.flatMap (· ++ Text.ofString ".")
        ∧ ∀ label ∈ labels, IsLabel label := by
  constructor
  · rintro ⟨bound, h⟩
    induction bound generalizing isStart part with
    | zero => exact ⟨[], h, fun label hlabel => nomatch hlabel⟩
    | succ bound ih =>
        rcases h with rfl | ⟨_, right, rfl, hleft, hright⟩
        · exact ⟨[], rfl, fun label hlabel => nomatch hlabel⟩
        · obtain ⟨label, hlabel, rfl⟩ := spells_dotted_iff.mp hleft
          obtain ⟨labels, rfl, hlabels⟩ := ih hright
          exact ⟨label :: labels, rfl, List.forall_mem_cons.mpr ⟨hlabel, hlabels⟩⟩
  · rintro ⟨labels, rfl, hlabels⟩
    refine ⟨labels.length, ?_⟩
    induction labels generalizing isStart with
    | nil => exact rfl
    | cons label labels ih =>
        obtain ⟨hlabel, hlabels⟩ := List.forall_mem_cons.mp hlabels
        exact .inr ⟨_, _, rfl, spells_dotted_iff.mpr ⟨label, hlabel, rfl⟩, ih hlabels⟩

theorem spells_labels_iff :
    (Pattern.atLeastOnce (.seq (label isLabelEnd) (.point (· = '.')))).Spells isStart part rest ↔
      ∃ labels : List Text, labels ≠ [] ∧ part = labels.flatMap (· ++ Text.ofString ".")
        ∧ ∀ label ∈ labels, IsLabel label := by
  rw [Pattern.atLeastOnce, Pattern.spells_seq]
  constructor
  · rintro ⟨_, right, rfl, hleft, hright⟩
    obtain ⟨label, hlabel, rfl⟩ := spells_dotted_iff.mp hleft
    obtain ⟨labels, rfl, hlabels⟩ := exists_repeats_dotted_iff.mp hright
    exact ⟨label :: labels, List.cons_ne_nil _ _, rfl,
      List.forall_mem_cons.mpr ⟨hlabel, hlabels⟩⟩
  · rintro ⟨labels, hne, rfl, hlabels⟩
    obtain ⟨label, labels, rfl⟩ := List.exists_cons_of_ne_nil hne
    obtain ⟨hlabel, hlabels⟩ := List.forall_mem_cons.mp hlabels
    exact ⟨_, _, rfl, spells_dotted_iff.mpr ⟨label, hlabel, rfl⟩,
      exists_repeats_dotted_iff.mpr ⟨labels, rfl, hlabels⟩⟩

/-- A domain name has labels with a dot behind each, and a last one that
    begins with a letter. -/
theorem isDomainName_iff {s : Text} :
    IsDomainName s ↔ ∃ (labels : List Text) (last : Text), labels ≠ []
      ∧ s = labels.flatMap (· ++ Text.ofString ".") ++ last
      ∧ (∀ label ∈ labels, IsLabel label) ∧ IsLabel last
      ∧ ∀ c, last.head? = some c → c.isLower = true := by
  constructor
  · rintro ⟨labels, hlength, rfl, hlabels, hlast⟩
    rcases List.eq_nil_or_concat' labels with rfl | ⟨labels, last, rfl⟩
    · exact absurd hlength (by decide)
    · obtain ⟨hothers, hlabel⟩ := List.forall_mem_append.mp hlabels
      refine ⟨labels, last, ?_, Text.join_concat _ _ _, hothers, ?_, ?_⟩
      · rintro rfl
        exact absurd hlength (Nat.not_succ_le_self 1)
      · exact hlabel last List.mem_cons_self
      · intro c hc
        exact hlast last c List.getLast?_concat hc
  · rintro ⟨labels, last, hne, rfl, hlabels, hlabel, hlast⟩
    refine ⟨labels ++ [last], ?_, (Text.join_concat _ _ _).symm, ?_, ?_⟩
    · have hpos := List.length_pos_iff.mpr hne
      rw [List.length_append, List.length_singleton]
      omega
    · rw [List.forall_mem_append]
      exact ⟨hlabels, fun label h => List.mem_singleton.mp h ▸ hlabel⟩
    · intro other c hother hc
      rw [List.getLast?_concat] at hother
      obtain rfl := Option.some.inj hother
      exact hlast c hc

theorem IsDomainName.not_mem_newline {s : Text} (h : IsDomainName s) :
    CodePoint.ofChar '\n' ∉ s := by
  obtain ⟨labels, -, rfl, hlabels, -⟩ := h
  intro hmem
  rcases Text.mem_join hmem with hdot | ⟨label, hlabel, hmem⟩
  · exact absurd hdot (by decide)
  · exact (hlabels label hlabel).not_mem_newline hmem

/-- The pattern matches a domain name, at the end of the text or before
    the line feed that ends it. -/
theorem spells_pattern_iff :
    pattern.Spells true part rest ↔ IsDomainName part ∧ (rest = [] ∨ rest = "\n") := by
  have hlower (c : CodePoint) (hc : c.isLower = true) : isLabelEnd c = true :=
    isLabelEnd_iff.mpr (.inl hc)
  rw [isDomainName_iff]
  constructor
  · rintro ⟨_, _, rfl, ⟨-, rfl⟩, left, _, rfl, hleft, last, _, rfl, hlast, rfl, hrest⟩
    obtain ⟨labels, hne, rfl, hlabels⟩ := spells_labels_iff.mp hleft
    obtain ⟨hlabel, hfirst⟩ := (spells_label_iff hlower).mp hlast
    rw [List.append_nil]
    exact ⟨⟨labels, last, hne, rfl, hlabels, hlabel, hfirst⟩, hrest⟩
  · rintro ⟨⟨labels, last, hne, rfl, hlabels, hlabel, hfirst⟩, hrest⟩
    exact ⟨[], _, rfl, ⟨rfl, rfl⟩, _, last, rfl, spells_labels_iff.mpr ⟨labels, hne, rfl, hlabels⟩,
      last, [], (List.append_nil last).symm, (spells_label_iff hlower).mpr ⟨hlabel, hfirst⟩, rfl,
      hrest⟩

/-- Of the texts that are checked, those pass that are a domain name
    without the line feed at their end. -/
theorem isValid_iff {s : Text} :
    isValid s = true ↔ IsDomainName (Text.withoutFinalNewline s) := by
  rw [isValid, Pattern.matchesAt_iff]
  constructor
  · rintro ⟨name, rest, rfl, hspells⟩
    obtain ⟨hname, rfl | rfl⟩ := spells_pattern_iff.mp hspells
    · rwa [List.append_nil, Text.withoutFinalNewline_of_not_mem hname.not_mem_newline]
    · rwa [Text.withoutFinalNewline_append]
  · intro hname
    rcases Text.eq_withoutEnding_or "\n" s with hs | hs
    · exact ⟨_, [], by rw [List.append_nil]; exact hs, spells_pattern_iff.mpr ⟨hname, .inl rfl⟩⟩
    · exact ⟨_, _, hs, spells_pattern_iff.mpr ⟨hname, .inr rfl⟩⟩

/-- Sixty-three code points make a label, and sixty-four do not. -/
example :
    isValid (List.replicate 63 (CodePoint.ofChar 'a') ++ Text.ofString ".test\n") = true
      ∧ isValid (List.replicate 64 (CodePoint.ofChar 'a') ++ Text.ofString ".test\n") = false := by
  decide +kernel

/-! ## What is asked for a handle -/

/-- How a handle is resolved, by the form that it has in lower case. -/
structure IsCheckedFirst (dns handle : Text) (session : Session) : Prop where
  /-- Exactly for a domain name the TXT records are asked for and then the
      file, both under the handle in lower case. -/
  asked : IsDomainName (Text.withoutFinalNewline handle.lowercase) ↔
    (resolve dns handle session).2.sent
      = session.sent
        ++ [⟨dns ++ Text.ofString "?name=_atproto." ++ handle.lowercase
              ++ Text.ofString "&type=TXT",
            [(Text.ofString "Accept", Text.ofString "application/dns-json")]⟩,
          ⟨Text.ofString "https://" ++ handle.lowercase
            ++ Text.ofString "/.well-known/atproto-did", []⟩]
  /-- Any other handle is turned away, and nothing is asked for. -/
  refused : ¬ IsDomainName (Text.withoutFinalNewline handle.lowercase) →
    resolve dns handle session = (.error .invalidHandle, session)
  /-- The failure says so. -/
  reason : Failure.invalidHandle.message = "Invalid handle"

/-- A handle is asked for exactly if it is a domain name in lower case, but
    for a line feed at the end. -/
theorem asked_iff_domain_name (dns handle : Text) (session : Session) :
    IsCheckedFirst dns handle session := by
  have hrefused (h : ¬ IsDomainName (Text.withoutFinalNewline handle.lowercase)) :
      resolve dns handle session = (.error .invalidHandle, session) := by
    refine resolve_of_not_isValid (Bool.eq_false_iff.mpr fun hvalid => ?_) dns session
    exact h (isValid_iff.mp hvalid)
  constructor
  case asked =>
    constructor
    · intro hname
      rw [resolve_apply (isValid_iff.mpr hname)]
      rfl
    · intro hasked
      by_contra hnot
      rw [hrefused hnot] at hasked
      have hlength := congrArg List.length hasked
      rw [List.length_append] at hlength
      exact absurd hlength (by simp)
  case refused => exact hrefused
  case reason => rfl

end Avatar.Handle
