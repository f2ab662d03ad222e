import Avatar.Text.Parts

/-! # Terminal control sequences

    A control sequence is an escape character and an opening bracket, any
    parameter characters, any intermediate characters, and one final
    character.  Text that is printed to something other than a terminal
    is printed without them: the first one is taken out, and then the next
    one of what follows it.  A text is left as it is exactly if it holds
    none (`withoutControlSequences_eq_self_iff`). -/

namespace Avatar.Text

/-- The classes of characters in a control sequence follow one another:
    first the parameters. -/
def isParameterPoint (c : CodePoint) : Bool := c.isBetween '0' '?'

/-- The characters between the parameters and the end. -/
def isIntermediatePoint (c : CodePoint) : Bool := c.isBetween ' ' '/'

/-- The characters that end a control sequence. -/
def isFinalPoint (c : CodePoint) : Bool := c.isBetween '@' '~'

/-- What follows the parameters and the end of a control sequence. -/
def afterParameters? (s : Text) : Option Text :=
  match (s.dropWhile isParameterPoint).dropWhile isIntermediatePoint with
  | [] => none
  | c :: rest => if isFinalPoint c then some rest else none

/-- A character has one place in a control sequence. -/
theorem isParameterPoint_of_isIntermediatePoint {c : CodePoint}
    (h : isIntermediatePoint c = true) : isParameterPoint c = false := by
  simp only [isIntermediatePoint, isParameterPoint, CodePoint.isBetween, Bool.and_eq_true,
    decide_eq_true_eq, Bool.and_eq_false_iff, decide_eq_false_iff_not] at h ⊢
  exact .inl (Nat.not_le.mpr (Nat.lt_succ_of_le h.2))

theorem not_isInner_of_isFinalPoint {c : CodePoint} (h : isFinalPoint c = true) :
    isParameterPoint c = false ∧ isIntermediatePoint c = false := by
  simp only [isFinalPoint, isParameterPoint, isIntermediatePoint, CodePoint.isBetween,
    Bool.and_eq_true, decide_eq_true_eq, Bool.and_eq_false_iff, decide_eq_false_iff_not] at h ⊢
  have hlow : 64 ≤ c.val := h.1
  exact ⟨.inr (show ¬ c.val ≤ 63 by omega), .inr (show ¬ c.val ≤ 47 by omega)⟩

theorem afterParameters?_eq_some_iff {s rest : Text} :
    afterParameters? s = some rest ↔ ∃ (parameters intermediates : Text) (last : CodePoint),
      s = parameters ++ intermediates ++ last :: rest
        ∧ (∀ c ∈ parameters, isParameterPoint c = true)
        ∧ (∀ c ∈ intermediates, isIntermediatePoint c = true) ∧ isFinalPoint last = true := by
  constructor
  · intro h
    rw [afterParameters?] at h
    obtain ⟨parameters, hs, hparameters, -⟩ := dropWhile_eq_iff.mp
      (Eq.refl (s.dropWhile isParameterPoint))
    obtain ⟨intermediates, hrest, hintermediates, -⟩ := dropWhile_eq_iff.mp
      (Eq.refl ((s.dropWhile isParameterPoint).dropWhile isIntermediatePoint))
    split at h
    · exact nomatch h
    · rename_i last tail hlast
      split at h
      · rename_i hfinal
        obtain rfl := Option.some.inj h
        refine ⟨parameters, intermediates, last, ?_, hparameters, hintermediates, hfinal⟩
        rw [List.append_assoc, ← hlast, ← hrest]
        exact hs
      · exact nomatch h
  · rintro ⟨parameters, intermediates, last, rfl, hparameters, hintermediates, hlast⟩
    obtain ⟨hnoParameter, hnoIntermediate⟩ := not_isInner_of_isFinalPoint hlast
    have hfirst : (parameters ++ intermediates ++ last :: rest).dropWhile isParameterPoint
        = intermediates ++ last :: rest := by
      refine dropWhile_eq_iff.mpr ⟨parameters, List.append_assoc .., hparameters, ?_⟩
      intro c hc
      cases intermediates with
      | nil => exact Option.some.inj hc ▸ hnoParameter
      | cons d more =>
          obtain rfl := Option.some.inj hc
          exact isParameterPoint_of_isIntermediatePoint (hintermediates _ List.mem_cons_self)
    have hsecond :
        (intermediates ++ last :: rest).dropWhile isIntermediatePoint = last :: rest := by
      refine dropWhile_eq_iff.mpr ⟨intermediates, rfl, hintermediates, ?_⟩
      intro c hc
      exact Option.some.inj hc ▸ hnoIntermediate
    rw [afterParameters?, hfirst, hsecond]
    exact if_pos hlast

/-- A control sequence: what begins it, its parameters, its intermediate
    characters, and the one that ends it. -/
def IsControlSequence (s : Text) : Prop :=
  ∃ (parameters intermediates : Text) (last : CodePoint),
    s = Text.ofString "\x1b[" ++ parameters ++ intermediates ++ [last]
      ∧ (∀ c ∈ parameters, isParameterPoint c = true)
      ∧ (∀ c ∈ intermediates, isIntermediatePoint c = true) ∧ isFinalPoint last = true

/-- A control sequence stands somewhere in a text. -/
def HoldsControlSequence (s : Text) : Prop :=
  ∃ before sequence after, s = before ++ sequence ++ after ∧ IsControlSequence sequence

theorem IsControlSequence.length_pos {s : Text} (h : IsControlSequence s) : 0 < s.length := by
  obtain ⟨parameters, intermediates, last, rfl, -⟩ := h
  rw [List.length_append]
  exact Nat.lt_add_left _ Nat.one_pos

/-- What follows the control sequence that a text starts with. -/
def afterControlSequence? : Text → Option Text
  | c :: d :: rest => if c = '\x1b' && d = '[' then afterParameters? rest else none
  | _ => none

theorem afterControlSequence?_eq_some_iff {s rest : Text} :
    afterControlSequence? s = some rest
      ↔ ∃ sequence, IsControlSequence sequence ∧ s = sequence ++ rest := by
  constructor
  · intro h
    rw [afterControlSequence?.eq_def] at h
    split at h
    · rename_i c d tail
      split at h
      · rename_i hbegins
        rw [Bool.and_eq_true, decide_eq_true_eq, decide_eq_true_eq] at hbegins
        obtain ⟨rfl, rfl⟩ := hbegins
        obtain ⟨parameters, intermediates, last, rfl, hclasses⟩ := afterParameters?_eq_some_iff.mp h
        refine ⟨_, ⟨parameters, intermediates, last, rfl, hclasses⟩, ?_⟩
        simp only [List.append_assoc, List.singleton_append]
        rfl
      · exact nomatch h
    · exact nomatch h
  · rintro ⟨_, ⟨parameters, intermediates, last, rfl, hclasses⟩, rfl⟩
    have hbegins (tail : Text) :
        afterControlSequence? (Text.ofString "\x1b[" ++ tail) = afterParameters? tail := rfl
    simp only [List.append_assoc, List.singleton_append, hbegins]
    rw [← List.append_assoc]
    exact afterParameters?_eq_some_iff.mpr ⟨parameters, intermediates, last, rfl, hclasses⟩

/-- A control sequence is not empty. -/
theorem length_lt_of_afterControlSequence? {s rest : Text}
    (h : afterControlSequence? s = some rest) : rest.length < s.length := by
  obtain ⟨sequence, hsequence, rfl⟩ := afterControlSequence?_eq_some_iff.mp h
  have := hsequence.length_pos
  rw [List.length_append]
  omega

/-- The text without its control sequences. -/
def withoutControlSequences (s : Text) : Text :=
  match _h : afterControlSequence? s with
  | some rest => withoutControlSequences rest
  | none =>
    match s with
    | [] => []
    | c :: rest => c :: withoutControlSequences rest
termination_by s.length
decreasing_by
  · exact length_lt_of_afterControlSequence? _h
  · simp

theorem afterControlSequence?_of_ne {c : CodePoint} (h : c ≠ CodePoint.ofChar '\x1b') (s : Text) :
    afterControlSequence? (c :: s) = none := by
  cases s with
  | nil => rfl
  | cons d s => exact if_neg (by simp [h])

theorem withoutControlSequences_nil : withoutControlSequences [] = [] := by
  rw [withoutControlSequences]
  rfl

theorem withoutControlSequences_of_some {s rest : Text} (h : afterControlSequence? s = some rest) :
    withoutControlSequences s = withoutControlSequences rest := by
  rw [withoutControlSequences]
  split
  · rename_i other hother
    rw [Option.some.inj (h.symm.trans hother)]
  · rename_i hnone
    rw [h] at hnone
    exact nomatch hnone

theorem withoutControlSequences_cons {c : CodePoint} {s : Text}
    (h : afterControlSequence? (c :: s) = none) :
    withoutControlSequences (c :: s) = c :: withoutControlSequences s := by
  rw [withoutControlSequences]
  split
  · rename_i rest hsome
    rw [h] at hsome
    exact nomatch hsome
  · rfl

/-- What stands before the first escape character is printed as it is. -/
theorem withoutControlSequences_append {s : Text} (h : CodePoint.ofChar '\x1b' ∉ s) (t : Text) :
    withoutControlSequences (s ++ t) = s ++ withoutControlSequences t := by
  induction s with
  | nil => rfl
  | cons c s ih =>
      rw [List.mem_cons, not_or] at h
      have hnone : afterControlSequence? (c :: (s ++ t)) = none :=
        afterControlSequence?_of_ne (Ne.symm h.1) _
      rw [List.cons_append, withoutControlSequences_cons hnone, ih h.2, List.cons_append]

theorem withoutControlSequences_of_not_mem {s : Text} (h : CodePoint.ofChar '\x1b' ∉ s) :
    withoutControlSequences s = s := by
  rw [← List.append_nil s, withoutControlSequences_append h, withoutControlSequences_nil]

theorem holdsControlSequence_cons_iff {c : CodePoint} {s : Text} :
    HoldsControlSequence (c :: s)
      ↔ (∃ rest, afterControlSequence? (c :: s) = some rest) ∨ HoldsControlSequence s := by
  constructor
  · rintro ⟨before, sequence, after, hsplit, hsequence⟩
    cases before with
    | nil => exact .inl ⟨after, afterControlSequence?_eq_some_iff.mpr ⟨sequence, hsequence, hsplit⟩⟩
    | cons d before =>
        exact .inr ⟨before, sequence, after, (List.cons.inj hsplit).2, hsequence⟩
  · rintro (⟨rest, h⟩ | ⟨before, sequence, after, rfl, hsequence⟩)
    · obtain ⟨sequence, hsequence, hsplit⟩ := afterControlSequence?_eq_some_iff.mp h
      exact ⟨[], sequence, rest, hsplit, hsequence⟩
    · exact ⟨c :: before, sequence, after, rfl, hsequence⟩

/-- What is left stood in the text, in the same order. -/
theorem withoutControlSequences_sublist (s : Text) : (withoutControlSequences s).Sublist s := by
  fun_induction withoutControlSequences s with
  | case1 s rest h ih =>
      obtain ⟨sequence, -, rfl⟩ := afterControlSequence?_eq_some_iff.mp h
      exact ih.trans (List.sublist_append_right sequence rest)
  | case2 => exact List.Sublist.refl []
  | case3 c rest h ih => exact ih.cons_cons c

/-- Nothing is taken out of a text without control sequences, and
    something of every other one. -/
theorem withoutControlSequences_eq_self_iff {s : Text} :
    withoutControlSequences s = s ↔ ¬ HoldsControlSequence s := by
  induction s with
  | nil =>
      have hnot : ¬ HoldsControlSequence [] := by
        rintro ⟨before, sequence, after, hsplit, hsequence⟩
        have := hsequence.length_pos
        have := congrArg List.length hsplit
        simp only [List.length_append, List.length_nil] at this
        omega
      exact ⟨fun _ => hnot, fun _ => withoutControlSequences_nil⟩
  | cons c s ih =>
      rw [holdsControlSequence_cons_iff, not_or]
      cases h : afterControlSequence? (c :: s) with
      | some rest =>
          have hshorter := length_lt_of_afterControlSequence? h
          have hle := (withoutControlSequences_sublist rest).length_le
          rw [withoutControlSequences_of_some h]
          constructor
          · intro hsame
            rw [hsame] at hle
            omega
          · rintro ⟨hnone, -⟩
            exact absurd ⟨rest, rfl⟩ hnone
      | none =>
          rw [withoutControlSequences_cons h, List.cons.injEq, ih]
          simp

/-- A line feed belongs to no control sequence. -/
theorem afterControlSequence?_append_newline (s : Text) :
    afterControlSequence? (s ++ Text.ofString "\n")
      = (afterControlSequence? s).map (· ++ Text.ofString "\n") := by
  cases h : afterControlSequence? s with
  | some rest =>
      obtain ⟨sequence, hsequence, rfl⟩ := afterControlSequence?_eq_some_iff.mp h
      exact afterControlSequence?_eq_some_iff.mpr ⟨sequence, hsequence, List.append_assoc ..⟩
  | none =>
      rw [Option.map_none, Option.eq_none_iff_forall_ne_some]
      intro rest hrest
      obtain ⟨sequence, hsequence, hsplit⟩ := afterControlSequence?_eq_some_iff.mp hrest
      rcases List.eq_nil_or_concat rest with rfl | ⟨rest, last, rfl⟩
      · -- then it would end the sequence
        obtain ⟨parameters, intermediates, last, rfl, -, -, hfinal⟩ := hsequence
        have hend : CodePoint.ofChar '\n' = last := by
          rw [List.append_nil] at hsplit
          exact (List.append_inj' hsplit rfl).2 |> List.singleton_inj.mp
        rw [← hend] at hfinal
        exact absurd hfinal (by decide)
      · rw [List.concat_eq_append, ← List.append_assoc] at hsplit
        have hsplit := (List.append_inj' hsplit rfl).1
        rw [afterControlSequence?_eq_some_iff.mpr ⟨sequence, hsequence, hsplit⟩] at h
        exact nomatch h

theorem withoutControlSequences_append_newline (s : Text) :
    withoutControlSequences (s ++ Text.ofString "\n")
      = withoutControlSequences s ++ Text.ofString "\n" := by
  fun_induction withoutControlSequences s with
  | case1 s rest h ih =>
      have hrest : afterControlSequence? (s ++ Text.ofString "\n")
          = some (rest ++ Text.ofString "\n") := by
        rw [afterControlSequence?_append_newline, h]
        rfl
      rw [withoutControlSequences_of_some hrest, ih]
  | case2 => exact withoutControlSequences_of_not_mem (by decide)
  | case3 c s h ih =>
      have hnone : afterControlSequence? (c :: (s ++ Text.ofString "\n")) = none := by
        rw [← List.cons_append, afterControlSequence?_append_newline, h]
        rfl
      rw [List.cons_append, withoutControlSequences_cons hnone, ih, List.cons_append]

end Avatar.Text
