import Avatar.Text.Pattern

/-! # What the matcher finds

    What a pattern matches can be said without the matcher and its order
    of trying: a part of a text is spelled by the pattern, or it is not
    (`Spells`).  The matcher gets on behind a pattern exactly if it could
    get on behind some part that the pattern spells there
    (`isSome_run_iff`), so that giving up a way and coming back for
    another one never misses a match. -/

namespace Avatar.Pattern

variable {α : Type}

/-! ## Spelled parts -/

/-- A part of a text consists of some parts one behind the other, no more
    than a bound allows, each of which is spelled where it stands. -/
def Repeats (spells : Bool → Text → Text → Prop) : Nat → Bool → Text → Text → Prop
  | 0, _, part, _ => part = []
  | bound + 1, isStart, part, rest =>
    part = [] ∨ ∃ left right, part = left ++ right ∧ spells isStart left (right ++ rest)
      ∧ Repeats spells bound (isStart && left.isEmpty) right rest

/-- A pattern matches a part of a text.  Of what stands around the part it
    matters whether there is anything before it, and what is behind it. -/
def Spells : Pattern → Bool → Text → Text → Prop
  | empty, _, part, _ => part = []
  | point accepts, _, part, _ => ∃ c, accepts c = true ∧ part = [c]
  | start, isStart, part, _ => isStart = true ∧ part = []
  | finish, _, part, rest => part = [] ∧ (rest = [] ∨ rest = "\n")
  | seq first second, isStart, part, rest =>
    ∃ left right, part = left ++ right ∧ first.Spells isStart left (right ++ rest)
      ∧ second.Spells (isStart && left.isEmpty) right rest
  | either first second, isStart, part, rest =>
    first.Spells isStart part rest ∨ second.Spells isStart part rest
  | atMost bound body, isStart, part, rest => Repeats body.Spells bound isStart part rest
  | many body, isStart, part, rest => ∃ bound, Repeats body.Spells bound isStart part rest

section
variable {isStart : Bool} {part rest : Text}

@[simp] theorem spells_empty : empty.Spells isStart part rest ↔ part = [] := Iff.rfl

@[simp] theorem spells_point {accepts : CodePoint → Bool} :
    (point accepts).Spells isStart part rest ↔ ∃ c, accepts c = true ∧ part = [c] := Iff.rfl

@[simp] theorem spells_start : start.Spells isStart part rest ↔ isStart = true ∧ part = [] :=
  Iff.rfl

@[simp] theorem spells_finish :
    finish.Spells isStart part rest ↔ part = [] ∧ (rest = [] ∨ rest = "\n") := Iff.rfl

theorem spells_seq {first second : Pattern} :
    (seq first second).Spells isStart part rest ↔
      ∃ left right, part = left ++ right ∧ first.Spells isStart left (right ++ rest)
        ∧ second.Spells (isStart && left.isEmpty) right rest := Iff.rfl

@[simp] theorem spells_either {first second : Pattern} :
    (either first second).Spells isStart part rest ↔
      first.Spells isStart part rest ∨ second.Spells isStart part rest := Iff.rfl

@[simp] theorem spells_optional {body : Pattern} :
    (optional body).Spells isStart part rest ↔ body.Spells isStart part rest ∨ part = [] := Iff.rfl

end

/-! ## Repetitions -/

section
variable {spells : Bool → Text → Text → Prop} {bound : Nat} {isStart : Bool} {part rest : Text}

theorem Repeats.mono {more : Nat} (h : Repeats spells bound isStart part rest)
    (hle : bound ≤ more) : Repeats spells more isStart part rest := by
  induction bound generalizing more isStart part with
  | zero =>
      obtain rfl : part = [] := h
      cases more with
      | zero => exact rfl
      | succ more => exact .inl rfl
  | succ bound ih =>
      cases more with
      | zero => exact absurd hle (Nat.not_succ_le_zero bound)
      | succ more =>
          rcases h with rfl | ⟨left, right, rfl, hleft, hright⟩
          · exact .inl rfl
          · exact .inr ⟨left, right, rfl, hleft, ih hright (Nat.le_of_succ_le_succ hle)⟩

/-- Parts that are empty can be left out, so there need be no more parts
    than code points. -/
theorem Repeats.of_length (h : Repeats spells bound isStart part rest) :
    Repeats spells part.length isStart part rest := by
  induction bound generalizing isStart part with
  | zero =>
      obtain rfl : part = [] := h
      exact rfl
  | succ bound ih =>
      rcases h with rfl | ⟨left, right, rfl, hleft, hright⟩
      · exact rfl
      · cases left with
        | nil =>
            rw [List.isEmpty_nil, Bool.and_true] at hright
            exact ih hright
        | cons c left =>
            rw [List.cons_append, List.length_cons, List.length_append]
            exact .inr ⟨c :: left, right, rfl, hleft, (ih hright).mono (Nat.le_add_left _ _)⟩

/-- A class of code points is repeated in the texts of that class. -/
theorem repeats_point_iff {accepts : CodePoint → Bool} :
    Repeats (point accepts).Spells bound isStart part rest ↔
      part.length ≤ bound ∧ ∀ c ∈ part, accepts c = true := by
  induction bound generalizing isStart part with
  | zero =>
      constructor
      · intro h
        obtain rfl : part = [] := h
        exact ⟨Nat.le_refl 0, fun c hc => nomatch hc⟩
      · rintro ⟨hlength, -⟩
        exact List.length_eq_zero_iff.mp (Nat.le_zero.mp hlength)
  | succ bound ih =>
      constructor
      · rintro (rfl | ⟨left, right, rfl, ⟨c, hc, rfl⟩, hright⟩)
        · exact ⟨Nat.zero_le _, fun c hc => nomatch hc⟩
        · obtain ⟨hlength, hall⟩ := ih.mp hright
          exact ⟨Nat.succ_le_succ hlength, List.forall_mem_cons.mpr ⟨hc, hall⟩⟩
      · rintro ⟨hlength, hall⟩
        cases part with
        | nil => exact .inl rfl
        | cons c tail =>
            obtain ⟨hc, htail⟩ := List.forall_mem_cons.mp hall
            exact .inr ⟨[c], tail, rfl, ⟨c, hc, rfl⟩,
              ih.mpr ⟨Nat.le_of_succ_le_succ hlength, htail⟩⟩

end

/-! ## The matcher -/

/-- Behind two parts nothing stands before if nothing did and both are
    empty. -/
theorem isStart_append (isStart : Bool) (left right : Text) :
    (isStart && (left ++ right).isEmpty) = (isStart && left.isEmpty && right.isEmpty) := by
  cases left with
  | nil => rw [List.nil_append, List.isEmpty_nil, Bool.and_true]
  | cons c left => simp

/-- A matcher gets on behind some part that is spelled where it starts, if
    what comes next can go on from there. -/
def Finds (step : (Place → Option α) → Place → Option α)
    (spells : Bool → Text → Text → Prop) : Prop :=
  ∀ (next : Place → Option α) (isStart : Bool) (s : Text),
    (step next ⟨isStart, s⟩).isSome = true ↔
      ∃ part rest, s = part ++ rest ∧ spells isStart part rest
        ∧ (next ⟨isStart && part.isEmpty, rest⟩).isSome = true

theorem finds_empty {next : Place → Option α} {isStart : Bool} {s : Text} :
    (next ⟨isStart, s⟩).isSome = true ↔
      ∃ part rest, s = part ++ rest ∧ part = []
        ∧ (next ⟨isStart && part.isEmpty, rest⟩).isSome = true := by
  constructor
  · intro h
    exact ⟨[], s, rfl, rfl, by rwa [List.isEmpty_nil, Bool.and_true]⟩
  · rintro ⟨_, rest, rfl, rfl, h⟩
    rwa [List.isEmpty_nil, Bool.and_true] at h

/-- One part is stepped over and then the others, or none at all. -/
theorem Finds.repeatedly {step : (Place → Option α) → Place → Option α}
    {spells : Bool → Text → Text → Prop} (h : Finds step spells) (bound : Nat) :
    Finds (repeatedly step bound) (Repeats spells bound) := by
  induction bound with
  | zero =>
      intro next isStart s
      exact finds_empty
  | succ bound ih =>
      intro next isStart s
      rw [Pattern.repeatedly, Option.isSome_or, Bool.or_eq_true, h]
      constructor
      · rintro (⟨left, middle, rfl, hleft, hgoes⟩ | hnext)
        · obtain ⟨right, rest, rfl, hright, hnext⟩ := (ih next _ middle).mp hgoes
          refine ⟨left ++ right, rest, (List.append_assoc ..).symm, ?_, ?_⟩
          · exact .inr ⟨left, right, rfl, hleft, hright⟩
          · rwa [isStart_append]
        · obtain ⟨part, rest, hs, hpart, hnext⟩ := finds_empty.mp hnext
          exact ⟨part, rest, hs, .inl hpart, hnext⟩
      · rintro ⟨part, rest, rfl, rfl | ⟨left, right, rfl, hleft, hright⟩, hnext⟩
        · exact .inr (finds_empty.mpr ⟨[], rest, rfl, rfl, hnext⟩)
        · refine .inl ⟨left, right ++ rest, List.append_assoc .., hleft, ?_⟩
          rw [isStart_append] at hnext
          exact (ih next _ _).mpr ⟨right, rest, rfl, hright, hnext⟩

/-- The matcher gets on behind a pattern exactly if the pattern spells a
    part of the text there from whose end the text can be gone on with. -/
theorem isSome_run_iff (pattern : Pattern) :
    Finds (α := α) pattern.run pattern.Spells := by
  induction pattern with
  | empty =>
      intro next isStart s
      exact finds_empty
  | point accepts =>
      intro next isStart s
      cases s with
      | nil =>
          refine iff_of_false (fun h => nomatch h) ?_
          rintro ⟨_, rest, hs, ⟨c, -, rfl⟩, -⟩
          exact nomatch hs
      | cons c s =>
          show (if accepts c then next ⟨false, s⟩ else none).isSome = true ↔ _
          constructor
          · intro h
            split at h
            · rename_i hc
              refine ⟨[c], s, rfl, ⟨c, hc, rfl⟩, ?_⟩
              rwa [List.isEmpty_cons, Bool.and_false]
            · exact nomatch h
          · rintro ⟨_, rest, hs, ⟨d, hd, rfl⟩, hnext⟩
            obtain ⟨rfl, rfl⟩ := List.cons.inj hs
            rw [List.isEmpty_cons, Bool.and_false] at hnext
            rwa [if_pos hd]
  | start =>
      intro next isStart s
      show (if isStart then next ⟨isStart, s⟩ else none).isSome = true ↔ _
      cases isStart with
      | false =>
          refine iff_of_false (fun h => nomatch h) ?_
          rintro ⟨_, _, -, ⟨h, -⟩, -⟩
          exact nomatch h
      | true =>
          simp only [spells_start, true_and]
          exact finds_empty
  | finish =>
      intro next isStart s
      show (if s = [] ∨ s = "\n" then next ⟨isStart, s⟩ else none).isSome = true ↔ _
      by_cases hs : s = [] ∨ s = "\n"
      · rw [if_pos hs, finds_empty]
        constructor
        · rintro ⟨_, rest, rfl, rfl, hnext⟩
          exact ⟨[], rest, rfl, ⟨rfl, hs⟩, hnext⟩
        · rintro ⟨part, rest, hsplit, ⟨hpart, -⟩, hnext⟩
          exact ⟨part, rest, hsplit, hpart, hnext⟩
      · rw [if_neg hs]
        refine iff_of_false (fun h => nomatch h) ?_
        rintro ⟨_, rest, rfl, ⟨rfl, hrest⟩, -⟩
        exact hs hrest
  | seq first second ihfirst ihsecond =>
      intro next isStart s
      show (first.run (second.run next) ⟨isStart, s⟩).isSome = true ↔ _
      rw [ihfirst]
      constructor
      · rintro ⟨left, middle, rfl, hleft, hgoes⟩
        obtain ⟨right, rest, rfl, hright, hnext⟩ := (ihsecond next _ middle).mp hgoes
        refine ⟨left ++ right, rest, (List.append_assoc ..).symm, ?_, ?_⟩
        · exact ⟨left, right, rfl, hleft, hright⟩
        · rwa [isStart_append]
      · rintro ⟨_, rest, rfl, ⟨left, right, rfl, hleft, hright⟩, hnext⟩
        rw [isStart_append] at hnext
        exact ⟨left, right ++ rest, List.append_assoc .., hleft,
          (ihsecond next _ _).mpr ⟨right, rest, rfl, hright, hnext⟩⟩
  | either first second ihfirst ihsecond =>
      intro next isStart s
      show ((first.run next ⟨isStart, s⟩).or (second.run next ⟨isStart, s⟩)).isSome = true ↔ _
      rw [Option.isSome_or, Bool.or_eq_true, ihfirst, ihsecond]
      constructor
      · rintro (⟨part, rest, hs, hpart, hnext⟩ | ⟨part, rest, hs, hpart, hnext⟩)
        · exact ⟨part, rest, hs, .inl hpart, hnext⟩
        · exact ⟨part, rest, hs, .inr hpart, hnext⟩
      · rintro ⟨part, rest, hs, hpart | hpart, hnext⟩
        · exact .inl ⟨part, rest, hs, hpart, hnext⟩
        · exact .inr ⟨part, rest, hs, hpart, hnext⟩
  | atMost bound body ih => exact ih.repeatedly bound
  | many body ih =>
      intro next isStart s
      show (Pattern.repeatedly body.run s.length next ⟨isStart, s⟩).isSome = true ↔ _
      rw [ih.repeatedly]
      constructor
      · rintro ⟨part, rest, hs, hpart, hnext⟩
        exact ⟨part, rest, hs, ⟨_, hpart⟩, hnext⟩
      · rintro ⟨part, rest, rfl, ⟨bound, hpart⟩, hnext⟩
        have hle : part.length ≤ (part ++ rest).length := by
          rw [List.length_append]
          exact Nat.le_add_right _ _
        exact ⟨part, rest, rfl, hpart.of_length.mono hle, hnext⟩

/-- A text begins with a match exactly if the pattern spells a part of it
    from its start on. -/
theorem matchesAt_iff {pattern : Pattern} {s : Text} :
    pattern.matchesAt s = true ↔ ∃ part rest, s = part ++ rest ∧ pattern.Spells true part rest := by
  rw [matchesAt, Place.first, isSome_run_iff]
  simp

/-! ## Patterns with one way to match -/

/-- A text matches itself. -/
theorem run_literal (s : Text) (next : Place → Option α) (isStart : Bool) (t : Text) :
    (literal s).run next ⟨isStart, t⟩
      = (Text.after? s t).bind fun rest => next ⟨isStart && s.isEmpty, rest⟩ := by
  induction s generalizing isStart t with
  | nil =>
      rw [List.isEmpty_nil, Bool.and_true]
      rfl
  | cons c s ih =>
      cases t with
      | nil => rfl
      | cons d t =>
          show (if decide (d = c) then (literal s).run next ⟨false, t⟩ else none)
            = (if c == d then Text.after? s t else none).bind _
          by_cases hsame : d = c
          · rw [if_pos (decide_eq_true hsame), if_pos (beq_iff_eq.mpr hsame.symm), ih]
            simp
          · rw [if_neg (by simpa using hsame), if_neg (by simpa using Ne.symm hsame)]
            rfl

/-- A class that is repeated takes all that it can, if what comes next can
    go on from anywhere. -/
theorem run_many_point {accepts : CodePoint → Bool} {next : Place → Option α}
    (hnext : ∀ place, (next place).isSome = true) (isStart : Bool) (s : Text) :
    (many (point accepts)).run next ⟨isStart, s⟩
      = next ⟨isStart && (s.takeWhile accepts).isEmpty, s.dropWhile accepts⟩ := by
  have hgreedy : ∀ (bound : Nat) (isStart : Bool), s.length ≤ bound →
      repeatedly (point accepts).run bound next ⟨isStart, s⟩
        = next ⟨isStart && (s.takeWhile accepts).isEmpty, s.dropWhile accepts⟩ := by
    induction s with
    | nil =>
        intro bound isStart _
        cases bound with
        | zero => simp [repeatedly]
        | succ bound => simp [repeatedly, run]
    | cons c s ih =>
        intro bound isStart hle
        cases bound with
        | zero => exact absurd hle (Nat.not_succ_le_zero _)
        | succ bound =>
            show (if accepts c then repeatedly (point accepts).run bound next ⟨false, s⟩
              else none).or (next ⟨isStart, c :: s⟩) = _
            cases hc : accepts c with
            | true =>
                rw [if_pos rfl, ih bound false (Nat.le_of_succ_le_succ hle),
                  Option.or_of_isSome (hnext _)]
                simp [hc]
            | false => simp [hc]
  exact hgreedy s.length isStart (Nat.le_refl _)

end Avatar.Pattern
