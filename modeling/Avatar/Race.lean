import Avatar.Failure

/-! # Races

    Several attempts at one text run at once.  The first that ends with a
    text wins; an attempt that fails or finds nothing never beats one
    that finds something.  If nobody wins the race finds nothing, unless
    everybody failed: then the earliest failure is the outcome. -/

namespace Avatar

/-- An attempt at a text: when it ends and how. -/
structure Attempt where
  delay : Nat
  outcome : Except Failure (Option Text)

namespace Attempt

/-- The text that an attempt found. -/
def found? (attempt : Attempt) : Option Text :=
  match attempt.outcome with
  | .ok result => result
  | .error _ => none

theorem found?_eq_some_iff {attempt : Attempt} {text : Text} :
    attempt.found? = some text ↔ attempt.outcome = .ok (some text) := by
  rw [found?]
  cases attempt.outcome <;> simp

/-- The failure that an attempt ended with. -/
def failure? (attempt : Attempt) : Option Failure :=
  match attempt.outcome with
  | .ok _ => none
  | .error failure => some failure

/-- Puts an attempt before the first one that does not end earlier. -/
def insert (attempt : Attempt) : List Attempt → List Attempt
  | [] => [attempt]
  | other :: rest =>
    if other.delay < attempt.delay then other :: insert attempt rest else attempt :: other :: rest

/-- Attempts in the order in which they end; of two that end at one time,
    the one that was started first. -/
def inOrderOfEnding (attempts : List Attempt) : List Attempt := attempts.foldr insert []

/-- Putting an attempt in its place neither loses nor doubles one. -/
theorem perm_insert (attempt : Attempt) (attempts : List Attempt) :
    (insert attempt attempts).Perm (attempt :: attempts) := by
  induction attempts with
  | nil => exact List.Perm.refl _
  | cons other rest ih =>
      unfold insert
      split
      · exact (List.Perm.cons other ih).trans (List.Perm.swap attempt other rest)
      · exact List.Perm.refl _

/-- Every attempt ends once. -/
theorem perm_inOrderOfEnding (attempts : List Attempt) :
    (inOrderOfEnding attempts).Perm attempts := by
  induction attempts with
  | nil => exact List.Perm.refl _
  | cons attempt rest ih => exact (perm_insert attempt _).trans (List.Perm.cons attempt ih)

/-- An attempt is put where no earlier one ends later. -/
theorem pairwise_insert {attempt : Attempt} {attempts : List Attempt}
    (h : attempts.Pairwise (·.delay ≤ ·.delay)) :
    (insert attempt attempts).Pairwise (·.delay ≤ ·.delay) := by
  induction attempts with
  | nil => exact List.pairwise_singleton _ _
  | cons other rest ih =>
      obtain ⟨hother, hrest⟩ := List.pairwise_cons.mp h
      unfold insert
      split
      · rename_i hlt
        refine List.pairwise_cons.mpr ⟨?_, ih hrest⟩
        intro a ha
        rcases List.mem_cons.mp ((perm_insert attempt rest).mem_iff.mp ha) with rfl | hmem
        · exact Nat.le_of_lt hlt
        · exact hother a hmem
      · rename_i hle
        refine List.pairwise_cons.mpr ⟨?_, h⟩
        intro a ha
        rcases List.mem_cons.mp ha with rfl | hmem
        · exact Nat.le_of_not_lt hle
        · exact Nat.le_trans (Nat.le_of_not_lt hle) (hother a hmem)

/-- No attempt ends later than the ones behind it. -/
theorem pairwise_inOrderOfEnding (attempts : List Attempt) :
    (inOrderOfEnding attempts).Pairwise (·.delay ≤ ·.delay) := by
  induction attempts with
  | nil => exact List.Pairwise.nil
  | cons attempt rest ih => exact pairwise_insert ih

/-- What comes of attempts that have all ended when nobody has won: the
    first failure, if there were as many as attempts were started. -/
def unwon (started : Nat) (failures : List Failure) : Except Failure (Option Text) :=
  if failures.length = started then .error (failures.head?.getD .noAttempts) else .ok none

/-- Awaits attempts in the order in which they end, with the failures that
    there were before: the first text wins at once. -/
def await (started : Nat) (failures : List Failure) :
    List Attempt → Except Failure (Option Text)
  | [] => unwon started failures
  | attempt :: rest =>
    match attempt.outcome with
    | .error failure => await started (failures ++ [failure]) rest
    | .ok none => await started failures rest
    | .ok (some text) => .ok (some text)

/-- Attempts that find no text leave their failures, in the order in which
    they end. -/
theorem await_of_none_found {ended : List Attempt} (started : Nat) (failures : List Failure)
    (h : ∀ attempt ∈ ended, attempt.found? = none) :
    await started failures ended = unwon started (failures ++ ended.filterMap failure?) := by
  induction ended generalizing failures with
  | nil => rw [List.filterMap_nil, List.append_nil, await]
  | cons attempt rest ih =>
      obtain ⟨hnone, hrest⟩ := List.forall_mem_cons.mp h
      rw [await]
      rcases houtcome : attempt.outcome with failure | none | text
      · have hfailure : attempt.failure? = some failure := by
          rw [failure?, houtcome]
        rw [List.filterMap_cons_some hfailure, List.append_cons]
        exact ih _ hrest
      · have hfailure : attempt.failure? = none := by
          rw [failure?, houtcome]
        rw [List.filterMap_cons_none hfailure]
        exact ih _ hrest
      · rw [found?_eq_some_iff.mpr houtcome] at hnone
        exact nomatch hnone

/-- Whatever failed before it, the first text wins. -/
theorem await_of_found {ended : List Attempt} {text : Text} (started : Nat)
    (failures : List Failure) (h : ended.findSome? found? = some text) :
    await started failures ended = .ok (some text) := by
  induction ended generalizing failures with
  | nil => exact nomatch h
  | cons attempt rest ih =>
      rw [List.findSome?_cons] at h
      rw [await]
      rcases houtcome : attempt.outcome with failure | none | found
      · rw [found?, houtcome] at h
        exact ih _ h
      · rw [found?, houtcome] at h
        exact ih _ h
      · rw [found?, houtcome] at h
        exact congrArg Except.ok h

end Attempt

/-- The outcome of attempts that run at once, given in the order in which
    they were started. -/
def race (attempts : List Attempt) : Except Failure (Option Text) :=
  Attempt.await attempts.length [] (Attempt.inOrderOfEnding attempts)

/-- A race is decided by the first text in the order of ending, or without
    one by whether all attempts failed. -/
theorem race_eq (attempts : List Attempt) :
    race attempts
      = match (Attempt.inOrderOfEnding attempts).findSome? Attempt.found? with
        | some text => .ok (some text)
        | none =>
          if attempts.all (·.failure?.isSome) then
            .error (((Attempt.inOrderOfEnding attempts).findSome? Attempt.failure?).getD .noAttempts)
          else .ok none := by
  have hperm := Attempt.perm_inOrderOfEnding attempts
  cases hfound : (Attempt.inOrderOfEnding attempts).findSome? Attempt.found? with
  | some text => exact Attempt.await_of_found _ _ hfound
  | none =>
      have hall : ((Attempt.inOrderOfEnding attempts).filterMap Attempt.failure?).length
          = attempts.length ↔ attempts.all (·.failure?.isSome) = true := by
        rw [← hperm.length_eq, List.filterMap_length_eq_length, List.all_eq_true]
        exact forall_congr' fun attempt => imp_congr hperm.mem_iff Iff.rfl
      have hnone := List.findSome?_eq_none_iff.mp hfound
      rw [race, Attempt.await_of_none_found _ _ hnone, List.nil_append, Attempt.unwon,
        List.head?_filterMap]
      simp only [hall]

/-- What wins a race is what one of the attempts ended with. -/
theorem exists_mem_of_race {attempts : List Attempt} {text : Text}
    (h : race attempts = .ok (some text)) :
    ∃ attempt ∈ attempts, attempt.outcome = .ok (some text) := by
  rw [race_eq] at h
  split at h
  · rename_i winner hwinner
    obtain rfl := Option.some.inj (Except.ok.inj h)
    obtain ⟨attempt, hmem, hfound⟩ := List.exists_of_findSome?_eq_some hwinner
    exact ⟨attempt, (Attempt.perm_inOrderOfEnding attempts).mem_iff.mp hmem,
      Attempt.found?_eq_some_iff.mp hfound⟩
  · split at h
    · exact nomatch h
    · exact nomatch Except.ok.inj h

end Avatar
