import Avatar.Race

/-! # Who wins a race

    Attempts are put in the order in which they end, one after the other,
    and among those that have some property the first in that order is
    the one that ends earliest, and of two that end at one time the one
    that was started first (`find?_inOrderOfEnding_iff`).  So the winner is
    known from the delays without any order (`race_eq_some_iff`), and where
    all attempts that find a text find the same one, not even the delays
    matter (`race_of_unanimous`).  The failure that a race ends with where
    all attempts fail is known in the same way, which settles every outcome
    (`race_picks_earliest`). -/

namespace Avatar

namespace Attempt

variable {attempt winner : Attempt} {attempts : List Attempt} {p : Attempt → Bool}

/-- The first of its kind in an order of ending ends no later than the
    others of its kind. -/
theorem delay_le_of_find? (hsorted : attempts.Pairwise (·.delay ≤ ·.delay))
    (h : attempts.find? p = some winner) :
    ∀ other ∈ attempts, p other = true → winner.delay ≤ other.delay := by
  obtain ⟨-, earlier, later, rfl, hearlier⟩ := List.find?_eq_some_iff_append.mp h
  intro other hother hp
  rcases List.mem_append.mp hother with hmem | hmem
  · have hnot := hearlier other hmem
    rw [hp] at hnot
    exact nomatch hnot
  · rcases List.mem_cons.mp hmem with rfl | hlater
    · exact Nat.le_refl _
    · obtain ⟨-, hrest, -⟩ := List.pairwise_append.mp hsorted
      exact (List.pairwise_cons.mp hrest).1 other hlater

/-- An attempt that is put in its place comes to be the first of its kind
    unless another one ended before. -/
theorem find?_insert (hp : p attempt = true) (hsorted : attempts.Pairwise (·.delay ≤ ·.delay)) :
    (insert attempt attempts).find? p
      = match attempts.find? p with
        | none => some attempt
        | some other => if other.delay < attempt.delay then some other else some attempt := by
  induction attempts with
  | nil => exact List.find?_cons_of_pos hp
  | cons first rest ih =>
      obtain ⟨hfirst, hrest⟩ := List.pairwise_cons.mp hsorted
      rw [insert]
      by_cases hlt : first.delay < attempt.delay
      · rw [if_pos hlt]
        cases hpfirst : p first with
        | true =>
            rw [List.find?_cons_of_pos hpfirst, List.find?_cons_of_pos hpfirst]
            exact (if_pos hlt).symm
        | false =>
            have hnot : ¬ p first = true := Bool.eq_false_iff.mp hpfirst
            rw [List.find?_cons_of_neg hnot, List.find?_cons_of_neg hnot, ih hrest]
      · rw [if_neg hlt, List.find?_cons_of_pos hp]
        cases hfound : (first :: rest).find? p with
        | none => rfl
        | some other =>
            -- everything that is still to come ends as late as the attempt
            have hle : first.delay ≤ other.delay := by
              rcases List.mem_cons.mp (List.mem_of_find?_eq_some hfound) with rfl | hmem
              · exact Nat.le_refl _
              · exact hfirst other hmem
            have hlate : ¬ other.delay < attempt.delay := by omega
            exact (if_neg hlate).symm

theorem find?_insert_of_not (hp : p attempt = false) (attempts : List Attempt) :
    (insert attempt attempts).find? p = attempts.find? p := by
  have hnot : ¬ p attempt = true := Bool.eq_false_iff.mp hp
  induction attempts with
  | nil => exact List.find?_cons_of_neg hnot
  | cons first rest ih =>
      rw [insert]
      split
      · rw [List.find?_cons, List.find?_cons, ih]
      · exact List.find?_cons_of_neg hnot

/-- An attempt is the first of its kind to end: those of its kind that were
    started before it end later, and those that were started after it no
    earlier. -/
def IsFirst (p : Attempt → Bool) (attempts : List Attempt) (winner : Attempt) : Prop :=
  ∃ before behind, attempts = before ++ winner :: behind ∧ p winner = true
    ∧ (∀ other ∈ before, p other = true → winner.delay < other.delay)
    ∧ ∀ other ∈ behind, p other = true → winner.delay ≤ other.delay

theorem isFirst_cons_iff :
    IsFirst p (attempt :: attempts) winner ↔
      (winner = attempt ∧ p attempt = true
          ∧ ∀ other ∈ attempts, p other = true → attempt.delay ≤ other.delay)
        ∨ (p attempt = true → winner.delay < attempt.delay) ∧ IsFirst p attempts winner := by
  constructor
  · rintro ⟨before, behind, hsplit, hp, hbefore, hbehind⟩
    cases before with
    | nil =>
        obtain ⟨rfl, rfl⟩ := List.cons.inj hsplit
        exact .inl ⟨rfl, hp, hbehind⟩
    | cons first before =>
        obtain ⟨rfl, rfl⟩ := List.cons.inj hsplit
        refine .inr ⟨hbefore attempt List.mem_cons_self, before, behind, rfl, hp, ?_, hbehind⟩
        intro other hother
        exact hbefore other (List.mem_cons_of_mem attempt hother)
  · rintro (⟨rfl, hp, hbehind⟩ | ⟨hlt, before, behind, rfl, hp, hbefore, hbehind⟩)
    · exact ⟨[], attempts, rfl, hp, fun other hother => (nomatch hother), hbehind⟩
    · refine ⟨attempt :: before, behind, rfl, hp, ?_, hbehind⟩
      intro other hother
      rcases List.mem_cons.mp hother with rfl | hmem
      · exact hlt
      · exact hbefore other hmem

theorem IsFirst.mem (h : IsFirst p attempts winner) : winner ∈ attempts ∧ p winner = true := by
  obtain ⟨before, behind, rfl, hp, -⟩ := h
  exact ⟨List.mem_append_right before List.mem_cons_self, hp⟩

/-- The first of its kind in the order of ending is known from the
    delays. -/
theorem find?_inOrderOfEnding_iff :
    (inOrderOfEnding attempts).find? p = some winner ↔ IsFirst p attempts winner := by
  induction attempts generalizing winner with
  | nil => exact ⟨fun h => (nomatch h), fun h => (nomatch h.mem.1)⟩
  | cons attempt rest ih =>
      have hsorted := pairwise_inOrderOfEnding rest
      have hmem {other : Attempt} : other ∈ inOrderOfEnding rest ↔ other ∈ rest :=
        (perm_inOrderOfEnding rest).mem_iff
      show (insert attempt (inOrderOfEnding rest)).find? p = some winner ↔ _
      rw [isFirst_cons_iff, ← ih]
      cases hp : p attempt with
      | false =>
          rw [find?_insert_of_not hp]
          simp
      | true =>
          rw [find?_insert hp hsorted]
          cases hfound : (inOrderOfEnding rest).find? p with
          | none =>
              have hnone := List.find?_eq_none.mp hfound
              constructor
              · rintro ⟨⟩
                refine .inl ⟨rfl, rfl, ?_⟩
                intro other hother hpother
                exact absurd hpother (hnone other (hmem.mpr hother))
              · rintro (⟨rfl, -, -⟩ | ⟨-, hnot⟩)
                · rfl
                · exact nomatch hnot
          | some first =>
              have hleast := delay_le_of_find? hsorted hfound
              have hfirst := hmem.mp (List.mem_of_find?_eq_some hfound)
              show (if first.delay < attempt.delay then some first else some attempt) = _ ↔ _
              split
              · rename_i hlt
                constructor
                · rintro ⟨⟩
                  exact .inr ⟨fun _ => hlt, rfl⟩
                · rintro (⟨-, -, hall⟩ | ⟨-, hsame⟩)
                  · exact absurd hlt (Nat.not_lt.mpr (hall first hfirst (List.find?_some hfound)))
                  · exact hsame
              · rename_i hle
                constructor
                · rintro ⟨⟩
                  refine .inl ⟨rfl, rfl, ?_⟩
                  intro other hother hpother
                  exact Nat.le_trans (Nat.le_of_not_lt hle)
                    (hleast other (hmem.mpr hother) hpother)
                · rintro (⟨rfl, -, -⟩ | ⟨hlt, ⟨⟩⟩)
                  · rfl
                  · exact absurd (hlt rfl) hle

/-- What the first attempt in the order of ending gives that gives
    anything. -/
theorem findSome?_inOrderOfEnding_iff {β : Type} {f : Attempt → Option β} {b : β} :
    (inOrderOfEnding attempts).findSome? f = some b
      ↔ ∃ winner, IsFirst (fun attempt => (f attempt).isSome) attempts winner
        ∧ f winner = some b := by
  simp only [List.findSome?_eq_some_iff, ← find?_inOrderOfEnding_iff,
    List.find?_eq_some_iff_append]
  constructor
  · rintro ⟨earlier, winner, later, hsplit, hwinner, hnone⟩
    refine ⟨winner, ⟨by rw [hwinner]; rfl, earlier, later, hsplit, ?_⟩, hwinner⟩
    intro other hother
    rw [hnone other hother]
    rfl
  · rintro ⟨winner, ⟨-, earlier, later, hsplit, hnot⟩, hwinner⟩
    refine ⟨earlier, winner, later, hsplit, hwinner, ?_⟩
    intro other hother
    simpa using hnot other hother

theorem exists_isFirst (h : ∃ attempt ∈ attempts, p attempt = true) :
    ∃ winner, IsFirst p attempts winner := by
  obtain ⟨attempt, hmem, hp⟩ := h
  cases hfound : (inOrderOfEnding attempts).find? p with
  | none =>
      have hended := (perm_inOrderOfEnding attempts).mem_iff.mpr hmem
      exact absurd hp (List.find?_eq_none.mp hfound attempt hended)
  | some winner => exact ⟨winner, find?_inOrderOfEnding_iff.mp hfound⟩

/-- An attempt is the least of its kind by the time at which it ends, and
    of those that end at one time by its place. -/
def IsEarliest (p : Attempt → Bool) (attempts : List Attempt) (winner : Attempt) : Prop :=
  ∃ i : Nat, attempts[i]? = some winner ∧ p winner = true
    ∧ ∀ (j : Nat) (other : Attempt), attempts[j]? = some other → p other = true →
      winner.delay < other.delay ∨ winner.delay = other.delay ∧ i ≤ j

theorem IsFirst.isEarliest (h : IsFirst p attempts winner) : IsEarliest p attempts winner := by
  obtain ⟨before, behind, rfl, hp, hbefore, hbehind⟩ := h
  refine ⟨before.length, by simp, hp, ?_⟩
  intro j other hother hpother
  by_cases hlt : j < before.length
  · rw [List.getElem?_append_left hlt] at hother
    exact .inl (hbefore other (List.mem_of_getElem? hother) hpother)
  · have hle : before.length ≤ j := Nat.le_of_not_lt hlt
    rw [List.getElem?_append_right hle] at hother
    rcases List.mem_cons.mp (List.mem_of_getElem? hother) with rfl | hmem
    · exact .inr ⟨rfl, hle⟩
    · rcases Nat.lt_or_eq_of_le (hbehind other hmem hpother) with hless | hsame
      · exact .inl hless
      · exact .inr ⟨hsame, hle⟩

theorem IsEarliest.isFirst (h : IsEarliest p attempts winner) : IsFirst p attempts winner := by
  obtain ⟨i, hi, hp, hleast⟩ := h
  obtain ⟨hlt, hwinner⟩ := List.getElem?_eq_some_iff.mp hi
  refine ⟨attempts.take i, attempts.drop (i + 1), ?_, hp, ?_, ?_⟩
  · rw [← hwinner, ← List.drop_eq_getElem_cons hlt, List.take_append_drop]
  · intro other hother hpother
    obtain ⟨j, hj, rfl⟩ := List.mem_take_iff_getElem.mp hother
    have hother := List.getElem?_eq_getElem (l := attempts) (i := j) (by omega)
    rcases hleast j _ hother hpother with hless | ⟨-, hle⟩
    · exact hless
    · omega
  · intro other hother hpother
    obtain ⟨j, hj⟩ := List.mem_iff_getElem?.mp hother
    rw [List.getElem?_drop] at hj
    rcases hleast _ other hj hpother with hless | ⟨hsame, -⟩
    · exact Nat.le_of_lt hless
    · exact Nat.le_of_eq hsame

/-- Only the attempts of a race matter for which one is the earliest. -/
theorem isEarliest_congr {q : Attempt → Bool} (h : ∀ attempt ∈ attempts, p attempt = q attempt) :
    IsEarliest p attempts winner ↔ IsEarliest q attempts winner := by
  refine exists_congr fun i => and_congr_right fun hi => ?_
  rw [h winner (List.mem_of_getElem? hi)]
  refine and_congr_right fun _ => forall_congr' fun j => forall_congr' fun other => ?_
  refine forall_congr' fun hother => ?_
  rw [h other (List.mem_of_getElem? hother)]

end Attempt

variable {attempts : List Attempt} {first second : Attempt} {text : Text}

theorem race_eq_some_iff_findSome? :
    race attempts = .ok (some text)
      ↔ (Attempt.inOrderOfEnding attempts).findSome? Attempt.found? = some text := by
  rw [race_eq]
  split
  · rename_i winner hwinner
    simp [hwinner]
  · rename_i hnone
    rw [hnone]
    split <;> simp

/-- A race is won by the text of the first attempt to end that found
    one. -/
theorem race_eq_some_iff :
    race attempts = .ok (some text)
      ↔ ∃ winner, Attempt.IsFirst (·.found?.isSome) attempts winner
        ∧ winner.found? = some text := by
  rw [race_eq_some_iff_findSome?, Attempt.findSome?_inOrderOfEnding_iff]

/-- Of two attempts the one that was started first wins, unless only the
    other one finds a text or finds it earlier. -/
theorem race_pair_eq_some_iff :
    race [first, second] = .ok (some text)
      ↔ (first.found? = some text ∧ (second.found? = none ∨ first.delay ≤ second.delay))
        ∨ (second.found? = some text ∧ (first.found? = none ∨ second.delay < first.delay)) := by
  rw [race_eq_some_iff]
  constructor
  · rintro ⟨winner, hwins, hfound⟩
    rcases Attempt.isFirst_cons_iff.mp hwins with ⟨rfl, -, hle⟩ | ⟨hlt, hwins⟩
    · refine .inl ⟨hfound, ?_⟩
      cases hsecond : second.found? with
      | none => exact .inl rfl
      | some other => exact .inr (hle second List.mem_cons_self (by rw [hsecond]; rfl))
    · obtain rfl := List.mem_singleton.mp hwins.mem.1
      refine .inr ⟨hfound, ?_⟩
      cases hfirst : first.found? with
      | none => exact .inl rfl
      | some other => exact .inr (hlt (by rw [hfirst]; rfl))
  · rintro (⟨hfound, hother⟩ | ⟨hfound, hother⟩)
    · refine ⟨first, Attempt.isFirst_cons_iff.mpr (.inl ⟨rfl, by rw [hfound]; rfl, ?_⟩), hfound⟩
      intro other hmem hsome
      obtain rfl := List.mem_singleton.mp hmem
      rcases hother with hnone | hle
      · rw [hnone] at hsome
        exact nomatch hsome
      · exact hle
    · refine ⟨second, Attempt.isFirst_cons_iff.mpr (.inr ⟨?_, ?_⟩), hfound⟩
      · intro hsome
        rcases hother with hnone | hlt
        · rw [hnone] at hsome
          exact nomatch hsome
        · exact hlt
      · refine Attempt.isFirst_cons_iff.mpr (.inl ⟨rfl, by rw [hfound]; rfl, ?_⟩)
        exact fun other hmem => nomatch hmem

/-- Where all attempts that find a text find the same one, it wins, and
    when they end does not matter. -/
theorem race_of_unanimous {attempt : Attempt} (hmem : attempt ∈ attempts)
    (hfound : attempt.outcome = .ok (some text))
    (hall : ∀ other ∈ attempts, ∀ found, other.outcome = .ok (some found) → found = text) :
    race attempts = .ok (some text) := by
  cases hwinner : (Attempt.inOrderOfEnding attempts).findSome? Attempt.found? with
  | none =>
      have hnone := List.findSome?_eq_none_iff.mp hwinner attempt
        ((Attempt.perm_inOrderOfEnding attempts).mem_iff.mpr hmem)
      rw [Attempt.found?_eq_some_iff.mpr hfound] at hnone
      exact nomatch hnone
  | some found =>
      have hrace := race_eq_some_iff_findSome?.mpr hwinner
      obtain ⟨other, hother, houtcome⟩ := exists_mem_of_race hrace
      rw [hall other hother found houtcome] at hrace
      exact hrace

/-! ## All outcomes of a race -/

/-- Where an attempt finds a text, some text wins. -/
theorem race_of_found (h : ∃ attempt ∈ attempts, attempt.found?.isSome = true) :
    ∃ text, race attempts = .ok (some text) := by
  obtain ⟨winner, hwinner⟩ := Attempt.exists_isFirst h
  obtain ⟨text, htext⟩ := Option.isSome_iff_exists.mp hwinner.mem.2
  exact ⟨text, race_eq_some_iff.mpr ⟨winner, hwinner, htext⟩⟩

/-- Where no attempt does, it depends on whether all of them failed. -/
theorem race_of_none_found (h : ∀ attempt ∈ attempts, attempt.found? = none) :
    race attempts
      = if attempts.all (·.failure?.isSome) then
          .error (((Attempt.inOrderOfEnding attempts).findSome? Attempt.failure?).getD .noAttempts)
        else .ok none := by
  have hnone : (Attempt.inOrderOfEnding attempts).findSome? Attempt.found? = none := by
    refine List.findSome?_eq_none_iff.mpr fun attempt hmem => h attempt ?_
    exact (Attempt.perm_inOrderOfEnding attempts).mem_iff.mp hmem
  rw [race_eq, hnone]

/-- An attempt that found nothing did not fail either. -/
theorem race_of_missed (h : ∀ attempt ∈ attempts, attempt.found? = none)
    (hmissed : ∃ attempt ∈ attempts, attempt.outcome = .ok none) :
    race attempts = .ok none := by
  obtain ⟨attempt, hmem, houtcome⟩ := hmissed
  have hnot : ¬ attempts.all (·.failure?.isSome) = true := by
    intro hall
    have hfailed := List.all_eq_true.mp hall attempt hmem
    rw [Attempt.failure?, houtcome] at hfailed
    exact Bool.false_ne_true hfailed
  rw [race_of_none_found h, if_neg hnot]

/-- Where all attempts failed, the failure of the earliest of them is the
    outcome. -/
theorem race_of_failed {failure : Failure}
    (hall : ∀ attempt ∈ attempts, ∃ failure, attempt.outcome = .error failure)
    (hfirst : Attempt.IsEarliest (fun _ => true) attempts first)
    (houtcome : first.outcome = .error failure) : race attempts = .error failure := by
  have hfailed : ∀ attempt ∈ attempts, attempt.failure?.isSome = true := by
    intro attempt hmem
    obtain ⟨failure, hfailure⟩ := hall attempt hmem
    rw [Attempt.failure?, hfailure]
    rfl
  have hnone : ∀ attempt ∈ attempts, attempt.found? = none := by
    intro attempt hmem
    obtain ⟨failure, hfailure⟩ := hall attempt hmem
    rw [Attempt.found?, hfailure]
  have hwinner : Attempt.IsFirst (·.failure?.isSome) attempts first :=
    ((Attempt.isEarliest_congr hfailed).mpr hfirst).isFirst
  have hfound : (Attempt.inOrderOfEnding attempts).findSome? Attempt.failure? = some failure := by
    refine Attempt.findSome?_inOrderOfEnding_iff.mpr ⟨first, hwinner, ?_⟩
    rw [Attempt.failure?, houtcome]
  rw [race_of_none_found hnone, if_pos (List.all_eq_true.mpr hfailed), hfound]
  rfl

/-- Attempts find a text, or one of them finds nothing and none a text, or
    all of them fail. -/
theorem attempts_cases (attempts : List Attempt) :
    (∃ attempt ∈ attempts, attempt.found?.isSome = true)
      ∨ ((∀ attempt ∈ attempts, attempt.found? = none)
        ∧ ∃ attempt ∈ attempts, attempt.outcome = .ok none)
      ∨ ∀ attempt ∈ attempts, ∃ failure, attempt.outcome = .error failure := by
  by_cases hfound : ∃ attempt ∈ attempts, attempt.found?.isSome = true
  · exact .inl hfound
  · have hnone : ∀ attempt ∈ attempts, attempt.found? = none := by
      intro attempt hmem
      simpa using fun hsome => hfound ⟨attempt, hmem, hsome⟩
    by_cases hmissed : ∃ attempt ∈ attempts, attempt.outcome = .ok none
    · exact .inr (.inl ⟨hnone, hmissed⟩)
    · refine .inr (.inr fun attempt hmem => ?_)
      rcases houtcome : attempt.outcome with failure | none | text
      · exact ⟨failure, rfl⟩
      · exact absurd ⟨attempt, hmem, houtcome⟩ hmissed
      · have hsome := hnone attempt hmem
        rw [Attempt.found?_eq_some_iff.mpr houtcome] at hsome
        exact nomatch hsome

/-- Among attempts of which there is at least one, a race is won by the
    text of the earliest that found one; it finds nothing if no attempt
    does and one at least did not fail; and it fails if all of them do,
    with the failure of the earliest. -/
theorem race_picks_earliest (h : attempts ≠ []) :
    (∀ text, race attempts = .ok (some text)
        ↔ ∃ winner, Attempt.IsEarliest (·.found?.isSome) attempts winner
          ∧ winner.outcome = .ok (some text))
      ∧ (race attempts = .ok none
        ↔ (∀ attempt ∈ attempts, attempt.found? = none)
          ∧ ∃ attempt ∈ attempts, attempt.outcome = .ok none)
      ∧ ∀ failure, race attempts = .error failure
        ↔ (∀ attempt ∈ attempts, ∃ failure, attempt.outcome = .error failure)
          ∧ ∃ first, Attempt.IsEarliest (fun _ => true) attempts first
            ∧ first.outcome = .error failure := by
  have hearliest (hall : ∀ attempt ∈ attempts, ∃ failure, attempt.outcome = .error failure) :
      ∃ first failure, Attempt.IsEarliest (fun _ => true) attempts first
        ∧ first.outcome = .error failure := by
    obtain ⟨attempt, hmem⟩ := List.exists_mem_of_ne_nil attempts h
    obtain ⟨first, hfirst⟩ := Attempt.exists_isFirst (p := fun _ => true) ⟨attempt, hmem, rfl⟩
    obtain ⟨failure, houtcome⟩ := hall first hfirst.mem.1
    exact ⟨first, failure, hfirst.isEarliest, houtcome⟩
  -- each cause has its outcome, and the causes are all there are, so that
  -- an outcome tells its cause
  refine ⟨?_, ⟨?_, ?_⟩, ?_⟩
  · intro text
    rw [race_eq_some_iff]
    exact exists_congr fun winner => and_congr
      ⟨Attempt.IsFirst.isEarliest, Attempt.IsEarliest.isFirst⟩ Attempt.found?_eq_some_iff
  · intro hrace
    rcases attempts_cases attempts with hfound | hmissed | hall
    · obtain ⟨text, htext⟩ := race_of_found hfound
      exact nomatch Except.ok.inj (htext.symm.trans hrace)
    · exact hmissed
    · obtain ⟨first, failure, hfirst, houtcome⟩ := hearliest hall
      exact nomatch (race_of_failed hall hfirst houtcome).symm.trans hrace
  · rintro ⟨hnone, hmissed⟩
    exact race_of_missed hnone hmissed
  · intro failure
    constructor
    · intro hrace
      rcases attempts_cases attempts with hfound | ⟨hnone, hmissed⟩ | hall
      · obtain ⟨text, htext⟩ := race_of_found hfound
        exact nomatch htext.symm.trans hrace
      · exact nomatch (race_of_missed hnone hmissed).symm.trans hrace
      · obtain ⟨first, other, hfirst, houtcome⟩ := hearliest hall
        obtain rfl := Except.error.inj ((race_of_failed hall hfirst houtcome).symm.trans hrace)
        exact ⟨hall, first, hfirst, houtcome⟩
    · rintro ⟨hall, first, hfirst, houtcome⟩
      exact race_of_failed hall hfirst houtcome

/-- One attempt fails, one finds nothing, and two find texts at one
    time. -/
def staggered : List Attempt := [
  ⟨0, .error (.network "nope")⟩, ⟨0, .ok none⟩, ⟨10, .ok (some "later")⟩, ⟨10, .ok (some "last")⟩]

/-- The text that was started on first wins. -/
theorem staggered_picks_earliest :
    staggered ≠ [] ∧ race staggered = .ok (some "later") := by
  have hne : staggered ≠ [] := List.cons_ne_nil _ _
  have hearliest : Attempt.IsEarliest (·.found?.isSome) staggered ⟨10, .ok (some "later")⟩ := by
    refine Attempt.IsFirst.isEarliest ⟨staggered.take 2, staggered.drop 3, rfl, rfl, ?_, ?_⟩
    · simp [staggered, Attempt.found?]
    · simp [staggered]
  exact ⟨hne, ((race_picks_earliest hne).1 "later").mpr ⟨_, hearliest, rfl⟩⟩

end Avatar
