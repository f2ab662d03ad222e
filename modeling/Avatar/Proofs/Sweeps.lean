import Avatar.Proofs.Expiry

/-! # Looking for expired rows does not show

    A purge takes rows away, and so does a look-up, but none that still
    holds.  Two caches that agree in the rows which hold (`Alike`) answer
    every event alike and agree again after it, as long as the clock is
    not set back.  So a run does not tell whether purges were put in
    between its events, nor look-ups, but for the counts of those
    look-ups (`sweeps_do_not_show`). -/

namespace Avatar.Cache

variable {cache : Cache} {now : Int} {url : Text} {row : Row}

/-! ## Rows that hold -/

/-- The row under a URL, if it holds. -/
def held? (cache : Cache) (now : Int) (url : Text) : Option Row :=
  (cache.row? url).filter (!·.isExpired now)

theorem held?_eq_some_iff :
    cache.held? now url = some row ↔ cache.row? url = some row ∧ now < row.expiresAt := by
  rw [held?, Option.filter_eq_some_iff, Bool.not_eq_true', Row.isExpired_eq_false_iff]

theorem held?_eq_none_iff :
    cache.held? now url = none ↔ ∀ row, cache.row? url = some row → row.expiresAt ≤ now := by
  simp only [Option.eq_none_iff_forall_ne_some, ne_eq, held?_eq_some_iff, not_and, Int.not_lt]

/-- A look-up of a URL that can be encoded finds the row that holds
    there, and counts as a hit if there is one. -/
theorem get_of_held? (cache : Cache) (now : Int) (url : Text) :
    (cache.get now url).1 = (url.encode.map fun _ => (cache.held? now url).map Row.response)
      ∧ (cache.get now url).2.hits
        = cache.hits + if url.encode.isOk && (cache.held? now url).isSome then 1 else 0 := by
  rcases get_cases cache now url with
    ⟨failure, hfails, hget⟩ | ⟨⟨octets, hoctets⟩, ⟨hget, hexpired⟩ | ⟨row, hrow, hlt, hget⟩⟩
  · rw [hget, hfails]
    exact ⟨rfl, rfl⟩
  · rw [hget, hoctets, held?_eq_none_iff.mpr hexpired]
    exact ⟨rfl, rfl⟩
  · rw [hget, hoctets, held?_eq_some_iff.mpr ⟨hrow, hlt⟩]
    exact ⟨rfl, rfl⟩

/-! ## What an operation leaves as it is -/

/-- A put changes rows only. -/
theorem put_frame (cache : Cache) (now : Int) (url : Text) (response : Response) :
    (cache.put now url response).2
      = { cache with rows := (cache.put now url response).2.rows } := by
  rcases put_cases cache now url response with ⟨row, -, hput⟩ | ⟨failure, -, hput⟩
  · rw [hput]
    rfl
  · rw [hput]

/-- A purge changes rows only. -/
theorem purge_frame (cache : Cache) (now : Int) :
    (cache.purge now).2 = { cache with rows := (cache.purge now).2.rows } := by
  rcases purge_cases cache now with ⟨-, hpurge⟩ | ⟨-, hpurge⟩
  · rw [hpurge]
  · rw [hpurge]

/-- Writing a version down changes nothing else. -/
theorem setVersion_frame (cache : Cache) (version : Int) :
    (cache.setVersion version).2
      = { cache with version := (fitInt64 version).toOption.getD cache.version } := by
  rw [setVersion]
  cases fitInt64 version <;> rfl

/-- Where the rows are kept, and under which layout. -/
def file (cache : Cache) : Store × Int := (cache.store, cache.version)

theorem file_put (cache : Cache) (now : Int) (url : Text) (response : Response) :
    (cache.put now url response).2.file = cache.file := by
  rw [put_frame]
  rfl

theorem file_purge (cache : Cache) (now : Int) : (cache.purge now).2.file = cache.file := by
  rw [purge_frame]
  rfl

theorem file_setVersion (cache : Cache) (version : Int) :
    (cache.setVersion version).2.file
      = (cache.store, (fitInt64 version).toOption.getD cache.version) := by
  rw [setVersion_frame]
  rfl

theorem file_get (cache : Cache) (now : Int) (url : Text) :
    (cache.get now url).2.file = cache.file := by
  rcases get_cases cache now url with ⟨failure, -, hget⟩ | ⟨-, ⟨hget, -⟩ | ⟨row, -, -, hget⟩⟩
  · rw [hget]
  · rw [hget]
    rfl
  · rw [hget]
    rfl

theorem file_reopen (cache : Cache) : cache.reopen.file = (cache.store, currentVersion) := by
  by_cases hpersists : cache.Persists
  · rw [reopen_of_persists hpersists]
    exact congrArg (cache.store, ·) hpersists.2
  · rw [reopen_of_not_persists hpersists]
    rfl

theorem hits_put (cache : Cache) (now : Int) (url : Text) (response : Response) :
    (cache.put now url response).2.hits = cache.hits := by
  rw [put_frame]

theorem hits_purge (cache : Cache) (now : Int) : (cache.purge now).2.hits = cache.hits := by
  rw [purge_frame]

theorem hits_setVersion (cache : Cache) (version : Int) :
    (cache.setVersion version).2.hits = cache.hits := by
  rw [setVersion_frame]

theorem hits_reopen (cache : Cache) : cache.reopen.hits = 0 := by
  by_cases hpersists : cache.Persists
  · rw [reopen_of_persists hpersists]
  · rw [reopen_of_not_persists hpersists]
    rfl

theorem persists_iff_of_file_eq {a b : Cache} (h : a.file = b.file) :
    a.Persists ↔ b.Persists := by
  obtain ⟨hstore, hversion⟩ := Prod.mk.inj h
  rw [Persists, Persists, hstore, hversion]

/-- An answer without the number of rows that a purge took away. -/
def Answer.withoutCount : Answer → Answer
  | .purged _ => .purged 0
  | answer => answer

namespace Timed

variable {timed a b : Timed} {event : Event}

/-! ## Steps -/

/-- The clock is set to an earlier second. -/
def GoesBack (timed : Timed) (event : Event) : Prop :=
  ∃ clock, event = .setClock clock ∧ clock.whole < timed.clock.whole

/-- An event that looks for expired rows and does nothing else. -/
def IsSweep (event : Event) : Prop := event = .purge ∨ ∃ url, event = .get url

theorem clock_step (timed : Timed) (event : Event) :
    (timed.step event).2.clock
      = match event with
        | .setClock clock => clock
        | _ => timed.clock := by
  cases event <;> rfl

theorem cache_step (timed : Timed) (event : Event) :
    (timed.step event).2.cache
      = match event with
        | .get url => (timed.cache.get timed.clock.whole url).2
        | .put url response => (timed.cache.put timed.clock.whole url response).2
        | .purge => (timed.cache.purge timed.clock.whole).2
        | .setClock _ => timed.cache
        | .setVersion version => (timed.cache.setVersion version).2
        | .reopen => timed.cache.reopen := by
  cases event <;> rfl

theorem whole_le_step (h : ¬ GoesBack timed event) :
    timed.clock.whole ≤ (timed.step event).2.clock.whole := by
  rw [clock_step]
  cases event with
  | setClock clock => exact Int.not_lt.mp fun hlt => h ⟨clock, rfl, hlt⟩
  | _ => exact Int.le_refl _

/-- After an event the row that holds under a URL was put there by the
    event, or held before and was not replaced; nothing else is left of
    the rows that there were. -/
theorem held?_step_iff (h : timed.cache.HasOneRowPerUrl) (hforward : ¬ GoesBack timed event)
    {url : Text} {row : Row} :
    (timed.step event).2.cache.held? (timed.step event).2.clock.whole url = some row ↔
      ((∃ response, event = .put url response ∧ rowOf timed.clock.whole url response = .ok row)
          ∨ timed.cache.held? timed.clock.whole url = some row ∧ ¬ Replaces url timed event)
        ∧ (timed.step event).2.clock.whole < row.expiresAt := by
  rw [held?_eq_some_iff, row?_step_iff h, held?_eq_some_iff]
  have hle := whole_le_step hforward
  constructor
  · rintro ⟨hput | ⟨hrow, hstands, -⟩, hlt⟩
    · exact ⟨.inl hput, hlt⟩
    · exact ⟨.inr ⟨⟨hrow, Int.lt_of_le_of_lt hle hlt⟩, hstands⟩, hlt⟩
  · rintro ⟨hput | ⟨⟨hrow, hheld⟩, hstands⟩, hlt⟩
    · exact ⟨.inl hput, hlt⟩
    · -- what looks for expired rows does not meet one that holds
      refine ⟨.inr ⟨hrow, hstands, ?_⟩, hlt⟩
      rintro ⟨-, -, hexpired⟩
      exact absurd hheld (Int.not_lt.mpr hexpired)

/-! ## Caches that hold the same -/

/-- Two caches at one time that hold the same, although rows that have
    expired may be left in the one or the other. -/
structure Alike (a b : Timed) : Prop where
  clock : a.clock = b.clock
  file : a.cache.file = b.cache.file
  left : a.cache.HasOneRowPerUrl
  right : b.cache.HasOneRowPerUrl
  held? : ∀ url, a.cache.held? a.clock.whole url = b.cache.held? b.clock.whole url

theorem Alike.refl (h : timed.cache.HasOneRowPerUrl) : Alike timed timed :=
  ⟨rfl, rfl, h, h, fun _ => rfl⟩

theorem Alike.put_answer (h : Alike a b) (url : Text) (response : Response) :
    (a.step (.put url response)).1 = (b.step (.put url response)).1 := by
  show (a.cache.put a.clock.whole url response).1.map _
    = (b.cache.put b.clock.whole url response).1.map _
  rw [Cache.put_outcome, Cache.put_outcome, h.clock]

theorem Alike.replaces_iff (h : Alike a b) {url : Text} :
    Replaces url a event ↔ Replaces url b event := by
  rw [Replaces, Replaces, persists_iff_of_file_eq h.file]
  refine or_congr (exists_congr fun response => and_congr_right ?_) Iff.rfl
  rintro rfl
  rw [h.put_answer]

/-- No event tells them apart, but for how many rows a purge takes
    away. -/
theorem Alike.answer (h : Alike a b) (event : Event) :
    (a.step event).1.map Answer.withoutCount = (b.step event).1.map Answer.withoutCount := by
  cases event with
  | get url =>
      show ((a.cache.get a.clock.whole url).1.map Answer.found).map _
        = ((b.cache.get b.clock.whole url).1.map Answer.found).map _
      rw [(get_of_held? ..).1, (get_of_held? ..).1, h.held?]
  | put url response => rw [h.put_answer]
  | purge =>
      show ((a.cache.purge a.clock.whole).1.map Answer.purged).map _
        = ((b.cache.purge b.clock.whole).1.map Answer.purged).map _
      rw [purge, purge, h.clock]
      cases fitInt64 b.clock.whole <;> rfl
  | setClock clock => rfl
  | setVersion version =>
      show ((a.cache.setVersion version).1.map fun _ => Answer.changed).map _
        = ((b.cache.setVersion version).1.map fun _ => Answer.changed).map _
      rw [setVersion, setVersion]
      cases fitInt64 version <;> rfl
  | reopen => rfl

theorem Alike.file_step (h : Alike a b) (event : Event) :
    (a.step event).2.cache.file = (b.step event).2.cache.file := by
  obtain ⟨hstore, hversion⟩ := Prod.mk.inj h.file
  cases event with
  | get url => simp only [cache_step, file_get, h.file]
  | put url response => simp only [cache_step, file_put, h.file]
  | purge => simp only [cache_step, file_purge, h.file]
  | setClock clock => exact h.file
  | setVersion version => simp only [cache_step, file_setVersion, hstore, hversion]
  | reopen => simp only [cache_step, file_reopen, hstore]

/-- They stay alike while the clock does not go back; a row that has
    expired in the one and is gone from the other could hold again. -/
theorem Alike.step (h : Alike a b) (hforward : ¬ GoesBack b event) :
    Alike (a.step event).2 (b.step event).2 where
  clock := by
    rw [clock_step, clock_step, h.clock]
  file := h.file_step event
  left := hasOneRowPerUrl_step h.left event
  right := hasOneRowPerUrl_step h.right event
  held? url := by
    have hforward' : ¬ GoesBack a event := by
      rwa [GoesBack, h.clock]
    have hclock : (a.step event).2.clock = (b.step event).2.clock := by
      rw [clock_step, clock_step, h.clock]
    ext row
    rw [held?_step_iff h.left hforward', held?_step_iff h.right hforward, hclock, h.held?,
      h.replaces_iff, h.clock]

/-- Looking for expired rows leaves those that hold. -/
theorem held?_sweep (h : timed.cache.HasOneRowPerUrl) (hsweep : IsSweep event) (url : Text) :
    (timed.step event).2.cache.held? timed.clock.whole url
      = timed.cache.held? timed.clock.whole url := by
  ext row
  rw [held?_eq_some_iff, held?_eq_some_iff, row?_step_iff h]
  constructor
  · rintro ⟨⟨response, rfl, -⟩ | ⟨hrow, -⟩, hlt⟩
    · simp [IsSweep] at hsweep
    · exact ⟨hrow, hlt⟩
  · rintro ⟨hrow, hlt⟩
    refine ⟨.inr ⟨hrow, ?_, ?_⟩, hlt⟩
    · rcases hsweep with rfl | ⟨other, rfl⟩
      · simp [Replaces]
      · simp [Replaces]
    · rintro ⟨-, -, hexpired⟩
      exact absurd hlt (Int.not_lt.mpr hexpired)

/-- A further look for expired rows leaves them alike. -/
theorem Alike.sweep (h : Alike a b) (hsweep : IsSweep event) : Alike (a.step event).2 b := by
  have hclock : (a.step event).2.clock = a.clock := by
    rcases hsweep with rfl | ⟨url, rfl⟩
    · rfl
    · rfl
  have hfile : (a.step event).2.cache.file = a.cache.file := by
    rcases hsweep with rfl | ⟨url, rfl⟩
    · exact file_purge a.cache a.clock.whole
    · exact file_get a.cache a.clock.whole url
  refine ⟨hclock.trans h.clock, hfile.trans h.file, hasOneRowPerUrl_step h.left event, h.right, ?_⟩
  intro url
  rw [hclock, held?_sweep h.left hsweep, h.held?]

/-! ## Counters -/

/-- Two caches have counted the same look-ups. -/
def SameCounts (a b : Timed) : Prop :=
  a.cache.hits = b.cache.hits ∧ a.cache.misses = b.cache.misses

theorem Alike.hits_step (h : Alike a b) (hhits : a.cache.hits = b.cache.hits) (event : Event) :
    (a.step event).2.cache.hits = (b.step event).2.cache.hits := by
  cases event with
  | get url => simp only [cache_step, get_of_held?, h.held?, hhits]
  | put url response => simp only [cache_step, hits_put, hhits]
  | purge => simp only [cache_step, hits_purge, hhits]
  | setClock clock => exact hhits
  | setVersion version => simp only [cache_step, hits_setVersion, hhits]
  | reopen => simp only [cache_step, hits_reopen]

/-- Caches that are alike count an event alike: their hits stay the same,
    and hits and misses together depend on the events alone. -/
theorem Alike.sameCounts_step (h : Alike a b) (hsame : SameCounts a b) (event : Event) :
    SameCounts (a.step event).2 (b.step event).2 := by
  have hhits := h.hits_step hsame.1 event
  -- the misses are what the hits leave of the look-ups that were counted
  have hcounted : (a.step event).2.counted = (b.step event).2.counted := by
    rw [counted_step, counted_step, counted, counted, hsame.1, hsame.2]
  rw [counted, counted, hhits] at hcounted
  exact ⟨hhits, Nat.add_left_cancel hcounted⟩

/-- A purge counts nothing. -/
theorem SameCounts.purge (h : SameCounts a b) : SameCounts (a.step .purge).2 b := by
  show (a.cache.purge a.clock.whole).2.hits = _ ∧ (a.cache.purge a.clock.whole).2.misses = _
  rw [purge_frame]
  exact h

/-! ## Runs with further events -/

/-- An event of a run, and whether it was put in between the others. -/
structure Marked where
  event : Event
  isExtra : Bool

/-- The whole run. -/
def Marked.all (marked : List Marked) : List Event := marked.map (·.event)

/-- The run without the events that were put in. -/
def Marked.original (marked : List Marked) : List Event :=
  (marked.filter (!·.isExtra)).map (·.event)

/-- What the whole run gives for the events that were not put in: their
    answers, each with the cache after it. -/
def originalSteps (timed : Timed) (marked : List Marked) :
    List (Except Failure Answer × Timed) :=
  (((timed.run (Marked.all marked)).zip marked).filter (!·.2.isExtra)).map (·.1)

theorem originalSteps_extra {entry : Marked} (hextra : entry.isExtra = true) (timed : Timed)
    (marked : List Marked) :
    timed.originalSteps (entry :: marked) = (timed.step entry.event).2.originalSteps marked := by
  simp [originalSteps, Marked.all, run, hextra]

theorem originalSteps_original {entry : Marked} (hextra : entry.isExtra = false) (timed : Timed)
    (marked : List Marked) :
    timed.originalSteps (entry :: marked)
      = timed.step entry.event :: (timed.step entry.event).2.originalSteps marked := by
  simp [originalSteps, Marked.all, run, hextra]

/-- A relation of caches that every event keeps, and that the events which
    are put in keep on the one side, holds all along a run; and so what it
    makes equal of each step is equal.  The induction is on the run. -/
theorem originalSteps_related {γ : Type} {related : Timed → Timed → Prop} {extra : Event → Prop}
    {view : Except Failure Answer × Timed → γ}
    (hstep : ∀ a b event, related a b → ¬ GoesBack b event →
      related (a.step event).2 (b.step event).2 ∧ view (a.step event) = view (b.step event))
    (hextra : ∀ a b event, related a b → extra event → related (a.step event).2 b)
    {marked : List Marked} (hmarked : ∀ entry ∈ marked, entry.isExtra = true → extra entry.event)
    (h : related a b) (hforward : b.Never GoesBack (Marked.original marked)) :
    (a.originalSteps marked).map view = (b.run (Marked.original marked)).map view
      ∧ related (a.after (Marked.all marked)) (b.after (Marked.original marked)) := by
  induction marked generalizing a b with
  | nil => exact ⟨rfl, h⟩
  | cons entry marked ih =>
      obtain ⟨hentry, hmarked⟩ := List.forall_mem_cons.mp hmarked
      cases hisExtra : entry.isExtra with
      | true =>
          -- only the whole run takes this step
          have horiginal : Marked.original (entry :: marked) = Marked.original marked := by
            simp [Marked.original, hisExtra]
          rw [horiginal] at hforward ⊢
          rw [originalSteps_extra hisExtra]
          exact ih hmarked (hextra a b entry.event h (hentry hisExtra)) hforward
      | false =>
          -- both runs do, and what is compared is equal after it
          have horiginal : Marked.original (entry :: marked)
              = entry.event :: Marked.original marked := by
            simp [Marked.original, hisExtra]
          rw [horiginal, never_cons] at hforward
          obtain ⟨hafter, hview⟩ := hstep a b entry.event h hforward.1
          obtain ⟨hviews, hend⟩ := ih hmarked hafter hforward.2
          rw [horiginal, originalSteps_original hisExtra]
          refine ⟨?_, hend⟩
          rw [run, List.map_cons, List.map_cons, hview, hviews]

/-- What a step answers, and what the cache has counted then. -/
def answerAndCounts (step : Except Failure Answer × Timed) :
    Except Failure Answer × Nat × Nat :=
  (step.1.map Answer.withoutCount, step.2.cache.hits, step.2.cache.misses)

/-- A run does not show what looks for expired rows besides. -/
structure HidesSweeps (timed : Timed) (marked : List Marked) : Prop where
  /-- If purges are put in, all other events have the same answers, with
      the same counts after each of them. -/
  purges : (∀ entry ∈ marked, entry.isExtra = true → entry.event = .purge) →
    (timed.originalSteps marked).map answerAndCounts
      = (timed.run (Marked.original marked)).map answerAndCounts
  /-- The counts in the end are the same, too. -/
  counts : (∀ entry ∈ marked, entry.isExtra = true → entry.event = .purge) →
    SameCounts (timed.after (Marked.all marked)) (timed.after (Marked.original marked))
  /-- If look-ups are put in as well, all other events have the same
      answers still. -/
  lookUps : (∀ entry ∈ marked, entry.isExtra = true → IsSweep entry.event) →
    (timed.originalSteps marked).map (·.1.map Answer.withoutCount)
      = (timed.run (Marked.original marked)).map (·.1.map Answer.withoutCount)

/-- As long as the clock is not set back, no run of a cache shows what
    looks for expired rows besides, whatever happened before. -/
theorem sweeps_do_not_show (store : Store) (clock : Instant) (earlier : List Event)
    (marked : List Marked)
    (hforward : ((start store clock).after earlier).Never GoesBack (Marked.original marked)) :
    ((start store clock).after earlier).HidesSweeps marked := by
  have halike := Alike.refl (hasOneRowPerUrl_after_start store clock earlier)
  have hcounting : ∀ a b event, Alike a b ∧ SameCounts a b → ¬ GoesBack b event →
      (Alike (a.step event).2 (b.step event).2 ∧ SameCounts (a.step event).2 (b.step event).2)
        ∧ answerAndCounts (a.step event) = answerAndCounts (b.step event) := by
    rintro a b event ⟨halike, hsame⟩ hback
    have hcounts := halike.sameCounts_step hsame event
    refine ⟨⟨halike.step hback, hcounts⟩, ?_⟩
    rw [answerAndCounts, answerAndCounts, halike.answer, hcounts.1, hcounts.2]
  have hpurge : ∀ a b event, Alike a b ∧ SameCounts a b → event = .purge →
      Alike (a.step event).2 b ∧ SameCounts (a.step event).2 b := by
    rintro a b _ ⟨halike, hsame⟩ rfl
    exact ⟨halike.sweep (.inl rfl), hsame.purge⟩
  have hanswering : ∀ a b event, Alike a b → ¬ GoesBack b event →
      Alike (a.step event).2 (b.step event).2
        ∧ (a.step event).1.map Answer.withoutCount = (b.step event).1.map Answer.withoutCount := by
    intro a b event halike hback
    exact ⟨halike.step hback, halike.answer event⟩
  refine ⟨?_, ?_, ?_⟩
  · intro hpurges
    exact (originalSteps_related hcounting hpurge hpurges ⟨halike, rfl, rfl⟩ hforward).1
  · intro hpurges
    exact (originalSteps_related hcounting hpurge hpurges ⟨halike, rfl, rfl⟩ hforward).2.2
  · intro hsweeps
    exact (originalSteps_related hanswering (fun _ _ _ => Alike.sweep) hsweeps halike hforward).1

/-- An answer that is kept for ten seconds expires, and is purged before
    somebody looks for another one. -/
def purgedRun : List Marked := [
  ⟨.put "a" (.ofOctets "image/png" "max-age=10" [1]), false⟩,
  ⟨.setClock ⟨1010⟩, false⟩,
  ⟨.purge, true⟩,
  ⟨.get "b", false⟩]

/-- The purge takes a row away that is there without it, and does not
    show. -/
theorem purgedRun_hides_sweeps :
    (start .memory ⟨1000⟩).Never GoesBack (Marked.original purgedRun)
      ∧ (start .memory ⟨1000⟩).HidesSweeps purgedRun
      ∧ (∀ entry ∈ purgedRun, entry.isExtra = true → entry.event = .purge)
      ∧ ((start .memory ⟨1000⟩).after (Marked.all purgedRun)).cache.rows
        ≠ ((start .memory ⟨1000⟩).after (Marked.original purgedRun)).cache.rows := by
  have hforward : (start .memory ⟨1000⟩).Never GoesBack (Marked.original purgedRun) := by
    refine never_cons.mpr ⟨?_, never_cons.mpr ⟨?_, never_cons.mpr ⟨?_, never_nil _ _⟩⟩⟩
    · rintro ⟨clock, hevent, -⟩
      exact nomatch hevent
    · rintro ⟨clock, ⟨⟩, hlt⟩
      exact absurd hlt (by decide)
    · rintro ⟨clock, hevent, -⟩
      exact nomatch hevent
  have hpurges : ∀ entry ∈ purgedRun, entry.isExtra = true → entry.event = .purge := by
    simp [purgedRun]
  exact ⟨hforward, sweeps_do_not_show .memory ⟨1000⟩ [] purgedRun hforward, hpurges,
    by decide +kernel⟩

end Timed

end Avatar.Cache
