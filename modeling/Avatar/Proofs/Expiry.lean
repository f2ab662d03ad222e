import Mathlib.Data.List.DropRight
import Mathlib.Data.List.Induction
import Avatar.Cache.Run
import Avatar.Proofs.Rows

/-! # The cache as a map with expiry

    Whatever happens to a cache, the row under a URL is the one that the
    latest put left there, unless the rows were emptied since, or somebody
    looked for expired rows at a time when it had expired
    (`row?_after_iff`).  So each look-up is explained by the run before it,
    with nothing said about the rows (`run_is_expiring_map`).  The clock
    may be set back, and then a row that had expired holds again if nobody
    looked meanwhile. -/

namespace Avatar.Cache

/-- Whether an event is a look-up of a URL that can be encoded. -/
def Event.isLookUp : Event → Bool
  | .get url => url.encode.isOk
  | _ => false

/-- Whether an event opens the cache. -/
def Event.opens : Event → Bool
  | .reopen => true
  | _ => false

namespace Timed

/-! ## Runs -/

/-- A new cache and its clock. -/
def start (store : Store) (clock : Instant) : Timed := ⟨clock, .create store⟩

/-- The cache after some events, whether or not they failed. -/
def after (timed : Timed) (events : List Event) : Timed :=
  events.foldl (fun timed event => (timed.step event).2) timed

theorem after_append (timed : Timed) (events more : List Event) :
    timed.after (events ++ more) = (timed.after events).after more :=
  List.foldl_append

theorem after_concat (timed : Timed) (events : List Event) (event : Event) :
    timed.after (events ++ [event]) = ((timed.after events).step event).2 :=
  after_append timed events [event]

/-- A run takes its steps from the caches that `after` tells of. -/
theorem run_getElem? (timed : Timed) (events : List Event) (i : Nat) :
    (timed.run events)[i]? = events[i]?.map (timed.after (events.take i)).step := by
  induction events generalizing timed i with
  | nil => rfl
  | cons event events ih =>
      cases i with
      | zero => rfl
      | succ i =>
          rw [run, List.getElem?_cons_succ, List.getElem?_cons_succ]
          exact ih (timed.step event).2 i

/-- An event of a longer run is the last one, or one of those before. -/
theorem concat_eq_iff {events before rest : List Event} {last event : Event} :
    events ++ [last] = before ++ event :: rest ↔
      (rest = [] ∧ events = before ∧ last = event)
        ∨ ∃ between, rest = between ++ [last] ∧ events = before ++ event :: between := by
  constructor
  · intro hsplit
    rcases List.eq_nil_or_concat' rest with rfl | ⟨between, final, rfl⟩
    · obtain ⟨hevents, hlast⟩ := List.append_inj' hsplit rfl
      exact .inl ⟨rfl, hevents, (List.cons.inj hlast).1⟩
    · rw [← List.cons_append, ← List.append_assoc] at hsplit
      obtain ⟨hevents, hlast⟩ := List.append_inj' hsplit rfl
      obtain rfl := (List.cons.inj hlast).1
      exact .inr ⟨between, rfl, hevents⟩
  · rintro (⟨rfl, rfl, rfl⟩ | ⟨between, rfl, rfl⟩)
    · rfl
    · rw [List.append_assoc, List.cons_append]

/-- No event of a run is of a kind, as seen from the cache that it
    meets. -/
def Never (timed : Timed) (kind : Timed → Event → Prop) (events : List Event) : Prop :=
  ∀ before event rest, events = before ++ event :: rest → ¬ kind (timed.after before) event

theorem never_nil (timed : Timed) (kind : Timed → Event → Prop) : timed.Never kind [] := by
  intro before event rest hsplit
  exact absurd hsplit.symm (List.append_ne_nil_of_right_ne_nil before (List.cons_ne_nil event rest))

/-- The first event and those after it may be looked at apart. -/
theorem never_cons {timed : Timed} {kind : Timed → Event → Prop} {event : Event}
    {events : List Event} :
    timed.Never kind (event :: events) ↔
      ¬ kind timed event ∧ (timed.step event).2.Never kind events := by
  constructor
  · intro h
    refine ⟨h [] event events rfl, ?_⟩
    intro before next rest hsplit
    exact h (event :: before) next rest (congrArg (event :: ·) hsplit)
  · rintro ⟨hfirst, hlater⟩ before next rest hsplit
    cases before with
    | nil =>
        obtain ⟨rfl, -⟩ := List.cons.inj hsplit
        exact hfirst
    | cons first before =>
        obtain ⟨rfl, hrest⟩ := List.cons.inj hsplit
        exact hlater before next rest hrest

/-- The last event and those before it may be looked at apart. -/
theorem never_concat {timed : Timed} {kind : Timed → Event → Prop} {events : List Event}
    {event : Event} :
    timed.Never kind (events ++ [event]) ↔
      timed.Never kind events ∧ ¬ kind (timed.after events) event := by
  constructor
  · intro h
    refine ⟨?_, h events event [] rfl⟩
    intro before earlier rest hsplit
    exact h before earlier (rest ++ [event]) (concat_eq_iff.mpr (.inr ⟨rest, rfl, hsplit⟩))
  · rintro ⟨hearlier, hlast⟩ before next rest hsplit
    rcases concat_eq_iff.mp hsplit with ⟨-, rfl, rfl⟩ | ⟨between, -, hbefore⟩
    · exact hlast
    · exact hearlier before next between hbefore

/-! ## What takes a row away -/

variable {timed : Timed} {url : Text} {row : Row}

/-- An event that leaves no older row under a URL: a put there that
    succeeds, or a reopening that empties the cache. -/
def Replaces (url : Text) (timed : Timed) (event : Event) : Prop :=
  (∃ response, event = .put url response ∧ (timed.step event).1.isOk = true)
    ∨ event = .reopen ∧ ¬ timed.cache.Persists

/-- An event that looks for expired rows, by a look-up of a URL or a
    purge, and succeeds at a time or later. -/
def Sweeps (url : Text) (time : Int) (timed : Timed) (event : Event) : Prop :=
  (event = .get url ∨ event = .purge) ∧ (timed.step event).1.isOk = true
    ∧ time ≤ timed.clock.whole

theorem isOk_map {α β : Type} (f : α → β) (x : Except Failure α) : (x.map f).isOk = x.isOk := by
  cases x <;> rfl

/-- After each event the row under a URL is the one that the event has put
    there, or the one that was there before, unless the event replaced it
    or swept it away. -/
theorem row?_step_iff (h : timed.cache.HasOneRowPerUrl) {event : Event} :
    (timed.step event).2.cache.row? url = some row ↔
      (∃ response, event = .put url response ∧ rowOf timed.clock.whole url response = .ok row)
        ∨ timed.cache.row? url = some row ∧ ¬ Replaces url timed event
          ∧ ¬ Sweeps url row.expiresAt timed event := by
  cases event with
  | get other =>
      show (timed.cache.get timed.clock.whole other).2.row? url = some row ↔ _
      rw [row?_get_iff]
      simp [Replaces, Sweeps, step, isOk_map]
  | put other response =>
      show (timed.cache.put timed.clock.whole other response).2.row? url = some row ↔ _
      rw [row?_put_iff]
      by_cases hother : other = url
      · subst hother
        simp [Replaces, Sweeps, step, isOk_map]
      · simp [Replaces, Sweeps, hother]
  | purge =>
      show (timed.cache.purge timed.clock.whole).2.row? url = some row ↔ _
      rw [h.row?_purge_iff]
      simp [Replaces, Sweeps, step, isOk_map]
  | setClock clock => simp [Replaces, Sweeps, step]
  | setVersion version =>
      have hrows : (timed.cache.setVersion version).2.row? url = timed.cache.row? url := by
        rw [row?, rows_setVersion, row?]
      show (timed.cache.setVersion version).2.row? url = some row ↔ _
      rw [hrows]
      simp [Replaces, Sweeps]
  | reopen =>
      show timed.cache.reopen.row? url = some row ↔ _
      rw [row?_reopen_iff]
      simp [Replaces, Sweeps]

/-! ## The row under a URL after a run -/

theorem hasOneRowPerUrl_step (h : timed.cache.HasOneRowPerUrl) (event : Event) :
    (timed.step event).2.cache.HasOneRowPerUrl := by
  cases event with
  | get url => exact h.get _ url
  | put url response => exact h.put _ url response
  | purge => exact h.purge _
  | setClock clock => exact h
  | setVersion version =>
      show (timed.cache.setVersion version).2.HasOneRowPerUrl
      rw [HasOneRowPerUrl, rows_setVersion]
      exact h
  | reopen => exact h.reopen

theorem hasOneRowPerUrl_after (h : timed.cache.HasOneRowPerUrl) (events : List Event) :
    (timed.after events).cache.HasOneRowPerUrl := by
  induction events generalizing timed with
  | nil => exact h
  | cons event events ih => exact ih (hasOneRowPerUrl_step h event)

theorem hasOneRowPerUrl_after_start (store : Store) (clock : Instant) (events : List Event) :
    ((start store clock).after events).cache.HasOneRowPerUrl := by
  have hnone : (start store clock).cache.HasOneRowPerUrl := hasOneRowPerUrl_of_rows_eq_nil rfl
  exact hasOneRowPerUrl_after hnone events

/-- A put of a run whose row is still there: nothing replaced it later or
    swept it away. -/
structure Left (timed : Timed) (events : List Event) (url : Text) (row : Row)
    (before : List Event) (response : Response) (later : List Event) : Prop where
  split : events = before ++ .put url response :: later
  stored : rowOf (timed.after before).clock.whole url response = .ok row
  stands : (timed.after (before ++ [.put url response])).Never (Replaces url) later
  holds : (timed.after (before ++ [.put url response])).Never (Sweeps url row.expiresAt) later

theorem left_concat_self {events : List Event} {response : Response}
    (h : rowOf (timed.after events).clock.whole url response = .ok row) :
    timed.Left (events ++ [.put url response]) url row events response [] where
  split := rfl
  stored := h
  stands := never_nil _ _
  holds := never_nil _ _

/-- A put before the last event left its row if it had left it before and
    the event does not take it away. -/
theorem left_concat_iff {events before later : List Event} {response : Response} {event : Event} :
    timed.Left (events ++ [event]) url row before response (later ++ [event]) ↔
      timed.Left events url row before response later
        ∧ ¬ Replaces url (timed.after events) event
        ∧ ¬ Sweeps url row.expiresAt (timed.after events) event := by
  have hafter (hsplit : events = before ++ .put url response :: later) :
      (timed.after (before ++ [.put url response])).after later = timed.after events := by
    rw [← after_append, hsplit, List.append_assoc, List.singleton_append]
  constructor
  · rintro ⟨hsplit, hstored, hstands, hholds⟩
    rw [← List.cons_append, ← List.append_assoc] at hsplit
    have hevents := List.append_cancel_right hsplit
    rw [never_concat, hafter hevents] at hstands hholds
    exact ⟨⟨hevents, hstored, hstands.1, hholds.1⟩, hstands.2, hholds.2⟩
  · rintro ⟨⟨hsplit, hstored, hstands, hholds⟩, hreplaces, hsweeps⟩
    refine ⟨?_, hstored, never_concat.mpr ⟨hstands, ?_⟩, never_concat.mpr ⟨hholds, ?_⟩⟩
    · rw [hsplit, List.append_assoc, List.cons_append]
    · rw [hafter hsplit]
      exact hreplaces
    · rw [hafter hsplit]
      exact hsweeps

/-- After a run from a new cache the row under a URL is the one that a put
    of the run left there.  The induction is on the last event. -/
theorem row?_after_iff (store : Store) (clock : Instant) (events : List Event) :
    ((start store clock).after events).cache.row? url = some row ↔
      ∃ before response later, (start store clock).Left events url row before response later := by
  induction events using List.reverseRecOn with
  | nil =>
      constructor
      · intro hrow
        exact nomatch hrow
      · rintro ⟨before, response, later, hleft⟩
        exact absurd hleft.split.symm
          (List.append_ne_nil_of_right_ne_nil before (List.cons_ne_nil _ later))
  | append_singleton events event ih =>
      rw [after_concat, row?_step_iff (hasOneRowPerUrl_after_start store clock events), ih]
      constructor
      · rintro (⟨response, rfl, hstored⟩ | ⟨⟨before, response, later, hleft⟩, hkept⟩)
        · exact ⟨events, response, [], left_concat_self hstored⟩
        · exact ⟨before, response, later ++ [event], left_concat_iff.mpr ⟨hleft, hkept⟩⟩
      · rintro ⟨before, response, later, hleft⟩
        rcases concat_eq_iff.mp hleft.split with ⟨rfl, rfl, rfl⟩ | ⟨between, rfl, -⟩
        · exact .inl ⟨response, rfl, hleft.stored⟩
        · obtain ⟨hbefore, hkept⟩ := left_concat_iff.mp hleft
          exact .inr ⟨⟨before, response, between, hbefore⟩, hkept⟩

/-! ## Look-ups -/

/-- A look-up finds the row under its URL as long as that holds. -/
theorem step_get_found_iff {found : Response} :
    (timed.step (.get url)).1 = .ok (.found (some found)) ↔
      (∃ octets, url.encode = .ok octets)
        ∧ ∃ row, timed.cache.row? url = some row ∧ timed.clock.whole < row.expiresAt
          ∧ found = row.response := by
  have hanswer : (timed.step (.get url)).1
      = (timed.cache.get timed.clock.whole url).1.map Answer.found := rfl
  rw [hanswer]
  constructor
  · intro hfound
    rcases get_cases timed.cache timed.clock.whole url with
      ⟨failure, -, hget⟩ | ⟨hencode, ⟨hget, -⟩ | ⟨row, hrow, hlt, hget⟩⟩
    · rw [hget] at hfound
      exact nomatch hfound
    · rw [hget] at hfound
      exact nomatch hfound
    · rw [hget] at hfound
      have hsame := Option.some.inj (Answer.found.inj (Except.ok.inj hfound))
      exact ⟨hencode, row, hrow, hlt, hsame.symm⟩
  · rintro ⟨hencode, row, hrow, hlt, rfl⟩
    rw [get_of_row? hencode hrow hlt]
    rfl

theorem step_get_of_encode (h : ∃ octets, url.encode = .ok octets) :
    ∃ found, (timed.step (.get url)).1 = .ok (.found found) := by
  have hanswer : (timed.step (.get url)).1
      = (timed.cache.get timed.clock.whole url).1.map Answer.found := rfl
  obtain ⟨octets, hoctets⟩ := h
  rw [hanswer]
  rcases get_cases timed.cache timed.clock.whole url with
    ⟨failure, hfails, -⟩ | ⟨-, ⟨hget, -⟩ | ⟨row, -, -, hget⟩⟩
  · rw [hoctets] at hfails
    exact nomatch hfails
  · rw [hget]
    exact ⟨none, rfl⟩
  · rw [hget]
    exact ⟨some row.response, rfl⟩

/-! ## Puts -/

/-- A put succeeds if its answer is keepable, and otherwise it changes
    nothing. -/
theorem step_put_cases (timed : Timed) (url : Text) (response : Response) :
    ((timed.step (.put url response)).1.isOk = true
        ∧ ∃ body maxAge, IsKeepable timed.clock.whole url response body maxAge)
      ∨ (timed.step (.put url response)).1.isOk = false
        ∧ (timed.step (.put url response)).2 = timed
        ∧ ¬ ∃ body maxAge, IsKeepable timed.clock.whole url response body maxAge := by
  have hstep : timed.step (.put url response)
      = ((timed.cache.put timed.clock.whole url response).1.map fun _ => .changed,
        { timed with cache := (timed.cache.put timed.clock.whole url response).2 }) := rfl
  rw [hstep]
  rcases put_cases timed.cache timed.clock.whole url response with
    ⟨row, hrow, hput⟩ | ⟨failure, hrow, hput⟩
  · rw [hput]
    obtain ⟨body, maxAge, hkeepable, -⟩ := rowOf_eq_ok_iff.mp hrow
    exact .inl ⟨rfl, body, maxAge, hkeepable⟩
  · rw [hput]
    exact .inr ⟨rfl, rfl, not_isKeepable_of_rowOf hrow⟩

/-! ## The counters -/

/-- How many look-ups the cache has counted. -/
def counted (timed : Timed) : Nat := timed.cache.hits + timed.cache.misses

/-- Opening the cache starts the counters again, and of the other events
    it counts the look-ups. -/
theorem counted_step (timed : Timed) (event : Event) :
    (timed.step event).2.counted
      = if event.opens then 0 else timed.counted + if event.isLookUp then 1 else 0 := by
  cases event with
  | get url =>
      show counted ⟨timed.clock, (timed.cache.get timed.clock.whole url).2⟩
        = timed.counted + if url.encode.isOk then 1 else 0
      rcases get_cases timed.cache timed.clock.whole url with
        ⟨failure, hfails, hget⟩ | ⟨⟨octets, hoctets⟩, ⟨hget, -⟩ | ⟨row, -, -, hget⟩⟩
      · rw [hget, hfails]
        rfl
      · rw [hget, hoctets]
        rfl
      · rw [hget, hoctets]
        exact Nat.add_right_comm _ _ _
  | put url response =>
      show counted ⟨timed.clock, (timed.cache.put timed.clock.whole url response).2⟩ = timed.counted
      rcases put_cases timed.cache timed.clock.whole url response with
        ⟨row, -, hput⟩ | ⟨failure, -, hput⟩
      · rw [hput]
        rfl
      · rw [hput]
  | purge =>
      show counted ⟨timed.clock, (timed.cache.purge timed.clock.whole).2⟩ = timed.counted
      rcases purge_cases timed.cache timed.clock.whole with ⟨-, hpurge⟩ | ⟨-, hpurge⟩
      · rw [hpurge]
        rfl
      · rw [hpurge]
  | setClock clock => rfl
  | setVersion version =>
      show counted ⟨timed.clock, (timed.cache.setVersion version).2⟩ = timed.counted
      rw [setVersion]
      rcases fitInt64_cases version with hfits | hfits
      · rw [hfits]
        rfl
      · rw [hfits]
  | reopen =>
      show counted ⟨timed.clock, timed.cache.reopen⟩ = 0
      by_cases hpersists : timed.cache.Persists
      · rw [reopen_of_persists hpersists]
        rfl
      · rw [reopen_of_not_persists hpersists]
        rfl

/-- The events of a run since the cache was last opened. -/
def sinceOpening (events : List Event) : List Event := events.rtakeWhile (!·.opens)

/-- An event that opens the cache is not among them, and leaves none. -/
theorem sinceOpening_concat (events : List Event) (event : Event) :
    sinceOpening (events ++ [event])
      = if event.opens then [] else sinceOpening events ++ [event] := by
  rw [sinceOpening, List.rtakeWhile_concat]
  cases event.opens <;> rfl

/-- The cache has counted the look-ups since it was last opened. -/
theorem counted_after_start (store : Store) (clock : Instant) (events : List Event) :
    ((start store clock).after events).counted
      = (sinceOpening events).countP Event.isLookUp := by
  induction events using List.reverseRecOn with
  | nil => rfl
  | append_singleton events event ih =>
      rw [after_concat, counted_step, ih, sinceOpening_concat]
      split
      · rfl
      · rw [List.countP_append, List.countP_singleton]

/-! ## The map -/

/-- The cache after a run behaves as a map with expiry whose entries are
    the puts of the run. -/
structure IsExpiringMap (start : Timed) (events : List Event) : Prop where
  /-- There is at most one row under each URL. -/
  oneRowPerUrl : (start.after events).cache.HasOneRowPerUrl
  /-- A look-up finds what the latest put since the rows were last emptied
      kept there, if now is before it expires and nothing looked for
      expired rows meanwhile at a time when it had. -/
  found_iff : ∀ url found,
    ((start.after events).step (.get url)).1 = .ok (.found (some found)) ↔
      ∃ before response later body maxAge,
        events = before ++ .put url response :: later
          ∧ IsKeepable (start.after before).clock.whole url response body maxAge
          ∧ (start.after (before ++ [.put url response])).Never (Replaces url) later
          ∧ (start.after (before ++ [.put url response])).Never
              (Sweeps url ((start.after before).clock.whole + maxAge)) later
          ∧ (start.after events).clock.whole < (start.after before).clock.whole + maxAge
          ∧ found = ⟨200, [("content-type", response.keptType),
              ("cache-control", response.keptControl)], .octets body⟩
  /-- A look-up of a URL that can be encoded has an answer. -/
  answered : ∀ url, (∃ octets, url.encode = .ok octets) →
    ∃ found, ((start.after events).step (.get url)).1 = .ok (.found found)
  /-- A put succeeds if its answer is keepable. -/
  put_iff : ∀ url response, ((start.after events).step (.put url response)).1.isOk = true ↔
    ∃ body maxAge, IsKeepable (start.after events).clock.whole url response body maxAge
  /-- A put that fails changes nothing. -/
  failedPut : ∀ url response, ((start.after events).step (.put url response)).1.isOk = false →
    ((start.after events).step (.put url response)).2 = start.after events
  /-- Reopening keeps the rows of a cache in a file whose layout is the one
      in use. -/
  kept : (start.after events).cache.store = .file →
    (start.after events).cache.version = currentVersion →
      ((start.after events).step .reopen).2.cache.rows = (start.after events).cache.rows
  /-- Any other cache it empties, and the layout is the one in use. -/
  emptied : ¬ ((start.after events).cache.store = .file
      ∧ (start.after events).cache.version = currentVersion) →
    ((start.after events).step .reopen).2.cache.rows = []
      ∧ ((start.after events).step .reopen).2.cache.version = currentVersion
  /-- The counters tell how many look-ups there were since the cache was
      last opened. -/
  counted : (start.after events).cache.hits + (start.after events).cache.misses
    = (sinceOpening events).countP Event.isLookUp

/-- Every run of a cache, in memory or in a file, makes it a map with
    expiry. -/
theorem run_is_expiring_map (store : Store) (clock : Instant) (events : List Event) :
    (start store clock).IsExpiringMap events where
  oneRowPerUrl := hasOneRowPerUrl_after_start store clock events
  found_iff url found := by
    rw [step_get_found_iff]
    constructor
    · rintro ⟨-, row, hrow, hlt, rfl⟩
      obtain ⟨before, response, later, hleft⟩ := (row?_after_iff store clock events).mp hrow
      obtain ⟨body, maxAge, hkeepable, rfl⟩ := rowOf_eq_ok_iff.mp hleft.stored
      exact ⟨before, response, later, body, maxAge, hleft.split, hkeepable, hleft.stands,
        hleft.holds, hlt, rfl⟩
    · rintro ⟨before, response, later, body, maxAge, hsplit, hkeepable, hstands, hholds, hlt, rfl⟩
      refine ⟨hkeepable.url, _, (row?_after_iff store clock events).mpr
        ⟨before, response, later, hsplit, rowOf_eq_ok_iff.mpr ⟨body, maxAge, hkeepable, rfl⟩,
          hstands, hholds⟩, hlt, rfl⟩
  answered url hencode := step_get_of_encode hencode
  put_iff url response := by
    rcases step_put_cases ((start store clock).after events) url response with
      ⟨hok, hkeepable⟩ | ⟨hfails, -, hnot⟩
    · exact iff_of_true hok hkeepable
    · exact iff_of_false (Bool.eq_false_iff.mp hfails) hnot
  failedPut url response hfails := by
    rcases step_put_cases ((start store clock).after events) url response with
      ⟨hok, -⟩ | ⟨-, hsame, -⟩
    · rw [hok] at hfails
      exact nomatch hfails
    · exact hsame
  kept hstore hversion := by
    show ((start store clock).after events).cache.reopen.rows = _
    rw [reopen_of_persists ⟨hstore, hversion⟩]
  emptied hnot := by
    show ((start store clock).after events).cache.reopen.rows = []
      ∧ ((start store clock).after events).cache.reopen.version = currentVersion
    rw [reopen_of_not_persists hnot]
    exact ⟨rfl, rfl⟩
  counted := counted_after_start store clock events

end Timed

end Avatar.Cache
