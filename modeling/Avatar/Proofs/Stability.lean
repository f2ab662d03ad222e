import Avatar.Proofs.Provenance

/-! # Answers that are kept stay the same

    After a success the cache holds a row under the URL, whether the
    answer was made or found.  No event takes that row away or changes it
    as long as no reading of the clock reaches the time at which it
    expires: requests with another URL and purges leave it
    (`row?_step`), and requests with its own URL find it.  So all of these
    repeat the first answer, without a word to the network or the
    directory (`success_is_stable`). -/

namespace Avatar.Service

/-! ## Readings of the clock -/

/-- Whether an event reads the clock: a purge does, and a look-up. -/
def Event.readsClock : Event → Bool
  | .request incoming => incoming.isForAvatar && incoming.url.isOk
  | .purge => true
  | .setClock _ => false
  | .setRoutes _ => false
  | .setSecret _ => false

/-- No reading of the clock in a run reaches a limit. -/
def ClockBelow (service : Service) (limit : Int) (events : List Event) : Prop :=
  ∀ before event rest, events = before ++ event :: rest → event.readsClock = true →
    (service.after before).clock.whole < limit

/-- Where nothing happens the clock is not read. -/
theorem clockBelow_nil (service : Service) (limit : Int) : service.ClockBelow limit [] := by
  intro before event rest hsplit
  exact absurd hsplit.symm (List.append_ne_nil_of_right_ne_nil before (List.cons_ne_nil event rest))

/-- The first event and those after it may be looked at apart. -/
theorem clockBelow_cons {service : Service} {limit : Int} {event : Event} {events : List Event} :
    service.ClockBelow limit (event :: events) ↔
      (event.readsClock = true → service.clock.whole < limit)
        ∧ (service.step event).2.ClockBelow limit events := by
  constructor
  · intro h
    refine ⟨h [] event events rfl, ?_⟩
    intro before next rest hsplit
    exact h (event :: before) next rest (by rw [hsplit, List.cons_append])
  · rintro ⟨hfirst, hrest⟩ before next rest hsplit
    cases before with
    | nil =>
        obtain ⟨rfl, rfl⟩ := List.cons.inj hsplit
        exact hfirst
    | cons first before =>
        obtain ⟨rfl, htail⟩ := List.cons.inj hsplit
        exact hrest before next rest htail

/-- The beginning of such a run is one. -/
theorem ClockBelow.left {service : Service} {limit : Int} {events more : List Event}
    (h : service.ClockBelow limit (events ++ more)) : service.ClockBelow limit events := by
  intro before event rest hsplit
  exact h before event (rest ++ more) (by rw [hsplit, List.append_assoc, List.cons_append])

/-! ## What leaves a row -/

variable {service : Service} {row : Row}

/-- A request that finds nothing does not look under the URL of a row that
    holds. -/
theorem Misses.ne_url {incoming : Incoming} {url : Text} (h : service.Misses incoming url)
    (hrow : service.cache.row? row.url = some row) (hencode : ∃ octets, row.url.encode = .ok octets)
    (hlt : service.clock.whole < row.expiresAt) : row.url ≠ url := by
  rintro rfl
  have hnot := h.notFound
  rw [Cache.get_of_row? hencode hrow hlt] at hnot
  exact nomatch hnot

/-- A request leaves every row that holds, if it looks for any. -/
theorem row?_respond (hrow : service.cache.row? row.url = some row)
    (hencode : ∃ octets, row.url.encode = .ok octets) {incoming : Incoming}
    (hlt : (Event.request incoming).readsClock = true → service.clock.whole < row.expiresAt) :
    (service.respond incoming).2.cache.row? row.url = some row := by
  cases hfor : incoming.isForAvatar with
  | false =>
      rw [respond_of_not_isForAvatar service hfor]
      exact hrow
  | true =>
      -- a look-up in vain is for another URL, for under its own the row would be found
      have hne {url : Text} (hmiss : service.Misses incoming url) : row.url ≠ url := by
        refine hmiss.ne_url hrow hencode (hlt ?_)
        rw [Event.readsClock, hmiss.isForAvatar, hmiss.located]
        rfl
      have hmissed {url : Text} (hmiss : service.Misses incoming url) :
          (service.missed url).cache.row? row.url = some row :=
        (Cache.row?_missed_of_ne (hne hmiss)).trans hrow
      obtain ⟨answer, last, hrespond, hsettled⟩ := respond_settled service hfor
      rw [hrespond]
      cases hsettled with
      | unasked => exact hrow
      | hit => exact hrow
      | refused hmiss => exact hmissed hmiss
      | kept hadmits =>
          exact (Cache.row?_insert_of_ne _ (hne hadmits.misses)).trans (hmissed hadmits.misses)

/-- An event leaves every row that holds, if it reads the clock at all. -/
theorem row?_step (hrow : service.cache.row? row.url = some row)
    (hencode : ∃ octets, row.url.encode = .ok octets) {event : Event}
    (hlt : event.readsClock = true → service.clock.whole < row.expiresAt) :
    (service.step event).2.cache.row? row.url = some row := by
  cases event with
  | request incoming => exact row?_respond hrow hencode hlt
  | purge => exact Cache.row?_purge hrow (hlt rfl)
  | setClock clock => exact hrow
  | setRoutes routes => exact hrow
  | setSecret secret =>
      rw [cache_step_setSecret]
      exact hrow

/-- A row outlasts a run in which no reading of the clock reaches the time
    at which it expires. -/
theorem row?_after (hrow : service.cache.row? row.url = some row)
    (hencode : ∃ octets, row.url.encode = .ok octets) {events : List Event}
    (hbelow : service.ClockBelow row.expiresAt events) :
    (service.after events).cache.row? row.url = some row := by
  induction events generalizing service with
  | nil => exact hrow
  | cons event events ih =>
      obtain ⟨hfirst, hrest⟩ := clockBelow_cons.mp hbelow
      exact ih (row?_step hrow hencode hfirst) hrest

/-! ## Stable answers -/

/-- A request that is answered from the cache asks nobody else. -/
theorem step_of_hits {incoming : Incoming} (h : service.Hits incoming row) :
    service.step (.request incoming)
      = (⟨.ok (.response (finish incoming row.response)), [], []⟩, service.hit) := by
  have hsent : service.hit.session.sent.drop service.session.sent.length = [] :=
    List.drop_length
  have hlookups : service.hit.session.lookups.drop service.session.lookups.length = [] :=
    List.drop_length
  rw [step, answer]
  simp only [respond_of_hits h, hsent, hlookups]
  rfl

/-- The row that an answer from the cache leaves is the one that it
    shows. -/
theorem Hits.eq_of_row? {incoming : Incoming} {other : Row} (h : service.Hits incoming row)
    (hurl : incoming.url = .ok other.url)
    (hrow : (service.respond incoming).2.cache.row? other.url = some other) : other = row := by
  rw [h.located] at hurl
  rw [respond_of_hits h, ← Except.ok.inj hurl] at hrow
  exact Option.some.inj (hrow.symm.trans h.stored)

/-- After an answer from the cache, a purge and a request at the same time
    do not read the time at which the row expires. -/
theorem Hits.clockBelow {incoming later : Incoming} (h : service.Hits incoming row) :
    service.hit.ClockBelow row.expiresAt [.purge, .request later] := by
  have hlt := h.get_eq.2.1
  exact clockBelow_cons.mpr ⟨fun _ => hlt, clockBelow_cons.mpr ⟨fun _ => hlt, clockBelow_nil _ _⟩⟩

/-- The lonely service answers the second of two equal requests. -/
theorem lonely_succeeds :
    (lonely.after [.request signedRequest]).Succeeds signedRequest
      (finish signedRequest placeholderRow.response) :=
  ⟨lonely_hits.isForAvatar, by rw [respond_of_hits lonely_hits], status_finish _ _⟩

/-- A success leaves a row under its URL.  As long as no reading of the
    clock reaches the time at which that row expires, each request for an
    avatar with the same URL is given the same answer again; nothing is
    asked of the network or the directory for it, and the row stays. -/
theorem success_is_stable {incoming : Incoming} {response : Response}
    (h : service.Succeeds incoming response) :
    ∃ row, incoming.url = .ok row.url
      ∧ (service.respond incoming).2.cache.row? row.url = some row
      ∧ ∀ (events : List Event) (later : Incoming),
        (service.respond incoming).2.ClockBelow row.expiresAt (events ++ [.request later]) →
          later.isForAvatar = true → later.url = incoming.url →
            ∃ repeated last,
              ((service.respond incoming).2.after events).step (.request later)
                = (⟨.ok (.response repeated), [], []⟩, last)
              ∧ Repeats response repeated
              ∧ last.cache.row? row.url = some row := by
  obtain ⟨row, hkeeps⟩ := keeps_of_succeeds h
  refine ⟨row, hkeeps.located, hkeeps.stored, ?_⟩
  intro events later hbelow hfor hurl
  have hlocated : later.url = .ok row.url := hurl.trans hkeeps.located
  have hrow := row?_after hkeeps.stored hkeeps.encodable hbelow.left
  -- the request itself reads the clock, so the row holds when it looks
  have hlt : ((service.respond incoming).2.after events).clock.whole < row.expiresAt := by
    refine hbelow events (.request later) [] rfl ?_
    rw [Event.readsClock, hfor, hlocated]
    rfl
  have hhit := hits_of_row? hfor hlocated hkeeps.encodable hrow hlt
  refine ⟨finish later row.response, _, step_of_hits hhit, ?_, hrow⟩
  rw [hkeeps.shows]
  exact finish_repeats row incoming later

/-- The third one, after a purge, is given the same answer. -/
theorem lonely_success_is_stable :
    (lonely.after [.request signedRequest]).Succeeds signedRequest
        (finish signedRequest placeholderRow.response)
      ∧ ∃ repeated last,
        (((lonely.after [.request signedRequest]).respond signedRequest).2.after [.purge]).step
            (.request signedRequest) = (⟨.ok (.response repeated), [], []⟩, last)
        ∧ Repeats (finish signedRequest placeholderRow.response) repeated
        ∧ last.cache.row? placeholderRow.url = some placeholderRow := by
  obtain ⟨row, hurl, hrow, hstable⟩ := success_is_stable lonely_succeeds
  obtain rfl := lonely_hits.eq_of_row? hurl hrow
  have hbelow : ((lonely.after [.request signedRequest]).respond signedRequest).2.ClockBelow
      placeholderRow.expiresAt ([.purge] ++ [.request signedRequest]) := by
    rw [respond_of_hits lonely_hits]
    exact lonely_hits.clockBelow
  exact ⟨lonely_succeeds, hstable [.purge] signedRequest hbelow lonely_hits.isForAvatar rfl⟩

end Avatar.Service
