import Mathlib.Data.List.Induction
import Avatar.Proofs.Runs

/-! # Where the rows of a service come from

    A row is born in one way only: a request misses, its actor is signed
    for, and the picture that it is answered with is kept.  No other event
    adds a row, whatever the clock, the network and the secret do
    meanwhile.  So each row of a run that starts without any leads back to
    the request that stored it (`provenance`), and each answer from the
    cache to an answer that was made (`hit_repeats_answer`). -/

namespace Avatar.Service

/-! ## The origin of a row -/

/-- A row was stored by a request of a run, before which and between
    which and now there were further events, and it was never gone
    since. -/
structure StoredBy (start : Service) (events : List Event) (row : Row) (before : List Event)
    (maker : Incoming) (actor : Text) (between : List Event) : Prop where
  split : events = before ++ .request maker :: between
  stores : (start.after before).Stores maker actor row
  stays : ∀ middle, middle <+: between →
    row ∈ (start.after (before ++ .request maker :: middle)).cache.rows

/-- Each row of a run that starts without any was stored by a request of
    the run.  The induction is on the last event: the row is the one that
    it stored, or an older one that it left. -/
theorem provenance {start : Service} (hempty : start.cache.rows = []) {events : List Event}
    {row : Row} (hrow : row ∈ (start.after events).cache.rows) :
    ∃ before maker actor between, start.StoredBy events row before maker actor between := by
  induction events using List.reverseRecOn with
  | nil =>
      have hnone : row ∈ start.cache.rows := hrow
      rw [hempty] at hnone
      exact nomatch hnone
  | append_singleton events event ih =>
      have hlast := hrow
      rw [after_concat] at hrow
      rcases mem_rows_step hrow with hold | ⟨maker, actor, rfl, hstores⟩
      · -- an older row keeps its origin, and stays through one event more
        obtain ⟨before, maker, actor, between, hsplit, hstores, hstays⟩ := ih hold
        refine ⟨before, maker, actor, between ++ [event], ?_, hstores, ?_⟩
        · rw [hsplit, List.append_assoc, List.cons_append]
        · intro middle hmiddle
          rcases List.prefix_concat_iff.mp hmiddle with rfl | hearlier
          · rw [hsplit, List.append_assoc, List.cons_append] at hlast
            exact hlast
          · exact hstays middle hearlier
      · refine ⟨events, maker, actor, [], rfl, hstores, ?_⟩
        intro middle hmiddle
        rw [List.prefix_nil.mp hmiddle]
        exact hlast

/-- The row that answers a request is one of the rows. -/
theorem Hits.mem_rows {service : Service} {incoming : Incoming} {row : Row}
    (h : service.Hits incoming row) : row ∈ service.cache.rows :=
  Cache.mem_of_row? h.stored

/-! ## A run in which a row is stored and answers

    A service to which nobody is known gives every actor a placeholder;
    the signature is that of the actor `a` under the secret `s`. -/

/-- A service under the secret `s` that knows nobody. -/
def lonely : Service :=
  ⟨⟨.table [], "https://bsky.test", none⟩, ⟨[0x73]⟩, .create .memory, ⟨1000⟩, .start []⟩

/-- A request for the avatar of the actor `a`. -/
def signedRequest : Incoming :=
  ⟨"GET", "/9659450897188d054f9c20310342e042c55697737b2798b59f8f1cef7dda0674/a", "h", []⟩

/-- The row that keeps the placeholder of the actor `a`. -/
def placeholderRow : Row :=
  Cache.standardRow 1000
    "http://h/9659450897188d054f9c20310342e042c55697737b2798b59f8f1cef7dda0674/a"
    "image/svg+xml" (Placeholder.svg "a" Placeholder.size).utf8

/-- A single row that stands under its URL answers the request right after
    the one that stored it. -/
theorem lonely_hits_of_cache {maker : Incoming} {row : Row}
    (hcache : (lonely.after [.request maker]).cache = ⟨.memory, 1, [row], 0, 1⟩)
    (hurl : row.url = placeholderRow.url) (hexpires : row.expiresAt = 44200) :
    (lonely.after [.request maker]).Hits signedRequest row := by
  have hclock : (lonely.after [.request maker]).clock = lonely.clock := clock_respond lonely maker
  refine hits_of_row? (by decide +kernel) ?_ ?_ ?_ ?_
  · rw [hurl]
    decide +kernel
  · rw [hurl]
    exact ⟨placeholderRow.url.utf8, by decide +kernel⟩
  · rw [hcache]
    exact List.find?_cons_of_pos (decide_eq_true rfl)
  · rw [hclock, hexpires]
    decide +kernel

/-- The request stores the row. -/
theorem lonely_cache_after :
    (lonely.after [.request signedRequest]).cache = ⟨.memory, 1, [placeholderRow], 0, 1⟩ := by
  decide +kernel

/-- The row answers the same request again. -/
theorem lonely_hits : (lonely.after [.request signedRequest]).Hits signedRequest placeholderRow :=
  lonely_hits_of_cache lonely_cache_after rfl rfl

/-! ## Answers from the cache -/

/-- An answer from the cache repeats one that the service made: an earlier
    request of the run with the same URL missed, was signed under the
    secret of that time, and got the same type, Cache-Control value and
    body, less than twelve hours ago by the clock. -/
theorem hit_repeats_answer {start : Service} (hempty : start.cache.rows = [])
    {events : List Event} {incoming : Incoming} {row : Row}
    (hhit : (start.after events).Hits incoming row) :
    ∃ before maker between, events = before ++ .request maker :: between
      ∧ maker.url = incoming.url
      ∧ (start.after before).Misses maker row.url
      ∧ maker.isSignedBy (start.after before).signer = true
      ∧ (start.after events).clock.whole < (start.after before).clock.whole + 43200
      ∧ ∃ made repeated, ((start.after before).respond maker).1 = .ok made
          ∧ ((start.after events).respond incoming).1 = .ok repeated
          ∧ Repeats made repeated := by
  obtain ⟨before, maker, actor, between, hsplit, hstores, -⟩ := provenance hempty hhit.mem_rows
  obtain ⟨-, hlt, -⟩ := hhit.get_eq
  obtain ⟨signature, hactor, hverify⟩ := hstores.admits.signed
  refine ⟨before, maker, between, hsplit, ?_, hstores.admits.misses, ?_, ?_,
    finish maker row.response, finish incoming row.response, hstores.answered, ?_,
    finish_repeats row maker incoming⟩
  · rw [hstores.admits.misses.located, hhit.located]
  · exact Incoming.isSignedBy_iff.mpr ⟨signature, actor, hactor, hverify⟩
  · rw [hstores.expiresAt] at hlt
    exact hlt
  · rw [respond_of_hits hhit]

/-- The answer to the second of two equal requests repeats that to the
    first. -/
theorem lonely_hit_repeats_answer :
    lonely.cache.rows = []
      ∧ (lonely.after [.request signedRequest]).Hits signedRequest placeholderRow
      ∧ ∃ before maker between, [Event.request signedRequest] = before ++ .request maker :: between
        ∧ maker.url = signedRequest.url
        ∧ (lonely.after before).Misses maker placeholderRow.url
        ∧ maker.isSignedBy (lonely.after before).signer = true
        ∧ (lonely.after [.request signedRequest]).clock.whole
          < (lonely.after before).clock.whole + 43200
        ∧ ∃ made repeated, ((lonely.after before).respond maker).1 = .ok made
            ∧ ((lonely.after [.request signedRequest]).respond signedRequest).1 = .ok repeated
            ∧ Repeats made repeated :=
  ⟨rfl, lonely_hits, hit_repeats_answer rfl lonely_hits⟩

end Avatar.Service
