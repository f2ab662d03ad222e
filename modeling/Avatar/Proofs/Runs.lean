import Avatar.Proofs.Requests
import Avatar.Service.Run

/-! # What the events of a run do

    A run is taken as far as its events go, whether or not they fail; the
    outcomes that a run lists are among those (`run_getElem?`).  An event
    adds a row in one way only (`mem_rows_step`): a request misses, its
    actor is signed for, and the picture that it is answered with is kept.
    And a request for an avatar succeeds in two ways only
    (`keeps_of_succeeds`): by a row, or by making one. -/

namespace Avatar.Service

/-! ## Runs -/

/-- The service after some events, whether or not they failed. -/
def after (service : Service) (events : List Event) : Service :=
  events.foldl (fun service event => (service.step event).2) service

/-- The events of a run may be taken in two parts. -/
theorem after_append (service : Service) (events more : List Event) :
    service.after (events ++ more) = (service.after events).after more :=
  List.foldl_append

/-- The last event meets the service that the others left. -/
theorem after_concat (service : Service) (events : List Event) (event : Event) :
    service.after (events ++ [event]) = ((service.after events).step event).2 :=
  after_append service events [event]

/-- A run takes its steps from the services that `after` tells of, and
    ends early at most. -/
theorem run_getElem? {service last : Service} {events : List Event} {outcome : Outcome} {i : Nat}
    (h : (service.run events)[i]? = some (outcome, last)) :
    ∃ event, events[i]? = some event
      ∧ (service.after (events.take i)).step event = (outcome, last) := by
  induction events generalizing service i with
  | nil => exact nomatch h
  | cons event events ih =>
      have hrun : service.run (event :: events) = service.step event ::
          if (service.step event).1.isFailure then [] else (service.step event).2.run events := rfl
      rw [hrun] at h
      cases i with
      | zero =>
          rw [List.getElem?_cons_zero] at h
          exact ⟨event, rfl, Option.some.inj h⟩
      | succ i =>
          rw [List.getElem?_cons_succ] at h
          -- there is a next outcome only if the first event did not fail
          split at h
          · exact nomatch h
          · exact ih h

/-- A new secret changes the signer, or nothing if it is none. -/
theorem step_setSecret (service : Service) (secret : Text) :
    (service.step (.setSecret secret)).2 = service ∨ ∃ signer,
      Signer.ofSecret secret = .ok signer
        ∧ (service.step (.setSecret secret)).2 = { service with signer } := by
  simp only [step, answer]
  cases Signer.ofSecret secret with
  | error failure => exact .inl rfl
  | ok signer => exact .inr ⟨signer, rfl, rfl⟩

/-- A new secret leaves the rows. -/
theorem cache_step_setSecret (service : Service) (secret : Text) :
    (service.step (.setSecret secret)).2.cache = service.cache := by
  rcases step_setSecret service secret with hsame | ⟨signer, -, hnew⟩
  · rw [hsame]
  · rw [hnew]

/-! ## What adds a row -/

/-- A request misses, its actor is signed for, and its picture is kept in
    a row. -/
structure Stores (service : Service) (maker : Incoming) (actor : Text) (row : Row) : Prop where
  admits : service.Admits maker row.url actor
  made : (service.pictureFor maker actor).1 = .ok row.response
  answered : (service.respond maker).1 = .ok (finish maker row.response)
  kept : row ∈ (service.respond maker).2.cache.rows
  createdAt : row.createdAt = service.clock.whole
  expiresAt : row.expiresAt = service.clock.whole + MaxAge.standard

/-- A picture that is made and kept is stored by its request. -/
theorem stores_of_kept {service : Service} {maker : Incoming} {url actor contentType : Text}
    {body : Bytes} {session : Session} (hadmits : service.Admits maker url actor)
    (hpicture : service.pictureFor maker actor
      = (.ok (.ofOctets contentType MaxAge.cacheControl body), session))
    (hrespond : service.respond maker
      = (.ok (finish maker (.ofOctets contentType MaxAge.cacheControl body)),
        service.kept (Cache.standardRow service.clock.whole url contentType body) session)) :
    service.Stores maker actor (Cache.standardRow service.clock.whole url contentType body) where
  admits := hadmits
  made := by
    rw [hpicture]
    rfl
  answered := by
    rw [hrespond]
    rfl
  kept := by
    rw [hrespond]
    exact Cache.mem_rows_insert.mpr (.inl rfl)
  createdAt := rfl
  expiresAt := rfl

/-- A row after a request was there before, or the request stores it. -/
theorem mem_rows_respond {service : Service} {maker : Incoming} {row : Row}
    (hrow : row ∈ (service.respond maker).2.cache.rows) :
    row ∈ service.cache.rows ∨ ∃ actor, service.Stores maker actor row := by
  cases hfor : maker.isForAvatar with
  | false =>
      rw [respond_of_not_isForAvatar service hfor] at hrow
      exact .inl hrow
  | true =>
      obtain ⟨answer, last, hrespond, hsettled⟩ := respond_settled service hfor
      rw [hrespond] at hrow
      cases hsettled with
      | unasked => exact .inl hrow
      | hit => exact .inl hrow
      | refused => exact .inl (Cache.mem_rows_erase.mp hrow).1
      | @kept url actor contentType body session hadmits hpicture =>
          -- the row is the new one, or an older one under another URL
          rcases Cache.mem_rows_insert.mp hrow with rfl | ⟨hmem, -⟩
          · exact .inr ⟨actor, stores_of_kept hadmits hpicture hrespond⟩
          · exact .inl (Cache.mem_rows_erase.mp hmem).1

/-- A row after an event was there before, or the event is a request that
    stores it. -/
theorem mem_rows_step {service : Service} {event : Event} {row : Row}
    (hrow : row ∈ (service.step event).2.cache.rows) :
    row ∈ service.cache.rows
      ∨ ∃ maker actor, event = .request maker ∧ service.Stores maker actor row := by
  cases event with
  | request maker =>
      rcases mem_rows_respond hrow with hold | ⟨actor, hstores⟩
      · exact .inl hold
      · exact .inr ⟨maker, actor, rfl, hstores⟩
  | purge => exact .inl (Cache.mem_rows_of_mem_purge hrow)
  | setClock clock => exact .inl hrow
  | setRoutes routes => exact .inl hrow
  | setSecret secret =>
      rw [cache_step_setSecret] at hrow
      exact .inl hrow

/-! ## Successes -/

/-- A request for an avatar succeeds. -/
structure Succeeds (service : Service) (incoming : Incoming) (response : Response) : Prop where
  isForAvatar : incoming.isForAvatar = true
  answered : (service.respond incoming).1 = .ok response
  status : response.status = 200

/-- A request is answered by a row that is kept under its URL, be it an
    old or a new one. -/
structure Keeps (service : Service) (incoming : Incoming) (response : Response) (row : Row) :
    Prop where
  located : incoming.url = .ok row.url
  encodable : ∃ octets, row.url.encode = .ok octets
  holds : service.clock.whole < row.expiresAt
  shows : response = finish incoming row.response
  stored : (service.respond incoming).2.cache.row? row.url = some row
  origin : service.Hits incoming row ∨ ∃ actor, service.Stores incoming actor row

/-- Each success comes with the row that it leaves under its URL. -/
theorem keeps_of_succeeds {service : Service} {incoming : Incoming} {response : Response}
    (h : service.Succeeds incoming response) : ∃ row, service.Keeps incoming response row := by
  obtain ⟨hfor, hanswered, hstatus⟩ := h
  obtain ⟨answer, last, hrespond, hsettled⟩ := respond_settled service hfor
  -- the answer had its status before it was finished
  have hfinish : ∃ bare, answer = .ok bare ∧ response = finish incoming bare
      ∧ bare.status = 200 := by
    rw [hrespond] at hanswered
    cases answer with
    | error failure => exact nomatch hanswered
    | ok bare =>
        obtain rfl := Except.ok.inj hanswered
        exact ⟨bare, rfl, rfl, status_finish incoming bare ▸ hstatus⟩
  obtain ⟨bare, hbare, hshows, hgood⟩ := hfinish
  cases hsettled with
  | unasked => exact nomatch hbare
  | refused _ hbad => exact absurd hgood (hbad bare hbare)
  | @hit row hhit hlt =>
      obtain rfl := Except.ok.inj hbare
      refine ⟨row, hhit.located, hhit.get_eq.1, hlt, hshows, ?_, .inl hhit⟩
      rw [hrespond]
      exact hhit.stored
  | @kept url actor contentType body session hadmits hpicture =>
      obtain rfl := Except.ok.inj hbare
      refine ⟨Cache.standardRow service.clock.whole url contentType body, hadmits.misses.located,
        hadmits.misses.get_eq.1, Int.lt_add_of_pos_right _ (by decide), hshows, ?_,
        .inr ⟨actor, stores_of_kept hadmits hpicture hrespond⟩⟩
      rw [hrespond]
      exact Cache.row?_insert_self ..

/-! ## The secret -/

/-- No event of a run changes the secret to another one. -/
def KeepsSecret (service : Service) (events : List Event) : Prop :=
  ∀ secret, .setSecret secret ∈ events → ∀ signer,
    Signer.ofSecret secret = .ok signer → signer = service.signer

/-- An event leaves the signer, unless it brings a new one. -/
theorem step_signer {service : Service} {event : Event}
    (h : ∀ secret, event = .setSecret secret → ∀ signer,
      Signer.ofSecret secret = .ok signer → signer = service.signer) :
    (service.step event).2.signer = service.signer := by
  cases event with
  | request incoming => exact signer_respond service incoming
  | purge => rfl
  | setClock clock => rfl
  | setRoutes routes => rfl
  | setSecret secret =>
      rcases step_setSecret service secret with hsame | ⟨signer, hsigner, hnew⟩
      · rw [hsame]
      · rw [hnew]
        exact h secret rfl signer hsigner

/-- A run that keeps its secret keeps its signer. -/
theorem signer_after {service : Service} {events : List Event} (h : service.KeepsSecret events) :
    (service.after events).signer = service.signer := by
  induction events generalizing service with
  | nil => rfl
  | cons event events ih =>
      have hstep : (service.step event).2.signer = service.signer :=
        step_signer fun secret heq => h secret (heq ▸ List.mem_cons_self)
      -- the next service has the same signer, so the rest keeps that one
      have hrest : (service.step event).2.KeepsSecret events := by
        intro secret hmem signer hsigner
        rw [hstep]
        exact h secret (List.mem_cons_of_mem event hmem) signer hsigner
      exact (ih hrest).trans hstep

end Avatar.Service
