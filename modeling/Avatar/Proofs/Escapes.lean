import Avatar.Proofs.Course

/-! # Where failures go

    Once the signature is verified a failure is answered by its message.
    Two things can still fail: the image does not come (`ImageFails`), or
    the picture cannot be kept (`KeepFails`).  Why it cannot be kept can
    always be said.  Why the image did not come may quote a URL that a
    profile holds, and a text with surrogates in it cannot be sent: that
    failure escapes, and no other does (`failures_answered`). -/

namespace Avatar.Service

variable {service : Service} {incoming : Incoming} {url actor : Text} {cause : Failure}
  {onServer found : Option Text} {middle last session : Session}

/-- The picture is made but cannot be kept. -/
def KeepFails (service : Service) (incoming : Incoming) (url actor : Text) (cause : Failure) :
    Prop :=
  ∃ response session, service.pictureFor incoming actor = (.ok response, session)
    ∧ ((service.cache.missed url).put service.clock.whole url response).1 = .error cause

/-! ## What the making of a picture comes to -/

/-- A picture is made, or an image server refuses its image, or the image
    does not come. -/
theorem Locates.pictureFor_cases (h : service.Locates actor onServer found middle last)
    (incoming : Incoming) :
    ∃ session,
      (∃ contentType body, service.pictureFor incoming actor
          = (.ok (.ofOctets contentType MaxAge.cacheControl body), session))
        ∨ (∃ image status, service.pictureFor incoming actor
          = (.error (.imageNotFetched image status), session))
        ∨ ∃ cause, service.ImageFails incoming found last cause := by
  cases found with
  | none => exact ⟨_, .inl ⟨_, _, h.pictureFor_of_none incoming⟩⟩
  | some image =>
      cases houtcome : (last.arrival (service.imageRequest incoming image)).outcome with
      | error cause => exact ⟨last, .inr (.inr ⟨cause, image, rfl, .inl houtcome⟩)⟩
      | ok reply =>
          have hpicture := h.pictureFor_of_reply houtcome
          cases hsuccess : reply.isSuccess with
          | false =>
              rw [Image.ofReply_of_not_isSuccess hsuccess] at hpicture
              exact ⟨_, .inr (.inl ⟨_, _, hpicture⟩)⟩
          | true =>
              cases hread : reply.read with
              | error cause =>
                  exact ⟨last, .inr (.inr
                    ⟨cause, image, rfl, .inr ⟨reply, houtcome, hsuccess, hread⟩⟩)⟩
              | ok body =>
                  rw [Image.ofReply_of_isSuccess hsuccess, hread] at hpicture
                  exact ⟨_, .inl ⟨_, _, hpicture⟩⟩

/-! ## What is answered -/

theorem respond_of_keepFails (hadmits : service.Admits incoming url actor)
    (hfails : service.KeepFails incoming url actor cause) :
    service.respond incoming
      = (.ok (refusal incoming 500 ("error fetching avatar: " ++ cause.message)),
        { service.missed url with session := (service.pictureFor incoming actor).2 }) := by
  obtain ⟨response, session, hpicture, hput⟩ := hfails
  have houtcome : IsPictureOutcome (service.pictureFor incoming actor).1 := picture_outcome ..
  rw [hpicture] at houtcome
  rcases houtcome with ⟨contentType, body, hmade⟩ | ⟨failure, hfailed, -⟩
  · obtain rfl := Except.ok.inj hmade
    rcases Cache.put_ofOctets_cases (service.cache.missed url) service.clock.whole url contentType
      body with ⟨hkept, -⟩ | ⟨failure, hfailed, hkeeping⟩
    · rw [hkept] at hput
      exact nomatch hput
    · have hanswer := respond_of_unkept hadmits hpicture hfailed hkeeping
      rw [hfailed] at hput
      obtain rfl := Except.error.inj hput
      rw [hanswer, hpicture]
      rfl
  · exact nomatch hfailed

/-- No row is stored: what was under the URL is gone, and the rest is as it
    was. -/
def StoresNothing (service : Service) (incoming : Incoming) (url : Text) : Prop :=
  ∀ row, row ∈ (service.respond incoming).2.cache.rows ↔ row ∈ service.cache.rows ∧ row.url ≠ url

theorem storesNothing_of_cache (h : (service.respond incoming).2.cache = service.cache.missed url) :
    service.StoresNothing incoming url := by
  intro row
  rw [h]
  exact Cache.mem_rows_erase

/-- What becomes of a failure in a request that is let through. -/
structure AnswersFailures (service : Service) (incoming : Incoming) (url actor : Text)
    (found : Option Text) (last : Session) : Prop where
  /-- There is an answer unless the message of a failure cannot be sent. -/
  answers_iff : (∃ response, (service.respond incoming).1 = .ok response)
    ↔ ∀ cause, service.ImageFails incoming found last cause →
      ∃ octets, cause.message.encode = .ok octets
  /-- Then it escapes that the message cannot be sent. -/
  escapes : ∀ cause failure, service.ImageFails incoming found last cause →
    Text.encode ("error fetching avatar: " ++ cause.message) = .error failure →
    (service.respond incoming).1 = .error failure
  /-- An image that does not come is answered for. -/
  image : ∀ cause, service.ImageFails incoming found last cause →
    (∃ octets, cause.message.encode = .ok octets) →
    (service.respond incoming).1
      = .ok (refusal incoming 500 ("error fetching avatar: " ++ cause.message))
  /-- So is a picture that cannot be kept. -/
  keep : ∀ cause, service.KeepFails incoming url actor cause →
    (service.respond incoming).1
      = .ok (refusal incoming 500 ("error fetching avatar: " ++ cause.message))
  stores : ∀ cause, service.ImageFails incoming found last cause
      ∨ service.KeepFails incoming url actor cause →
    service.StoresNothing incoming url

theorem Locates.answersFailures (h : service.Locates actor onServer found middle last)
    (hadmits : service.Admits incoming url actor) :
    service.AnswersFailures incoming url actor found last := by
  have hescapes : ∀ cause failure, service.ImageFails incoming found last cause →
      Text.encode ("error fetching avatar: " ++ cause.message) = .error failure →
      (service.respond incoming).1 = .error failure := by
    intro cause failure hfails hencode
    rw [h.respond_of_imageFails hadmits hfails, failureResponse, Response.ofText, hencode]
    · rfl
    · exact hfails.passesNoStatus
  constructor
  case image =>
    intro cause hfails hencode
    exact h.answer_of_imageFails hadmits hfails hencode
  case escapes => exact hescapes
  case keep =>
    intro cause hfails
    rw [respond_of_keepFails hadmits hfails]
  case stores =>
    intro cause hfails
    apply storesNothing_of_cache
    rcases hfails with hfails | hfails
    · obtain ⟨session, hpicture⟩ := h.pictureFor_of_imageFails hfails
      rw [respond_of_admits hadmits, make_missed, hpicture]
      rfl
    · rw [respond_of_keepFails hadmits hfails]
      rfl
  case answers_iff =>
    constructor
    · rintro ⟨response, hresponse⟩ cause hfails
      cases hencode : Text.encode ("error fetching avatar: " ++ cause.message) with
      | ok octets => exact (Text.encode_append_iff.mp ⟨octets, hencode⟩).2
      | error failure =>
          rw [hescapes cause failure hfails hencode] at hresponse
          cases hresponse
    · -- what is answered depends on what comes of the image, and then on whether it is kept
      intro hsendable
      obtain ⟨session, ⟨contentType, body, hpicture⟩ | ⟨image, status, hpicture⟩ | ⟨cause, hfails⟩⟩ :=
        h.pictureFor_cases incoming
      · have hanswers := answersPicture hadmits hpicture
        by_cases hcan : service.CanKeep contentType
        · exact ⟨_, hanswers.kept hcan⟩
        · obtain ⟨failure, -, hanswer⟩ := hanswers.unkept hcan
          exact ⟨_, hanswer⟩
      · exact ⟨_, respond_of_refused hadmits hpicture⟩
      · exact ⟨_, h.answer_of_imageFails hadmits hfails (hsendable cause hfails)⟩

/-- Every request that is let through is answered, whatever fails, unless
    the failure of its image has a message that cannot be sent. -/
theorem failures_answered (hadmits : service.Admits incoming url actor) :
    ∃ onServer found middle last, service.Locates actor onServer found middle last
      ∧ service.AnswersFailures incoming url actor found last := by
  obtain ⟨onServer, found, middle, last, h⟩ := exists_locates service actor
  exact ⟨onServer, found, middle, last, h, h.answersFailures hadmits⟩

/-- The lonely service, where Bluesky has a profile of the actor `a` whose
    avatar is under a URL with a surrogate. -/
def misquoted : Service := { lonely with
  session := .start [⟨"https://bsky.test/xrpc/app.bsky.actor.getProfile?actor=a", 0,
    .ok ⟨200, [], .ok (Text.utf8 "\x7b\"avatar\":\"x\\ud800\"\x7d")⟩⟩] }

theorem misquoted_admits : misquoted.Admits signedRequest placeholderRow.url "a" := by
  obtain ⟨hmisses, hsigned⟩ := lonely_admits lonely.clock
  exact ⟨⟨hmisses.isForAvatar, hmisses.located, hmisses.notFound⟩, hsigned⟩

theorem misquoted_failures_answered :
    misquoted.Admits signedRequest placeholderRow.url "a"
      ∧ ∃ onServer found middle last, misquoted.Locates "a" onServer found middle last
        ∧ misquoted.AnswersFailures signedRequest placeholderRow.url "a" found last :=
  ⟨misquoted_admits, failures_answered misquoted_admits⟩

/-- What a profile says can keep a request from being answered at all. -/
theorem not_every_failure_answered :
    ¬ ∀ (service : Service) (incoming : Incoming) (url actor : Text),
      service.Admits incoming url actor → ∃ response, (service.respond incoming).1 = .ok response := by
  intro h
  obtain ⟨response, hresponse⟩ := h misquoted signedRequest _ "a" misquoted_admits
  have hescapes : (misquoted.respond signedRequest).1
      = .error (.unencodable ⟨36, ⟨0xd800, by decide⟩, 1⟩) := by decide +kernel
  rw [hescapes] at hresponse
  exact nomatch hresponse

end Avatar.Service
