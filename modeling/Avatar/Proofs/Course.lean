import Avatar.Proofs.Inertness
import Avatar.Proofs.Sources

/-! # The course of a request that is let through

    The actor's own data server comes first, then Bluesky if nothing was
    found there, and last the image under the URL that was found
    (`Course`).  A locator that fails has found nothing, so that only the
    request for the image decides whether the answer is that image, the
    refusal of its server, or an error; without a URL it is a placeholder
    (`Concludes`).  What is answered with 200 has to be kept first, and an
    error is answered where it cannot be (`avatar_course`). -/

namespace Avatar.Service

variable {service : Service} {incoming : Incoming} {url actor contentType : Text} {body : Bytes}
  {session : Session} {failure : Failure}

/-! ## From the picture to the answer -/

/-- A request that is let through is answered with what is made for its
    actor. -/
theorem respond_of_admits (h : service.Admits incoming url actor) :
    service.respond incoming
      = (((service.missed url).make url actor incoming.asked.isTiny).1.map (finish incoming),
        ((service.missed url).make url actor incoming.asked.isTiny).2) := by
  obtain ⟨signature, hactor, hverify⟩ := h.signed
  have hsigner : (service.missed url).signer = service.signer := rfl
  rw [respond_of_misses h.misses, check, hactor]
  simp only [hsigner, hverify]

theorem make_missed (service : Service) (incoming : Incoming) (url actor : Text) :
    (service.missed url).make url actor incoming.asked.isTiny
      = match service.pictureFor incoming actor with
        | (.error failure, session) =>
          (failureResponse actor failure, { service.missed url with session })
        | (.ok response, session) =>
          match (service.cache.missed url).put service.clock.whole url response with
          | (.error failure, cache) =>
            (failureResponse actor failure, { service with session, cache })
          | (.ok _, cache) => (.ok response, { service with session, cache }) := rfl

theorem session_respond_of_admits (h : service.Admits incoming url actor) :
    (service.respond incoming).2.session = (service.pictureFor incoming actor).2 := by
  rw [respond_of_admits h, make_missed]
  rcases service.pictureFor incoming actor with ⟨failure | response, session⟩
  · rfl
  · rcases hput : (service.cache.missed url).put service.clock.whole url response with
      ⟨failure | done, cache⟩
    · simp only [hput]
    · simp only [hput]

theorem Admits.encode (h : service.Admits incoming url actor) :
    ∃ octets, actor.encode = .ok octets := by
  obtain ⟨signature, -, hverify⟩ := h.signed
  exact Signer.verify_eq_ok_iff.mp ⟨true, hverify⟩

theorem map_finish_ofText (incoming : Incoming) (status : Nat) {text : Text}
    (h : ∃ octets, text.encode = .ok octets) :
    (Response.ofText status text).map (finish incoming) = .ok (refusal incoming status text) := by
  rw [Response.ofText_of_encode status h]
  rfl

/-- The text of an error is sent with status 500 if it can be encoded. -/
theorem map_failureResponse (incoming : Incoming) (actor : Text) (hstatus : failure.PassesNoStatus)
    (h : ∃ octets, failure.message.encode = .ok octets) :
    (failureResponse actor failure).map (finish incoming)
      = .ok (refusal incoming 500 ("error fetching avatar: " ++ failure.message)) := by
  have htext : ∃ octets, Text.encode ("error fetching avatar: " ++ failure.message) = .ok octets :=
    Text.encode_append_iff.mpr ⟨⟨_, rfl⟩, h⟩
  rw [failureResponse]
  · exact map_finish_ofText incoming 500 htext
  · exact hstatus

theorem respond_of_failed (h : service.Admits incoming url actor)
    (hpicture : service.pictureFor incoming actor = (.error failure, session)) :
    (service.respond incoming).1 = (failureResponse actor failure).map (finish incoming) := by
  rw [respond_of_admits h, make_missed, hpicture]

/-- The refusal of an image server is passed on. -/
theorem respond_of_refused (h : service.Admits incoming url actor) {image : Text} {status : Nat}
    (hpicture : service.pictureFor incoming actor
      = (.error (.imageNotFetched image status), session)) :
    (service.respond incoming).1
      = .ok (refusal incoming status ("failed to fetch avatar for " ++ actor ++ ".")) := by
  have htext : ∃ octets, Text.encode ("failed to fetch avatar for " ++ actor ++ ".") = .ok octets :=
    Text.encode_append_iff.mpr ⟨Text.encode_append_iff.mpr ⟨⟨_, rfl⟩, h.encode⟩, ⟨_, rfl⟩⟩
  rw [respond_of_failed h hpicture]
  exact map_finish_ofText incoming status htext

/-- Why a picture is not kept is answered instead of it. -/
theorem respond_of_unkept (h : service.Admits incoming url actor) {response : Response}
    {cache : Cache} (hpicture : service.pictureFor incoming actor = (.ok response, session))
    (hput : (service.cache.missed url).put service.clock.whole url response
      = (.error failure, cache))
    (hkeeping : Cache.IsKeepingFailure failure) :
    service.respond incoming
      = (.ok (refusal incoming 500 ("error fetching avatar: " ++ failure.message)),
        { service with session, cache }) := by
  rw [respond_of_admits h, make_missed, hpicture]
  simp only [hput]
  rw [map_failureResponse incoming actor (passesNoStatus_of_isKeepingFailure hkeeping)
    hkeeping.encode_message]

/-- What keeps a picture of some type from being kept is the clock or the
    type. -/
structure CanKeep (service : Service) (contentType : Text) : Prop where
  started : -0x8000000000000000 ≤ service.clock.whole
  ended : service.clock.whole + 43200 < 0x8000000000000000
  encoded : ∃ octets, contentType.encode = .ok octets

/-- A picture is the answer if it can be kept; otherwise the answer is an
    error that says why not. -/
structure AnswersPicture (service : Service) (incoming : Incoming) (contentType : Text)
    (body : Bytes) : Prop where
  kept : service.CanKeep contentType → (service.respond incoming).1
    = .ok (finish incoming (.ofOctets contentType "public, max-age=43200" body))
  unkept : ¬ service.CanKeep contentType → ∃ failure, Cache.IsKeepingFailure failure
    ∧ (service.respond incoming).1
      = .ok (refusal incoming 500 ("error fetching avatar: " ++ failure.message))

/-- Where a picture comes of a request, it is answered. -/
theorem answersPicture (h : service.Admits incoming url actor)
    (hpicture : service.pictureFor incoming actor
      = (.ok (.ofOctets contentType MaxAge.cacheControl body), session)) :
    service.AnswersPicture incoming contentType body := by
  let picture : Response := .ofOctets contentType MaxAge.cacheControl body
  have hencode := h.misses.get_eq.1
  -- the URL was looked up before, so that it cannot be what keeps the picture from being kept
  have hput : ((service.cache.missed url).put service.clock.whole url picture).1 = .ok ()
      ↔ service.CanKeep contentType := by
    rw [Cache.put_eq_ok_iff, Cache.isKeepable_ofOctets_iff]
    constructor
    · rintro ⟨-, htype, hstarted, hended⟩
      exact ⟨hstarted, hended, htype⟩
    · rintro ⟨hstarted, hended, htype⟩
      exact ⟨hencode, htype, hstarted, hended⟩
  rcases Cache.put_ofOctets_cases (service.cache.missed url) service.clock.whole url contentType
    body with ⟨hkept, -⟩ | ⟨failure, hfailed, hkeeping⟩
  · have hcan := hput.mp (by rw [hkept])
    have hanswer := congrArg Prod.fst (respond_of_admits h)
    rw [make_missed, hpicture] at hanswer
    simp only [hkept] at hanswer
    exact ⟨fun _ => hanswer, fun hcannot => absurd hcan hcannot⟩
  · have hcannot : ¬ service.CanKeep contentType := by
      intro hcan
      have hok := hput.mpr hcan
      rw [hfailed] at hok
      exact nomatch hok
    have hanswer := congrArg Prod.fst (respond_of_unkept h hpicture hfailed hkeeping)
    exact ⟨fun hcan => absurd hcan hcannot, fun _ => ⟨failure, hkeeping, hanswer⟩⟩

/-! ## From the sources to the picture -/

/-- The request for the image under a URL, in the size that is asked
    for. -/
def imageRequest (service : Service) (incoming : Incoming) (url : Text) : Request :=
  .ofUrl (Image.transformedUrl service.settings.frontEnd
    (if incoming.asked.isTiny then some .tiny else none) url)

/-- How the locators go one after the other. -/
structure Locates (service : Service) (actor : Text) (onServer found : Option Text)
    (middle last : Session) : Prop where
  /-- The actor's data server is asked first; whatever goes wrong there,
      nothing was found. -/
  server : Locator.fromDataServer service.settings.directory actor service.session
    = (.ok onServer, middle)
  /-- What was found there is preferred. -/
  preferred : ∀ url, onServer = some url → found = some url ∧ last = middle
  /-- Bluesky is asked otherwise; whatever goes wrong there, nothing was
      found. -/
  fallback : onServer = none →
    Locator.fromBluesky service.settings.bluesky actor middle = (.ok found, last)

/-- The locators come to an end, and so does the search. -/
theorem exists_locates (service : Service) (actor : Text) :
    ∃ onServer found middle last, service.Locates actor onServer found middle last := by
  obtain ⟨onServer, requests, -, hserver⟩ := Locator.fromDataServer_apply
    service.settings.directory actor service.session
  let middle : Session := { service.session with
    sent := service.session.sent ++ requests
    lookups := service.session.lookups ++ [actor] }
  cases onServer with
  | some url =>
      refine ⟨some url, some url, middle, middle, hserver, ?_, fun h => nomatch h⟩
      rintro _ ⟨⟩
      exact ⟨rfl, rfl⟩
  | none =>
      obtain ⟨found, hbluesky⟩ :=
        Locator.fromBluesky_apply service.settings.bluesky actor middle
      exact ⟨none, found, middle, _, hserver, fun url h => (nomatch h), fun _ => hbluesky⟩

variable {onServer found : Option Text} {middle last : Session} {cause : Failure}

theorem Locates.locate_eq (h : service.Locates actor onServer found middle last) :
    Locator.locate service.settings.directory service.settings.bluesky actor service.session
      = (.ok found, last) := by
  rw [Locator.locate, Web.bind_apply_ok h.server]
  cases onServer with
  | some url =>
      obtain ⟨rfl, rfl⟩ := h.preferred url rfl
      rfl
  | none => exact h.fallback rfl

/-- The actor is looked up once, and Bluesky is asked once if nothing was
    found before. -/
theorem Locates.session_eq (h : service.Locates actor onServer found middle last) :
    ∃ early, early.length ≤ 4 ∧ middle.sent = service.session.sent ++ early
      ∧ last.sent = service.session.sent ++ (early ++ if onServer = none then
          [.ofUrl (Locator.blueskyUrl service.settings.bluesky actor)] else [])
      ∧ last.lookups = service.session.lookups ++ [actor] := by
  obtain ⟨_, early, hlength, hserver⟩ := Locator.fromDataServer_apply
    service.settings.directory actor service.session
  rw [h.server] at hserver
  obtain ⟨-, hmiddle⟩ := Prod.mk.inj hserver
  refine ⟨early, hlength, congrArg Session.sent hmiddle, ?_⟩
  cases onServer with
  | some url =>
      obtain ⟨-, rfl⟩ := h.preferred url rfl
      rw [hmiddle, if_neg (fun h => nomatch h), List.append_nil]
      exact ⟨rfl, rfl⟩
  | none =>
      obtain ⟨_, hbluesky⟩ := Locator.fromBluesky_apply service.settings.bluesky actor middle
      rw [h.fallback rfl] at hbluesky
      obtain ⟨-, rfl⟩ := Prod.mk.inj hbluesky
      rw [hmiddle, if_pos rfl, ← List.append_assoc]
      exact ⟨rfl, rfl⟩

/-- Without a URL the picture is the placeholder. -/
theorem Locates.pictureFor_of_none (h : service.Locates actor onServer none middle last)
    (incoming : Incoming) :
    service.pictureFor incoming actor
      = (.ok (.ofOctets "image/svg+xml" MaxAge.cacheControl
          (Placeholder.svg actor (if incoming.asked.isTiny then 32 else 128)).utf8), last) := by
  rw [pictureFor, picture, Web.bind_apply_ok h.locate_eq]
  rfl

/-- The picture under a URL is what its reply is made into. -/
theorem Locates.pictureFor_of_some (h : service.Locates actor onServer (some url) middle last)
    (incoming : Incoming) :
    service.pictureFor incoming actor
      = ((last.arrival (service.imageRequest incoming url)).outcome
          >>= Image.ofReply (service.imageRequest incoming url).url,
        last.asking [service.imageRequest incoming url]) := by
  rw [pictureFor, picture, Web.bind_apply_ok h.locate_eq]
  exact Image.fetch_apply ..

theorem Locates.pictureFor_of_reply (h : service.Locates actor onServer (some url) middle last)
    {reply : Reply}
    (hreply : (last.arrival (service.imageRequest incoming url)).outcome = .ok reply) :
    service.pictureFor incoming actor
      = (Image.ofReply (service.imageRequest incoming url).url reply,
        last.asking [service.imageRequest incoming url]) := by
  rw [h.pictureFor_of_some incoming, hreply]
  rfl

/-- The session that the picture leaves has one more request if there is a
    URL. -/
theorem Locates.session_pictureFor (h : service.Locates actor onServer found middle last)
    (incoming : Incoming) :
    (service.pictureFor incoming actor).2
      = last.asking (found.toList.map (service.imageRequest incoming)) := by
  cases found with
  | none =>
      rw [h.pictureFor_of_none incoming, Session.asking, Option.toList_none, List.map_nil,
        List.append_nil]
  | some url => rw [h.pictureFor_of_some incoming]; rfl

/-! ## Images that do not come -/

/-- The image under the URL that was found does not come: there is no reply
    to its request, or the body of a good reply cannot be read. -/
def ImageFails (service : Service) (incoming : Incoming) (found : Option Text) (last : Session)
    (cause : Failure) : Prop :=
  ∃ image, found = some image
    ∧ ((last.arrival (service.imageRequest incoming image)).outcome = .error cause
      ∨ ∃ reply, (last.arrival (service.imageRequest incoming image)).outcome = .ok reply
        ∧ reply.isSuccess = true ∧ reply.read = .error cause)

theorem ImageFails.passesNoStatus (h : service.ImageFails incoming found last cause) :
    cause.PassesNoStatus := by
  obtain ⟨image, -, harrival | ⟨reply, -, -, hread⟩⟩ := h
  · exact Session.passesNoStatus_of_arrival harrival
  · exact Reply.passesNoStatus_of_read hread

theorem Locates.pictureFor_of_imageFails
    (h : service.Locates actor onServer found middle last)
    (hfails : service.ImageFails incoming found last cause) :
    ∃ session, service.pictureFor incoming actor = (.error cause, session) := by
  obtain ⟨image, rfl, harrival | ⟨reply, hreply, hsuccess, hread⟩⟩ := hfails
  · have hpicture := h.pictureFor_of_some incoming
    rw [harrival] at hpicture
    exact ⟨_, hpicture⟩
  · have hpicture := h.pictureFor_of_reply hreply
    rw [Image.ofReply_of_isSuccess hsuccess, hread] at hpicture
    exact ⟨_, hpicture⟩

theorem Locates.respond_of_imageFails (h : service.Locates actor onServer found middle last)
    (hadmits : service.Admits incoming url actor)
    (hfails : service.ImageFails incoming found last cause) :
    (service.respond incoming).1 = (failureResponse actor cause).map (finish incoming) := by
  obtain ⟨session, hpicture⟩ := h.pictureFor_of_imageFails hfails
  exact respond_of_failed hadmits hpicture

/-- Why an image does not come is answered if it can be sent. -/
theorem Locates.answer_of_imageFails (h : service.Locates actor onServer found middle last)
    (hadmits : service.Admits incoming url actor)
    (hfails : service.ImageFails incoming found last cause)
    (hencode : ∃ octets, cause.message.encode = .ok octets) :
    (service.respond incoming).1
      = .ok (refusal incoming 500 ("error fetching avatar: " ++ cause.message)) := by
  rw [h.respond_of_imageFails hadmits hfails]
  exact map_failureResponse incoming actor hfails.passesNoStatus hencode

/-! ## The requests and the answer -/

/-- Who is asked for an avatar, in this order. -/
structure Course (service : Service) (incoming : Incoming) (actor : Text)
    (onServer found : Option Text) (middle last : Session) : Prop
    extends Locates service actor onServer found middle last where
  /-- The actor is looked up once. -/
  lookups : (service.step (.request incoming)).1.lookups = [actor]
  /-- The requests for what is on the data server are followed by the one
      to Bluesky, if nothing was found, and by the one for the image, if
      there is one. -/
  requests : ∃ early, early.length ≤ 4 ∧ middle.sent = service.session.sent ++ early
    ∧ (service.step (.request incoming)).1.requests
      = early
        ++ (if onServer = none then
            [.ofUrl (Locator.blueskyUrl service.settings.bluesky actor)] else [])
        ++ found.toList.map (service.imageRequest incoming)

/-- How a request ends after the search, given what is found and what
    comes of the request for the image. -/
structure Concludes (service : Service) (incoming : Incoming) (actor : Text)
    (found : Option Text) (last : Session) : Prop where
  /-- Without a URL there is a placeholder. -/
  placeholder : found = none → service.AnswersPicture incoming "image/svg+xml"
    (Placeholder.svg actor (if incoming.asked.isTiny then 32 else 128)).utf8
  /-- An image is passed on with its type. -/
  image : ∀ url reply body, found = some url →
    (last.arrival (service.imageRequest incoming url)).outcome = .ok reply →
    200 ≤ reply.status → reply.status < 300 → reply.read = .ok body →
    service.AnswersPicture incoming (Image.typeOf reply) body
  /-- A refusal is passed on with its status. -/
  refused : ∀ url reply, found = some url →
    (last.arrival (service.imageRequest incoming url)).outcome = .ok reply →
    ¬ (200 ≤ reply.status ∧ reply.status < 300) →
    (service.respond incoming).1
      = .ok (refusal incoming reply.status ("failed to fetch avatar for " ++ actor ++ "."))
  /-- Whatever else goes wrong is an error. -/
  failed : ∀ url failure, found = some url →
    ((last.arrival (service.imageRequest incoming url)).outcome = .error failure
      ∨ ∃ reply, (last.arrival (service.imageRequest incoming url)).outcome = .ok reply
        ∧ 200 ≤ reply.status ∧ reply.status < 300 ∧ reply.read = .error failure) →
    (∃ octets, failure.message.encode = .ok octets) →
    (service.respond incoming).1
      = .ok (refusal incoming 500 ("error fetching avatar: " ++ failure.message))

/-- The requests of a request that is let through are those of the
    locators and of the image. -/
theorem Locates.course (h : service.Locates actor onServer found middle last)
    (hadmits : service.Admits incoming url actor) :
    service.Course incoming actor onServer found middle last := by
  obtain ⟨early, hlength, hmiddle, hlast, hlookups⟩ := h.session_eq
  have hsession : (service.respond incoming).2.session
      = last.asking (found.toList.map (service.imageRequest incoming)) := by
    rw [session_respond_of_admits hadmits, h.session_pictureFor incoming]
  have hsent : (service.respond incoming).2.session.sent = service.session.sent
      ++ (early ++ (if onServer = none then
          [.ofUrl (Locator.blueskyUrl service.settings.bluesky actor)] else [])
        ++ found.toList.map (service.imageRequest incoming)) := by
    rw [hsession, ← List.append_assoc, ← hlast]
    rfl
  have hlooked : (service.respond incoming).2.session.lookups
      = service.session.lookups ++ [actor] := by
    rw [hsession, ← hlookups]
    rfl
  obtain ⟨hrequests, hasked⟩ := step_of_session hsent hlooked
  exact ⟨h, hasked, early, hlength, hmiddle, hrequests⟩

/-- What the image server replies is what the request is answered with. -/
theorem Locates.concludes (h : service.Locates actor onServer found middle last)
    (hadmits : service.Admits incoming url actor) :
    service.Concludes incoming actor found last := by
  constructor
  case placeholder =>
    rintro rfl
    exact answersPicture hadmits (h.pictureFor_of_none incoming)
  case image =>
    rintro url reply body rfl hreply hlow hhigh hread
    have hpicture := h.pictureFor_of_reply hreply
    rw [Image.ofReply_of_isSuccess (reply.isSuccess_iff.mpr ⟨hlow, hhigh⟩), hread] at hpicture
    exact answersPicture hadmits hpicture
  case refused =>
    rintro url reply rfl hreply hstatus
    have hpicture := h.pictureFor_of_reply hreply
    rw [Image.ofReply_of_not_isSuccess (Bool.eq_false_iff.mpr (mt reply.isSuccess_iff.mp hstatus))]
      at hpicture
    exact respond_of_refused hadmits hpicture
  case failed =>
    rintro url failure rfl hfailure hencode
    have hfails : service.ImageFails incoming (some url) last failure := by
      refine ⟨url, rfl, hfailure.imp_right ?_⟩
      rintro ⟨reply, hreply, hlow, hhigh, hread⟩
      exact ⟨reply, hreply, reply.isSuccess_iff.mpr ⟨hlow, hhigh⟩, hread⟩
    exact h.answer_of_imageFails hadmits hfails hencode

/-- Every request that is let through takes its course: it asks whom it has
    to, in order and no more than once, and the answer depends on the last
    reply alone. -/
theorem avatar_course (hadmits : service.Admits incoming url actor) :
    ∃ onServer found middle last, service.Course incoming actor onServer found middle last
      ∧ service.Concludes incoming actor found last := by
  obtain ⟨onServer, found, middle, last, h⟩ := exists_locates service actor
  exact ⟨onServer, found, middle, last, h.course hadmits, h.concludes hadmits⟩

/-- Whatever the clock shows, the lonely service lets the request for the
    actor `a` through. -/
theorem lonely_admits (clock : Instant) :
    { lonely with clock }.Admits signedRequest placeholderRow.url "a" where
  misses := by
    refine ⟨by decide +kernel, by decide +kernel, ?_⟩
    obtain ⟨octets, hencode⟩ : ∃ octets, placeholderRow.url.encode = .ok octets := ⟨_, rfl⟩
    show (lonely.cache.get clock.whole placeholderRow.url).1 = .ok none
    rw [Cache.get, hencode]
    rfl
  signed := by
    let signature : Text := "9659450897188d054f9c20310342e042c55697737b2798b59f8f1cef7dda0674"
    have hverify : lonely.signer.verify "a" signature = .ok true := by decide +kernel
    exact ⟨signature, by decide +kernel, hverify⟩

/-- Nobody knows the actor, and Bluesky is asked. -/
theorem lonely_avatar_course :
    lonely.Admits signedRequest placeholderRow.url "a"
      ∧ ∃ onServer found middle last,
        lonely.Course signedRequest "a" onServer found middle last
          ∧ lonely.Concludes signedRequest "a" found last :=
  ⟨lonely_admits lonely.clock, avatar_course (lonely_admits lonely.clock)⟩

/-- The lonely service twelve hours before its clock runs out. -/
def late : Service := { lonely with clock := ⟨0x8000000000000000 - 43200⟩ }

/-- Not every actor for whom nothing was found gets a placeholder: one that
    cannot be kept is not answered with. -/
theorem not_every_placeholder_answered :
    ¬ ∀ (service : Service) (incoming : Incoming) (url actor : Text) (middle last : Session),
      service.Admits incoming url actor → service.Locates actor none none middle last →
        ∃ response, (service.respond incoming).1 = .ok response ∧ response.status = 200 := by
  intro h
  have hlocates : late.Locates "a" none none _ _ := ⟨rfl, fun url h => (nomatch h), fun _ => rfl⟩
  obtain ⟨response, hanswer, hstatus⟩ := h late signedRequest _ "a" _ _ (lonely_admits _) hlocates
  have hcannot : ¬ late.CanKeep "image/svg+xml" := fun hcan => absurd hcan.ended (by decide +kernel)
  have hconcludes : late.Concludes signedRequest "a" none _ := hlocates.concludes (lonely_admits _)
  obtain ⟨failure, -, herror⟩ := (hconcludes.placeholder rfl).unkept hcannot
  rw [hanswer] at herror
  obtain rfl := Except.ok.inj herror
  rw [refusal, status_finish] at hstatus
  exact absurd hstatus (show ¬ (500 = 200) by decide)

end Avatar.Service
