import Avatar.Proofs.Pictures
import Avatar.Proofs.Rows

/-! # What a request does to the service

    A request for an avatar ends in one of nine ways, each with its answer
    and the service that it leaves; `avatar_handled` says so once, and what
    requests keep is read off the ways.  A request for anything else leaves
    the service as it was. -/

namespace Avatar

namespace Incoming

/-- The path and query of a request, as they stand. -/
def asked (incoming : Incoming) : Target := .ofText incoming.target

/-- The URL under which the answer to a request is kept. -/
def url (incoming : Incoming) : Except Failure Text := incoming.asked.url incoming.host

/-- Whether a request is for an avatar: it expects nothing unknown and is
    no preflight, and its path and method are served. -/
def isForAvatar (incoming : Incoming) : Bool :=
  (Service.unmetExpectation? incoming).isNone && !Cors.isPreflight incoming
    && incoming.asked.isServable && Service.isServed incoming.method
    && incoming.asked.path ≠ "/"

/-- What it takes for a request to be for an avatar. -/
theorem isForAvatar_iff {incoming : Incoming} :
    incoming.isForAvatar = true ↔ Service.unmetExpectation? incoming = none
      ∧ Cors.isPreflight incoming = false ∧ incoming.asked.isServable = true
      ∧ Service.isServed incoming.method = true ∧ incoming.asked.path ≠ "/" := by
  simp only [isForAvatar, Bool.and_eq_true, Bool.not_eq_true', decide_eq_true_eq,
    Option.isNone_iff_eq_none, and_assoc]

/-- Whether the path, as it stands, starts with a signature and the actor
    that it is of. -/
def isSignedBy (signer : Signer) (incoming : Incoming) : Bool :=
  match incoming.asked.signedActor? with
  | none => false
  | some (signature, actor) =>
    match signer.verify actor signature with
    | .ok valid => valid
    | .error _ => false

/-- A request is signed if its second segment is verified by the first. -/
theorem isSignedBy_iff {signer : Signer} {incoming : Incoming} :
    incoming.isSignedBy signer = true ↔ ∃ signature actor,
      incoming.asked.signedActor? = some (signature, actor)
        ∧ signer.verify actor signature = .ok true := by
  rw [isSignedBy]
  constructor
  · intro h
    split at h
    · exact nomatch h
    · rename_i signature actor hactor
      refine ⟨signature, actor, hactor, ?_⟩
      split at h
      · rename_i hverify
        rw [hverify, h]
      · exact nomatch h
  · rintro ⟨signature, actor, hactor, hverify⟩
    rw [hactor]
    show (match signer.verify actor signature with
      | .ok valid => valid
      | .error _ => false) = true
    rw [hverify]

end Incoming

namespace Service

/-! ## Which requests are for an avatar -/

/-- An answer as it is sent. -/
def finish (incoming : Incoming) (response : Response) : Response :=
  Cors.allow incoming (secure response)

/-- Finishing an answer does not change its status. -/
theorem status_finish (incoming : Incoming) (response : Response) :
    (finish incoming response).status = response.status := by
  show (secure response).status = response.status
  rw [secure, Response.setDefault_status, Response.setDefault_status]

/-- Finishing an answer does not change its body. -/
theorem body_finish (incoming : Incoming) (response : Response) :
    (finish incoming response).body = response.body := by
  show (secure response).body = response.body
  rw [secure, Response.setDefault_body, Response.setDefault_body]

/-- Finishing an answer leaves the headers it has. -/
theorem header?_finish {name value : Text} {response : Response}
    (h : response.header? name = some value) (incoming : Incoming) :
    (finish incoming response).header? name = some value :=
  Response.header?_append
    (Response.header?_setDefault (Response.header?_setDefault h _ _) _ _) _

/-- A text as an answer with a status, as it is sent. -/
def refusal (incoming : Incoming) (status : Nat) (text : Text) : Response :=
  finish incoming ⟨status, [("content-type", Response.textType)], .octets text.utf8⟩

/-- How a request that is no preflight is answered, in terms of what it
    asks for. -/
theorem route_eq (service : Service) (incoming : Incoming) :
    service.route incoming =
      if !incoming.asked.isServable then (notFound, service)
      else if !isServed incoming.method then (methodNotAllowed, service)
      else if incoming.asked.path = "/" then ((Response.ofText 200 banner).map secure, service)
      else ((service.avatar incoming.host incoming.asked).1.map secure,
        (service.avatar incoming.host incoming.asked).2) := rfl

/-- A request for an avatar is answered as one. -/
theorem respond_of_isForAvatar (service : Service) {incoming : Incoming}
    (h : incoming.isForAvatar = true) :
    service.respond incoming
      = ((service.avatar incoming.host incoming.asked).1.map (finish incoming),
        (service.avatar incoming.host incoming.asked).2) := by
  obtain ⟨hexpect, hpreflight, hservable, hserved, hpath⟩ := Incoming.isForAvatar_iff.mp h
  have hroute : service.route incoming
      = ((service.avatar incoming.host incoming.asked).1.map secure,
        (service.avatar incoming.host incoming.asked).2) := by
    rw [route_eq, if_neg (by rw [hservable]; decide), if_neg (by rw [hserved]; decide),
      if_neg hpath]
  rw [respond, hexpect]
  show (if Cors.isPreflight incoming = true then _ else _) = _
  rw [if_neg (by rw [hpreflight]; decide), hroute]
  cases (service.avatar incoming.host incoming.asked).1 <;> rfl

/-- Any other request leaves the service as it was. -/
theorem respond_of_not_isForAvatar (service : Service) {incoming : Incoming}
    (h : incoming.isForAvatar = false) : (service.respond incoming).2 = service := by
  have hnot := mt Incoming.isForAvatar_iff.mpr (Bool.eq_false_iff.mp h)
  -- only the last branch touches the service, and it is the one for avatars
  rw [respond]
  split
  · rfl
  · rename_i hexpect
    split
    · rfl
    · rename_i hpreflight
      show (service.route incoming).2 = service
      rw [route_eq]
      split
      · rfl
      · rename_i hservable
        split
        · rfl
        · rename_i hserved
          split
          · rfl
          · rename_i hpath
            refine absurd ⟨hexpect, Bool.eq_false_iff.mpr hpreflight, ?_, ?_, hpath⟩ hnot
            · simpa using hservable
            · simpa using hserved

/-! ## How a request for an avatar ends -/

/-- A request is answered from the cache, by a row. -/
structure Hits (service : Service) (incoming : Incoming) (row : Row) : Prop where
  isForAvatar : incoming.isForAvatar = true
  located : incoming.url = .ok row.url
  stored : service.cache.row? row.url = some row
  found : (service.cache.get service.clock.whole row.url).1 = .ok (some row.response)

/-- A request is for an avatar that the cache does not hold. -/
structure Misses (service : Service) (incoming : Incoming) (url : Text) : Prop where
  isForAvatar : incoming.isForAvatar = true
  located : incoming.url = .ok url
  notFound : (service.cache.get service.clock.whole url).1 = .ok none

/-- A request is for an avatar that the cache does not hold, and its actor
    is signed for. -/
structure Admits (service : Service) (incoming : Incoming) (url actor : Text) : Prop where
  misses : service.Misses incoming url
  signed : ∃ signature, incoming.asked.signedActor? = some (signature, actor)
    ∧ service.signer.verify actor signature = .ok true

/-- The service after a look-up that found an answer. -/
def hit (service : Service) : Service := { service with cache := service.cache.countHit }

/-- The service after a look-up that found nothing under a URL. -/
def missed (service : Service) (url : Text) : Service :=
  { service with cache := service.cache.missed url }

/-- The service after a picture that was not in the cache was kept in a
    row. -/
def kept (service : Service) (row : Row) (session : Session) : Service :=
  { service with session, cache := (service.cache.missed row.url).insert row }

/-- The picture that is made for an actor now, and the session after. -/
def pictureFor (service : Service) (incoming : Incoming) (actor : Text) :
    Except Failure Response × Session :=
  picture service.settings actor incoming.asked.isTiny service.session

/-- The ways in which a request for an avatar ends, each with its answer
    and the service that it leaves. -/
inductive Handled (service : Service) (incoming : Incoming) :
    Except Failure Response → Service → Prop where
  /-- The host has no normal form. -/
  | unlocated {failure : Failure} (hurl : incoming.url = .error failure) :
      Handled service incoming (.error failure) service
  /-- The URL cannot be looked up. -/
  | unencodable {url : Text} {failure : Failure} (hurl : incoming.url = .ok url)
      (hencode : url.encode = .error failure) :
      Handled service incoming (.error failure) service
  /-- The cache holds the answer. -/
  | hit {row : Row} (hhit : service.Hits incoming row) (hlt : service.clock.whole < row.expiresAt) :
      Handled service incoming (.ok row.response) service.hit
  /-- The path is too short. -/
  | badUrl {url : Text} (hmiss : service.Misses incoming url)
      (hshort : incoming.asked.signedActor? = none) :
      Handled service incoming (Response.ofText 400 "Bad URL") (service.missed url)
  /-- The actor cannot be signed. -/
  | unverifiable {url signature actor : Text} {failure : Failure}
      (hmiss : service.Misses incoming url)
      (hactor : incoming.asked.signedActor? = some (signature, actor))
      (hverify : service.signer.verify actor signature = .error failure) :
      Handled service incoming (.error failure) (service.missed url)
  /-- The signature is not the actor's. -/
  | forged {url signature actor : Text} (hmiss : service.Misses incoming url)
      (hactor : incoming.asked.signedActor? = some (signature, actor))
      (hverify : service.signer.verify actor signature = .ok false) :
      Handled service incoming (Response.ofText 403 "Invalid signature") (service.missed url)
  /-- No picture can be made. -/
  | failed {url actor : Text} {failure : Failure} {session : Session}
      (hadmits : service.Admits incoming url actor)
      (hpicture : service.pictureFor incoming actor = (.error failure, session))
      (hpasses : failure.PassesNoSuccess) :
      Handled service incoming (failureResponse actor failure)
        { service.missed url with session }
  /-- The picture cannot be kept. -/
  | unkept {url actor contentType : Text} {body : Bytes} {failure : Failure} {session : Session}
      (hadmits : service.Admits incoming url actor)
      (hpicture : service.pictureFor incoming actor
        = (.ok (.ofOctets contentType MaxAge.cacheControl body), session))
      (hkeep : Cache.IsKeepingFailure failure) :
      Handled service incoming (failureResponse actor failure)
        { service.missed url with session }
  /-- The picture is made and kept. -/
  | kept {url actor contentType : Text} {body : Bytes} {session : Session}
      (hadmits : service.Admits incoming url actor)
      (hencode : ∃ octets, url.encode = .ok octets)
      (hpicture : service.pictureFor incoming actor
        = (.ok (.ofOctets contentType MaxAge.cacheControl body), session)) :
      Handled service incoming (.ok (.ofOctets contentType MaxAge.cacheControl body))
        (service.kept (Cache.standardRow service.clock.whole url contentType body) session)

/-- How a request ends whose actor is signed for. -/
theorem make_handled {service : Service} {incoming : Incoming} {url actor : Text}
    (hadmits : service.Admits incoming url actor) :
    Handled service incoming ((service.missed url).make url actor incoming.asked.isTiny).1
      ((service.missed url).make url actor incoming.asked.isTiny).2 := by
  have hpictureFor : picture (service.missed url).settings actor incoming.asked.isTiny
      (service.missed url).session = service.pictureFor incoming actor := rfl
  have houtcome : IsPictureOutcome (service.pictureFor incoming actor).1 := picture_outcome ..
  rw [make, hpictureFor]
  rcases hpicture : service.pictureFor incoming actor with ⟨outcome, session⟩
  rw [hpicture] at houtcome
  -- every picture comes as octets under one Cache-Control value, so the put is a plain one
  rcases houtcome with ⟨contentType, body, rfl⟩ | ⟨failure, rfl, hpasses⟩
  · rcases Cache.put_ofOctets_cases (service.missed url).cache (service.missed url).clock.whole url
      contentType body with ⟨hput, hencode⟩ | ⟨failure, hput, hkeep⟩
    · simp only [hput]
      exact .kept hadmits hencode hpicture
    · simp only [hput]
      exact .unkept hadmits hpicture hkeep
  · exact .failed hadmits hpicture hpasses

/-- How a request ends that the cache does not hold the answer to. -/
theorem check_handled {service : Service} {incoming : Incoming} {url : Text}
    (hmiss : service.Misses incoming url) :
    Handled service incoming ((service.missed url).check url incoming.asked).1
      ((service.missed url).check url incoming.asked).2 := by
  rw [check]
  cases hactor : incoming.asked.signedActor? with
  | none => exact .badUrl hmiss hactor
  | some pair =>
      obtain ⟨signature, actor⟩ := pair
      have hsigner : (service.missed url).signer = service.signer := rfl
      simp only [hsigner]
      cases hverify : service.signer.verify actor signature with
      | error failure => exact .unverifiable hmiss hactor hverify
      | ok valid =>
          cases valid with
          | false => exact .forged hmiss hactor hverify
          | true => exact make_handled ⟨hmiss, signature, hactor, hverify⟩

/-- Every request for an avatar ends in one of the ways. -/
theorem avatar_handled (service : Service) {incoming : Incoming}
    (hfor : incoming.isForAvatar = true) :
    Handled service incoming (service.avatar incoming.host incoming.asked).1
      (service.avatar incoming.host incoming.asked).2 := by
  have hlocate : incoming.asked.url incoming.host = incoming.url := rfl
  rw [avatar, hlocate]
  cases hurl : incoming.url with
  | error failure => exact .unlocated hurl
  | ok url =>
      rcases Cache.get_cases service.cache service.clock.whole url with
        ⟨failure, hencode, hget⟩ | ⟨-, ⟨hget, -⟩ | ⟨row, hrow, hlt, hget⟩⟩
      · simp only [hget]
        exact .unencodable hurl hencode
      · simp only [hget]
        exact check_handled ⟨hfor, hurl, by rw [hget]⟩
      · simp only [hget]
        obtain rfl := Cache.url_of_row? hrow
        exact .hit ⟨hfor, hurl, hrow, by rw [hget]⟩ hlt

/-- A request for an avatar is given the answer of its way, and leaves the
    service of its way. -/
theorem respond_handled (service : Service) {incoming : Incoming}
    (hfor : incoming.isForAvatar = true) :
    ∃ answer last, service.respond incoming = (answer.map (finish incoming), last)
      ∧ Handled service incoming answer last :=
  ⟨_, _, respond_of_isForAvatar service hfor, avatar_handled service hfor⟩

/-- A request changes at most the cache and the session. -/
theorem respond_frame (service : Service) (incoming : Incoming) :
    ∃ cache session, (service.respond incoming).2 = { service with cache, session } := by
  cases hfor : incoming.isForAvatar with
  | false => exact ⟨service.cache, service.session, respond_of_not_isForAvatar service hfor⟩
  | true =>
      obtain ⟨answer, last, hrespond, hhandled⟩ := respond_handled service hfor
      rw [hrespond]
      cases hhandled <;> exact ⟨_, _, rfl⟩

/-- A request takes no time. -/
theorem clock_respond (service : Service) (incoming : Incoming) :
    (service.respond incoming).2.clock = service.clock := by
  obtain ⟨cache, session, hframe⟩ := service.respond_frame incoming
  rw [hframe]

/-- A request leaves the key. -/
theorem signer_respond (service : Service) (incoming : Incoming) :
    (service.respond incoming).2.signer = service.signer := by
  obtain ⟨cache, session, hframe⟩ := service.respond_frame incoming
  rw [hframe]

/-! ## What the cache sees of a request -/

/-- A URL that is looked up in vain can be encoded, and what the cache
    holds under it has expired. -/
theorem Misses.get_eq {service : Service} {incoming : Incoming} {url : Text}
    (h : service.Misses incoming url) :
    (∃ octets, url.encode = .ok octets)
      ∧ ∀ row, service.cache.row? url = some row → row.expiresAt ≤ service.clock.whole := by
  have hnot := h.notFound
  rcases Cache.get_cases service.cache service.clock.whole url with
    ⟨failure, -, hget⟩ | ⟨hencode, ⟨-, hexpired⟩ | ⟨row, -, -, hget⟩⟩
  · rw [hget] at hnot
    exact nomatch hnot
  · exact ⟨hencode, hexpired⟩
  · rw [hget] at hnot
    exact nomatch hnot

/-- A request that the cache does not hold the answer to is checked, after
    the look-up was counted. -/
theorem respond_of_misses {service : Service} {incoming : Incoming} {url : Text}
    (h : service.Misses incoming url) :
    service.respond incoming
      = (((service.missed url).check url incoming.asked).1.map (finish incoming),
        ((service.missed url).check url incoming.asked).2) := by
  have hlocated : incoming.asked.url incoming.host = .ok url := h.located
  have hnot := h.notFound
  rw [respond_of_isForAvatar service h.isForAvatar, avatar, hlocated]
  rcases Cache.get_cases service.cache service.clock.whole url with
    ⟨failure, -, hget⟩ | ⟨-, ⟨hget, -⟩ | ⟨row, -, -, hget⟩⟩
  · rw [hget] at hnot
    exact nomatch hnot
  · simp only [hget]
    rfl
  · rw [hget] at hnot
    exact nomatch hnot

/-- Why a picture cannot be kept is no status of another server. -/
theorem passesNoStatus_of_isKeepingFailure {failure : Failure}
    (h : Cache.IsKeepingFailure failure) : failure.PassesNoStatus := by
  intro url status heq
  rcases h with rfl | ⟨run, rfl⟩
  · exact nomatch heq
  · exact nomatch heq

/-- The ways in which a request for an avatar ends, as far as the cache
    can tell. -/
inductive Settled (service : Service) (incoming : Incoming) :
    Except Failure Response → Service → Prop where
  /-- There is no URL that could be looked up. -/
  | unasked {failure : Failure}
      (hnone : ∀ url octets, incoming.url = .ok url → url.encode ≠ .ok octets) :
      Settled service incoming (.error failure) service
  /-- The cache holds the answer. -/
  | hit {row : Row} (hhit : service.Hits incoming row) (hlt : service.clock.whole < row.expiresAt) :
      Settled service incoming (.ok row.response) service.hit
  /-- There is no success that could be kept. -/
  | refused {url : Text} {answer : Except Failure Response} {session : Session}
      (hmiss : service.Misses incoming url)
      (hbad : ∀ response, answer = .ok response → response.status ≠ 200) :
      Settled service incoming answer { service.missed url with session }
  /-- The picture is made and kept. -/
  | kept {url actor contentType : Text} {body : Bytes} {session : Session}
      (hadmits : service.Admits incoming url actor)
      (hpicture : service.pictureFor incoming actor
        = (.ok (.ofOctets contentType MaxAge.cacheControl body), session)) :
      Settled service incoming (.ok (.ofOctets contentType MaxAge.cacheControl body))
        (service.kept (Cache.standardRow service.clock.whole url contentType body) session)

/-- Of the ways in which a request ends, only the look-up that finds a row
    and the picture that is kept have the status of a success. -/
theorem Handled.settled {service last : Service} {incoming : Incoming}
    {answer : Except Failure Response} (h : Handled service incoming answer last) :
    Settled service incoming answer last := by
  cases h with
  | unlocated hurl =>
      refine .unasked fun url octets hlocated => ?_
      rw [hurl] at hlocated
      exact nomatch hlocated
  | unencodable hurl hencode =>
      refine .unasked fun url octets hlocated => ?_
      rw [hurl] at hlocated
      obtain rfl := Except.ok.inj hlocated
      rw [hencode]
      exact fun heq => nomatch heq
  | hit hhit hlt => exact .hit hhit hlt
  | badUrl hmiss =>
      refine .refused hmiss fun response hresponse => ?_
      rw [Response.status_of_ofText hresponse]
      decide
  | unverifiable hmiss => exact .refused hmiss fun response hresponse => nomatch hresponse
  | forged hmiss =>
      refine .refused hmiss fun response hresponse => ?_
      rw [Response.status_of_ofText hresponse]
      decide
  | failed hadmits _ hpasses =>
      exact .refused hadmits.misses fun response => status_failureResponse hpasses
  | unkept hadmits _ hkeep =>
      exact .refused hadmits.misses fun response =>
        status_failureResponse (passesNoStatus_of_isKeepingFailure hkeep).passesNoSuccess
  | kept hadmits _ hpicture => exact .kept hadmits hpicture

/-- A request for an avatar is settled in one of these ways. -/
theorem respond_settled (service : Service) {incoming : Incoming}
    (hfor : incoming.isForAvatar = true) :
    ∃ answer last, service.respond incoming = (answer.map (finish incoming), last)
      ∧ Settled service incoming answer last := by
  obtain ⟨answer, last, hrespond, hhandled⟩ := respond_handled service hfor
  exact ⟨answer, last, hrespond, hhandled.settled⟩

/-! ## Answers from the cache -/

/-- A row that answers a request holds, and its URL can be encoded. -/
theorem Hits.get_eq {service : Service} {incoming : Incoming} {row : Row}
    (h : service.Hits incoming row) :
    (∃ octets, row.url.encode = .ok octets) ∧ service.clock.whole < row.expiresAt
      ∧ service.cache.get service.clock.whole row.url
        = (.ok (some row.response), service.cache.countHit) := by
  have hfound := h.found
  rcases Cache.get_cases service.cache service.clock.whole row.url with
    ⟨failure, -, hget⟩ | ⟨hencode, ⟨hget, -⟩ | ⟨other, hother, hlt, hget⟩⟩
  · rw [hget] at hfound
    exact nomatch hfound
  · rw [hget] at hfound
    exact nomatch hfound
  · rw [h.stored] at hother
    obtain rfl := Option.some.inj hother
    exact ⟨hencode, hlt, hget⟩

/-- A request for an avatar is answered by a row that holds under its
    URL. -/
theorem hits_of_row? {service : Service} {incoming : Incoming} {row : Row}
    (hfor : incoming.isForAvatar = true) (hurl : incoming.url = .ok row.url)
    (hencode : ∃ octets, row.url.encode = .ok octets)
    (hrow : service.cache.row? row.url = some row) (hlt : service.clock.whole < row.expiresAt) :
    service.Hits incoming row :=
  ⟨hfor, hurl, hrow, by rw [Cache.get_of_row? hencode hrow hlt]⟩

/-- A row that answers one request answers each one with its URL. -/
theorem Hits.of_url_eq {service : Service} {incoming other : Incoming} {row : Row}
    (h : service.Hits incoming row) (hother : other.isForAvatar = true)
    (hurl : other.url = incoming.url) : service.Hits other row :=
  ⟨hother, hurl.trans h.located, h.stored, h.found⟩

/-- A request that the cache holds the answer to is answered by it, and
    only the look-up is counted. -/
theorem respond_of_hits {service : Service} {incoming : Incoming} {row : Row}
    (h : service.Hits incoming row) :
    service.respond incoming = (.ok (finish incoming row.response), service.hit) := by
  obtain ⟨-, -, hget⟩ := h.get_eq
  have hlocated : incoming.asked.url incoming.host = .ok row.url := h.located
  have havatar : service.avatar incoming.host incoming.asked = (.ok row.response, service.hit) := by
    rw [avatar, hlocated]
    simp only [hget]
    rfl
  rw [respond_of_isForAvatar service h.isForAvatar, havatar]
  rfl

/-- An answer repeats another one: both are good and show the same, and
    only what other origins are told may differ. -/
structure Repeats (made repeated : Response) : Prop where
  madeStatus : made.status = 200
  status : repeated.status = 200
  body : repeated.body = made.body
  contentType : repeated.header? "content-type" = made.header? "content-type"
  cacheControl : repeated.header? "cache-control" = made.header? "cache-control"

/-- The answers that one row gives repeat each other. -/
theorem finish_repeats (row : Row) (maker incoming : Incoming) :
    Repeats (finish maker row.response) (finish incoming row.response) where
  madeStatus := status_finish maker row.response
  status := status_finish incoming row.response
  body := by rw [body_finish, body_finish]
  contentType := by
    have h : row.response.header? "content-type" = some row.contentType :=
      Response.contentType_ofOctets row.contentType row.cacheControl row.body
    rw [header?_finish h incoming, header?_finish h maker]
  cacheControl := by
    have h : row.response.header? "cache-control" = some row.cacheControl :=
      Response.cacheControl_ofOctets row.contentType row.cacheControl row.body
    rw [header?_finish h incoming, header?_finish h maker]

end Service

end Avatar
