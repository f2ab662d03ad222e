import Avatar.Proofs.Transitions
import Avatar.Proofs.Urls

/-! # Requests that nobody signed

    The network and the directory are asked for a signed request only, and
    only if the cache does not hold its answer.  A request that is not
    signed is turned away; all that it does is to let the cache remove the
    expired row under its URL (`unsigned_is_inert`). -/

namespace Avatar

/-- The actor that a path names is a part of the target. -/
theorem Target.mem_of_signedActor? {target signature actor : Text} {c : CodePoint}
    (h : (ofText target).signedActor? = some (signature, actor)) (hc : c ∈ actor) :
    c ∈ target := by
  have hsegment : actor ∈ Text.splitOn '/' (withoutSlash (ofText target).path) := by
    rw [signedActor?] at h
    split at h
    · rename_i hsplit
      obtain ⟨-, rfl⟩ := Prod.mk.inj (Option.some.inj h)
      rw [hsplit]
      exact List.mem_cons_of_mem _ List.mem_cons_self
    · cases h
  exact Text.mem_of_mem_cut (mem_of_mem_withoutSlash (Text.mem_of_mem_splitOn hsegment hc).2)

namespace Service

variable {service start : Service} {incoming : Incoming} {url : Text}

/-! ## What is asked of others -/

/-- What is asked for a request is what its session has more than
    before. -/
theorem step_of_session {requests : List Request} {lookups : List Text}
    (hsent : (service.respond incoming).2.session.sent = service.session.sent ++ requests)
    (hlookups : (service.respond incoming).2.session.lookups
      = service.session.lookups ++ lookups) :
    (service.step (.request incoming)).1.requests = requests
      ∧ (service.step (.request incoming)).1.lookups = lookups := by
  show (service.respond incoming).2.session.sent.drop _ = requests
    ∧ (service.respond incoming).2.session.lookups.drop _ = lookups
  rw [hsent, hlookups, List.drop_left, List.drop_left]
  exact ⟨rfl, rfl⟩

/-- Unless the actor of a request is signed for and the cache does not hold
    the answer, the session stays as it was. -/
theorem session_respond (service : Service) (incoming : Incoming) :
    (service.respond incoming).2.session = service.session
      ∨ ∃ url actor, service.Admits incoming url actor := by
  cases hfor : incoming.isForAvatar with
  | false =>
      rw [respond_of_not_isForAvatar service hfor]
      exact .inl rfl
  | true =>
      obtain ⟨answer, last, hrespond, hhandled⟩ := respond_handled service hfor
      rw [hrespond]
      cases hhandled with
      | unlocated => exact .inl rfl
      | unencodable => exact .inl rfl
      | hit => exact .inl rfl
      | badUrl => exact .inl rfl
      | unverifiable => exact .inl rfl
      | forged => exact .inl rfl
      | failed hadmits => exact .inr ⟨_, _, hadmits⟩
      | unkept hadmits => exact .inr ⟨_, _, hadmits⟩
      | kept hadmits => exact .inr ⟨_, _, hadmits⟩

/-- Who makes others be asked is admitted. -/
theorem admits_of_asks
    (h : (service.step (.request incoming)).1.requests ≠ []
      ∨ (service.step (.request incoming)).1.lookups ≠ []) :
    ∃ url actor, service.Admits incoming url actor := by
  rcases session_respond service incoming with hsame | hadmits
  · obtain ⟨hrequests, hlookups⟩ : (service.step (.request incoming)).1.requests = []
        ∧ (service.step (.request incoming)).1.lookups = [] :=
      step_of_session (by rw [hsame, List.append_nil]) (by rw [hsame, List.append_nil])
    rw [hrequests, hlookups] at h
    rcases h with hnone | hnone
    · exact absurd rfl hnone
    · exact absurd rfl hnone
  · exact hadmits

/-! ## How an unsigned request is turned away -/

/-- The service after a look-up in vain, in full: the row under the URL is
    gone if it has expired, and the look-up is counted. -/
def swept (service : Service) (url : Text) : Service :=
  { service with
    cache := { service.cache with
      rows := service.cache.rows.filter fun row =>
        !(row.url = url && row.isExpired service.clock.whole)
      misses := service.cache.misses + 1 } }

/-- Nothing under a URL that is looked up in vain still holds, so what is
    removed has expired. -/
theorem Misses.missed_eq_swept (h : service.Misses incoming url)
    (hone : service.cache.HasOneRowPerUrl) : service.missed url = service.swept url := by
  have hexpired := h.get_eq.2
  have hrows : service.cache.rows.filter (fun row => row.url ≠ url)
      = service.cache.rows.filter fun row =>
        !(row.url = url && row.isExpired service.clock.whole) := by
    refine List.filter_congr fun row hrow => ?_
    by_cases hurl : row.url = url
    · have hle := hexpired row ((hone.row?_eq_some_iff).mpr ⟨hrow, hurl⟩)
      simp [hurl, Row.isExpired, hle]
    · simp [hurl]
  rw [missed, swept, Cache.missed, Cache.erase, hrows]
  rfl

theorem respond_of_short (h : service.Misses incoming url)
    (hshort : incoming.asked.signedActor? = none) :
    service.respond incoming = (.ok (refusal incoming 400 "Bad URL"), service.missed url) := by
  rw [respond_of_misses h, check, hshort]
  rfl

theorem respond_of_forged {signature actor : Text} (h : service.Misses incoming url)
    (hencode : ∃ octets, actor.encode = .ok octets)
    (hactor : incoming.asked.signedActor? = some (signature, actor))
    (hforged : service.signer.verify actor signature ≠ .ok true) :
    service.respond incoming
      = (.ok (refusal incoming 403 "Invalid signature"), service.missed url) := by
  obtain ⟨valid, hverify⟩ : ∃ valid, service.signer.verify actor signature = .ok valid :=
    Signer.verify_eq_ok_iff.mpr hencode
  have hinvalid : valid = false := by
    cases valid with
    | false => rfl
    | true => exact absurd hverify hforged
  rw [hinvalid] at hverify
  have hsigner : (service.missed url).signer = service.signer := rfl
  rw [respond_of_misses h, check, hactor]
  simp only [hsigner, hverify]
  rfl

/-- What a request may do that is not signed. -/
structure ActsOnlyIfSigned (service : Service) (incoming : Incoming) : Prop where
  /-- Others are asked only for a picture that is not in the cache, by a
      request whose first segment verifies the second. -/
  asks : (service.step (.request incoming)).1.requests ≠ []
      ∨ (service.step (.request incoming)).1.lookups ≠ [] →
    (incoming.method = "GET" ∨ incoming.method = "HEAD") ∧ incoming.isForAvatar = true
      ∧ ∃ url signature actor, service.Misses incoming url
        ∧ incoming.asked.signedActor? = some (signature, actor)
        ∧ service.signer.verify actor signature = .ok true
  /-- A path without two segments is refused, and nothing but the expired
      row under its URL is removed. -/
  short : ∀ url, service.Misses incoming url → incoming.asked.signedActor? = none →
    service.respond incoming = (.ok (refusal incoming 400 "Bad URL"), service.swept url)
  /-- So is a path whose first segment does not verify the second. -/
  forged : ∀ url signature actor, service.Misses incoming url →
    (∃ octets, incoming.target.encode = .ok octets) →
    incoming.asked.signedActor? = some (signature, actor) →
    service.signer.verify actor signature ≠ .ok true →
    service.respond incoming
      = (.ok (refusal incoming 403 "Invalid signature"), service.swept url)

/-- In no state of a run from a cache with one row per URL, such as an
    empty one, does a request that is not signed do more than be refused. -/
theorem unsigned_is_inert (hone : start.cache.HasOneRowPerUrl) (events : List Event)
    (incoming : Incoming) : (start.after events).ActsOnlyIfSigned incoming := by
  have hafter := hasOneRowPerUrl_after hone events
  constructor
  case asks =>
    intro hasks
    obtain ⟨url, actor, hadmits⟩ := admits_of_asks hasks
    obtain ⟨signature, hactor, hverify⟩ := hadmits.signed
    have hfor := hadmits.misses.isForAvatar
    obtain ⟨-, -, -, hserved, -⟩ := Incoming.isForAvatar_iff.mp hfor
    simp only [isServed, Bool.or_eq_true, decide_eq_true_eq] at hserved
    exact ⟨hserved, hfor, url, signature, actor, hadmits.misses, hactor, hverify⟩
  case short =>
    intro url hmiss hshort
    rw [respond_of_short hmiss hshort, hmiss.missed_eq_swept hafter]
  case forged =>
    intro url signature actor hmiss hencode hactor hforged
    -- the actor is a part of the target, so that its signature can be checked
    have hpoints : ∃ octets, actor.encode = .ok octets :=
      Text.encode_iff.mpr fun c hc =>
        Text.encode_iff.mp hencode c (Target.mem_of_signedActor? hactor hc)
    rw [respond_of_forged hmiss hpoints hactor hforged, hmiss.missed_eq_swept hafter]

/-- A request for an actor that is not signed for. -/
def forgedRequest : Incoming := ⟨"GET", "/0/a", "h", []⟩

/-- The lonely service asks nobody for it. -/
theorem lonely_unsigned_is_inert :
    lonely.cache.HasOneRowPerUrl
      ∧ lonely.Misses forgedRequest "http://h/0/a"
      ∧ lonely.respond forgedRequest
        = (.ok (refusal forgedRequest 403 "Invalid signature"), lonely.swept "http://h/0/a") := by
  have hmiss : lonely.Misses forgedRequest "http://h/0/a" :=
    ⟨by decide +kernel, by decide +kernel, by decide +kernel⟩
  have hone : lonely.cache.HasOneRowPerUrl := Cache.hasOneRowPerUrl_of_rows_eq_nil rfl
  have hinert : lonely.ActsOnlyIfSigned forgedRequest := unsigned_is_inert hone [] forgedRequest
  refine ⟨hone, hmiss, hinert.forged _ "0" "a" hmiss ⟨_, rfl⟩ ?_ ?_⟩
  · decide +kernel
  · decide +kernel

end Service

end Avatar
