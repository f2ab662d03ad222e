import Avatar.Proofs.Course

/-! # What of a request makes a difference

    The cache is asked for a URL, in which the host, the whole path and
    the whole query stand.  Once it was asked in vain, only the first two
    segments of the path and the size go on to make a difference: the
    check, the picture and whether it is kept are the same for any two
    such requests, on services that differ in their caches alone
    (`SameButCache.check`).  So nothing else of a request influences whom the
    service asks and what it answers, but for what is said to other
    origins (`misses_handled_alike`). -/

namespace Avatar

/-! ## What is said to other origins -/

/-- Whether a header is one for other origins. -/
def Cors.isHeader (header : Text × Text) : Bool := Text.startsWith "access-control-" header.1

/-- An answer without the headers for other origins. -/
def Response.withoutCors (response : Response) : Response :=
  { response with headers := response.headers.filter (!Cors.isHeader ·) }

theorem Cors.isHeader_of_mem_headers {incoming : Incoming} {header : Text × Text}
    (h : header ∈ headers incoming) : isHeader header = true := by
  rw [headers] at h
  split at h
  · exact nomatch h
  · rcases List.mem_cons.mp h with rfl | hoption
    · rfl
    · split at hoption
      · have hoptions : ∀ option ∈ optionHeaders, isHeader option = true := by decide
        exact hoptions header hoption
      · exact nomatch hoption

theorem Cors.withoutCors_allow (incoming : Incoming) (response : Response) :
    (allow incoming response).withoutCors = response.withoutCors := by
  have hnone : (headers incoming).filter (!isHeader ·) = [] := by
    refine List.filter_eq_nil_iff.mpr fun header hmem => ?_
    rw [isHeader_of_mem_headers hmem]
    decide
  rw [Response.withoutCors, allow, List.filter_append, hnone, List.append_nil]
  rfl

/-! ## What is kept -/

namespace Cache

/-- Whether an answer is kept does not depend on the URL, if that can be
    written down. -/
theorem rowOf_of_encode {url other : Text} (hurl : ∃ octets, url.encode = .ok octets)
    (hother : ∃ octets, other.encode = .ok octets) (now : Int) (response : Response) :
    rowOf now other response
      = (rowOf now url response).map fun row => { row with url := other } := by
  obtain ⟨_, hurl⟩ := hurl
  obtain ⟨_, hother⟩ := hother
  show _ = (fun row : Row => { row with url := other }) <$> rowOf now url response
  by_cases hstatus : response.status = 200
  · cases hbody : response.body with
    | octets body =>
        rw [rowOf_of_octets now url hstatus hbody, rowOf_of_octets now other hstatus hbody, hurl,
          hother]
        simp only [map_bind]
        rfl
    | absent => simp only [rowOf, if_neg (not_not_intro hstatus), hbody]; rfl
    | streamed => simp only [rowOf, if_neg (not_not_intro hstatus), hbody]; rfl
  · simp only [rowOf, if_pos hstatus]
    rfl

/-- Nor does it depend on what is kept already. -/
theorem put_outcome_eq {url other : Text} (hurl : ∃ octets, url.encode = .ok octets)
    (hother : ∃ octets, other.encode = .ok octets) (a b : Cache) (now : Int)
    (response : Response) : (a.put now url response).1 = (b.put now other response).1 := by
  rw [put_outcome, put_outcome, rowOf_of_encode hurl hother]
  cases rowOf now url response with
  | error failure => rfl
  | ok row => rfl

end Cache

/-! ## Services with different caches -/

namespace Service

variable {service other : Service} {a b : Incoming} {url url' : Text}

/-- Two services differ in their caches at most. -/
structure SameButCache (service other : Service) : Prop where
  settings : other.settings = service.settings
  signer : other.signer = service.signer
  clock : other.clock = service.clock
  session : other.session = service.session

theorem SameButCache.missed (h : SameButCache service other) (url url' : Text) :
    SameButCache (service.missed url) (other.missed url') :=
  ⟨h.settings, h.signer, h.clock, h.session⟩

/-- The same picture is made, and kept or not for the same reason. -/
theorem SameButCache.make (h : SameButCache service other)
    (hurl : ∃ octets, url.encode = .ok octets) (hurl' : ∃ octets, url'.encode = .ok octets)
    (actor : Text) (tiny : Bool) :
    (service.make url actor tiny).1 = (other.make url' actor tiny).1
      ∧ SameButCache (service.make url actor tiny).2 (other.make url' actor tiny).2 := by
  rw [Service.make, Service.make, h.settings, h.session, h.clock]
  rcases picture service.settings actor tiny service.session with ⟨failure | response, session⟩
  · exact ⟨rfl, rfl, h.signer, rfl, rfl⟩
  · have hput := Cache.put_outcome_eq hurl hurl' service.cache other.cache service.clock.whole
      response
    rcases hfirst : service.cache.put service.clock.whole url response with ⟨outcome, cache⟩
    rcases hsecond : other.cache.put service.clock.whole url' response with ⟨outcome', cache'⟩
    rw [hfirst, hsecond] at hput
    obtain rfl : outcome = outcome' := hput
    simp only [hfirst, hsecond]
    cases outcome with
    | error failure => exact ⟨rfl, rfl, h.signer, rfl, rfl⟩
    | ok done => exact ⟨rfl, rfl, h.signer, rfl, rfl⟩

/-- Of a target only the first two segments and the size are checked. -/
theorem SameButCache.check (h : SameButCache service other)
    (hurl : ∃ octets, url.encode = .ok octets) (hurl' : ∃ octets, url'.encode = .ok octets)
    {target target' : Target} (hactor : target.signedActor? = target'.signedActor?)
    (htiny : target.isTiny = target'.isTiny) :
    (service.check url target).1 = (other.check url' target').1
      ∧ SameButCache (service.check url target).2 (other.check url' target').2 := by
  rw [Service.check, Service.check, hactor, h.signer, htiny]
  split
  · exact ⟨rfl, h⟩
  · split
    · exact ⟨rfl, h⟩
    · exact ⟨rfl, h⟩
    · exact h.make hurl hurl' _ _

theorem withoutCors_finish (incoming : Incoming) (response : Response) :
    (finish incoming response).withoutCors = (secure response).withoutCors :=
  Cors.withoutCors_allow incoming (secure response)

/-- Answers are finished alike, but for what is said to other origins. -/
theorem map_withoutCors_finish (a b : Incoming) (answer : Except Failure Response) :
    (answer.map (finish a)).map Response.withoutCors
      = (answer.map (finish b)).map Response.withoutCors := by
  cases answer with
  | error failure => rfl
  | ok response =>
      refine congrArg Except.ok ?_
      rw [withoutCors_finish, withoutCors_finish]

/-- Two requests with the same signature, actor and size that find nothing
    are answered alike, and leave services that differ in their caches at
    most. -/
theorem SameButCache.respond (h : SameButCache service other) (ha : service.Misses a url)
    (hb : other.Misses b url') (hactor : a.asked.signedActor? = b.asked.signedActor?)
    (htiny : a.asked.isTiny = b.asked.isTiny) :
    (service.respond a).1.map Response.withoutCors = (other.respond b).1.map Response.withoutCors
      ∧ SameButCache (service.respond a).2 (other.respond b).2 := by
  -- URLs that are looked up can be encoded, so they do not decide what is kept
  obtain ⟨hanswer, hafter⟩ :=
    (h.missed url url').check ha.get_eq.1 hb.get_eq.1 hactor htiny
  rw [respond_of_misses ha, respond_of_misses hb]
  refine ⟨?_, hafter⟩
  rw [hanswer]
  exact map_withoutCors_finish a b _

/-- Services that differ in their caches at most, and find nothing there,
    ask the same of others for any two requests with the same signature,
    actor and size, and answer them alike. -/
theorem misses_handled_alike (hsame : SameButCache service other) (ha : service.Misses a url)
    (hb : other.Misses b url') (hactor : a.asked.signedActor? = b.asked.signedActor?)
    (htiny : a.asked.isTiny = b.asked.isTiny) :
    (service.respond a).1.map Response.withoutCors = (other.respond b).1.map Response.withoutCors
      ∧ (service.step (.request a)).1.requests = (other.step (.request b)).1.requests
      ∧ (service.step (.request a)).1.lookups = (other.step (.request b)).1.lookups
      ∧ SameButCache (service.respond a).2 (other.respond b).2 := by
  obtain ⟨hanswer, hafter⟩ := hsame.respond ha hb hactor htiny
  refine ⟨hanswer, ?_, ?_, hafter⟩
  · show (service.respond a).2.session.sent.drop service.session.sent.length
      = (other.respond b).2.session.sent.drop other.session.sent.length
    rw [hafter.session, hsame.session]
  · show (service.respond a).2.session.lookups.drop service.session.lookups.length
      = (other.respond b).2.session.lookups.drop other.session.lookups.length
    rw [hafter.session, hsame.session]

/-- The lonely service with the placeholder of the actor `a` in its
    cache. -/
def keeping : Service := { lonely with cache := { lonely.cache with rows := [placeholderRow] } }

/-- A request for the avatar of the actor `a` that says more than it has
    to. -/
def wordyRequest : Incoming where
  method := "GET"
  target := signedRequest.target ++ Text.ofString "/../x?y=z"
  host := "other"
  headers := [("Origin", "https://o.test")]

/-- The actor `a` is looked up for it as for the plain request. -/
theorem lonely_misses_handled_alike :
    SameButCache lonely keeping
      ∧ lonely.Misses signedRequest placeholderRow.url
      ∧ (∃ url, keeping.Misses wordyRequest url)
      ∧ signedRequest.asked.signedActor? = wordyRequest.asked.signedActor?
      ∧ signedRequest.asked.isTiny = wordyRequest.asked.isTiny
      ∧ (lonely.respond signedRequest).1.map Response.withoutCors
        = (keeping.respond wordyRequest).1.map Response.withoutCors
      ∧ (lonely.step (.request signedRequest)).1.requests
        = (keeping.step (.request wordyRequest)).1.requests
      ∧ (lonely.step (.request signedRequest)).1.lookups
        = (keeping.step (.request wordyRequest)).1.lookups := by
  have hsame : SameButCache lonely keeping := ⟨rfl, rfl, rfl, rfl⟩
  have hplain := (lonely_admits lonely.clock).misses
  let url : Text :=
    "http://other/9659450897188d054f9c20310342e042c55697737b2798b59f8f1cef7dda0674/x?y=z"
  have hwordy : keeping.Misses wordyRequest url :=
    ⟨by decide +kernel, by decide +kernel, by decide +kernel⟩
  have hactor : signedRequest.asked.signedActor? = wordyRequest.asked.signedActor? := by
    decide +kernel
  have htiny : signedRequest.asked.isTiny = wordyRequest.asked.isTiny := by decide +kernel
  obtain ⟨hanswer, hrequests, hlookups, -⟩ := misses_handled_alike hsame hplain hwordy hactor htiny
  exact ⟨hsame, hplain, ⟨url, hwordy⟩, hactor, htiny, hanswer, hrequests, hlookups⟩

end Service

end Avatar
