import Avatar.Proofs.Stability

/-! # What a request leaves in the cache

    A request for an avatar touches the row under its own URL and no other
    one.  If that row holds, it stays; otherwise the request leaves the
    picture that it is answered with, or no row at all: what is not a
    success is never kept (`cache_effect`).  One of the counters tells of
    the look-up, unless the URL cannot be encoded and there was none. -/

namespace Avatar.Service

variable {service start : Service} {incoming : Incoming} {url : Text} {row : Row}

/-! ## One row under each URL -/

theorem hasOneRowPerUrl_respond (h : service.cache.HasOneRowPerUrl) (incoming : Incoming) :
    (service.respond incoming).2.cache.HasOneRowPerUrl := by
  cases hfor : incoming.isForAvatar with
  | false =>
      rw [respond_of_not_isForAvatar service hfor]
      exact h
  | true =>
      obtain ⟨answer, last, hrespond, hsettled⟩ := respond_settled service hfor
      rw [hrespond]
      cases hsettled with
      | unasked => exact h
      | hit => exact h
      | refused => exact h.missed _
      | kept => exact (h.missed _).insert _

theorem hasOneRowPerUrl_step (h : service.cache.HasOneRowPerUrl) (event : Event) :
    (service.step event).2.cache.HasOneRowPerUrl := by
  cases event with
  | request incoming => exact hasOneRowPerUrl_respond h incoming
  | purge => exact h.purge _
  | setClock clock => exact h
  | setRoutes routes => exact h
  | setSecret secret =>
      rw [cache_step_setSecret]
      exact h

theorem hasOneRowPerUrl_after (h : service.cache.HasOneRowPerUrl) (events : List Event) :
    (service.after events).cache.HasOneRowPerUrl := by
  induction events generalizing service with
  | nil => exact h
  | cons event events ih => exact ih (hasOneRowPerUrl_step h event)

/-! ## What the rows of a run are like -/

/-- A row that a request stores has the service's own Cache-Control
    value. -/
theorem Stores.cacheControl {maker : Incoming} {actor : Text}
    (h : service.Stores maker actor row) : row.cacheControl = MaxAge.cacheControl := by
  have houtcome : IsPictureOutcome (service.pictureFor maker actor).1 := picture_outcome ..
  rw [h.made] at houtcome
  rcases houtcome with ⟨contentType, body, hpicture⟩ | ⟨failure, hpicture, -⟩
  · have hresponse := Except.ok.inj hpicture
    have hmade : row.response.header? "cache-control" = some MaxAge.cacheControl := by
      rw [hresponse]
      exact Response.cacheControl_ofOctets ..
    rw [Row.response, Response.cacheControl_ofOctets] at hmade
    exact Option.some.inj hmade
  · exact nomatch hpicture

/-- Every row of a run that starts without any holds for twelve hours from
    the time at which it was made, and its URL can be encoded. -/
theorem standard_of_mem_rows (hempty : start.cache.rows = []) {events : List Event}
    (hrow : row ∈ (start.after events).cache.rows) :
    row.cacheControl = MaxAge.cacheControl ∧ row.expiresAt = row.createdAt + MaxAge.standard
      ∧ ∃ octets, row.url.encode = .ok octets := by
  obtain ⟨before, maker, actor, between, hstored⟩ := provenance hempty hrow
  refine ⟨hstored.stores.cacheControl, ?_, hstored.stores.admits.misses.get_eq.1⟩
  rw [hstored.stores.expiresAt, hstored.stores.createdAt]

/-! ## What a request does to the cache -/

/-- What a request, at the time that the clock shows, does to the cache. -/
structure CacheEffect (service : Service) (incoming : Incoming) : Prop where
  /-- There is at most one row under each URL afterwards. -/
  oneRowPerUrl : (service.respond incoming).2.cache.HasOneRowPerUrl
  /-- The rows under other URLs are what they were. -/
  others : ∀ url, incoming.url = .ok url →
    (service.respond incoming).2.cache.rows.filter (·.url ≠ url)
      = service.cache.rows.filter (·.url ≠ url)
  /-- A request for an avatar whose URL can be encoded is counted once, as
      found or not found. -/
  counted : incoming.isForAvatar = true → ∀ url, incoming.url = .ok url →
    (∃ octets, url.encode = .ok octets) →
      ((service.respond incoming).2.cache.hits = service.cache.hits + 1
          ∧ (service.respond incoming).2.cache.misses = service.cache.misses)
        ∨ ((service.respond incoming).2.cache.hits = service.cache.hits
          ∧ (service.respond incoming).2.cache.misses = service.cache.misses + 1)
  /-- A request for an avatar without such a URL changes nothing. -/
  uncounted : incoming.isForAvatar = true →
    (∀ url, incoming.url = .ok url → ¬ ∃ octets, url.encode = .ok octets) →
      (service.respond incoming).2 = service
  /-- A row that holds stays. -/
  held : incoming.isForAvatar = true → ∀ url, incoming.url = .ok url →
    ∀ row, service.cache.row? url = some row → service.clock.whole < row.expiresAt →
      (service.respond incoming).2.cache.row? url = some row
  /-- If none holds, a success leaves a new row with what it shows. -/
  made : incoming.isForAvatar = true → ∀ url, incoming.url = .ok url →
    (∀ row, service.cache.row? url = some row → row.expiresAt ≤ service.clock.whole) →
      ∀ response, (service.respond incoming).1 = .ok response → response.status = 200 →
        ∃ row, (service.respond incoming).2.cache.row? url = some row
          ∧ row.createdAt = service.clock.whole
          ∧ response.body = .octets row.body
          ∧ response.header? "content-type" = some row.contentType
  /-- If none holds, what is no success leaves none. -/
  absent : incoming.isForAvatar = true → ∀ url, incoming.url = .ok url →
    (∀ row, service.cache.row? url = some row → row.expiresAt ≤ service.clock.whole) →
      (∀ response, (service.respond incoming).1 = .ok response → response.status ≠ 200) →
        (service.respond incoming).2.cache.row? url = none
  /-- Any other request leaves the rows and the counters. -/
  elsewhere : incoming.isForAvatar = false → (service.respond incoming).2.cache = service.cache

/-- A look-up in vain is about the URL of its request. -/
theorem Misses.url_eq {other : Text} (h : service.Misses incoming other)
    (hurl : incoming.url = .ok url) : other = url := by
  have hlocated := h.located
  rw [hurl] at hlocated
  exact (Except.ok.inj hlocated).symm

theorem erase_respond (hurl : incoming.url = .ok url) :
    ((service.respond incoming).2.cache.erase url).rows = (service.cache.erase url).rows := by
  cases hfor : incoming.isForAvatar with
  | false => rw [respond_of_not_isForAvatar service hfor]
  | true =>
      obtain ⟨answer, last, hrespond, hsettled⟩ := respond_settled service hfor
      rw [hrespond]
      cases hsettled with
      | unasked => rfl
      | hit => rfl
      | refused hmiss =>
          obtain rfl := hmiss.url_eq hurl
          exact Cache.rows_erase_missed service.cache _
      | kept hadmits =>
          obtain rfl := hadmits.misses.url_eq hurl
          refine (congrArg Cache.rows (Cache.erase_insert _ _)).trans ?_
          exact Cache.rows_erase_missed service.cache _

theorem counted_respond (hfor : incoming.isForAvatar = true) (hurl : incoming.url = .ok url)
    (hencode : ∃ octets, url.encode = .ok octets) :
    ((service.respond incoming).2.cache.hits = service.cache.hits + 1
        ∧ (service.respond incoming).2.cache.misses = service.cache.misses)
      ∨ ((service.respond incoming).2.cache.hits = service.cache.hits
        ∧ (service.respond incoming).2.cache.misses = service.cache.misses + 1) := by
  obtain ⟨answer, last, hrespond, hsettled⟩ := respond_settled service hfor
  rw [hrespond]
  cases hsettled with
  | unasked hnone =>
      obtain ⟨octets, hoctets⟩ := hencode
      exact absurd hoctets (hnone url octets hurl)
  | hit => exact .inl ⟨rfl, rfl⟩
  | refused => exact .inr ⟨rfl, rfl⟩
  | kept => exact .inr ⟨rfl, rfl⟩

theorem respond_of_not_encodable (hfor : incoming.isForAvatar = true)
    (hnone : ∀ url, incoming.url = .ok url → ¬ ∃ octets, url.encode = .ok octets) :
    (service.respond incoming).2 = service := by
  obtain ⟨answer, last, hrespond, hsettled⟩ := respond_settled service hfor
  rw [hrespond]
  cases hsettled with
  | unasked => rfl
  | hit hhit => exact absurd hhit.get_eq.1 (hnone _ hhit.located)
  | refused hmiss => exact absurd hmiss.get_eq.1 (hnone _ hmiss.located)
  | kept hadmits => exact absurd hadmits.misses.get_eq.1 (hnone _ hadmits.misses.located)

theorem not_hits_of_expired (hurl : incoming.url = .ok url)
    (hexpired : ∀ row, service.cache.row? url = some row → row.expiresAt ≤ service.clock.whole) :
    ¬ service.Hits incoming row := by
  intro hhit
  obtain ⟨-, hlt, -⟩ := hhit.get_eq
  have hlocated := hhit.located
  rw [hurl] at hlocated
  obtain rfl := Except.ok.inj hlocated
  exact absurd hlt (Int.not_lt.mpr (hexpired row hhit.stored))

/-- Where no row holds, a success leaves one with what it shows. -/
theorem row?_respond_of_success (hfor : incoming.isForAvatar = true) (hurl : incoming.url = .ok url)
    (hexpired : ∀ row, service.cache.row? url = some row → row.expiresAt ≤ service.clock.whole)
    {response : Response} (hanswer : (service.respond incoming).1 = .ok response)
    (hstatus : response.status = 200) :
    ∃ row, (service.respond incoming).2.cache.row? url = some row
      ∧ row.createdAt = service.clock.whole ∧ response.body = .octets row.body
      ∧ response.header? "content-type" = some row.contentType := by
  obtain ⟨new, hkeeps⟩ := keeps_of_succeeds ⟨hfor, hanswer, hstatus⟩
  have hlocated := hkeeps.located
  rw [hurl] at hlocated
  obtain rfl := Except.ok.inj hlocated
  rcases hkeeps.origin with hhit | ⟨actor, hstores⟩
  · exact absurd hhit (not_hits_of_expired hurl hexpired)
  · refine ⟨new, hkeeps.stored, hstores.createdAt, ?_, ?_⟩
    · rw [hkeeps.shows, body_finish]
      rfl
    · rw [hkeeps.shows]
      exact header?_finish (Response.contentType_ofOctets ..) incoming

/-- Where no row holds, what is no success leaves none. -/
theorem row?_respond_of_no_success (hfor : incoming.isForAvatar = true)
    (hurl : incoming.url = .ok url)
    (hencodable : ∀ row ∈ service.cache.rows, ∃ octets, row.url.encode = .ok octets)
    (hexpired : ∀ row, service.cache.row? url = some row → row.expiresAt ≤ service.clock.whole)
    (hbad : ∀ response, (service.respond incoming).1 = .ok response → response.status ≠ 200) :
    (service.respond incoming).2.cache.row? url = none := by
  obtain ⟨answer, last, hrespond, hsettled⟩ := respond_settled service hfor
  rw [hrespond] at hbad ⊢
  cases hsettled with
  | unasked hnone =>
      -- a URL that cannot be encoded has no row in the first place
      show service.cache.row? url = none
      cases hrow : service.cache.row? url with
      | none => rfl
      | some row =>
          obtain ⟨octets, hoctets⟩ := hencodable row (Cache.mem_of_row? hrow)
          rw [Cache.url_of_row? hrow] at hoctets
          exact absurd hoctets (hnone url octets hurl)
  | hit hhit => exact absurd hhit (not_hits_of_expired hurl hexpired)
  | refused hmiss =>
      obtain rfl := hmiss.url_eq hurl
      exact Cache.row?_erase_self service.cache _
  | kept => exact absurd (status_finish incoming _) (hbad _ rfl)

/-- Each request of a run that starts without rows does to the cache what
    is said above, and every row that the run has left holds for twelve
    hours from the time at which it was made. -/
theorem cache_effect (hempty : start.cache.rows = []) (events : List Event) (incoming : Incoming) :
    (start.after events).CacheEffect incoming
      ∧ ∀ row ∈ (start.after events).cache.rows,
          row.cacheControl = "public, max-age=43200" ∧ row.expiresAt = row.createdAt + 43200 := by
  have hone := hasOneRowPerUrl_after (Cache.hasOneRowPerUrl_of_rows_eq_nil hempty) events
  constructor
  · exact {
      oneRowPerUrl := hasOneRowPerUrl_respond hone incoming
      others := fun url hurl => erase_respond hurl
      counted := fun hfor url hurl hencode => counted_respond hfor hurl hencode
      uncounted := fun hfor hnone => respond_of_not_encodable hfor hnone
      held := fun _ url _ row hrow hlt => by
        obtain rfl := Cache.url_of_row? hrow
        exact row?_respond hrow (standard_of_mem_rows hempty (Cache.mem_of_row? hrow)).2.2
          fun _ => hlt
      made := fun hfor url hurl hexpired response hanswer hstatus =>
        row?_respond_of_success hfor hurl hexpired hanswer hstatus
      absent := fun hfor url hurl hexpired hbad =>
        row?_respond_of_no_success hfor hurl
          (fun row hrow => (standard_of_mem_rows hempty hrow).2.2) hexpired hbad
      elsewhere := fun hfor => by rw [respond_of_not_isForAvatar _ hfor] }
  · intro row hrow
    obtain ⟨hcontrol, hexpires, -⟩ := standard_of_mem_rows hempty hrow
    exact ⟨hcontrol, hexpires⟩

/-- The second of two equal requests leaves the row that the first one
    made. -/
theorem lonely_cache_effect :
    lonely.cache.rows = []
      ∧ (lonely.after [.request signedRequest]).CacheEffect signedRequest
      ∧ ∀ row ∈ (lonely.after [.request signedRequest]).cache.rows,
          row.cacheControl = "public, max-age=43200" ∧ row.expiresAt = row.createdAt + 43200 :=
  ⟨rfl, cache_effect rfl [.request signedRequest] signedRequest⟩

/-- The first of the surrogates. -/
def firstSurrogate : CodePoint := ⟨0xD800, by decide⟩

/-- A request whose path is a lone surrogate. -/
def surrogateRequest : Incoming :=
  ⟨"GET", [CodePoint.ofChar '/', firstSurrogate], "h", []⟩

/-- Not every request for an avatar that has a URL is counted: one whose
    URL cannot be encoded is not. -/
theorem not_every_lookup_counted :
    ¬ ∀ (start : Service) (events : List Event) (incoming : Incoming) (url : Text),
      start.cache.rows = [] → incoming.isForAvatar = true → incoming.url = .ok url →
        (((start.after events).respond incoming).2.cache.hits = (start.after events).cache.hits + 1
            ∧ ((start.after events).respond incoming).2.cache.misses
              = (start.after events).cache.misses)
          ∨ (((start.after events).respond incoming).2.cache.hits = (start.after events).cache.hits
            ∧ ((start.after events).respond incoming).2.cache.misses
              = (start.after events).cache.misses + 1) := by
  intro h
  have hsame : ((lonely.after []).respond surrogateRequest).2.cache = lonely.cache := by
    decide +kernel
  have hcounted := h lonely [] surrogateRequest
    (Text.ofString "http://h/" ++ [firstSurrogate]) rfl (by decide +kernel) (by decide +kernel)
  rw [hsame] at hcounted
  exact absurd hcounted (by decide)

end Avatar.Service
