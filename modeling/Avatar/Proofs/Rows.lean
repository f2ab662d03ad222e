import Avatar.Cache

/-! # What the operations of the cache do to a row

    A look-up finds the row under a URL as long as it has not expired,
    and otherwise leaves no row there.  An answer that carries the
    service's own Cache-Control value is kept for twelve hours from the
    moment of the put.  Nothing but an operation on its own URL, or a
    purge at a time when it has expired, takes a row away. -/

namespace Avatar

/-- A row holds before the time at which it expires. -/
theorem Row.isExpired_eq_false_iff {row : Row} {now : Int} :
    row.isExpired now = false ↔ now < row.expiresAt := by
  rw [Row.isExpired, decide_eq_false_iff_not, Int.not_le]

/-- The type under which an answer is kept: its own, or that of octets of
    which nothing else is known. -/
def Response.keptType (response : Response) : Text :=
  (response.header? "content-type").getD "application/octet-stream"

/-- The Cache-Control value under which an answer is kept: its own, or
    twelve hours for everybody. -/
def Response.keptControl (response : Response) : Text :=
  (response.header? "cache-control").getD "public, max-age=43200"

namespace Cache

variable {cache : Cache} {now : Int} {url other : Text} {row : Row}

/-- The row that is found under a URL carries it. -/
theorem url_of_row? (h : cache.row? url = some row) : row.url = url := by
  have hurl := List.find?_some h
  simpa using hurl

/-- The row that is found under a URL is one of the rows. -/
theorem mem_of_row? (h : cache.row? url = some row) : row ∈ cache.rows :=
  List.mem_of_find?_eq_some h

/-- Where there is no row, none is erased. -/
theorem erase_of_row?_eq_none (h : cache.row? url = none) : cache.erase url = cache := by
  have hkeep : cache.rows.filter (·.url ≠ url) = cache.rows := by
    rw [List.filter_eq_self]
    intro row hrow
    have hne := List.find?_eq_none.mp h row hrow
    simpa using hne
  rw [erase, hkeep]

/-- A row is left when another URL's is erased, and no row comes. -/
theorem mem_rows_erase : row ∈ (cache.erase url).rows ↔ row ∈ cache.rows ∧ row.url ≠ url := by
  rw [erase, List.mem_filter, decide_eq_true_iff]

theorem erase_erase (cache : Cache) (url : Text) : (cache.erase url).erase url = cache.erase url :=
  erase_of_row?_eq_none (row?_erase_self cache url)

/-- A row that was inserted is erased with those that it took the place
    of. -/
theorem erase_insert (cache : Cache) (row : Row) :
    (cache.insert row).erase row.url = cache.erase row.url := by
  have hrows : ((cache.insert row).erase row.url).rows
      = ((cache.erase row.url).erase row.url).rows := by
    show (row :: (cache.erase row.url).rows).filter (·.url ≠ row.url)
      = (cache.erase row.url).rows.filter (·.url ≠ row.url)
    exact List.filter_cons_of_neg (by simp)
  rw [erase_erase] at hrows
  exact congrArg (fun rows => { cache with rows }) hrows

/-! ## Look-ups -/

/-- The cache after a look-up that found nothing under a URL. -/
def missed (cache : Cache) (url : Text) : Cache := (cache.erase url).countMiss

/-- The rows under other URLs outlast a look-up that finds nothing. -/
theorem row?_missed_of_ne (h : other ≠ url) : (cache.missed url).row? other = cache.row? other :=
  row?_erase_of_ne cache h

/-- The rows under other URLs are the same after a look-up in vain. -/
theorem rows_erase_missed (cache : Cache) (url : Text) :
    ((cache.missed url).erase url).rows = (cache.erase url).rows := by
  show ((cache.erase url).erase url).rows = (cache.erase url).rows
  rw [erase_erase]

/-- A look-up of a URL that cannot be encoded fails; any other one finds
    the row under its URL as long as that holds. -/
theorem get_cases (cache : Cache) (now : Int) (url : Text) :
    (∃ failure, url.encode = .error failure ∧ cache.get now url = (.error failure, cache))
      ∨ (∃ octets, url.encode = .ok octets) ∧
        ((cache.get now url = (.ok none, cache.missed url)
            ∧ ∀ row, cache.row? url = some row → row.expiresAt ≤ now)
          ∨ ∃ row, cache.row? url = some row ∧ now < row.expiresAt
            ∧ cache.get now url = (.ok (some row.response), cache.countHit)) := by
  rw [get]
  cases hencode : url.encode with
  | error failure => exact .inl ⟨failure, rfl, rfl⟩
  | ok octets =>
      refine .inr ⟨⟨octets, rfl⟩, ?_⟩
      cases hrow : cache.row? url with
      | none =>
          -- nothing is erased here, so that both misses leave the same cache
          refine .inl ⟨?_, fun row h => nomatch h⟩
          show (_, cache.countMiss) = _
          rw [missed, erase_of_row?_eq_none hrow]
      | some row =>
          cases hexpired : row.isExpired now with
          | true =>
              refine .inl ⟨?_, ?_⟩
              · exact if_pos hexpired
              · rintro _ ⟨⟩
                exact of_decide_eq_true hexpired
          | false =>
              refine .inr ⟨row, rfl, Row.isExpired_eq_false_iff.mp hexpired, ?_⟩
              exact if_neg (Bool.eq_false_iff.mp hexpired)

/-- A row that holds is found, if its URL can be encoded at all. -/
theorem get_of_row? (hencode : ∃ octets, url.encode = .ok octets)
    (hrow : cache.row? url = some row) (hlt : now < row.expiresAt) :
    cache.get now url = (.ok (some row.response), cache.countHit) := by
  obtain ⟨octets, hoctets⟩ := hencode
  rcases get_cases cache now url with ⟨_, hfail, -⟩ | ⟨-, ⟨-, hexpired⟩ | ⟨found, hfound, -, hget⟩⟩
  · rw [hoctets] at hfail
    exact nomatch hfail
  · exact absurd hlt (Int.not_lt.mpr (hexpired row hrow))
  · rw [hrow] at hfound
    obtain rfl := Option.some.inj hfound
    exact hget

/-! ## Puts -/

/-- The row that keeps octets of a type from now on. -/
def standardRow (now : Int) (url contentType : Text) (body : Bytes) : Row :=
  ⟨url, contentType, MaxAge.cacheControl, body, now, now + MaxAge.standard⟩

theorem fitInt64_cases (n : Int) : fitInt64 n = .ok n ∨ fitInt64 n = .error .timeOutOfRange := by
  rw [fitInt64]
  split
  · exact .inl rfl
  · exact .inr rfl

theorem fitInt64_eq_ok_iff {n m : Int} :
    fitInt64 n = .ok m ↔ (-0x8000000000000000 ≤ n ∧ n < 0x8000000000000000) ∧ m = n := by
  rw [fitInt64]
  split
  · rename_i h
    constructor
    · intro heq
      exact ⟨h, (Except.ok.inj heq).symm⟩
    · rintro ⟨-, rfl⟩
      rfl
  · rename_i h
    constructor
    · intro heq
      exact nomatch heq
    · rintro ⟨hfits, -⟩
      exact absurd hfits h

/-- A text is encoded unless it holds surrogates. -/
theorem encode_cases (s : Text) :
    (∃ octets, s.encode = .ok octets) ∨ ∃ run, s.encode = .error (.unencodable run) := by
  rw [Text.encode]
  split
  · rename_i run _
    exact .inr ⟨run, rfl⟩
  · exact .inl ⟨s.utf8, rfl⟩

/-- What it takes for an answer to be kept: its status is 200, its body is
    held as octets, the seconds it may be kept are known, and everything
    that is written down can be. -/
structure IsKeepable (now : Int) (url : Text) (response : Response) (body : Bytes)
    (maxAge : Nat) : Prop where
  status : response.status = 200
  held : response.body = .octets body
  lasts : MaxAge.ofCacheControl response.keptControl = .ok maxAge
  url : ∃ octets, url.encode = .ok octets
  contentType : ∃ octets, response.keptType.encode = .ok octets
  cacheControl : ∃ octets, response.keptControl.encode = .ok octets
  started : -0x8000000000000000 ≤ now
  ended : now + maxAge < 0x8000000000000000

/-- Octets under status 200 are kept if all that is written down with them
    can be. -/
theorem rowOf_of_octets (now : Int) (url : Text) {response : Response} {body : Bytes}
    (hstatus : response.status = 200) (hbody : response.body = .octets body) :
    rowOf now url response = (do
      let maxAge ← MaxAge.ofCacheControl response.keptControl
      let _ ← url.encode
      let _ ← response.keptType.encode
      let _ ← response.keptControl.encode
      let created ← fitInt64 now
      let expires ← fitInt64 (now + maxAge)
      return ⟨url, response.keptType, response.keptControl, body, created, expires⟩) := by
  rw [rowOf, if_neg (not_not_intro hstatus), hbody]
  rfl

/-- Exactly the answers that are keepable are kept, with the type and the
    Cache-Control value that they are kept under. -/
theorem rowOf_eq_ok_iff {response : Response} :
    rowOf now url response = .ok row ↔ ∃ body maxAge, IsKeepable now url response body maxAge
      ∧ row = ⟨url, response.keptType, response.keptControl, body, now, now + maxAge⟩ := by
  constructor
  · intro h
    have hstatus : response.status = 200 := by
      refine Decidable.byContradiction fun hstatus => ?_
      rw [rowOf, if_pos hstatus] at h
      exact nomatch h
    cases hbody : response.body with
    | absent =>
        rw [rowOf, if_neg (not_not_intro hstatus), hbody] at h
        exact nomatch h
    | streamed =>
        rw [rowOf, if_neg (not_not_intro hstatus), hbody] at h
        exact nomatch h
    | octets body =>
        rw [rowOf_of_octets now url hstatus hbody] at h
        simp only [bind_eq_ok_iff, fitInt64_eq_ok_iff] at h
        obtain ⟨maxAge, hlasts, _, hurl, _, htype, _, hcontrol, _, ⟨hstarted, rfl⟩, _,
          ⟨hended, rfl⟩, hrow⟩ := h
        refine ⟨body, maxAge, ?_, (Except.ok.inj hrow).symm⟩
        exact ⟨hstatus, hbody, hlasts, ⟨_, hurl⟩, ⟨_, htype⟩, ⟨_, hcontrol⟩, hstarted.1, hended.2⟩
  · rintro ⟨body, maxAge, h, rfl⟩
    have hcreated : fitInt64 now = .ok now := by
      refine fitInt64_eq_ok_iff.mpr ⟨⟨h.started, ?_⟩, rfl⟩
      have := h.ended
      omega
    have hexpires : fitInt64 (now + maxAge) = .ok (now + maxAge) := by
      refine fitInt64_eq_ok_iff.mpr ⟨⟨?_, h.ended⟩, rfl⟩
      have := h.started
      omega
    obtain ⟨_, hurl⟩ := h.url
    obtain ⟨_, htype⟩ := h.contentType
    obtain ⟨_, hcontrol⟩ := h.cacheControl
    rw [rowOf_of_octets now url h.status h.held]
    simp only [bind_eq_ok_iff]
    exact ⟨maxAge, h.lasts, _, hurl, _, htype, _, hcontrol, _, hcreated, _, hexpires, rfl⟩

theorem url_of_rowOf {response : Response} (h : rowOf now url response = .ok row) :
    row.url = url := by
  obtain ⟨body, maxAge, -, rfl⟩ := rowOf_eq_ok_iff.mp h
  rfl

/-- A put inserts the row that keeps the answer, or it fails and changes
    nothing. -/
theorem put_cases (cache : Cache) (now : Int) (url : Text) (response : Response) :
    (∃ row, rowOf now url response = .ok row
        ∧ cache.put now url response = (.ok (), cache.insert row))
      ∨ ∃ failure, rowOf now url response = .error failure
          ∧ cache.put now url response = (.error failure, cache) := by
  rw [put]
  cases hrow : rowOf now url response with
  | ok row => exact .inl ⟨row, rfl, rfl⟩
  | error failure => exact .inr ⟨failure, rfl, rfl⟩

/-- Whether it fails does not depend on what the cache holds. -/
theorem put_outcome (cache : Cache) (now : Int) (url : Text) (response : Response) :
    (cache.put now url response).1 = (rowOf now url response).map fun _ => () := by
  rw [put]
  cases rowOf now url response with
  | error failure => rfl
  | ok row => rfl

/-- An answer that no row keeps is not keepable. -/
theorem not_isKeepable_of_rowOf {response : Response} {failure : Failure}
    (h : rowOf now url response = .error failure) :
    ¬ ∃ body maxAge, IsKeepable now url response body maxAge := by
  rintro ⟨body, maxAge, hkeepable⟩
  rw [rowOf_eq_ok_iff.mpr ⟨body, maxAge, hkeepable, rfl⟩] at h
  exact nomatch h

/-- A put succeeds exactly if the answer is keepable. -/
theorem put_eq_ok_iff {response : Response} :
    (cache.put now url response).1 = .ok ()
      ↔ ∃ body maxAge, IsKeepable now url response body maxAge := by
  rcases put_cases cache now url response with ⟨row, hrow, hput⟩ | ⟨failure, hrow, hput⟩
  · obtain ⟨body, maxAge, hkeepable, -⟩ := rowOf_eq_ok_iff.mp hrow
    rw [hput]
    exact iff_of_true rfl ⟨body, maxAge, hkeepable⟩
  · rw [hput]
    exact iff_of_false (fun h => nomatch h) (not_isKeepable_of_rowOf hrow)

/-- Why octets of a type may not be kept. -/
def IsKeepingFailure (failure : Failure) : Prop :=
  failure = .timeOutOfRange ∨ ∃ run, failure = .unencodable run

/-- Why they may not be kept can be said in a text that can be encoded. -/
theorem IsKeepingFailure.encode_message {failure : Failure} (h : IsKeepingFailure failure) :
    ∃ octets, failure.message.encode = .ok octets := by
  rcases h with rfl | ⟨run, rfl⟩
  · exact ⟨_, rfl⟩
  · exact run.encode_message

/-- Octets under the service's own Cache-Control value are keepable if the
    URL and the type can be encoded and the twelve hours can be counted. -/
theorem isKeepable_ofOctets_iff {contentType : Text} {body : Bytes} :
    (∃ held maxAge, IsKeepable now url (.ofOctets contentType MaxAge.cacheControl body) held maxAge)
      ↔ (∃ octets, url.encode = .ok octets) ∧ (∃ octets, contentType.encode = .ok octets)
        ∧ -0x8000000000000000 ≤ now ∧ now + MaxAge.standard < 0x8000000000000000 := by
  have hlasts : MaxAge.ofCacheControl MaxAge.cacheControl = .ok MaxAge.standard := rfl
  have htype : (Response.ofOctets contentType MaxAge.cacheControl body).keptType = contentType := by
    rw [Response.keptType, Response.contentType_ofOctets]
    rfl
  have hcontrol : (Response.ofOctets contentType MaxAge.cacheControl body).keptControl
      = MaxAge.cacheControl := by
    rw [Response.keptControl, Response.cacheControl_ofOctets]
    rfl
  constructor
  · rintro ⟨held, maxAge, h⟩
    have hage := h.lasts
    rw [hcontrol, hlasts] at hage
    obtain rfl := Except.ok.inj hage
    exact ⟨h.url, htype ▸ h.contentType, h.started, h.ended⟩
  · rintro ⟨hurl, hencode, hstarted, hended⟩
    exact ⟨body, MaxAge.standard, rfl, rfl, hcontrol ▸ hlasts, hurl, htype.symm ▸ hencode,
      hcontrol ▸ ⟨_, rfl⟩, hstarted, hended⟩

/-- The row of octets under the service's own Cache-Control value. -/
theorem rowOf_ofOctets (now : Int) (url contentType : Text) (body : Bytes) :
    rowOf now url (.ofOctets contentType MaxAge.cacheControl body) = (do
      let _ ← url.encode
      let _ ← contentType.encode
      let created ← fitInt64 now
      let expires ← fitInt64 (now + MaxAge.standard)
      return ⟨url, contentType, MaxAge.cacheControl, body, created, expires⟩) := by
  rw [rowOf, Response.contentType_ofOctets, Response.cacheControl_ofOctets]
  rfl

/-- Octets under the service's own Cache-Control value are kept in a row
    that holds for twelve hours, or something cannot be written down. -/
theorem rowOf_ofOctets_cases (now : Int) (url contentType : Text) (body : Bytes) :
    (rowOf now url (.ofOctets contentType MaxAge.cacheControl body)
        = .ok (standardRow now url contentType body) ∧ ∃ octets, url.encode = .ok octets)
      ∨ ∃ failure, rowOf now url (.ofOctets contentType MaxAge.cacheControl body) = .error failure
          ∧ IsKeepingFailure failure := by
  rw [rowOf_ofOctets]
  -- what is written down is checked in this order, and the first failure counts
  rcases encode_cases url with ⟨octets, hurl⟩ | ⟨run, hurl⟩
  · rcases encode_cases contentType with ⟨typeOctets, htype⟩ | ⟨run, htype⟩
    · rcases fitInt64_cases now with hcreated | hcreated
      · rcases fitInt64_cases (now + MaxAge.standard) with hexpires | hexpires
        · refine .inl ⟨?_, octets, hurl⟩
          rw [hurl, htype, hcreated, hexpires]
          rfl
        · refine .inr ⟨.timeOutOfRange, ?_, .inl rfl⟩
          rw [hurl, htype, hcreated, hexpires]
          rfl
      · refine .inr ⟨.timeOutOfRange, ?_, .inl rfl⟩
        rw [hurl, htype, hcreated]
        rfl
    · refine .inr ⟨.unencodable run, ?_, .inr ⟨run, rfl⟩⟩
      rw [hurl, htype]
      rfl
  · refine .inr ⟨.unencodable run, ?_, .inr ⟨run, rfl⟩⟩
    rw [hurl]
    rfl

/-- Such a put inserts the row, or it fails and changes nothing. -/
theorem put_ofOctets_cases (cache : Cache) (now : Int) (url contentType : Text) (body : Bytes) :
    (cache.put now url (.ofOctets contentType MaxAge.cacheControl body)
        = (.ok (), cache.insert (standardRow now url contentType body))
        ∧ ∃ octets, url.encode = .ok octets)
      ∨ ∃ failure, cache.put now url (.ofOctets contentType MaxAge.cacheControl body)
          = (.error failure, cache) ∧ IsKeepingFailure failure := by
  rw [put]
  rcases rowOf_ofOctets_cases now url contentType body with ⟨hrow, hencode⟩ | ⟨failure, hrow, hkeep⟩
  · rw [hrow]
    exact .inl ⟨rfl, hencode⟩
  · rw [hrow]
    exact .inr ⟨failure, rfl, hkeep⟩

/-- The rows after a put are the new one and older ones under other
    URLs. -/
theorem mem_rows_insert {new : Row} :
    row ∈ (cache.insert new).rows ↔ row = new ∨ row ∈ cache.rows ∧ row.url ≠ new.url := by
  rw [insert, List.mem_cons, mem_rows_erase]

/-! ## Purges -/

/-- A purge takes the expired rows away, or it fails and changes
    nothing. -/
theorem purge_cases (cache : Cache) (now : Int) :
    ((cache.purge now).1.isOk = true
        ∧ (cache.purge now).2 = { cache with rows := cache.rows.filter (!·.isExpired now) })
      ∨ (cache.purge now).1.isOk = false ∧ (cache.purge now).2 = cache := by
  rw [purge]
  rcases fitInt64_cases now with hnow | hnow
  · rw [hnow]
    exact .inl ⟨rfl, rfl⟩
  · rw [hnow]
    exact .inr ⟨rfl, rfl⟩

/-- No row comes by a purge. -/
theorem mem_rows_of_mem_purge (h : row ∈ (cache.purge now).2.rows) : row ∈ cache.rows := by
  rw [purge] at h
  rcases fitInt64_cases now with hnow | hnow
  · rw [hnow] at h
    exact (List.mem_filter.mp h).1
  · rw [hnow] at h
    exact h

/-- A row outlasts a purge while it holds. -/
theorem row?_purge (hrow : cache.row? url = some row) (hlt : now < row.expiresAt) :
    (cache.purge now).2.row? url = some row := by
  rw [purge]
  rcases fitInt64_cases now with hnow | hnow
  · rw [hnow]
    obtain ⟨hurl, before, after, hrows, hbefore⟩ := List.find?_eq_some_iff_append.mp hrow
    have hholds : (!row.isExpired now) = true := by
      rw [Row.isExpired_eq_false_iff.mpr hlt]
      rfl
    -- the rows before the first one under the URL stay before it
    refine List.find?_eq_some_iff_append.mpr ⟨hurl, before.filter (!·.isExpired now),
      after.filter (!·.isExpired now), ?_, ?_⟩
    · show cache.rows.filter _ = _
      rw [hrows, List.filter_append]
      exact congrArg _ (List.filter_cons_of_pos hholds)
    · intro earlier hmem
      exact hbefore earlier (List.mem_filter.mp hmem).1
  · rw [hnow]
    exact hrow

/-! ## One row under each URL -/

/-- No two rows have one URL. -/
def HasOneRowPerUrl (cache : Cache) : Prop := cache.rows.Pairwise fun a b => a.url ≠ b.url

/-- A new cache has no two rows at all. -/
theorem hasOneRowPerUrl_of_rows_eq_nil (h : cache.rows = []) : cache.HasOneRowPerUrl := by
  rw [HasOneRowPerUrl, h]
  exact List.Pairwise.nil

/-- Where each URL has one row, that is the one which is found. -/
theorem HasOneRowPerUrl.row?_eq_some_iff (h : cache.HasOneRowPerUrl) :
    cache.row? url = some row ↔ row ∈ cache.rows ∧ row.url = url := by
  constructor
  · intro hrow
    exact ⟨mem_of_row? hrow, url_of_row? hrow⟩
  · rintro ⟨hmem, rfl⟩
    obtain ⟨before, after, hsplit⟩ := List.append_of_mem hmem
    refine List.find?_eq_some_iff_append.mpr ⟨decide_eq_true rfl, before, after, hsplit, ?_⟩
    intro earlier hearlier
    rw [HasOneRowPerUrl, hsplit] at h
    have hne := (List.pairwise_append.mp h).2.2 earlier hearlier row List.mem_cons_self
    simpa using hne

/-- Erasing leaves one row per URL. -/
theorem HasOneRowPerUrl.erase (h : cache.HasOneRowPerUrl) (url : Text) :
    (cache.erase url).HasOneRowPerUrl := List.Pairwise.filter _ h

/-- A look-up in vain leaves one row per URL. -/
theorem HasOneRowPerUrl.missed (h : cache.HasOneRowPerUrl) (url : Text) :
    (cache.missed url).HasOneRowPerUrl := h.erase url

/-- Inserting takes the row away that has the same URL. -/
theorem HasOneRowPerUrl.insert (h : cache.HasOneRowPerUrl) (row : Row) :
    (cache.insert row).HasOneRowPerUrl := by
  refine List.pairwise_cons.mpr ⟨?_, h.erase row.url⟩
  intro older holder
  exact Ne.symm (mem_rows_erase.mp holder).2

/-- A look-up leaves one row per URL. -/
theorem HasOneRowPerUrl.get (h : cache.HasOneRowPerUrl) (now : Int) (url : Text) :
    (cache.get now url).2.HasOneRowPerUrl := by
  rcases get_cases cache now url with ⟨failure, -, hget⟩ | ⟨-, ⟨hget, -⟩ | ⟨row, -, -, hget⟩⟩
  · rw [hget]
    exact h
  · rw [hget]
    exact h.missed url
  · rw [hget]
    exact h

/-- A put leaves one row per URL. -/
theorem HasOneRowPerUrl.put (h : cache.HasOneRowPerUrl) (now : Int) (url : Text)
    (response : Response) : (cache.put now url response).2.HasOneRowPerUrl := by
  rcases put_cases cache now url response with ⟨row, -, hput⟩ | ⟨failure, -, hput⟩
  · rw [hput]
    exact h.insert row
  · rw [hput]
    exact h

/-- A purge leaves one row per URL. -/
theorem HasOneRowPerUrl.purge (h : cache.HasOneRowPerUrl) (now : Int) :
    (cache.purge now).2.HasOneRowPerUrl := by
  rcases purge_cases cache now with ⟨-, hpurge⟩ | ⟨-, hpurge⟩
  · rw [hpurge]
    exact List.Pairwise.filter _ h
  · rw [hpurge]
    exact h

/-- A new version leaves the rows. -/
theorem rows_setVersion (cache : Cache) (version : Int) :
    (cache.setVersion version).2.rows = cache.rows := by
  rw [setVersion]
  rcases fitInt64_cases version with hfits | hfits
  · rw [hfits]
  · rw [hfits]

/-- Whether the rows outlast the closing of the cache: they are kept in a
    file, under the layout in use. -/
def Persists (cache : Cache) : Prop := cache.store = .file ∧ cache.version = currentVersion

/-- Closing a cache that persists and opening it again leaves the rows. -/
theorem reopen_of_persists (h : cache.Persists) :
    cache.reopen = { cache with hits := 0, misses := 0 } := if_pos h

/-- Any other cache is a new one after that. -/
theorem reopen_of_not_persists (h : ¬ cache.Persists) : cache.reopen = create cache.store :=
  if_neg h

/-- Reopening leaves one row per URL. -/
theorem HasOneRowPerUrl.reopen (h : cache.HasOneRowPerUrl) : cache.reopen.HasOneRowPerUrl := by
  by_cases hpersists : cache.Persists
  · rw [reopen_of_persists hpersists]
    exact h
  · rw [reopen_of_not_persists hpersists]
    exact hasOneRowPerUrl_of_rows_eq_nil rfl

/-! ## The row under a URL after each operation -/

/-- A look-up takes away the row under its own URL if that has
    expired. -/
theorem row?_get_iff : (cache.get now other).2.row? url = some row ↔ cache.row? url = some row
    ∧ ¬ (other = url ∧ (cache.get now other).1.isOk = true ∧ row.expiresAt ≤ now) := by
  rcases get_cases cache now other with
    ⟨failure, -, hget⟩ | ⟨-, ⟨hget, hexpired⟩ | ⟨found, hfound, hlt, hget⟩⟩
  · rw [hget]
    exact ⟨fun hrow => ⟨hrow, fun h => (nomatch h.2.1)⟩, fun h => h.1⟩
  · rw [hget]
    by_cases hother : other = url
    · -- the row, if there is one, has expired and is gone
      subst hother
      have hnone : (cache.missed other).row? other = none := row?_erase_self cache other
      constructor
      · intro hrow
        rw [hnone] at hrow
        exact nomatch hrow
      · rintro ⟨hrow, hnot⟩
        exact absurd ⟨rfl, rfl, hexpired row hrow⟩ hnot
    · rw [row?_missed_of_ne (Ne.symm hother)]
      exact ⟨fun hrow => ⟨hrow, fun h => hother h.1⟩, fun h => h.1⟩
  · rw [hget]
    refine ⟨fun hrow => ⟨hrow, ?_⟩, fun h => h.1⟩
    rintro ⟨rfl, -, hle⟩
    rw [show cache.countHit.row? other = cache.row? other from rfl, hfound] at hrow
    obtain rfl := Option.some.inj hrow
    exact absurd hle (Int.not_le.mpr hlt)

/-- A put that succeeds leaves the row that keeps its answer under its
    URL. -/
theorem row?_put_iff {response : Response} :
    (cache.put now other response).2.row? url = some row ↔
      other = url ∧ rowOf now other response = .ok row
        ∨ cache.row? url = some row
          ∧ ¬ (other = url ∧ (cache.put now other response).1.isOk = true) := by
  rcases put_cases cache now other response with ⟨new, hnew, hput⟩ | ⟨failure, hnew, hput⟩
  · obtain rfl := url_of_rowOf hnew
    rw [hput, hnew]
    by_cases hother : new.url = url
    · subst hother
      rw [row?_insert_self]
      constructor
      · intro hrow
        exact .inl ⟨rfl, congrArg Except.ok (Option.some.inj hrow)⟩
      · rintro (⟨-, hrow⟩ | ⟨-, hnot⟩)
        · exact congrArg some (Except.ok.inj hrow)
        · exact absurd ⟨rfl, rfl⟩ hnot
    · rw [row?_insert_of_ne cache (Ne.symm hother)]
      constructor
      · intro hrow
        exact .inr ⟨hrow, fun h => hother h.1⟩
      · rintro (⟨hurl, -⟩ | ⟨hrow, -⟩)
        · exact absurd hurl hother
        · exact hrow
  · rw [hput, hnew]
    constructor
    · intro hrow
      exact .inr ⟨hrow, fun h => (nomatch h.2)⟩
    · rintro (⟨-, hrow⟩ | ⟨hrow, -⟩)
      · exact nomatch hrow
      · exact hrow

/-- A purge that succeeds takes away the rows that have expired. -/
theorem HasOneRowPerUrl.row?_purge_iff (h : cache.HasOneRowPerUrl) :
    (cache.purge now).2.row? url = some row ↔ cache.row? url = some row
      ∧ ¬ ((cache.purge now).1.isOk = true ∧ row.expiresAt ≤ now) := by
  rw [(h.purge now).row?_eq_some_iff, h.row?_eq_some_iff]
  rcases purge_cases cache now with ⟨hok, hpurge⟩ | ⟨hfails, hpurge⟩
  · rw [hpurge, hok, List.mem_filter]
    simp only [Row.isExpired, Bool.not_eq_true', decide_eq_false_iff_not, true_and]
    exact and_right_comm
  · rw [hpurge, hfails]
    exact ⟨fun hrow => ⟨hrow, fun h => (nomatch h.1)⟩, fun h => h.1⟩

/-- Reopening leaves the rows of a cache that persists, and no others. -/
theorem row?_reopen_iff :
    cache.reopen.row? url = some row ↔ cache.row? url = some row ∧ cache.Persists := by
  by_cases hpersists : cache.Persists
  · rw [reopen_of_persists hpersists]
    exact ⟨fun hrow => ⟨hrow, hpersists⟩, fun h => h.1⟩
  · rw [reopen_of_not_persists hpersists]
    exact ⟨fun hrow => (nomatch hrow), fun h => absurd h.2 hpersists⟩

end Cache

end Avatar
