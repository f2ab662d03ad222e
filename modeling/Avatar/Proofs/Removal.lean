import Avatar.Proofs.Sweeps

/-! # Two ways to remove what has expired

    A purge tells expired rows by one comparison and a look-up by another,
    and neither knows of the other.  They agree about every row: a purge
    takes away exactly those that a look-up at the same time would not
    find, and whoever looks up everything that is stored, in whatever
    order, is left with the same rows (`purge_agrees_with_lookUps`). -/

namespace Avatar.Cache

variable {cache : Cache} {now : Int} {url : Text} {row : Row}

/-- The cache after some look-ups at one time. -/
def lookUps (cache : Cache) (now : Int) (urls : List Text) : Cache :=
  urls.foldl (fun cache url => (cache.get now url).2) cache

/-- Whether a look-up reports that nothing is kept under a URL. -/
def reportsMiss (cache : Cache) (now : Int) (url : Text) : Bool :=
  match (cache.get now url).1 with
  | .ok none => true
  | _ => false

/-- What the rows of every run have in common: there is one under each
    URL, and each URL can be encoded. -/
structure IsOrderly (cache : Cache) : Prop where
  oneRowPerUrl : cache.HasOneRowPerUrl
  encodable : ∀ row ∈ cache.rows, ∃ octets, row.url.encode = .ok octets

/-! ## What one look-up removes -/

/-- A look-up takes away the row under its URL if that has expired, and no
    other row. -/
theorem IsOrderly.rows_get (h : cache.IsOrderly) (now : Int) (url : Text) :
    (cache.get now url).2.rows
      = cache.rows.filter fun row => !(decide (row.url = url) && row.isExpired now) := by
  rcases get_cases cache now url with
    ⟨failure, hfails, hget⟩ | ⟨-, ⟨hget, hexpired⟩ | ⟨found, hfound, hlt, hget⟩⟩
  · -- no row is stored under such a URL
    rw [hget, eq_comm, List.filter_eq_self]
    intro row hrow
    obtain ⟨octets, hoctets⟩ := h.encodable row hrow
    have hne : row.url ≠ url := by
      rintro rfl
      rw [hfails] at hoctets
      exact nomatch hoctets
    simp [hne]
  · rw [hget]
    show cache.rows.filter (·.url ≠ url) = _
    refine List.filter_congr fun row hrow => ?_
    by_cases hurl : row.url = url
    · have hgone : row.isExpired now = true :=
        decide_eq_true (hexpired row (h.oneRowPerUrl.row?_eq_some_iff.mpr ⟨hrow, hurl⟩))
      simp [hurl, hgone]
    · simp [hurl]
  · rw [hget, eq_comm]
    show cache.rows.filter _ = cache.rows
    rw [List.filter_eq_self]
    intro row hrow
    by_cases hurl : row.url = url
    · -- it is the row that was found
      have hsame := h.oneRowPerUrl.row?_eq_some_iff.mpr ⟨hrow, hurl⟩
      rw [hfound] at hsame
      obtain rfl := Option.some.inj hsame
      simp [Row.isExpired_eq_false_iff.mpr hlt]
    · simp [hurl]

theorem IsOrderly.get (h : cache.IsOrderly) (now : Int) (url : Text) :
    (cache.get now url).2.IsOrderly where
  oneRowPerUrl := h.oneRowPerUrl.get now url
  encodable row hrow := by
    rw [h.rows_get] at hrow
    exact h.encodable row (List.mem_filter.mp hrow).1

/-- A row is found by its URL as long as it holds. -/
theorem IsOrderly.get_of_mem (h : cache.IsOrderly) (hrow : row ∈ cache.rows) (now : Int) :
    (cache.get now row.url).1 = .ok (if row.isExpired now then none else some row.response) := by
  have hstored : cache.row? row.url = some row := h.oneRowPerUrl.row?_eq_some_iff.mpr ⟨hrow, rfl⟩
  obtain ⟨octets, hoctets⟩ := h.encodable row hrow
  rw [Cache.get, hoctets, hstored]
  cases hexpired : row.isExpired now with
  | true => exact congrArg Prod.fst (if_pos hexpired)
  | false => exact congrArg Prod.fst (if_neg (Bool.eq_false_iff.mp hexpired))

theorem IsOrderly.reportsMiss_eq (h : cache.IsOrderly) (hrow : row ∈ cache.rows) (now : Int) :
    cache.reportsMiss now row.url = row.isExpired now := by
  rw [reportsMiss, h.get_of_mem hrow]
  cases row.isExpired now <;> rfl

/-! ## What look-ups remove together -/

/-- Look-ups take away the expired rows under their URLs, one by one.  The
    order does not matter, for what each takes away is said of the row
    alone. -/
theorem IsOrderly.rows_lookUps (h : cache.IsOrderly) (now : Int) (urls : List Text) :
    (cache.lookUps now urls).rows
      = cache.rows.filter fun row => !(urls.contains row.url && row.isExpired now) := by
  induction urls generalizing cache with
  | nil => exact (List.filter_eq_self.mpr fun row _ => rfl).symm
  | cons url urls ih =>
      show ((cache.get now url).2.lookUps now urls).rows = _
      rw [ih (h.get now url), h.rows_get, List.filter_filter]
      refine List.filter_congr fun row _ => ?_
      rw [List.contains_cons, beq_eq_decide, Bool.and_or_distrib_right, Bool.or_comm, Bool.not_or]

/-- No look-up changes where the rows are kept. -/
theorem file_lookUps (cache : Cache) (now : Int) (urls : List Text) :
    (cache.lookUps now urls).file = cache.file := by
  induction urls generalizing cache with
  | nil => rfl
  | cons url urls ih => exact (ih (cache.get now url).2).trans (file_get cache now url)

/-! ## Reachable caches -/

/-- The rows of a run are those of its puts, so that all are in order. -/
theorem Timed.isOrderly_after_start (store : Store) (clock : Instant) (events : List Event) :
    ((Timed.start store clock).after events).cache.IsOrderly where
  oneRowPerUrl := hasOneRowPerUrl_after_start store clock events
  encodable row hrow := by
    have hstored := (hasOneRowPerUrl_after_start store clock events).row?_eq_some_iff.mpr
      ⟨hrow, rfl⟩
    obtain ⟨before, response, later, hleft⟩ := (row?_after_iff store clock events).mp hstored
    obtain ⟨body, maxAge, hkeepable, -⟩ := rowOf_eq_ok_iff.mp hleft.stored
    exact hkeepable.url

/-- What a purge of a cache at some time comes to, in terms of the look-ups
    that could be made of the cache at that time. -/
structure PurgesLikeLookUps (cache : Cache) (now : Int) : Prop where
  /-- The purge succeeds, and tells how many rows a look-up would not
      find. -/
  count : (cache.purge now).1 = .ok (cache.rows.countP fun row => cache.reportsMiss now row.url)
  /-- It takes those rows away, and changes nothing else: neither another
      row nor a counter. -/
  rows : (cache.purge now).2
    = { cache with rows := cache.rows.filter fun row => !cache.reportsMiss now row.url }
  /-- Each row that is left would be found. -/
  found : ∀ row ∈ (cache.purge now).2.rows,
    (cache.get now row.url).1 = .ok (some row.response)
  /-- Looking everything up that is stored leaves the same rows in the same
      place, in whatever order that is done, and whether or not other URLs
      are looked up besides. -/
  lookUps : ∀ urls, (∀ row ∈ cache.rows, row.url ∈ urls) →
    (cache.lookUps now urls).rows = (cache.purge now).2.rows
      ∧ (cache.lookUps now urls).file = (cache.purge now).2.file

/-- Whatever happened to a cache, in memory or in a file, a purge at any
    time that can be written down agrees with the look-ups at that time. -/
theorem purge_agrees_with_lookUps (store : Store) (clock : Instant) (events : List Event)
    (now : Int) (hlow : -0x8000000000000000 ≤ now) (hhigh : now < 0x8000000000000000) :
    PurgesLikeLookUps ((Timed.start store clock).after events).cache now := by
  have h := Timed.isOrderly_after_start store clock events
  generalize ((Timed.start store clock).after events).cache = cache at h
  have hpurge : cache.purge now = (.ok (cache.rows.countP (·.isExpired now)),
      { cache with rows := cache.rows.filter (!·.isExpired now) }) := by
    rw [purge, fitInt64_eq_ok_iff.mpr ⟨⟨hlow, hhigh⟩, rfl⟩]
  constructor
  case count =>
    rw [hpurge]
    refine congrArg Except.ok (List.countP_congr fun row hrow => ?_)
    rw [h.reportsMiss_eq hrow]
  case rows =>
    rw [hpurge]
    refine congrArg (fun rows => { cache with rows }) (List.filter_congr fun row hrow => ?_)
    rw [h.reportsMiss_eq hrow]
  case found =>
    intro row hrow
    rw [hpurge] at hrow
    obtain ⟨hmem, hholds⟩ := List.mem_filter.mp hrow
    rw [h.get_of_mem hmem, if_neg (by simpa using hholds)]
  case lookUps =>
    intro urls hurls
    refine ⟨?_, (file_lookUps cache now urls).trans (file_purge cache now).symm⟩
    rw [h.rows_lookUps, hpurge]
    refine List.filter_congr fun row hrow => ?_
    rw [List.contains_iff_mem.mpr (hurls row hrow), Bool.true_and]

/-- Three answers, of which one expires at 1010, one holds on, and one has
    been replaced by an answer that expires later. -/
def keptRun : List Event := [
  .put "a" (.ofOctets "image/png" "max-age=10" [1]),
  .put "b" (.ofOctets "image/png" "max-age=11" [2]),
  .put "c" (.ofOctets "image/png" "max-age=5" [3]),
  .put "c" (.ofOctets "image/png" "max-age=60" [4])]

/-- At the second at which the first one expires it is the only one to go,
    by a purge and by look-ups in another order than that of the rows. -/
theorem keptRun_purge_agrees_with_lookUps :
    (-0x8000000000000000 : Int) ≤ 1010 ∧ (1010 : Int) < 0x8000000000000000
      ∧ PurgesLikeLookUps ((Timed.start .file ⟨1000⟩).after keptRun).cache 1010
      ∧ (((Timed.start .file ⟨1000⟩).after keptRun).cache.purge 1010).1 = .ok 1
      ∧ ((((Timed.start .file ⟨1000⟩).after keptRun).cache.lookUps 1010
          ["b", "a", "c"]).rows.map (·.url)) = ["c", "b"] := by
  have hagrees := purge_agrees_with_lookUps .file ⟨1000⟩ keptRun 1010 (by decide) (by decide)
  have hurls : ∀ row ∈ ((Timed.start .file ⟨1000⟩).after keptRun).cache.rows,
      row.url ∈ (["b", "a", "c"] : List Text) := by decide +kernel
  refine ⟨by decide, by decide, hagrees, by decide +kernel, ?_⟩
  rw [(hagrees.lookUps _ hurls).1]
  decide +kernel

end Avatar.Cache
