import Avatar.MaxAge
import Avatar.Response

/-! # The cache of answers

    Finished answers are kept under the whole URL of their request, at
    most one under each, until they expire.  A look-up that meets an
    expired answer removes it; purging removes all of them.  The cache
    counts the look-ups that found an answer and those that did not.  It
    lives in memory or in a file, and a file that was written under
    another version of the layout is emptied when it is opened. -/

namespace Avatar

/-- An answer that is kept, and the seconds between which it holds. -/
structure Row where
  url : Text
  contentType : Text
  cacheControl : Text
  body : Bytes
  createdAt : Int
  expiresAt : Int
deriving DecidableEq

/-- Where a cache keeps its rows. -/
inductive Store
  | memory
  | file
deriving DecidableEq

/-- The rows of a cache, the version of their layout, and the counts of
    look-ups since it was opened. -/
structure Cache where
  store : Store
  version : Int
  rows : List Row
  hits : Nat
  misses : Nat
deriving DecidableEq

/-- The answer that a row keeps. -/
def Row.response (row : Row) : Response := .ofOctets row.contentType row.cacheControl row.body

/-- Whether a row holds no longer. -/
def Row.isExpired (now : Int) (row : Row) : Bool := row.expiresAt ≤ now

/-- Lets an integer through that fits in sixty-four bits. -/
def fitInt64 (n : Int) : Except Failure Int :=
  if -0x8000000000000000 ≤ n ∧ n < 0x8000000000000000 then .ok n else .error .timeOutOfRange

namespace Cache

/-- The version of the layout in use. -/
def currentVersion : Int := 1

/-- A new cache. -/
def create (store : Store) : Cache := ⟨store, currentVersion, [], 0, 0⟩

/-- The row under a URL. -/
def row? (cache : Cache) (url : Text) : Option Row := cache.rows.find? (·.url = url)

/-- The cache without the row under a URL. -/
def erase (cache : Cache) (url : Text) : Cache :=
  { cache with rows := cache.rows.filter (·.url ≠ url) }

/-- The cache with a row in the place of the one under its URL. -/
def insert (cache : Cache) (row : Row) : Cache :=
  { cache with rows := row :: (cache.erase row.url).rows }

/-- No row is left under a URL that was erased. -/
theorem row?_erase_self (cache : Cache) (url : Text) : (cache.erase url).row? url = none := by
  unfold row? erase
  rw [List.find?_eq_none]
  intro row hrow
  have h := (List.mem_filter.mp hrow).2
  simpa using h

/-- The rows under other URLs stay. -/
theorem row?_erase_of_ne (cache : Cache) {url other : Text} (h : other ≠ url) :
    (cache.erase url).row? other = cache.row? other := by
  unfold row? erase
  rw [List.find?_filter]
  congr 1
  funext row
  by_cases hrow : row.url = other
  · simp [hrow, h]
  · simp [hrow]

/-- The row that was inserted is found. -/
theorem row?_insert_self (cache : Cache) (row : Row) :
    (cache.insert row).row? row.url = some row := by
  unfold row? insert
  exact List.find?_cons_of_pos (by simp)

/-- The rows under other URLs stay. -/
theorem row?_insert_of_ne (cache : Cache) {row : Row} {url : Text} (h : url ≠ row.url) :
    (cache.insert row).row? url = cache.row? url := by
  rw [← row?_erase_of_ne cache h]
  exact List.find?_cons_of_neg (by simpa using Ne.symm h)

/-- Counts a look-up that found an answer. -/
def countHit (cache : Cache) : Cache := { cache with hits := cache.hits + 1 }

/-- Counts a look-up that found none. -/
def countMiss (cache : Cache) : Cache := { cache with misses := cache.misses + 1 }

/-- Looks an answer up.  A URL with surrogates cannot be looked up and is
    not counted. -/
def get (cache : Cache) (now : Int) (url : Text) : Except Failure (Option Response) × Cache :=
  match url.encode with
  | .error failure => (.error failure, cache)
  | .ok _ =>
    match cache.row? url with
    | none => (.ok none, cache.countMiss)
    | some row =>
      if row.isExpired now then (.ok none, (cache.erase url).countMiss)
      else (.ok (some row.response), cache.countHit)

/-- The row that keeps an answer from now on, if it may be kept: its
    status is 200, its body is held as octets, and everything that is
    written down can be. -/
def rowOf (now : Int) (url : Text) (response : Response) : Except Failure Row := do
  if response.status ≠ 200 then throw .uncacheableStatus
  match response.body with
  | .octets body =>
    let contentType := (response.header? "content-type").getD MediaType.octets
    let cacheControl := (response.header? "cache-control").getD MaxAge.cacheControl
    let maxAge ← MaxAge.ofCacheControl cacheControl
    let _ ← url.encode
    let _ ← contentType.encode
    let _ ← cacheControl.encode
    return ⟨url, contentType, cacheControl, body, ← fitInt64 now, ← fitInt64 (now + maxAge)⟩
  | _ => throw .bodyNotInMemory

/-- Keeps an answer under a URL.  If that fails the cache is as before. -/
def put (cache : Cache) (now : Int) (url : Text) (response : Response) :
    Except Failure Unit × Cache :=
  match rowOf now url response with
  | .error failure => (.error failure, cache)
  | .ok row => (.ok (), cache.insert row)

/-- Removes every expired row and tells how many there were. -/
def purge (cache : Cache) (now : Int) : Except Failure Nat × Cache :=
  match fitInt64 now with
  | .error failure => (.error failure, cache)
  | .ok now =>
    (.ok (cache.rows.countP (·.isExpired now)),
      { cache with rows := cache.rows.filter (!·.isExpired now) })

/-- Writes down that the rows have the layout of some version. -/
def setVersion (cache : Cache) (version : Int) : Except Failure Unit × Cache :=
  match fitInt64 version with
  | .error failure => (.error failure, cache)
  | .ok version => (.ok (), { cache with version })

/-- Closes the cache and opens it again. -/
def reopen (cache : Cache) : Cache :=
  if cache.store = .file ∧ cache.version = currentVersion then
    { cache with hits := 0, misses := 0 }
  else create cache.store

/-- The rows in the order of their URLs. -/
def listing (cache : Cache) : List Row := cache.rows.mergeSort fun a b => Text.le a.url b.url

end Cache

end Avatar
