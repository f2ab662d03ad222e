import Avatar.Failure

/-! # The network as the service sees it

    A route says what is answered under a URL and after how long.  Several
    routes of one URL answer one request after the other, and the last of
    them every further one.  A session holds the routes and keeps record
    of what was asked for; a computation over it may fail, and what it
    asked for before it failed stays on record. -/

namespace Avatar

/-- What can go wrong between the service and another one. -/
inductive NetworkFailure
  /-- The network did not carry a request or a body. -/
  | network (message : Text)
  /-- A connection was refused because of where it leads. -/
  | refused (message : Text)
deriving DecidableEq

/-- The failure that the service makes of it. -/
def NetworkFailure.failure : NetworkFailure → Failure
  | .network message => .network message
  | .refused message => .refused message

/-- A response as it arrives.  Its body may still fail to come; if it
    comes, it comes whole, so that one read up to a limit gives all of it
    that the limit allows.  Of a body that comes in pieces such a read may
    give less. -/
structure Reply where
  status : Nat
  headers : List (Text × Text)
  body : Except NetworkFailure Bytes

/-- What is answered under a URL, and after how many milliseconds. -/
structure Route where
  url : Text
  delay : Nat
  outcome : Except NetworkFailure Reply

/-- An outbound request: the URL, its query included, and the headers
    that are set for it. -/
structure Request where
  url : Text
  headers : List (Text × Text)
deriving DecidableEq

/-- The network and what was asked of it, in the order of asking. -/
structure Session where
  routes : List Route
  /-- The requests that were sent. -/
  sent : List Request
  /-- The actors that were looked up in a directory. -/
  lookups : List Text

/-- What came back for a request, and after how many milliseconds. -/
structure Arrival where
  delay : Nat
  outcome : Except Failure Reply

/-- A computation over the network that may fail. -/
abbrev Web := ExceptT Failure (StateM Session)

/-- Whether a status reports success. -/
def isSuccess (status : Nat) : Bool := 200 ≤ status && status < 300

namespace Reply

/-- Whether the reply reports success. -/
def isSuccess (reply : Reply) : Bool := Avatar.isSuccess reply.status

/-- Success is a status from 200 up to, but not, 300. -/
theorem isSuccess_iff (reply : Reply) :
    reply.isSuccess = true ↔ 200 ≤ reply.status ∧ reply.status < 300 := by
  simp only [isSuccess, Avatar.isSuccess, Bool.and_eq_true, decide_eq_true_eq]

/-- The value of a header, found without regard to letter case. -/
def header? (name : Text) (reply : Reply) : Option Text :=
  (reply.headers.find? fun h => h.1.asciiLowercase = name.asciiLowercase).map (·.2)

/-- Reads the body. -/
def read (reply : Reply) : Except Failure Bytes := reply.body.mapError NetworkFailure.failure

theorem read_eq_ok_iff {reply : Reply} {octets : Bytes} :
    reply.read = .ok octets ↔ reply.body = .ok octets := by
  show reply.body.mapError NetworkFailure.failure = .ok octets ↔ reply.body = .ok octets
  cases reply.body with
  | ok body =>
      constructor
      · intro h
        exact congrArg Except.ok (Except.ok.inj h)
      · intro h
        exact congrArg Except.ok (Except.ok.inj h)
  | error cause =>
      constructor
      · intro h
        exact nomatch h
      · intro h
        exact nomatch h

/-- The body of a reply that does not report an error. -/
def bodyUnlessError (reply : Reply) : Except Failure Bytes :=
  if 400 ≤ reply.status then .error (.badStatus reply.status) else reply.read

theorem bodyUnlessError_eq_ok_iff {reply : Reply} {octets : Bytes} :
    reply.bodyUnlessError = .ok octets ↔ reply.status < 400 ∧ reply.body = .ok octets := by
  rw [bodyUnlessError, ← read_eq_ok_iff]
  by_cases hstatus : 400 ≤ reply.status
  · rw [if_pos hstatus]
    have hnot : ¬ reply.status < 400 := Nat.not_lt.mpr hstatus
    simp [hnot]
  · rw [if_neg hstatus]
    have hlt : reply.status < 400 := Nat.not_le.mp hstatus
    simp [hlt]

end Reply

namespace Session

/-- A session over routes, nothing asked yet. -/
def start (routes : List Route) : Session := ⟨routes, [], []⟩

/-- The route that answers the next request for a URL. -/
def route? (session : Session) (url : Text) : Option Route :=
  let routes := session.routes.filter (·.url = url)
  let earlier := session.sent.countP (·.url = url)
  (routes.drop earlier).head?.or routes.getLast?

/-- What comes back for a request. -/
def arrival (session : Session) (request : Request) : Arrival :=
  match session.route? request.url with
  | some route => ⟨route.delay, route.outcome.mapError NetworkFailure.failure⟩
  | none => ⟨0, .error (.noRoute request.url)⟩

theorem arrival_start_singleton {route : Route} {request : Request} (h : route.url = request.url) :
    (start [route]).arrival request
      = ⟨route.delay, route.outcome.mapError NetworkFailure.failure⟩ := by
  have hroute : (start [route]).route? request.url = some route := by
    simp [route?, start, h]
  unfold arrival
  rw [hroute]

end Session

namespace Web

variable {α β : Type}

/-- A value or failure that needs no network. -/
def lift (x : Except Failure α) : Web α := fun session => (x, session)

/-- Sends a request and hands over what comes back, be it a failure. -/
def send (request : Request) : Web Arrival :=
  fun session => (.ok (session.arrival request), { session with sent := session.sent ++ [request] })

/-- A value leaves the session as it is. -/
theorem pure_apply (a : α) (session : Session) :
    (pure a : Web α) session = (.ok a, session) := rfl

/-- A failure leaves the session as it is. -/
theorem throw_apply (failure : Failure) (session : Session) :
    (throw failure : Web α) session = (.error failure, session) := rfl

/-- A computation goes on from the session that the one before it left. -/
theorem bind_apply_ok {x : Web α} {f : α → Web β} {session after : Session} {a : α}
    (h : x session = (.ok a, after)) : (x >>= f) session = f a after := by
  show (ExceptT.bind x f) session = f a after
  simp only [ExceptT.bind, ExceptT.mk, bind, StateT.bind]
  rw [h]
  rfl

/-- A failure ends the computation. -/
theorem bind_apply_error {x : Web α} {f : α → Web β} {session after : Session}
    {failure : Failure} (h : x session = (.error failure, after)) :
    (x >>= f) session = (.error failure, after) := by
  show (ExceptT.bind x f) session = _
  simp only [ExceptT.bind, ExceptT.mk, bind, StateT.bind]
  rw [h]
  rfl

/-- A computation that gives a value gave one in each of its steps. -/
theorem bind_apply_eq_ok_iff {x : Web α} {f : α → Web β} {session last : Session} {b : β} :
    (x >>= f) session = (.ok b, last)
      ↔ ∃ a middle, x session = (.ok a, middle) ∧ f a middle = (.ok b, last) := by
  rcases hx : x session with ⟨failure | a, middle⟩
  · rw [bind_apply_error hx]
    constructor
    · intro h
      exact nomatch (Prod.mk.inj h).1
    · rintro ⟨_, _, h, -⟩
      exact nomatch (Prod.mk.inj h).1
  · rw [bind_apply_ok hx]
    constructor
    · intro h
      exact ⟨a, middle, rfl, h⟩
    · rintro ⟨_, _, ⟨⟩, h⟩
      exact h

/-- Sends a request and waits for the reply. -/
def reply (request : Request) : Web Reply := do
  lift (← send request).outcome

/-- The reply is what arrives, and the request is on record either way. -/
theorem reply_apply (request : Request) (session : Session) :
    reply request session
      = ((session.arrival request).outcome, { session with sent := session.sent ++ [request] }) :=
  rfl

/-- Puts an actor on record as looked up in a directory. -/
def recordLookup (actor : Text) : Web Unit :=
  fun session => (.ok (), { session with lookups := session.lookups ++ [actor] })

/-- The value of a computation, or `none` if it fails. -/
def orNone (x : Web (Option α)) : Web (Option α) :=
  fun session =>
    match x session with
    | (.ok value, session') => (.ok value, session')
    | (.error _, session') => (.ok none, session')

/-- A computation whose failures count as `none` does not fail. -/
theorem orNone_apply (x : Web (Option α)) (session : Session) :
    ∃ value after, x.orNone session = (.ok value, after) := by
  unfold orNone
  rcases x session with ⟨_ | value, after⟩
  · exact ⟨none, after, rfl⟩
  · exact ⟨value, after, rfl⟩

end Web

/-- A request for a URL with no headers of its own. -/
def Request.ofUrl (url : Text) : Request := ⟨url, []⟩

end Avatar
