import Avatar.Cache
import Avatar.Instant

/-! # The service as a process

    A process opens its endpoint, hands a socket over to the group that
    may talk to it, and from then on removes expired answers every hour.
    What it does is given as the list of its actions. -/

namespace Avatar

/-- How much a line of the log matters. -/
inductive LogLevel
  | debug
  | info
  | warning
deriving DecidableEq

/-- Where a service listens. -/
inductive Endpoint
  | tcp (host : Text) (port : Int)
  | socket (path : Text)
deriving DecidableEq

/-- What can be said of the group that a socket is handed over to. -/
inductive SocketGroup
  /-- There is no such group. -/
  | missing
  /-- The group is there, but this process may not hand over to it. -/
  | denied
  /-- The group is there and has this number. -/
  | known (id : Int)
deriving DecidableEq

namespace Daemon

/-- The name and version under which the service asks for documents. -/
def userAgent : Text := "atavatar/0.1.0"

/-- The form of the lines in which requests are logged. -/
def accessLogFormat : Text :=
  "%\x7bX-Forwarded-For\x7di %t (%Tf) \"%r\" %s %b \"%\x7bReferer\x7di\" \"%\x7bUser-Agent\x7di\""

/-- The group that may talk to a socket of the service. -/
def groupName : Text := "atavatar-sock"

/-- Owner and group may do everything with a socket, others nothing. -/
def socketMode : Nat := 0o770

/-- The seconds between two purges. -/
def purgeInterval : Nat := 60 * 60

/-- Something that the process does. -/
inductive Action
  | prepare (logFormat : Text) (frontEnd : Option Text) (bluesky : Text)
  | setUp
  | log (level : LogLevel) (message : Text)
  | listen (endpoint : Endpoint)
  | changeGroup (path : Text) (id : Int)
  | changeMode (path : Text) (mode : Nat)
  | sleep (seconds : Nat)
deriving DecidableEq

/-- The endpoint as it stands in the log. -/
def Endpoint.shown : Endpoint → Text
  | .tcp host port => "http://" ++ host ++ ":" ++ Text.ofInt port
  | .socket path => path

/-- Hands a socket over to its group; failing to is worth a warning. -/
def handOver (path : Text) : SocketGroup → Action
  | .missing =>
    .log .warning ("Failed to set socket group - group '" ++ groupName ++ "' not found.")
  | .denied =>
    .log .warning
      ("Failed to set socket group - are you a member of the '" ++ groupName ++ "' group?")
  | .known id => .changeGroup path id

/-- What is done for the owners of an endpoint; a socket without a name
    has none. -/
def ownership (group : SocketGroup) : Endpoint → List Action
  | .tcp _ _ => []
  | .socket [] => []
  | .socket path => [handOver path group, .changeMode path socketMode]

/-- What is done until the service answers requests. -/
def startUp (endpoint : Endpoint) (group : SocketGroup) (frontEnd : Option Text) (bluesky : Text) :
    List Action :=
  [.prepare accessLogFormat frontEnd bluesky, .setUp,
    .log .info ("listening on " ++ Endpoint.shown endpoint), .listen endpoint]
    ++ ownership group endpoint

/-- What the log says of a purge. -/
def purgeReport (count : Nat) (cache : Cache) : Text :=
  "purged " ++ Text.ofNat count ++ " expired cache entries (hits: " ++ Text.ofNat cache.hits
    ++ ", misses: " ++ Text.ofNat cache.misses ++ ")"

/-- Sleeps and purges `rounds` times and sleeps once more, together with
    the cache at the end. -/
def rounds (clock : Instant) (cache : Cache) : Nat → Except Failure (List Action × Cache)
  | 0 => .ok ([.sleep purgeInterval], cache)
  | n + 1 =>
    let clock := clock.after purgeInterval
    match cache.purge clock.whole with
    | (.error failure, _) => .error failure
    | (.ok count, cache) => do
      let (actions, cache') ← rounds clock cache n
      return (.sleep purgeInterval :: .log .info (purgeReport count cache) :: actions, cache')

/-- What the process does from its start to the sleep after `count`
    purges, together with the cache at that time. -/
def run (endpoint : Endpoint) (group : SocketGroup) (frontEnd : Option Text) (bluesky : Text)
    (clock : Instant) (cache : Cache) (count : Nat) : Except Failure (List Action × Cache) := do
  let (actions, cache) ← rounds clock cache count
  return (startUp endpoint group frontEnd bluesky ++ actions, cache)

end Daemon

end Avatar
