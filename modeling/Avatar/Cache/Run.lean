import Avatar.Cache
import Avatar.Instant

/-! # Runs of the cache

    A run is a sequence of events at a cache whose clock may be set
    forwards and backwards.  Each event has an answer, which may be a
    failure. -/

namespace Avatar.Cache

/-- What happens to a cache. -/
inductive Event
  | get (url : Text)
  | put (url : Text) (response : Response)
  | purge
  | setClock (clock : Instant)
  | setVersion (version : Int)
  | reopen

/-- What an event brings about. -/
inductive Answer
  | found (response : Option Response)
  | purged (count : Nat)
  | changed

/-- A cache and the reading of its clock. -/
structure Timed where
  clock : Instant
  cache : Cache

namespace Timed

/-- The answer to an event, and the cache after it. -/
def step (timed : Timed) : Event → Except Failure Answer × Timed
  | .get url =>
    match timed.cache.get timed.clock.whole url with
    | (found, cache) => (found.map .found, { timed with cache })
  | .put url response =>
    match timed.cache.put timed.clock.whole url response with
    | (stored, cache) => (stored.map fun _ => .changed, { timed with cache })
  | .purge =>
    match timed.cache.purge timed.clock.whole with
    | (count, cache) => (count.map .purged, { timed with cache })
  | .setClock clock => (.ok .changed, { timed with clock })
  | .setVersion version =>
    match timed.cache.setVersion version with
    | (written, cache) => (written.map fun _ => .changed, { timed with cache })
  | .reopen => (.ok .changed, { timed with cache := timed.cache.reopen })

/-- The answers to some events, each with the cache after it. -/
def run (timed : Timed) : List Event → List (Except Failure Answer × Timed)
  | [] => []
  | event :: events =>
    match timed.step event with
    | (answer, after) => (answer, after) :: run after events

end Timed

end Avatar.Cache
