import Avatar.Service

/-! # Runs of the service

    A run is a sequence of events: requests, purges, and changes of what
    surrounds the service.  Each event has an outcome that also tells
    what was asked of the network and of the directory meanwhile.  An
    event that fails ends the run. -/

namespace Avatar.Service

/-- What happens to a service. -/
inductive Event
  | request (incoming : Incoming)
  | purge
  | setClock (clock : Instant)
  | setRoutes (routes : List Route)
  | setSecret (secret : Text)

/-- What an event brings about. -/
inductive Answer
  | response (response : Response)
  | purged (count : Nat)
  | changed

/-- What an event brought about, and what was asked meanwhile. -/
structure Outcome where
  answer : Except Failure Answer
  requests : List Request
  lookups : List Text

/-- The answer to an event, and the service after it. -/
def answer (service : Service) : Event → Except Failure Answer × Service
  | .request incoming =>
    match service.respond incoming with
    | (answer, service) => (answer.map .response, service)
  | .purge =>
    match service.cache.purge service.clock.whole with
    | (count, cache) => (count.map .purged, { service with cache })
  | .setClock clock => (.ok .changed, { service with clock })
  | .setRoutes routes => (.ok .changed, { service with session := .start routes })
  | .setSecret secret =>
    match Signer.ofSecret secret with
    | .error failure => (.error failure, service)
    | .ok signer => (.ok .changed, { service with signer })

/-- The outcome of an event, and the service after it. -/
def step (service : Service) (event : Event) : Outcome × Service :=
  match service.answer event with
  | (answer, after) =>
    (⟨answer, after.session.sent.drop service.session.sent.length,
      after.session.lookups.drop service.session.lookups.length⟩, after)

/-- Whether an event failed. -/
def Outcome.isFailure (outcome : Outcome) : Bool :=
  match outcome.answer with
  | .ok _ => false
  | .error _ => true

/-- The outcomes of some events, each with the service after it, up to the
    first event that fails. -/
def run (service : Service) : List Event → List (Outcome × Service)
  | [] => []
  | event :: events =>
    match service.step event with
    | (outcome, after) =>
      (outcome, after) :: if outcome.isFailure then [] else run after events

end Avatar.Service
