import Avatar.Cache
import Avatar.Image
import Avatar.Instant
import Avatar.Locator
import Avatar.Placeholder
import Avatar.Service.Cors
import Avatar.Signer
import Avatar.Target

/-! # The avatar service

    A request names a signature and an actor.  The cache is asked first,
    under the whole URL; only what it does not hold is checked and made:
    the signature is verified, the avatar located, and its image fetched
    and kept.  An actor without an avatar gets a placeholder. -/

namespace Avatar

/-- What stays the same while a service runs. -/
structure Settings where
  /-- Where the identities of actors come from. -/
  directory : Directory
  /-- The Bluesky service that is asked for profiles. -/
  bluesky : Text
  /-- The front end that resizes images. -/
  frontEnd : Option Text

/-- A service and everything that its answers depend on. -/
structure Service where
  settings : Settings
  signer : Signer
  cache : Cache
  clock : Instant
  session : Session

namespace Service

/-- What the service says about itself. -/
def banner : Text :=
  "This is Tangled's avatar service. It fetches your pretty avatar from your PDS, Bluesky, or "
    ++ "generates a placeholder.\nYou can't use this directly unfortunately since all requests "
    ++ "are signed and may only originate from the appview."

/-- The placeholder of an actor as an answer. -/
def placeholder (actor : Text) (tiny : Bool) : Response :=
  .ofOctets "image/svg+xml" MaxAge.cacheControl
    (Placeholder.svg actor (if tiny then Placeholder.tinySize else Placeholder.size)).utf8

/-- The avatar of an actor, or its placeholder if none is found. -/
def picture (settings : Settings) (actor : Text) (tiny : Bool) : Web Response := do
  match ← Locator.locate settings.directory settings.bluesky actor with
  | none => return placeholder actor tiny
  | some url => Image.fetch settings.frontEnd (if tiny then some .tiny else none) url

/-- The answer when something goes wrong after the signature was
    verified: an image server's refusal is passed on with its status. -/
def failureResponse (actor : Text) : Failure → Except Failure Response
  | .imageNotFetched _ status =>
    Response.ofText status ("failed to fetch avatar for " ++ actor ++ ".")
  | failure => Response.ofText 500 ("error fetching avatar: " ++ failure.message)

/-- Makes the answer for an actor and keeps it under a URL. -/
def make (service : Service) (url actor : Text) (tiny : Bool) :
    Except Failure Response × Service :=
  match picture service.settings actor tiny service.session with
  | (.error failure, session) => (failureResponse actor failure, { service with session })
  | (.ok response, session) =>
    match service.cache.put service.clock.whole url response with
    | (.error failure, cache) => (failureResponse actor failure, { service with session, cache })
    | (.ok _, cache) => (.ok response, { service with session, cache })

/-- Answers a request for an avatar that the cache does not hold. -/
def check (service : Service) (url : Text) (target : Target) : Except Failure Response × Service :=
  match target.signedActor? with
  | none => (Response.ofText 400 "Bad URL", service)
  | some (signature, actor) =>
    match service.signer.verify actor signature with
    | .error failure => (.error failure, service)
    | .ok false => (Response.ofText 403 "Invalid signature", service)
    | .ok true => service.make url actor target.isTiny

/-- Answers a request for an avatar. -/
def avatar (service : Service) (host : Text) (target : Target) :
    Except Failure Response × Service :=
  match target.url host with
  | .error failure => (.error failure, service)
  | .ok url =>
    match service.cache.get service.clock.whole url with
    | (.error failure, cache) => (.error failure, { service with cache })
    | (.ok (some response), cache) => (.ok response, { service with cache })
    | (.ok none, cache) => { service with cache }.check url target

/-- The answer with the headers that keep a browser from running it. -/
def secure (response : Response) : Response :=
  (response.setDefault "x-content-type-options" "nosniff").setDefault
    "content-security-policy" "default-src 'none'; sandbox"

/-- The answer to a method that is not served. -/
def methodNotAllowed : Except Failure Response := do
  let response ← Response.ofText 405 "405: Method Not Allowed"
  return response.setDefault "allow" "GET,HEAD"

/-- The answer to a path that is not served. -/
def notFound : Except Failure Response := Response.ofText 404 "404: Not Found"

/-- The answer to a request that expects something that is not known. -/
def expectationFailed (expectation : Text) : Except Failure Response :=
  Response.ofText 417 ("Unknown Expect: " ++ expectation)

/-- What a request expects, unless it is only to be told to go on. -/
def unmetExpectation? (incoming : Incoming) : Option Text :=
  (incoming.header? "expect").filter fun e => !e.isEmpty && e.asciiLowercase ≠ "100-continue"

/-- Whether a method is served. -/
def isServed (method : Text) : Bool := method = "GET" || method = "HEAD"

/-- Answers a request that is no preflight by its method and path. -/
def route (service : Service) (incoming : Incoming) : Except Failure Response × Service :=
  let target := Target.ofText incoming.target
  if !target.isServable then (notFound, service)
  else if !isServed incoming.method then (methodNotAllowed, service)
  else if target.path = "/" then ((Response.ofText 200 banner).map secure, service)
  else
    match service.avatar incoming.host target with
    | (answer, service) => (answer.map secure, service)

/-- Answers a request. -/
def respond (service : Service) (incoming : Incoming) : Except Failure Response × Service :=
  match unmetExpectation? incoming with
  | some expectation => (expectationFailed expectation, service)
  | none =>
    if Cors.isPreflight incoming then (.ok (Cors.preflight incoming), service)
    else
      match service.route incoming with
      | (answer, service) => (answer.map (Cors.allow incoming), service)

end Service

end Avatar
