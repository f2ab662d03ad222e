import Avatar.Response

/-! # Requests from other origins

    Every origin may read the answers.  A preflight, which asks ahead
    whether a request would be allowed, is answered without looking at
    its target. -/

namespace Avatar

/-- A request to the service. -/
structure Incoming where
  method : Text
  target : Text
  host : Text
  headers : List (Text × Text)

/-- The value of a header, found without regard to letter case. -/
def Incoming.header? (name : Text) (incoming : Incoming) : Option Text :=
  (incoming.headers.find? fun h => h.1.asciiLowercase = name).map (·.2)

namespace Cors

/-- The origin that a request names, if it names one. -/
def origin? (incoming : Incoming) : Option Text :=
  (incoming.header? "origin").filter (!·.isEmpty)

/-- Whether a request uses the method that asks for options. -/
def isOptions (incoming : Incoming) : Bool := incoming.method = "OPTIONS"

/-- Whether a request asks ahead for another one. -/
def isPreflight (incoming : Incoming) : Bool :=
  isOptions incoming && (incoming.header? "access-control-request-method").isSome

/-- What an origin is told when it asks for options. -/
def optionHeaders : List (Text × Text) := [
  ("access-control-allow-headers",
    "accept, accept-encoding, authorization, content-type, dnt, origin, user-agent, "
      ++ "x-csrftoken, x-requested-with"),
  ("access-control-allow-methods", "GET"),
  ("access-control-max-age", "100000000")]

/-- The headers that are added to the answer to a request. -/
def headers (incoming : Incoming) : List (Text × Text) :=
  match origin? incoming with
  | none => []
  | some _ =>
    ("access-control-allow-origin", "*") :: if isOptions incoming then optionHeaders else []

/-- The answer with the headers for the origin of its request. -/
def allow (incoming : Incoming) (response : Response) : Response :=
  { response with headers := response.headers ++ headers incoming }

/-- The answer to a preflight: an empty text, or nothing at all if no
    origin is named. -/
def preflight (incoming : Incoming) : Response :=
  match origin? incoming with
  | none => ⟨200, [], .absent⟩
  | some _ => allow incoming ⟨200, [("content-type", Response.textType)], .octets []⟩

end Cors

end Avatar
