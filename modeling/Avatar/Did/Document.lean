import Avatar.Json
import Avatar.Text.Lowercase
import Avatar.Text.Parts

/-! # DID documents

    What the service reads from the document of a DID: the server that
    holds the account's data and the handle that the account claims. -/

namespace Avatar.Did.Document

/-- Whether a service with these members is a data server; the identifier
    has to be a text if there is one. -/
def isDataServer (members : List (Text × Json)) : Except Failure Bool :=
  match (Json.lookup members "id").getD (.str []) with
  | .str id =>
    .ok (Text.endsWith "#atproto_pds" id
      && Json.lookupText members "type" = some "AtprotoPersonalDataServer")
  | other => .error (.missingMember other.kind "endswith")

/-- The endpoint of the first data server among some services. -/
def firstDataServer? : List Json → Except Failure (Option Text)
  | [] => .ok none
  | .obj members :: rest =>
    match isDataServer members with
    | .error failure => .error failure
    | .ok true =>
      match Json.lookupText members "serviceEndpoint" with
      | some endpoint => .ok (some endpoint)
      | none => firstDataServer? rest
    | .ok false => firstDataServer? rest
  | _ :: rest => firstDataServer? rest

/-- The server that holds the account's data. -/
def dataServer? (document : Json) : Except Failure (Option Text) := do
  firstDataServer? (← Json.elementsOf "service" document)

/-- The handle that another name of the account consists of, in lower
    case. -/
def claimedHandle? (name : Json) : Option Text :=
  (name.text?.bind (Text.after? "at://")).map Text.lowercase

/-- The handle that the account claims first. -/
def handle? (document : Json) : Except Failure (Option Text) :=
  (Json.elementsOf "alsoKnownAs" document).map (·.findSome? claimedHandle?)

end Avatar.Did.Document
