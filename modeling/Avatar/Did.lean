import Avatar.Json.Encoding
import Avatar.Network
import Avatar.Text.Parts

/-! # Decentralised identifiers

    A DID names its method after the first colon.  Two methods are known:
    a web host serves its own document, and a directory serves those of
    the PLC method.  A document is accepted if it is short enough and
    names the DID that it was fetched for. -/

namespace Avatar.Did

/-- The directory of the PLC method that is asked unless another one is
    set. -/
def standardPlc : Text := "https://plc.directory"

/-- The greatest number of code points in a DID. -/
def maxLength : Nat := 2048

/-- A document with this many octets or more is refused. -/
def documentLimit : Nat := 0x10000

/-- A code point of a web host. -/
def isHostPoint (c : CodePoint) : Bool := c.isLower || c.isDigit || c = '.' || c = '-'

/-- A code point of an identifier in the PLC directory. -/
def isPlcPoint (c : CodePoint) : Bool := c.isLower || c.isBetween '2' '7'

/-- Whether a text is `start` and then at least one code point of a
    class, but for a final line feed. -/
def isSpelled (start : Text) (isPoint : CodePoint → Bool) (s : Text) : Bool :=
  match Text.after? start (Text.withoutFinalNewline s) with
  | none => false
  | some rest => !rest.isEmpty && rest.all isPoint

/-- What follows the last colon. -/
def afterLastColon (s : Text) : Text := (s.reverse.takeWhile (· ≠ CodePoint.ofChar ':')).reverse

/-- The URL of the document of a DID of the web method. -/
def webDocumentUrl (did : Text) : Except Failure Text :=
  if isSpelled "did:web:" isHostPoint did then
    .ok ("https://" ++ afterLastColon did ++ "/.well-known/did.json")
  else .error .invalidDidWeb

/-- The URL of the document of a DID of the PLC method. -/
def plcDocumentUrl (plc did : Text) : Except Failure Text :=
  if isSpelled "did:plc:" isPlcPoint did then .ok (plc ++ "/" ++ did) else .error .invalidDidPlc

/-- The URL of the document of a DID. -/
def documentUrl (plc did : Text) : Except Failure Text :=
  if maxLength < did.length then .error .didTooLong
  else
    match did.splitOn ':' with
    | scheme :: method :: _ =>
      if scheme ≠ "did" then .error .notADid
      else if method = "web" then webDocumentUrl did
      else if method = "plc" then plcDocumentUrl plc did
      else .error (.unsupportedDidMethod method)
    | _ => .error .didWithoutMethod

/-- The document in a reply, if its body is below the limit. -/
def documentOf (limit : Nat) (reply : Reply) : Except Failure Json := do
  let body ← reply.bodyUnlessError
  if limit ≤ body.length then .error .bodyTooLarge else Json.parseBytes body

/-- Lets a document through that names the DID. -/
def checkDocument (did : Text) : Json → Except Failure Json
  | .obj members =>
    if Json.lookupText members "id" = some did then .ok (.obj members)
    else .error .didMismatch
  | other => .error (.missingMember other.kind "get")

/-- Fetches the document of a DID. -/
def resolve (plc did : Text) : Web Json := do
  let url ← Web.lift (documentUrl plc did)
  let reply ← Web.reply (.ofUrl url)
  Web.lift (documentOf documentLimit reply >>= checkDocument did)

end Avatar.Did
