import Avatar.Json.Encoding
import Avatar.Network
import Avatar.Race
import Avatar.Text.Blank
import Avatar.Text.Lowercase
import Avatar.Text.Parts
import Avatar.Text.Pattern

/-! # Handles

    A handle is a domain name whose owner publishes a DID: as a TXT
    record, which is asked for over HTTPS, or as a file at a well-known
    path.  Both are asked at once and the first DID wins. -/

namespace Avatar.Handle

/-- The DNS service that is asked unless another one is set. -/
def standardDns : Text := "https://cloudflare-dns.com/dns-query"

/-- No more octets than these are read of a well-known file. -/
def wellKnownLimit : Nat := 0x1000

/-- A lower-case letter or a digit. -/
def isLabelEnd (c : CodePoint) : Bool := c.isLower || c.isDigit

/-- What may stand inside a label. -/
def isLabelPoint (c : CodePoint) : Bool := isLabelEnd c || c = '-'

/-- A label of a domain name: a code point of some class, and then at most
    sixty-one that may stand inside it and one that may end it. -/
def label (begins : CodePoint → Bool) : Pattern :=
  .seq (.point begins)
    (.optional (.seq (.atMost 61 (.point isLabelPoint)) (.point isLabelEnd)))

/-- Labels with a dot behind each of them, and a last one that begins with
    a letter. -/
def pattern : Pattern :=
  .seq .start (.seq (.atLeastOnce (.seq (label isLabelEnd) (.point (· = '.'))))
    (.seq (label CodePoint.isLower) .finish))

/-- Whether a text is a lower-case domain name. -/
def isValid (s : Text) : Bool := pattern.matchesAt s

/-- The request for the TXT records of a handle. -/
def dnsRequest (dns handle : Text) : Request :=
  ⟨dns ++ "?name=_atproto." ++ handle ++ "&type=TXT", [("Accept", "application/dns-json")]⟩

/-- The request for the well-known file of a handle. -/
def wellKnownRequest (handle : Text) : Request :=
  .ofUrl ("https://" ++ handle ++ "/.well-known/atproto-did")

/-- The number of TXT among the types of DNS records. -/
def txtType : Nat := 16

/-- The DID that a DNS answer holds, if it is a TXT record with one. -/
def recordDid? : Json → Except Failure (Option Text)
  | .obj members =>
    if (Json.lookup members "type").any (·.isNat txtType) then
      match (Json.lookup members "data").getD (.str []) with
      | .str data => .ok (Text.after? "did=" (data.trim (· = CodePoint.ofChar '"')))
      | other => .error (.missingMember other.kind "strip")
    else .ok none
  | other => .error (.missingMember other.kind "get")

/-- The DIDs that DNS answers hold. -/
def recordDids : List Json → Except Failure (List Text)
  | [] => .ok []
  | answer :: rest => do
    let did ← recordDid? answer
    let dids ← recordDids rest
    return did.toList ++ dids

/-- The one DID among some; several are a failure. -/
def onlyDid (handle : Text) : List Text → Except Failure (Option Text)
  | [] => .ok none
  | [did] => .ok (some did)
  | _ => .error (.severalDids handle)

/-- The DID that the TXT records of a handle hold. -/
def didOfDnsReply (handle : Text) (reply : Reply) : Except Failure (Option Text) := do
  let document ← Json.parseUtf8 (← reply.bodyUnlessError)
  onlyDid handle (← recordDids (← Json.elementsOf "Answer" document))

/-- The DID that a well-known file holds, white space around it left
    aside. -/
def didOfWellKnownReply (reply : Reply) : Except Failure (Option Text) :=
  if reply.isSuccess then
    reply.read.map fun body =>
      let did := (Utf8.decodeLossy (body.take wellKnownLimit)).trimBlanks
      if Text.startsWith "did:" did then some did else none
  else .ok none

/-- The DID of a handle by its TXT records. -/
def resolveDns (dns handle : Text) : Web (Option Text) := do
  Web.lift (didOfDnsReply handle (← Web.reply (dnsRequest dns handle)))

/-- The DID of a handle by its well-known file. -/
def resolveWellKnown (handle : Text) : Web (Option Text) := do
  Web.lift (didOfWellKnownReply (← Web.reply (wellKnownRequest handle)))

/-- What reading a reply makes of an arrival. -/
def attempt (read : Reply → Except Failure (Option Text)) (arrival : Arrival) : Attempt :=
  ⟨arrival.delay, arrival.outcome >>= read⟩

/-- The DID of a handle by whichever method has it first. -/
def resolve (dns handle : Text) : Web (Option Text) := do
  let handle := handle.lowercase
  if isValid handle then
    let records ← Web.send (dnsRequest dns handle)
    let file ← Web.send (wellKnownRequest handle)
    Web.lift (race [attempt (didOfDnsReply handle) records, attempt didOfWellKnownReply file])
  else throw .invalidHandle

end Avatar.Handle
