import Avatar.Text.Digit
import Avatar.Text.Quoted
import Avatar.Text.Utf8

/-! # Failures

    Everything that can go wrong, by its cause.  `Failure.message` is the
    one place where the wording of a cause is chosen. -/

namespace Avatar

/-- Why an operation gave no value. -/
inductive Failure
  /-- The secret shared with the signing side is empty. -/
  | emptySecret
  /-- A text with surrogates has no UTF-8 form. -/
  | unencodable (run : SurrogateRun)
  /-- Octets are not in the encoding that they should be in. -/
  | undecodable
  /-- A text is no JSON document. -/
  | malformedJson
  /-- Too many brackets of a JSON document are open at once. -/
  | nestedTooDeeply
  /-- An integer has more digits than may be read. -/
  | integerTooLong (digits : Nat)
  /-- A member was asked of a value of a kind that lacks it. -/
  | missingMember (kind name : Text)
  /-- The elements were asked of a value of a kind that has none. -/
  | notASequence (kind : Text)
  /-- A DID is too long. -/
  | didTooLong
  /-- A DID has no colon. -/
  | didWithoutMethod
  /-- A text that should be a DID does not start like one. -/
  | notADid
  /-- No resolution is known for a DID method. -/
  | unsupportedDidMethod (method : Text)
  /-- A DID of the web method has a wrong form. -/
  | invalidDidWeb
  /-- A DID of the PLC method has a wrong form. -/
  | invalidDidPlc
  /-- A DID document belongs to another DID. -/
  | didMismatch
  /-- A handle has a wrong form. -/
  | invalidHandle
  /-- Several TXT records of a handle hold a DID. -/
  | severalDids (handle : Text)
  /-- A body reached the size limit. -/
  | bodyTooLarge
  /-- Every method was asked and there was none. -/
  | noAttempts
  /-- Nothing answers under a URL. -/
  | noRoute (url : Text)
  /-- The network did not carry a request or a body. -/
  | network (message : Text)
  /-- A connection was refused because of where it leads. -/
  | refused (message : Text)
  /-- The answer to a request reports an error. -/
  | badStatus (status : Nat)
  /-- The answer to an image request is no image. -/
  | imageNotFetched (url : Text) (status : Nat)
  /-- A text is no address. -/
  | notAnAddress (text : Text)
  /-- An address is not public. -/
  | nonPublicAddress (text : Text)
  /-- Only answers with status 200 are cached. -/
  | uncacheableStatus
  /-- Only bodies that are held as octets are cached. -/
  | bodyNotInMemory
  /-- A time does not fit in sixty-four bits. -/
  | timeOutOfRange
  /-- The name of a directory is too long. -/
  | nameTooLong
  /-- The name of a directory holds a null octet. -/
  | nullInName
  /-- The path of a cache holds a null octet. -/
  | nullInPath
  /-- No cache can be kept under a path. -/
  | cacheNotOpened
  /-- The port of a host is no number. -/
  | invalidPort
  /-- The port of a host is too large or negative. -/
  | portOutOfRange
  /-- A character encoding is not known. -/
  | unknownEncoding (name : Text)
  /-- No character encoding is named. -/
  | encodingNotNamed
  /-- A text has characters that an encoding lacks. -/
  | notInEncoding
deriving DecidableEq

/-- Where the surrogates of a text stand, in words. -/
def SurrogateRun.message (run : SurrogateRun) : Text :=
  if run.length = 1 then
    "'utf-8' codec can't encode character '\\u" ++ Text.hexDigits 4 run.first.val
      ++ "' in position " ++ Text.ofNat run.position ++ ": surrogates not allowed"
  else
    "'utf-8' codec can't encode characters in position " ++ Text.ofNat run.position
      ++ "-" ++ Text.ofNat (run.position + run.length - 1) ++ ": surrogates not allowed"

/-- The wording of a cause. -/
def Failure.message : Failure → Text
  | .emptySecret => "shared secret must not be empty"
  | .unencodable run => run.message
  | .undecodable => "octets are not in the expected encoding"
  | .malformedJson => "text is not a JSON document"
  | .nestedTooDeeply => "document is nested too deeply"
  | .integerTooLong digits =>
    "Exceeds the limit (" ++ Text.ofNat maxIntegerDigits
      ++ " digits) for integer string conversion: value has " ++ Text.ofNat digits
      ++ " digits; use sys.set_int_max_str_digits() to increase the limit"
  | .missingMember kind name => "'" ++ kind ++ "' object has no attribute '" ++ name ++ "'"
  | .notASequence kind => "'" ++ kind ++ "' object is not iterable"
  | .didTooLong => "DID too long for atproto"
  | .didWithoutMethod => "not enough values to unpack (expected at least 2, got 1)"
  | .notADid => "not a valid DID"
  | .unsupportedDidMethod method => "Unsupported DID method: " ++ method
  | .invalidDidWeb => "Invalid did:web"
  | .invalidDidPlc => "Invalid did:plc"
  | .didMismatch => "DID document id does not match the requested DID"
  | .invalidHandle => "Invalid handle"
  | .severalDids handle => "multiple DIDs in _atproto TXT records for " ++ handle
  | .bodyTooLarge => "response too large"
  | .noAttempts => "list index out of range"
  | .noRoute url => "no route to " ++ url
  | .network message => message
  | .refused message => message
  | .badStatus status => "request answered with status " ++ Text.ofNat status
  | .imageNotFetched url status =>
    "fetching " ++ url ++ " failed with status " ++ Text.ofNat status
  | .notAnAddress text => text.quoted ++ " does not appear to be an IPv4 or IPv6 address"
  | .nonPublicAddress text => "Attempted SSRF to non-public IP: " ++ text
  | .uncacheableStatus => "refusing to cache a non-200 response"
  | .bodyNotInMemory => "can only cache responses with an in-memory body"
  | .timeOutOfRange => "int too big to convert"
  | .nameTooLong => "File name too long"
  | .nullInName => "embedded null byte"
  | .nullInPath => "String has embedded null bytes"
  | .cacheNotOpened => "unable to open database file"
  | .invalidPort => "Invalid URL: port can't be converted to integer"
  | .portOutOfRange => "Port out of range 0-65535"
  | .unknownEncoding name => "unknown encoding: " ++ name
  | .encodingNotNamed => "no encoding is named"
  | .notInEncoding => "text has characters that the encoding lacks"

/-- The octets of a text; a text with surrogates has none. -/
def Text.encode (s : Text) : Except Failure Bytes :=
  match s.surrogates? with
  | some run => .error (.unencodable run)
  | none => .ok s.utf8

/-- A text can be encoded if none of its code points is a surrogate. -/
theorem Text.encode_iff {s : Text} :
    (∃ octets, s.encode = .ok octets) ↔ ∀ c ∈ s, c.isSurrogate = false := by
  rw [← Text.surrogates?_eq_none_iff, Text.encode]
  cases s.surrogates? with
  | none => exact ⟨fun _ => rfl, fun _ => ⟨_, rfl⟩⟩
  | some run => exact ⟨fun ⟨_, h⟩ => (nomatch h), fun h => (nomatch h)⟩

/-- Such a text is encoded as the octets of its code points. -/
theorem Text.encode_eq_ok_iff {s : Text} {octets : Bytes} :
    s.encode = .ok octets ↔ (∀ c ∈ s, c.isSurrogate = false) ∧ octets = s.utf8 := by
  rw [← Text.surrogates?_eq_none_iff, Text.encode]
  cases s.surrogates? with
  | none => exact ⟨fun h => ⟨rfl, (Except.ok.inj h).symm⟩, fun ⟨_, h⟩ => congrArg Except.ok h.symm⟩
  | some run => exact ⟨fun h => (nomatch h), fun ⟨h, _⟩ => (nomatch h)⟩

/-- Texts that can be encoded can be put together. -/
theorem Text.encode_append_iff {s t : Text} :
    (∃ octets, Text.encode (s ++ t) = .ok octets)
      ↔ (∃ octets, s.encode = .ok octets) ∧ ∃ octets, t.encode = .ok octets := by
  simp only [Text.encode_iff, List.forall_mem_append]

/-- The code points of characters can be encoded. -/
theorem Text.encode_map_ofChar (chars : List Char) :
    ∃ octets, Text.encode (chars.map CodePoint.ofChar) = .ok octets :=
  Text.encode_iff.mpr fun _ hc => Text.isSurrogate_of_mem_map_ofChar hc

theorem Text.encode_ofString (s : String) : ∃ octets, (Text.ofString s).encode = .ok octets :=
  Text.encode_map_ofChar s.toList

theorem Text.encode_ofNat (n : Nat) : ∃ octets, (Text.ofNat n).encode = .ok octets :=
  Text.encode_map_ofChar (Nat.toDigits 10 n)

theorem Text.encode_ofInt : ∀ n : Int, ∃ octets, (Text.ofInt n).encode = .ok octets
  | .ofNat n => Text.encode_ofNat n
  | .negSucc n => Text.encode_append_iff.mpr ⟨Text.encode_ofString "-", Text.encode_ofNat (n + 1)⟩

/-- What is said about surrogates can itself be encoded. -/
theorem SurrogateRun.encode_message (run : SurrogateRun) :
    ∃ octets, run.message.encode = .ok octets := by
  have hdigits : ∃ octets, Text.encode (Text.hexDigits 4 run.first.val) = .ok octets :=
    Text.encode_iff.mpr fun _ hc => Text.isSurrogate_of_mem_hexDigits hc
  unfold message
  split
  · simp only [Text.encode_append_iff, hdigits, Text.encode_ofString, Text.encode_ofNat, and_self]
  · simp only [Text.encode_append_iff, Text.encode_ofString, Text.encode_ofNat, and_self]

/-- Steps that may fail give a value if each of them does. -/
theorem bind_eq_ok_iff {α β : Type} {x : Except Failure α} {f : α → Except Failure β} {b : β} :
    (x >>= f) = .ok b ↔ ∃ a, x = .ok a ∧ f a = .ok b := by
  cases x with
  | error failure => exact ⟨fun h => (nomatch h), fun ⟨_, h, _⟩ => (nomatch h)⟩
  | ok a =>
      constructor
      · intro h
        exact ⟨a, rfl, h⟩
      · rintro ⟨_, ⟨⟩, h⟩
        exact h

theorem map_eq_ok_iff {α β : Type} {x : Except Failure α} {f : α → β} {b : β} :
    x.map f = .ok b ↔ ∃ a, x = .ok a ∧ f a = b := by
  cases x <;> simp [Except.map]

end Avatar
