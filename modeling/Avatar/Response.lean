import Avatar.MediaType

/-! # Answers of the service

    An answer has a status, headers under lower-case names, and a body
    that is held as octets, is missing, or is produced while it is
    sent. -/

namespace Avatar

/-- The body of an answer. -/
inductive Body
  | absent
  | octets (bytes : Bytes)
  | streamed
deriving DecidableEq

/-- An answer of the service. -/
structure Response where
  status : Nat
  headers : List (Text × Text)
  body : Body
deriving DecidableEq

namespace Response

/-- The value of a header. -/
def header? (name : Text) (response : Response) : Option Text := response.headers.lookup name

/-- Sets a header that is not there yet. -/
def setDefault (name value : Text) (response : Response) : Response :=
  match response.header? name with
  | some _ => response
  | none => { response with headers := response.headers ++ [(name, value)] }

/-- The type of a text. -/
def textType : Text := "text/plain; charset=utf-8"

/-- A text as an answer; a text with surrogates cannot be sent. -/
def ofText (status : Nat) (text : Text) : Except Failure Response :=
  text.encode.map fun bytes => ⟨status, [("content-type", textType)], .octets bytes⟩

/-- A text that can be sent is sent with the status it is given. -/
theorem status_of_ofText {status : Nat} {text : Text} {response : Response}
    (h : ofText status text = .ok response) : response.status = status := by
  unfold ofText at h
  cases hencode : text.encode with
  | error failure =>
      rw [hencode] at h
      exact nomatch h
  | ok bytes =>
      rw [hencode] at h
      exact Except.ok.inj h ▸ rfl

/-- A text that can be encoded can be sent. -/
theorem ofText_of_encode (status : Nat) {text : Text} (h : ∃ octets, text.encode = .ok octets) :
    ofText status text = .ok ⟨status, [("content-type", textType)], .octets text.utf8⟩ := by
  have hnone := Text.surrogates?_eq_none_iff.mpr (Text.encode_iff.mp h)
  rw [ofText, Text.encode, hnone]
  rfl

/-- A text as an answer with a type of its own, in the encoding that the
    type names. -/
def ofTypedText (status : Nat) (contentType text : Text) : Except Failure Response := do
  let header := MediaType.textHeader contentType
  let bytes ← (← MediaType.encodingOf header).encode text
  return ⟨status, [("content-type", header)], .octets bytes⟩

/-- Octets as an answer of status 200 that may be kept. -/
def ofOctets (contentType cacheControl : Text) (bytes : Bytes) : Response :=
  ⟨200, [("content-type", contentType), ("cache-control", cacheControl)], .octets bytes⟩

/-- Octets are answered with the type they are given. -/
theorem contentType_ofOctets (contentType cacheControl : Text) (bytes : Bytes) :
    (ofOctets contentType cacheControl bytes).header? "content-type" = some contentType :=
  List.lookup_cons_self

/-- Octets are answered with the Cache-Control value they are given. -/
theorem cacheControl_ofOctets (contentType cacheControl : Text) (bytes : Bytes) :
    (ofOctets contentType cacheControl bytes).header? "cache-control" = some cacheControl := by
  have hne : (Text.ofString "cache-control" == Text.ofString "content-type") = false := by decide
  unfold ofOctets header?
  rw [List.lookup_cons, hne]
  exact List.lookup_cons_self

/-- A header that is there stays when further ones are added. -/
theorem header?_append {name value : Text} {response : Response}
    (h : response.header? name = some value) (headers : List (Text × Text)) :
    { response with headers := response.headers ++ headers }.header? name = some value := by
  unfold header? at h ⊢
  rw [List.lookup_append, h]
  rfl

/-- A header that is there stays when another one is set by default. -/
theorem header?_setDefault {name value : Text} {response : Response}
    (h : response.header? name = some value) (other default : Text) :
    (response.setDefault other default).header? name = some value := by
  unfold setDefault
  split
  · exact h
  · exact header?_append h _

/-- Setting a header changes neither the status nor the body. -/
theorem setDefault_status (response : Response) (name value : Text) :
    (response.setDefault name value).status = response.status := by
  unfold setDefault
  split <;> rfl

/-- Setting a header changes neither the status nor the body. -/
theorem setDefault_body (response : Response) (name value : Text) :
    (response.setDefault name value).body = response.body := by
  unfold setDefault
  split <;> rfl

end Response

end Avatar
