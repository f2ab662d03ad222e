import Avatar.Signer

/-! # Which signatures are right

    A signature is read as octets, two hexadecimal digits each, and is
    right if these are the digest of the actor.  Reading forgets the case
    of a letter and nothing else (`Text.octets?_eq_some_iff`), so that each
    actor has one right signature, up to letter case; a text of another
    length, or with any code point that is no hexadecimal digit, is wrong
    (`one_right_signature`). -/

namespace Avatar.Signer

variable {signer : Signer} {actor signature given : Text}

theorem length_sign (h : signer.sign actor = .ok signature) : signature.length = 64 := by
  obtain ⟨digest, hdigest, rfl⟩ := map_eq_ok_iff.mp h
  obtain ⟨octets, -, rfl⟩ := map_eq_ok_iff.mp hdigest
  rw [Text.length_ofOctets, Sha256.keyed, Sha256.length_hash]

theorem exists_of_mem_sign (h : signer.sign actor = .ok signature) {c : CodePoint}
    (hc : c ∈ signature) : ∃ value, value < 16 ∧ c = .hexDigit value := by
  obtain ⟨digest, -, rfl⟩ := map_eq_ok_iff.mp h
  exact Text.exists_of_mem_ofOctets hc

/-- The right signatures of an actor are the one that is made for it and
    those that differ from it in letter case. -/
theorem verify_of_sign (h : signer.sign actor = .ok signature) (given : Text) :
    signer.verify actor given = .ok (decide (given.asciiLowercase = signature)) := by
  obtain ⟨digest, hdigest, rfl⟩ := map_eq_ok_iff.mp h
  rw [verify, hdigest]
  exact congrArg Except.ok (decide_eq_decide.mpr Text.octets?_eq_some_iff)

/-- For an actor with another signature it is wrong. -/
theorem verify_ne_of_sign_ne {other : Text} (h : signer.sign actor = .ok signature)
    (hencode : ∃ octets, other.encode = .ok octets) (hother : signer.sign other ≠ .ok signature) :
    signer.verify other signature ≠ .ok true := by
  obtain ⟨own, hown⟩ := signer.exists_sign hencode
  obtain ⟨digest, -, rfl⟩ := map_eq_ok_iff.mp h
  obtain ⟨ownDigest, hdigest, rfl⟩ := map_eq_ok_iff.mp hown
  rw [verify, hdigest]
  intro hverify
  have hsame := of_decide_eq_true (Except.ok.inj hverify)
  rw [Text.octets?_ofOctets] at hsame
  exact hother (Option.some.inj hsame ▸ hown)

/-- A digit is written as an Arabic one or as one of the first six letters
    of the alphabet. -/
theorem isDigit_or_of_hexDigit {value : Nat} (h : value < 16) :
    (CodePoint.hexDigit value).isDigit = true
      ∨ (CodePoint.hexDigit value).isBetween 'a' 'f' = true := by
  have hdigits : ∀ digit : Fin 16, (CodePoint.hexDigit digit).isDigit = true
      ∨ (CodePoint.hexDigit digit).isBetween 'a' 'f' = true := by
    decide
  exact hdigits ⟨value, h⟩

/-- A text of another length is no signature in either letter case, nor is
    one with a code point that is no hexadecimal digit. -/
theorem asciiLowercase_ne_of_sign (h : signer.sign actor = .ok signature)
    (hgiven : given.length ≠ 64 ∨ ∃ c ∈ given, c.hexValue? = none) :
    given.asciiLowercase ≠ signature := by
  rintro rfl
  rcases hgiven with hlength | ⟨c, hc, hnone⟩
  · exact hlength ((List.length_map ..).symm.trans (length_sign h))
  · obtain ⟨value, hvalue, hdigit⟩ := exists_of_mem_sign h (List.mem_map_of_mem hc)
    rw [← CodePoint.hexValue?_asciiLowercase, hdigit, CodePoint.hexValue?_hexDigit hvalue] at hnone
    exact nomatch hnone

/-- Under a secret that is not empty, an actor has a signature of
    sixty-four lower-case hexadecimal digits.  Every text is judged for it,
    and the right ones are those that are this signature in lower case; so
    a text of another length or with anything but hexadecimal digits is
    wrong. -/
theorem one_right_signature {secret actor : Text} (hsecret : secret ≠ [])
    (hkey : ∃ octets, secret.encode = .ok octets) (hactor : ∃ octets, actor.encode = .ok octets) :
    ∃ signer signature, ofSecret secret = .ok signer ∧ signer.sign actor = .ok signature
      ∧ signature.length = 64
      ∧ (∀ c ∈ signature, c.isDigit = true ∨ c.isBetween 'a' 'f' = true)
      ∧ (∀ given : Text, ∃ valid, signer.verify actor given = .ok valid
          ∧ (valid = true ↔ given.asciiLowercase = signature))
      ∧ ∀ given : Text, given.length ≠ 64 ∨ (∃ c ∈ given, c.hexValue? = none) →
          signer.verify actor given = .ok false := by
  obtain ⟨key, hkey⟩ := hkey
  have hsigner : ofSecret secret = .ok ⟨key⟩ := by
    rw [ofSecret, if_neg hsecret, hkey]
    rfl
  obtain ⟨signature, hsign⟩ := exists_sign ⟨key⟩ hactor
  refine ⟨⟨key⟩, signature, hsigner, hsign, length_sign hsign, ?_, ?_, ?_⟩
  · intro c hc
    obtain ⟨value, hvalue, rfl⟩ := exists_of_mem_sign hsign hc
    exact isDigit_or_of_hexDigit hvalue
  · intro given
    exact ⟨_, verify_of_sign hsign given, decide_eq_true_iff⟩
  · intro given hgiven
    rw [verify_of_sign hsign, decide_eq_false (asciiLowercase_ne_of_sign hsign hgiven)]

/-- The signature of the actor `a` under the secret `s`, in capitals. -/
def capitals : Text := "9659450897188D054F9C20310342E042C55697737B2798B59F8F1CEF7DDA0674"

/-- It is right, and it is wrong with a blank behind it. -/
theorem capitals_one_right_signature :
    ("s" : Text) ≠ [] ∧ (∃ octets, Text.encode "s" = .ok octets)
      ∧ (∃ octets, Text.encode "a" = .ok octets)
      ∧ ∃ signer, ofSecret "s" = .ok signer ∧ signer.verify "a" capitals = .ok true
        ∧ signer.verify "a" (capitals ++ " ") = .ok false := by
  have hsecret : ("s" : Text) ≠ [] := List.cons_ne_nil _ _
  have hkey : ∃ octets, Text.encode "s" = .ok octets := ⟨_, rfl⟩
  have hactor : ∃ octets, Text.encode "a" = .ok octets := ⟨_, rfl⟩
  obtain ⟨signer, signature, hsigner, hsign, -, -, hjudged, hwrong⟩ :=
    one_right_signature hsecret hkey hactor
  have hmade : ((ofSecret "s").bind (·.sign "a")).toOption = some capitals.asciiLowercase := by
    decide +kernel
  rw [hsigner, Except.bind, hsign] at hmade
  have hsame : capitals.asciiLowercase = signature := (Option.some.inj hmade).symm
  obtain ⟨valid, hverify, hvalid⟩ := hjudged capitals
  rw [hvalid.mpr hsame] at hverify
  exact ⟨hsecret, hkey, hactor, signer, hsigner, hverify, hwrong _ (.inl (by decide))⟩

end Avatar.Signer
