import Avatar.Failure
import Avatar.Sha256
import Avatar.Text.Hex

/-! # Signatures

    The side that hands out avatar URLs signs the actor in each of them
    with a keyed digest under a shared secret.  A signature is that digest
    in hexadecimal; nothing else of a request is vouched for. -/

namespace Avatar

/-- Signs and checks actors under one key. -/
structure Signer where
  key : Bytes
deriving DecidableEq

namespace Signer

/-- The signer of a shared secret, which must not be empty. -/
def ofSecret (secret : Text) : Except Failure Signer :=
  if secret = [] then .error .emptySecret else secret.encode.map Signer.mk

/-- The digest of an actor. -/
def digest (signer : Signer) (actor : Text) : Except Failure Bytes :=
  actor.encode.map (Sha256.keyed signer.key)

/-- The signature of an actor. -/
def sign (signer : Signer) (actor : Text) : Except Failure Text :=
  (signer.digest actor).map Text.ofOctets

/-- Whether a signature is the one of an actor, in either letter case.
    A signature that is no hexadecimal is merely wrong; an actor that
    cannot be signed is a failure. -/
def verify (signer : Signer) (actor signature : Text) : Except Failure Bool :=
  (signer.digest actor).map fun expected => signature.octets? = some expected

/-- A signature of an actor is right or wrong exactly if the actor can be
    encoded. -/
theorem verify_eq_ok_iff {signer : Signer} {actor signature : Text} :
    (∃ valid, signer.verify actor signature = .ok valid)
      ↔ ∃ octets, actor.encode = .ok octets := by
  rw [verify, digest]
  cases actor.encode with
  | error failure => exact ⟨fun ⟨_, h⟩ => (nomatch h), fun ⟨_, h⟩ => (nomatch h)⟩
  | ok octets => exact ⟨fun _ => ⟨octets, rfl⟩, fun _ => ⟨_, rfl⟩⟩

/-- An actor that can be encoded has a signature. -/
theorem exists_sign (signer : Signer) {actor : Text} (h : ∃ octets, actor.encode = .ok octets) :
    ∃ signature, signer.sign actor = .ok signature := by
  obtain ⟨octets, hencode⟩ := h
  exact ⟨_, map_eq_ok_iff.mpr ⟨_, map_eq_ok_iff.mpr ⟨octets, hencode, rfl⟩, rfl⟩⟩

/-- It is the right one. -/
theorem verify_sign {signer : Signer} {actor signature : Text}
    (h : signer.sign actor = .ok signature) : signer.verify actor signature = .ok true := by
  obtain ⟨digest, hdigest, rfl⟩ := map_eq_ok_iff.mp h
  rw [verify, hdigest]
  exact congrArg Except.ok (decide_eq_true (Text.octets?_ofOctets digest))

end Signer

end Avatar
