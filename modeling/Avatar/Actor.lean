import Avatar.Did
import Avatar.Did.Document
import Avatar.Handle
import Avatar.Text.Parts

/-! # Actors

    An actor is a DID or a handle.  Its identity is the DID, the server
    that holds the account's data, and a handle: the one that the DID
    document claims, unless the actor was given by a handle that the
    document does not claim back. -/

namespace Avatar

/-- Who an actor is. -/
structure Identity where
  did : Text
  handle : Option Text
  pds : Option Text
deriving DecidableEq

namespace Actor

/-- The handle of an identity whose claim does not hold. -/
def invalidHandle : Text := "handle.invalid"

/-- Whether an actor is given by a DID. -/
def isDid (actor : Text) : Bool := Text.startsWith "did:" actor

/-- The services that are asked when an actor is resolved. -/
structure Services where
  plc : Text
  dns : Text
deriving DecidableEq

/-- The services that are asked unless others are set. -/
def Services.standard : Services := ⟨Did.standardPlc, Handle.standardDns⟩

/-- The DID of an actor. -/
def did? (services : Services) (actor : Text) : Web (Option Text) :=
  if isDid actor then pure (some actor) else Handle.resolve services.dns actor

/-- The handle of the identity of an actor, given the one that the DID
    document claims. -/
def confirmedHandle (actor : Text) : Option Text → Text
  | none => invalidHandle
  | some claimed =>
    if isDid actor || claimed = actor.lowercase then claimed else invalidHandle

/-- The identity of an actor whose DID has this document. -/
def identityOf (actor did : Text) (document : Json) : Except Failure Identity := do
  let claimed ← Did.Document.handle? document
  let pds ← Did.Document.dataServer? document
  return ⟨did, some (confirmedHandle actor claimed), pds⟩

/-- The identity of an actor; whatever goes wrong is a failure. -/
def resolveOrFail (services : Services) (actor : Text) : Web (Option Identity) := do
  match ← did? services actor with
  | none => return none
  | some did =>
    let document ← Did.resolve services.plc did
    return some (← Web.lift (identityOf actor did document))

/-- The identity of an actor, or nothing if anything goes wrong. -/
def resolve (services : Services) (actor : Text) : Web (Option Identity) :=
  (resolveOrFail services actor).orNone

end Actor

/-- Where the identities of actors come from. -/
inductive Directory
  /-- Every actor is resolved over the network. -/
  | online (services : Actor.Services)
  /-- A fixed table; an entry may be a failure. -/
  | table (entries : List (Text × Except Failure Identity))

/-- Looks an actor up. -/
def Directory.resolve (directory : Directory) (actor : Text) : Web (Option Identity) :=
  match directory with
  | .online services => do
    Web.recordLookup actor
    Actor.resolve services actor
  | .table entries => do
    Web.recordLookup actor
    match entries.lookup actor with
    | none => return none
    | some entry => return some (← Web.lift entry)

end Avatar
