import Avatar.Actor
import Avatar.Text.Parts

/-! # Locators

    A locator turns an actor into the URL of an avatar.  The first looks
    for a profile record on the actor's own data server, the second asks
    Bluesky.  Neither fails: whatever goes wrong, nothing was found. -/

namespace Avatar.Locator

/-- The Bluesky service that is asked unless another one is set. -/
def standardBluesky : Text := "https://public.api.bsky.app"

/-- The content identifier that an avatar's blob refers to: as a
    reference, as a link in a reference, or being the blob itself. -/
def contentId? (blob : Json) : Option Text :=
  let found :=
    match blob with
    | .obj members =>
      match Json.lookup members "ref" with
      | some (.str id) => some id
      | some (.obj ref) => Json.lookupText ref "$link"
      | _ => none
    | .str id => some id
    | _ => none
  found.filter (!·.isEmpty)

/-- The URL of the profile record of a DID on its data server. -/
def profileUrl (pds did : Text) : Text :=
  pds ++ "/xrpc/com.atproto.repo.getRecord?repo=" ++ did
    ++ "&collection=sh.tangled.actor.profile&rkey=self"

/-- The URL of a blob of a DID on its data server. -/
def blobUrl (pds did contentId : Text) : Text :=
  pds ++ "/xrpc/com.atproto.sync.getBlob?did=" ++ did ++ "&cid=" ++ contentId

/-- The avatar in the document that holds a profile record. -/
def avatarOfRecord? : Json → Option Text
  | .obj members =>
    match Json.lookup members "value" with
    | some (.obj profile) => (Json.lookup profile "avatar").bind contentId?
    | _ => none
  | _ => none

/-- The avatar in the reply to a request for a profile record. -/
def avatarOfRecordReply? (reply : Reply) : Except Failure (Option Text) :=
  if reply.isSuccess then do
    return avatarOfRecord? (← Json.parseUtf8 (← reply.read))
  else return none

/-- The data server of an identity without a slash at its end, unless
    nothing is left. -/
def serverOf? (identity : Identity) : Option Text :=
  (identity.pds.map (Text.withoutEnding "/")).filter (!·.isEmpty)

/-- The URL of the avatar in the profile record of an identity. -/
def fromIdentity (identity : Identity) : Web (Option Text) :=
  match serverOf? identity with
  | none => return none
  | some pds => do
    let reply ← Web.reply (.ofUrl (profileUrl pds identity.did))
    let contentId ← Web.lift (avatarOfRecordReply? reply)
    return contentId.map (blobUrl pds identity.did)

/-- The URL of the avatar on the actor's own data server. -/
def fromDataServer (directory : Directory) (actor : Text) : Web (Option Text) :=
  Web.orNone do
    match ← directory.resolve actor with
    | none => return none
    | some identity => fromIdentity identity

/-- The URL of the Bluesky profile of an actor. -/
def blueskyUrl (bluesky actor : Text) : Text :=
  bluesky ++ "/xrpc/app.bsky.actor.getProfile?actor=" ++ actor

/-- The avatar in the reply to a request for a Bluesky profile. -/
def avatarOfBlueskyReply? (reply : Reply) : Except Failure (Option Text) :=
  if reply.isSuccess then do
    match ← Json.parseUtf8 (← reply.read) with
    | .obj members => return (Json.lookupText members "avatar").filter (!·.isEmpty)
    | _ => return none
  else return none

/-- The URL of the avatar in the Bluesky profile of an actor. -/
def fromBluesky (bluesky actor : Text) : Web (Option Text) :=
  Web.orNone do
    Web.lift (avatarOfBlueskyReply? (← Web.reply (.ofUrl (blueskyUrl bluesky actor))))

/-- The URL of an actor's avatar, the actor's own data server first. -/
def locate (directory : Directory) (bluesky actor : Text) : Web (Option Text) := do
  match ← fromDataServer directory actor with
  | some url => return some url
  | none => fromBluesky bluesky actor

end Avatar.Locator
