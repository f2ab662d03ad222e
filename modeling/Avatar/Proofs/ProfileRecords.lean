import Avatar.Proofs.Sources

/-! # Avatars in profile records

    The locator of the data server needs an identity with a server, one
    reply to one request, and an avatar in the record that the reply holds
    (`HoldsAvatar`).  If all of this is there, it gives the URL of the
    avatar's blob; if any of it is not, whatever the reason, it gives
    nothing and does not fail (`server_avatar_found_iff`).  It asks for the
    record exactly if there is a server to ask. -/

namespace Avatar.Locator

variable {directory : Directory} {actor pds id : Text} {identity : Identity} {document : Json}
  {session : Session}

/-! ## The avatar in a record -/

/-- A blob refers to some content: being its identifier, by a reference
    that is the identifier, or by a link in a reference. -/
inductive RefersTo : Json → Text → Prop
  | text {id : Text} : id ≠ [] → RefersTo (.str id) id
  | reference {members : List (Text × Json)} {id : Text} :
      Json.lookup members "ref" = some (.str id) → id ≠ [] → RefersTo (.obj members) id
  | link {members ref : List (Text × Json)} {id : Text} :
      Json.lookup members "ref" = some (.obj ref) → Json.lookup ref "$link" = some (.str id) →
        id ≠ [] → RefersTo (.obj members) id

/-- A document holds a record with an avatar that refers to some content. -/
def HoldsAvatar (document : Json) (id : Text) : Prop :=
  ∃ members profile blob, document = .obj members
    ∧ Json.lookup members "value" = some (.obj profile)
    ∧ Json.lookup profile "avatar" = some blob ∧ RefersTo blob id

theorem contentId?_eq_some_iff {blob : Json} : contentId? blob = some id ↔ RefersTo blob id := by
  unfold contentId?
  dsimp only
  rw [Option.filter_eq_some_iff]
  have hnonempty : (!id.isEmpty) = true ↔ id ≠ [] := by simp
  rw [hnonempty]
  cases blob with
  | str s =>
      constructor
      · rintro ⟨⟨⟩, hid⟩
        exact .text hid
      · rintro ⟨hid⟩
        exact ⟨rfl, hid⟩
  | obj members =>
      constructor
      · rintro ⟨hfound, hid⟩
        dsimp only at hfound
        split at hfound
        · rename_i s href
          obtain rfl := Option.some.inj hfound
          exact .reference href hid
        · rename_i ref href
          exact .link href (Json.lookupText_eq_some_iff.mp hfound) hid
        · exact nomatch hfound
      · rintro (_ | ⟨href, hid⟩ | ⟨href, hlink, hid⟩)
        · exact ⟨by simp [href], hid⟩
        · exact ⟨by simp [href, Json.lookupText_eq_some_iff.mpr hlink], hid⟩
  | _ =>
      constructor
      · rintro ⟨hfound, -⟩
        exact nomatch hfound
      · intro h
        exact nomatch h

theorem avatarOfRecord?_eq_some_iff :
    avatarOfRecord? document = some id ↔ HoldsAvatar document id := by
  constructor
  · intro h
    cases document with
    | obj members =>
        rw [avatarOfRecord?] at h
        split at h
        · rename_i profile hvalue
          obtain ⟨blob, hblob, hcontent⟩ := Option.bind_eq_some_iff.mp h
          exact ⟨members, profile, blob, rfl, hvalue, hblob, contentId?_eq_some_iff.mp hcontent⟩
        · exact nomatch h
    | _ => exact nomatch h
  · rintro ⟨members, profile, blob, rfl, hvalue, hblob, hrefers⟩
    rw [avatarOfRecord?, hvalue]
    exact Option.bind_eq_some_iff.mpr ⟨blob, hblob, contentId?_eq_some_iff.mpr hrefers⟩

/-! ## The reply -/

/-- A request for a URL is answered with success and a record with an
    avatar. -/
def RepliesWithAvatar (session : Session) (url id : Text) : Prop :=
  ∃ reply octets document, (session.arrival (.ofUrl url)).outcome = .ok reply
    ∧ reply.isSuccess = true ∧ reply.body = .ok octets
    ∧ Json.parseUtf8 octets = .ok document ∧ HoldsAvatar document id

theorem avatarOfRecordReply?_eq_ok_some_iff {reply : Reply} :
    avatarOfRecordReply? reply = .ok (some id)
      ↔ reply.isSuccess = true ∧ ∃ octets document, reply.body = .ok octets
        ∧ Json.parseUtf8 octets = .ok document ∧ HoldsAvatar document id := by
  rw [avatarOfRecordReply?]
  split
  · rename_i hsuccess
    constructor
    · intro h
      obtain ⟨octets, hoctets, h⟩ := bind_eq_ok_iff.mp h
      obtain ⟨document, hdocument, h⟩ := bind_eq_ok_iff.mp h
      have hholds := avatarOfRecord?_eq_some_iff.mp (Except.ok.inj h)
      exact ⟨hsuccess, octets, document, Reply.read_eq_ok_iff.mp hoctets, hdocument, hholds⟩
    · rintro ⟨-, octets, document, hbody, hdocument, hholds⟩
      refine bind_eq_ok_iff.mpr ⟨octets, Reply.read_eq_ok_iff.mpr hbody, ?_⟩
      refine bind_eq_ok_iff.mpr ⟨document, hdocument, ?_⟩
      exact congrArg Except.ok (avatarOfRecord?_eq_some_iff.mpr hholds)
  · rename_i hfails
    constructor
    · intro h
      exact nomatch Except.ok.inj h
    · rintro ⟨hsuccess, -⟩
      exact absurd hsuccess hfails

theorem bind_avatarOfRecordReply?_iff {url : Text} :
    (session.arrival (.ofUrl url)).outcome >>= avatarOfRecordReply? = .ok (some id)
      ↔ RepliesWithAvatar session url id := by
  rw [bind_eq_ok_iff]
  constructor
  · rintro ⟨reply, hreply, hread⟩
    obtain ⟨hsuccess, octets, document, hbody, hdocument, hholds⟩ :=
      avatarOfRecordReply?_eq_ok_some_iff.mp hread
    exact ⟨reply, octets, document, hreply, hsuccess, hbody, hdocument, hholds⟩
  · rintro ⟨reply, octets, document, hreply, hsuccess, hrest⟩
    exact ⟨reply, hreply, avatarOfRecordReply?_eq_ok_some_iff.mpr
      ⟨hsuccess, octets, document, hrest⟩⟩

/-! ## The server -/

/-- The data server of an identity: not empty, and written with one more
    slash or with none at its end. -/
def IsServerOf (identity : Identity) (pds : Text) : Prop :=
  pds ≠ [] ∧ ∃ written, identity.pds = some written
    ∧ (written = pds ++ "/" ∨ written = pds ∧ ¬ ∃ start, written = start ++ Text.ofString "/")

theorem serverOf?_eq_some_iff : serverOf? identity = some pds ↔ IsServerOf identity pds := by
  rw [serverOf?, Option.filter_eq_some_iff, Option.map_eq_some_iff, and_comm]
  simp only [Text.withoutEnding_eq_iff, IsServerOf]
  simp

theorem IsServerOf.unique {server : Text} (h : IsServerOf identity pds)
    (hserver : IsServerOf identity server) : pds = server := by
  rw [← serverOf?_eq_some_iff] at h hserver
  exact Option.some.inj (h.symm.trans hserver)

theorem fromIdentity_of_server (h : serverOf? identity = some pds) (session : Session) :
    fromIdentity identity session
      = (((session.arrival (.ofUrl (profileUrl pds identity.did))).outcome
            >>= avatarOfRecordReply?).map (·.map (blobUrl pds identity.did)),
        session.asking [.ofUrl (profileUrl pds identity.did)]) := by
  have hreply := Web.reply_apply (.ofUrl (profileUrl pds identity.did)) session
  rw [fromIdentity, h]
  dsimp only
  cases houtcome : (session.arrival (.ofUrl (profileUrl pds identity.did))).outcome with
  | error failure =>
      rw [houtcome] at hreply
      rw [Web.bind_apply_error hreply]
      rfl
  | ok reply =>
      rw [houtcome] at hreply
      rw [Web.bind_apply_ok hreply]
      have hlast (after : Session) :
          (do return (← Web.lift (avatarOfRecordReply? reply)).map (blobUrl pds identity.did) :
              Web (Option Text)) after
            = ((avatarOfRecordReply? reply).map (·.map (blobUrl pds identity.did)), after) := by
        cases avatarOfRecordReply? reply <;> rfl
      exact hlast _

theorem fromIdentity_of_no_server (h : serverOf? identity = none) (session : Session) :
    fromIdentity identity session = (.ok none, session) := by
  rw [fromIdentity, h]
  exact Web.pure_apply none session

theorem fromDataServer_of_server {after : Session}
    (hresolve : directory.resolve actor session = (.ok (some identity), after))
    (hserver : IsServerOf identity pds) :
    ∃ found,
      fromDataServer directory actor session
          = (.ok found, after.asking [.ofUrl (profileUrl pds identity.did)])
        ∧ ∀ url, found = some url ↔ ∃ id, RepliesWithAvatar after (profileUrl pds identity.did) id
          ∧ url = blobUrl pds identity.did id := by
  rw [fromDataServer, Web.orNone, Web.bind_apply_ok hresolve]
  dsimp only
  rw [fromIdentity_of_server (serverOf?_eq_some_iff.mpr hserver)]
  simp only [← bind_avatarOfRecordReply?_iff]
  rcases (after.arrival (.ofUrl (profileUrl pds identity.did))).outcome >>= avatarOfRecordReply?
    with failure | contentId
  · refine ⟨none, rfl, ?_⟩
    simp
  · refine ⟨contentId.map (blobUrl pds identity.did), rfl, ?_⟩
    intro url
    rw [Option.map_eq_some_iff]
    constructor
    · rintro ⟨id, hid, rfl⟩
      exact ⟨id, congrArg Except.ok hid, rfl⟩
    · rintro ⟨id, hid, rfl⟩
      exact ⟨id, Except.ok.inj hid, rfl⟩

theorem fromDataServer_of_no_server {outcome : Except Failure (Option Identity)} {after : Session}
    (hresolve : directory.resolve actor session = (outcome, after))
    (h : ∀ identity pds, outcome = .ok (some identity) → ¬ IsServerOf identity pds) :
    fromDataServer directory actor session = (.ok none, after) := by
  rcases outcome with failure | _ | identity
  · rw [fromDataServer, Web.orNone, Web.bind_apply_error hresolve]
  · rw [fromDataServer, Web.orNone, Web.bind_apply_ok hresolve]
    rfl
  · have hserver : serverOf? identity = none := by
      rw [Option.eq_none_iff_forall_ne_some]
      intro pds hpds
      exact h identity pds rfl (serverOf?_eq_some_iff.mp hpds)
    rw [fromDataServer, Web.orNone, Web.bind_apply_ok hresolve]
    dsimp only
    rw [fromIdentity_of_no_server hserver]

/-- Whatever the look-up of an actor comes to, and whatever the network
    does, the locator does not fail.  It gives a URL exactly if there is an
    identity with a data server that replies with an avatar, and that URL
    is the one of the avatar's blob; it asks for the record exactly if
    there is such a server, and for nothing else. -/
theorem server_avatar_found_iff (directory : Directory) (actor : Text) (session : Session) :
    ∃ found requests,
      fromDataServer directory actor session
          = (.ok found, (directory.resolve actor session).2.asking requests)
        ∧ requests.length ≤ 1
        ∧ (∀ request, request ∈ requests ↔ ∃ identity pds,
          (directory.resolve actor session).1 = .ok (some identity) ∧ IsServerOf identity pds
            ∧ request = .ofUrl (pds ++ Text.ofString "/xrpc/com.atproto.repo.getRecord?repo="
              ++ identity.did ++ Text.ofString "&collection=sh.tangled.actor.profile&rkey=self"))
        ∧ ∀ url, found = some url ↔ ∃ identity pds id,
          (directory.resolve actor session).1 = .ok (some identity) ∧ IsServerOf identity pds
            ∧ RepliesWithAvatar (directory.resolve actor session).2
              (pds ++ Text.ofString "/xrpc/com.atproto.repo.getRecord?repo=" ++ identity.did
                ++ Text.ofString "&collection=sh.tangled.actor.profile&rkey=self") id
            ∧ url = pds ++ Text.ofString "/xrpc/com.atproto.sync.getBlob?did=" ++ identity.did
              ++ Text.ofString "&cid=" ++ id := by
  rcases hresolve : directory.resolve actor session with ⟨outcome, after⟩
  by_cases hserver : ∃ identity pds, outcome = .ok (some identity) ∧ IsServerOf identity pds
  · obtain ⟨identity, pds, rfl, hpds⟩ := hserver
    obtain ⟨found, hrun, hfound⟩ := fromDataServer_of_server hresolve hpds
    refine ⟨found, _, hrun, Nat.le_refl 1, ?_, ?_⟩
    · intro request
      rw [List.mem_singleton]
      constructor
      · rintro rfl
        exact ⟨identity, pds, rfl, hpds, rfl⟩
      · rintro ⟨_, server, ⟨⟩, hserver, rfl⟩
        obtain rfl := hpds.unique hserver
        rfl
    · intro url
      rw [hfound]
      constructor
      · rintro ⟨id, hreplies, hurl⟩
        exact ⟨identity, pds, id, rfl, hpds, hreplies, hurl⟩
      · rintro ⟨_, server, id, ⟨⟩, hserver, hreplies, hurl⟩
        obtain rfl := hpds.unique hserver
        exact ⟨id, hreplies, hurl⟩
  · have hnone : ∀ identity pds, outcome = .ok (some identity) → ¬ IsServerOf identity pds :=
      fun identity pds houtcome hpds => hserver ⟨identity, pds, houtcome, hpds⟩
    have hrun := fromDataServer_of_no_server hresolve hnone
    refine ⟨none, [], ?_, Nat.zero_le 1, ?_, ?_⟩
    · rw [hrun, Session.asking, List.append_nil]
    · intro request
      refine iff_of_false List.not_mem_nil ?_
      rintro ⟨identity, pds, houtcome, hpds, -⟩
      exact hnone identity pds houtcome hpds
    · intro url
      refine iff_of_false (Option.some_ne_none url).symm ?_
      rintro ⟨identity, pds, id, houtcome, hpds, -⟩
      exact hnone identity pds houtcome hpds

end Avatar.Locator
