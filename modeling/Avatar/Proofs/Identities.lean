import Mathlib.Control.Monad.Basic
import Avatar.Proofs.Sources

/-! # What vouches for an identity

    An identity is put together from what up to three servers say, none of
    which is trusted.  A handle is followed to a DID that one of its two
    methods gives; the DID fixes where its document is fetched; and that
    document has to name the DID, holds the data server, and decides
    whether the handle is confirmed (`Vouches`).  Whatever the servers
    reply and how long they take, an identity that is found is vouched for
    (`identity_vouched_for`). -/

namespace Avatar

/-! ## The document of a DID -/

namespace Did

theorem exists_of_isSpelled {start s : Text} {isPoint : CodePoint → Bool}
    (h : isSpelled start isPoint s = true) :
    ∃ rest, s = start ++ rest ∧ ∀ c ∈ rest, isPoint c = true ∨ c = CodePoint.ofChar '\n' := by
  rw [isSpelled] at h
  split at h
  · exact nomatch h
  · rename_i rest hrest
    rw [Text.after?_eq_some_iff] at hrest
    rw [Bool.and_eq_true, List.all_eq_true] at h
    have hpoints := h.2
    rcases Text.eq_withoutEnding_or "\n" s with hs | hs
    · refine ⟨rest, hs.trans hrest, ?_⟩
      intro c hc
      exact .inl (hpoints c hc)
    · refine ⟨rest ++ Text.ofString "\n", ?_, ?_⟩
      · rw [← List.append_assoc, ← hrest]
        exact hs
      · intro c hc
        rcases List.mem_append.mp hc with hmem | hnewline
        · exact .inl (hpoints c hmem)
        · exact .inr (List.mem_singleton.mp hnewline)

theorem afterLastColon_append {start rest : Text} (h : CodePoint.ofChar ':' ∉ rest) :
    afterLastColon (start ++ CodePoint.ofChar ':' :: rest) = rest := by
  have hkept : ∀ c ∈ rest.reverse, decide (c ≠ CodePoint.ofChar ':') = true := by
    intro c hc
    rw [decide_eq_true_iff]
    rintro rfl
    exact h (List.mem_reverse.mp hc)
  rw [afterLastColon, List.reverse_append, List.reverse_cons, List.append_assoc,
    List.takeWhile_append_of_pos hkept, List.singleton_append,
    List.takeWhile_cons_of_neg (by simp), List.append_nil, List.reverse_reverse]

/-- The place of a document is fixed by the DID: the directory has those of
    the PLC method, and a web host has its own. -/
def IsPlace (plc did url : Text) : Prop :=
  (∃ id : Text, did = "did:plc:" ++ id ∧ url = plc ++ "/" ++ did)
    ∨ ∃ host : Text, did = "did:web:" ++ host ∧ CodePoint.ofChar ':' ∉ host
      ∧ url = "https://" ++ host ++ "/.well-known/did.json"

theorem webDocumentUrl_eq_ok_iff {did url : Text} :
    webDocumentUrl did = .ok url ↔ isSpelled "did:web:" isHostPoint did = true
      ∧ url = "https://" ++ afterLastColon did ++ "/.well-known/did.json" := by
  rw [webDocumentUrl]
  split
  · rename_i hspelled
    rw [Except.ok.injEq, and_iff_right hspelled, eq_comm]
  · rename_i hnot
    exact iff_of_false (fun h => by cases h) (fun h => hnot h.1)

theorem plcDocumentUrl_eq_ok_iff {plc did url : Text} :
    plcDocumentUrl plc did = .ok url ↔ isSpelled "did:plc:" isPlcPoint did = true
      ∧ url = plc ++ "/" ++ did := by
  rw [plcDocumentUrl]
  split
  · rename_i hspelled
    rw [Except.ok.injEq, and_iff_right hspelled, eq_comm]
  · rename_i hnot
    exact iff_of_false (fun h => by cases h) (fun h => hnot h.1)

/-- A DID that is not too long has a place if one of the two methods gives
    it one. -/
theorem documentUrl_cases {plc did url : Text} (h : documentUrl plc did = .ok url) :
    did.length ≤ maxLength
      ∧ (webDocumentUrl did = .ok url ∨ plcDocumentUrl plc did = .ok url) := by
  rw [documentUrl] at h
  split at h
  · cases h
  · rename_i hlength
    refine ⟨Nat.le_of_not_lt hlength, ?_⟩
    split at h
    · split at h
      · cases h
      · split at h
        · exact .inl h
        · split at h
          · exact .inr h
          · cases h
    · cases h

theorem isPlace_of_documentUrl {plc did url : Text} (h : documentUrl plc did = .ok url) :
    IsPlace plc did url := by
  rcases (documentUrl_cases h).2 with hweb | hplc
  · obtain ⟨hspelled, rfl⟩ := webDocumentUrl_eq_ok_iff.mp hweb
    obtain ⟨host, rfl, hpoints⟩ := exists_of_isSpelled hspelled
    have hcolon : CodePoint.ofChar ':' ∉ host := by
      intro hmem
      rcases hpoints _ hmem with hpoint | hnewline
      · exact absurd hpoint (by decide)
      · exact absurd hnewline (by decide)
    have hhost : afterLastColon ("did:web" ++ CodePoint.ofChar ':' :: host) = host :=
      afterLastColon_append hcolon
    refine .inr ⟨host, rfl, hcolon, ?_⟩
    show _ ++ afterLastColon ("did:web" ++ CodePoint.ofChar ':' :: host) ++ _ = _
    rw [hhost]
  · obtain ⟨hspelled, rfl⟩ := plcDocumentUrl_eq_ok_iff.mp hplc
    obtain ⟨id, rfl, -⟩ := exists_of_isSpelled hspelled
    exact .inl ⟨id, rfl, rfl⟩

/-- A document comes from the place of a DID and names that DID. -/
structure Fetches (plc did : Text) (session : Session) (url : Text) (document : Json) : Prop where
  place : IsPlace plc did url
  arrived : ∃ reply, (session.arrival (.ofUrl url)).outcome = .ok reply
    ∧ documentOf documentLimit reply = .ok document
  named : ∃ members, document = .obj members ∧ Json.lookupText members "id" = some did

theorem named_of_checkDocument {did : Text} {document checked : Json}
    (h : checkDocument did document = .ok checked) :
    document = checked ∧ ∃ members, document = .obj members
      ∧ Json.lookupText members "id" = some did := by
  cases document with
  | obj members =>
      rw [checkDocument] at h
      split at h
      · rename_i hid
        exact ⟨Except.ok.inj h, members, rfl, hid⟩
      · exact nomatch h
  | _ => exact nomatch h

theorem fetches_of_resolve {plc did : Text} {session last : Session} {document : Json}
    (h : resolve plc did session = (.ok document, last)) :
    ∃ url, Fetches plc did session url document ∧ last = session.asking [.ofUrl url] := by
  rw [resolve] at h
  obtain ⟨url, _, hfirst, h⟩ := Web.bind_apply_eq_ok_iff.mp h
  obtain ⟨hurl, rfl⟩ := Prod.mk.inj hfirst
  obtain ⟨reply, _, hsecond, h⟩ := Web.bind_apply_eq_ok_iff.mp h
  obtain ⟨hreply, rfl⟩ := Prod.mk.inj hsecond
  obtain ⟨hthird, rfl⟩ := Prod.mk.inj h
  obtain ⟨read, hread, hcheck⟩ := bind_eq_ok_iff.mp hthird
  obtain ⟨rfl, hnamed⟩ := named_of_checkDocument hcheck
  exact ⟨url, ⟨isPlace_of_documentUrl hurl, ⟨reply, hreply, hread⟩, hnamed⟩, rfl⟩

/-- The first of the account's names that starts with `at://` goes on with
    this one. -/
def Document.Claims (document : Json) (name : Text) : Prop :=
  ∃ earlier later : List Json,
    Json.elementsOf "alsoKnownAs" document = .ok (earlier ++ .str ("at://" ++ name) :: later)
      ∧ ∀ other ∈ earlier, ∀ rest : Text, other ≠ .str ("at://" ++ rest)

theorem Document.claimedHandle?_eq_some_iff {element : Json} {handle : Text} :
    claimedHandle? element = some handle
      ↔ ∃ name : Text, element = .str ("at://" ++ name) ∧ handle = name.lowercase := by
  cases element with
  | str s =>
      show (Text.after? "at://" s).map Text.lowercase = some handle ↔ _
      rw [Option.map_eq_some_iff]
      constructor
      · rintro ⟨name, hname, hlower⟩
        rw [Text.after?_eq_some_iff] at hname
        exact ⟨name, congrArg Json.str hname, hlower.symm⟩
      · rintro ⟨name, hname, hlower⟩
        exact ⟨name, Text.after?_eq_some_iff.mpr (Json.str.inj hname), hlower.symm⟩
  | _ =>
      constructor
      · intro h
        exact nomatch h
      · rintro ⟨_, h, -⟩
        exact nomatch h

theorem Document.claimedHandle?_eq_none_iff {element : Json} :
    claimedHandle? element = none ↔ ∀ rest : Text, element ≠ .str ("at://" ++ rest) := by
  rw [Option.eq_none_iff_forall_ne_some]
  constructor
  · intro h rest heq
    exact h _ (claimedHandle?_eq_some_iff.mpr ⟨rest, heq, rfl⟩)
  · intro h handle hclaimed
    obtain ⟨name, heq, -⟩ := claimedHandle?_eq_some_iff.mp hclaimed
    exact h name heq

theorem Document.handle?_of_claims {document : Json} {name : Text} (h : Claims document name) :
    handle? document = .ok (some name.lowercase) := by
  obtain ⟨earlier, later, helements, hearlier⟩ := h
  rw [handle?, helements]
  refine congrArg Except.ok (List.findSome?_eq_some_iff.mpr ⟨earlier, _, later, rfl, ?_, ?_⟩)
  · exact claimedHandle?_eq_some_iff.mpr ⟨name, rfl, rfl⟩
  · intro other hother
    exact claimedHandle?_eq_none_iff.mpr (hearlier other hother)

theorem Document.exists_claims_of_handle? {document : Json} {handle : Text}
    (h : handle? document = .ok (some handle)) :
    ∃ name, Claims document name ∧ handle = name.lowercase := by
  rw [handle?] at h
  cases helements : Json.elementsOf "alsoKnownAs" document with
  | error failure =>
      rw [helements] at h
      exact nomatch h
  | ok elements =>
      rw [helements] at h
      obtain ⟨earlier, element, later, rfl, hsome, hnone⟩ :=
        List.findSome?_eq_some_iff.mp (Except.ok.inj h)
      obtain ⟨name, rfl, rfl⟩ := claimedHandle?_eq_some_iff.mp hsome
      refine ⟨name, ⟨earlier, later, helements, ?_⟩, rfl⟩
      intro other hother
      exact claimedHandle?_eq_none_iff.mp (hnone other hother)

end Did

/-! ## The DID of a handle -/

namespace Handle

/-- One of the two methods gives a DID for a handle. -/
def Gives (dns handle : Text) (session : Session) (did : Text) : Prop :=
  (resolveDns dns handle session).1 = .ok (some did)
    ∨ (resolveWellKnown handle (session.asking [dnsRequest dns handle])).1 = .ok (some did)

/-- Whichever method wins, what it found is what it gives on its own. -/
theorem gives_of_resolve {dns handle did : Text} {session last : Session}
    (h : resolve dns handle session = (.ok (some did), last)) :
    Gives dns handle.lowercase session did
      ∧ last = session.asking [dnsRequest dns handle.lowercase, wellKnownRequest handle.lowercase] := by
  rw [resolve] at h
  split at h
  · obtain ⟨records, _, hfirst, h⟩ := Web.bind_apply_eq_ok_iff.mp h
    obtain ⟨hrecords, rfl⟩ := Prod.mk.inj hfirst
    obtain ⟨file, _, hsecond, h⟩ := Web.bind_apply_eq_ok_iff.mp h
    obtain ⟨hfile, rfl⟩ := Prod.mk.inj hsecond
    obtain ⟨hrace, rfl⟩ := Prod.mk.inj h
    obtain rfl := Except.ok.inj hrecords
    obtain rfl := Except.ok.inj hfile
    refine ⟨?_, ?_⟩
    · obtain ⟨attempt, hmem, hfound⟩ := exists_mem_of_race hrace
      rcases List.mem_cons.mp hmem with rfl | hmem
      · left
        rw [resolveDns, Web.reply_lift_apply]
        exact hfound
      · obtain rfl := List.mem_singleton.mp hmem
        right
        rw [resolveWellKnown, Web.reply_lift_apply]
        exact hfound
    · rw [Session.asking, List.append_assoc]
      rfl
  · cases (Prod.mk.inj h).1

end Handle

/-! ## The identity -/

namespace Actor

variable {services : Services} {actor : Text} {session last : Session} {identity : Identity}

/-- The requests that lead from an actor to its DID. -/
def didRequests (services : Services) (actor : Text) : List Request :=
  if isDid actor then []
  else [Handle.dnsRequest services.dns actor.lowercase, Handle.wellKnownRequest actor.lowercase]

/-- Where the DID of an identity comes from. -/
def IsDidOf (services : Services) (actor : Text) (session : Session) (did : Text) : Prop :=
  if isDid actor then did = actor else Handle.Gives services.dns actor.lowercase session did

/-- The handle of an identity.  An actor that is a DID has the handle that
    its document claims; one that is a handle keeps it if the document
    claims that one. -/
def IsHandleOf (actor : Text) (document : Json) (handle : Text) : Prop :=
  if isDid actor then
    (∃ name, Did.Document.Claims document name ∧ handle = name.lowercase)
      ∨ (∀ name, ¬ Did.Document.Claims document name) ∧ handle = "handle.invalid"
  else
    (∃ name, Did.Document.Claims document name ∧ name.lowercase = actor.lowercase
        ∧ handle = actor.lowercase)
      ∨ (∀ name, Did.Document.Claims document name → name.lowercase ≠ actor.lowercase)
        ∧ handle = "handle.invalid"

/-- What vouches for an identity: a document, fetched under a URL after the
    DID was found. -/
structure Vouches (services : Services) (actor : Text) (session last : Session)
    (identity : Identity) (url : Text) (document : Json) : Prop where
  did : IsDidOf services actor session identity.did
  fetched : Did.Fetches services.plc identity.did
    (session.asking (didRequests services actor)) url document
  pds : Did.Document.dataServer? document = .ok identity.pds
  handle : ∃ handle, identity.handle = some handle ∧ IsHandleOf actor document handle
  requests : last = session.asking (didRequests services actor ++ [.ofUrl url])

theorem didOf_of_did? {did : Text} (h : did? services actor session = (.ok (some did), last)) :
    IsDidOf services actor session did ∧ last = session.asking (didRequests services actor) := by
  rw [did?] at h
  rw [IsDidOf, didRequests]
  by_cases hdid : isDid actor = true
  · rw [if_pos hdid] at h ⊢
    obtain ⟨hactor, rfl⟩ := Prod.mk.inj h
    refine ⟨(Option.some.inj (Except.ok.inj hactor)).symm, ?_⟩
    rw [if_pos hdid, Session.asking, List.append_nil]
  · rw [if_neg hdid] at h ⊢
    rw [if_neg hdid]
    exact Handle.gives_of_resolve h

/-- A claimed handle is kept for a DID, and for a handle that it is equal
    to in lower case. -/
theorem isHandleOf_confirmedHandle {document : Json} {claimed : Option Text}
    (h : Did.Document.handle? document = .ok claimed) :
    IsHandleOf actor document (confirmedHandle actor claimed) := by
  -- the document claims one handle at most, the one that was read
  have honly : ∀ name, Did.Document.Claims document name → claimed = some name.lowercase := by
    intro name hclaims
    rw [Did.Document.handle?_of_claims hclaims] at h
    exact (Except.ok.inj h).symm
  rw [IsHandleOf]
  cases claimed with
  | none =>
      have hnone : ∀ name, ¬ Did.Document.Claims document name := by
        intro name hclaims
        exact nomatch honly name hclaims
      split
      · exact .inr ⟨hnone, rfl⟩
      · refine .inr ⟨?_, rfl⟩
        intro name hclaims
        exact absurd hclaims (hnone name)
  | some handle =>
      obtain ⟨name, hclaims, rfl⟩ := Did.Document.exists_claims_of_handle? h
      rw [confirmedHandle]
      by_cases hdid : isDid actor = true
      · rw [if_pos hdid, if_pos (by simp [hdid])]
        exact .inl ⟨name, hclaims, rfl⟩
      · rw [if_neg hdid]
        by_cases hlower : name.lowercase = actor.lowercase
        · rw [if_pos (by simp [hlower])]
          exact .inl ⟨name, hclaims, hlower, hlower⟩
        · rw [if_neg (by simp [hdid, hlower])]
          refine .inr ⟨?_, rfl⟩
          intro other hother
          rw [← Option.some.inj (honly other hother)]
          exact hlower

theorem vouches_of_resolveOrFail
    (h : resolveOrFail services actor session = (.ok (some identity), last)) :
    ∃ url document, Vouches services actor session last identity url document := by
  rw [resolveOrFail] at h
  obtain ⟨did, _, hdid, h⟩ := Web.bind_apply_eq_ok_iff.mp h
  cases did with
  | none => exact nomatch Except.ok.inj (Prod.mk.inj h).1
  | some did =>
      obtain ⟨hdidOf, rfl⟩ := didOf_of_did? hdid
      obtain ⟨document, _, hresolve, h⟩ := Web.bind_apply_eq_ok_iff.mp h
      obtain ⟨url, hfetches, rfl⟩ := Did.fetches_of_resolve hresolve
      obtain ⟨read, _, hread, h⟩ := Web.bind_apply_eq_ok_iff.mp h
      obtain ⟨hidentity, rfl⟩ := Prod.mk.inj hread
      obtain ⟨hsome, rfl⟩ := Prod.mk.inj h
      obtain rfl := Option.some.inj (Except.ok.inj hsome)
      rw [identityOf] at hidentity
      obtain ⟨claimed, hclaimed, hidentity⟩ := bind_eq_ok_iff.mp hidentity
      obtain ⟨pds, hpds, hidentity⟩ := bind_eq_ok_iff.mp hidentity
      obtain rfl := Except.ok.inj hidentity
      refine ⟨url, document, hdidOf, hfetches, hpds, ?_, ?_⟩
      · exact ⟨_, rfl, isHandleOf_confirmedHandle hclaimed⟩
      · rw [Session.asking, Session.asking, Session.asking, List.append_assoc]

theorem records_resolveOrFail_of_isDid (h : isDid actor = true) :
    Web.Records [] 1 (resolveOrFail services actor) := by
  have hdid : did? services actor = pure (some actor) := if_pos h
  rw [resolveOrFail, hdid]
  refine (Web.records_pure _).bind fun did => ?_
  cases did with
  | none => exact (Web.records_pure _).mono (Nat.zero_le 1)
  | some did =>
      refine (Did.records_resolve services.plc did).bind fun document => ?_
      exact (Web.records_lift _).bind fun identity => Web.records_pure _

/-- Whatever the servers reply, and in whatever order, a DID takes one
    request and a handle three at most, and an identity that is found is
    vouched for. -/
theorem identity_vouched_for (services : Services) (actor : Text) (session : Session) :
    (∃ requests, requests.length ≤ (if isDid actor then 1 else 3)
        ∧ (resolveOrFail services actor session).2 = session.asking requests)
      ∧ ∀ identity last, resolveOrFail services actor session = (.ok (some identity), last) →
        ∃ url document, Vouches services actor session last identity url document := by
  constructor
  · have hrecords : Web.Records [] (if isDid actor then 1 else 3) (resolveOrFail services actor) := by
      by_cases hdid : isDid actor = true
      · rw [if_pos hdid]
        exact records_resolveOrFail_of_isDid hdid
      · rw [if_neg hdid]
        exact records_resolveOrFail services actor
    obtain ⟨requests, hlength, hlast⟩ := hrecords session
    refine ⟨requests, hlength, ?_⟩
    rw [hlast, List.append_nil]
    rfl
  · intro identity last h
    exact vouches_of_resolveOrFail h

/-- A network without a DNS service, in which the well-known file of
    `a.test` comes late and the document of its DID claims it back. -/
def lateFile : Session := .start [
  ⟨"https://a.test/.well-known/atproto-did", 7, .ok ⟨200, [], .ok (Text.utf8 "did:plc:abc\n")⟩⟩,
  ⟨"https://plc.directory/did:plc:abc", 0, .ok ⟨200, [], .ok (Text.utf8
    ("\x7b\"id\":\"did:plc:abc\",\"alsoKnownAs\":[1,\"at://A.test\"],\"service\":[\x7b"
      ++ "\"id\":\"#atproto_pds\",\"type\":\"AtprotoPersonalDataServer\","
      ++ "\"serviceEndpoint\":\"https://p\"\x7d]\x7d"))⟩⟩]

/-- The identity that is found there for `A.Test`. -/
def lateIdentity : Identity := ⟨"did:plc:abc", some "a.test", some "https://p"⟩

theorem late_identity_vouched_for :
    ∃ last url document,
      resolveOrFail .standard "A.Test" lateFile = (.ok (some lateIdentity), last)
        ∧ Vouches .standard "A.Test" lateFile last lateIdentity url document := by
  have hfound : (resolveOrFail .standard "A.Test" lateFile).1 = .ok (some lateIdentity) := by
    decide +kernel
  rcases hrun : resolveOrFail .standard "A.Test" lateFile with ⟨outcome, last⟩
  rw [hrun] at hfound
  obtain rfl : outcome = .ok (some lateIdentity) := hfound
  obtain ⟨url, document, hvouches⟩ := (identity_vouched_for .standard "A.Test" lateFile).2 _ _ hrun
  exact ⟨last, url, document, rfl, hvouches⟩

end Actor

end Avatar
