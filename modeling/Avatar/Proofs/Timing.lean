import Avatar.Proofs.Handles

/-! # What time does to a resolution

    A network can be slow without answering anything else: `undelayed` is
    the network that gives the same answers at once.  What asks one thing
    after the other comes to the same over both (`IgnoresDelays`), so that
    only the race between the two methods of a handle can tell them apart,
    and only if both methods give a DID and not the same one
    (`IsContested`).  Any other actor leads to one DID at most, and to the
    identity of that one whatever is slow, fails or finds nothing
    (`timing_independent`). -/

namespace Avatar

/-! ## Networks without delays -/

/-- The route that gives the same answer at once. -/
def Route.undelayed (route : Route) : Route := { route with delay := 0 }

namespace Session

/-- The session in which every answer comes at once. -/
def undelayed (session : Session) : Session :=
  { session with routes := session.routes.map Route.undelayed }

theorem undelayed_asking (session : Session) (requests : List Request) :
    (session.asking requests).undelayed = session.undelayed.asking requests := rfl

theorem route?_undelayed (session : Session) (url : Text) :
    session.undelayed.route? url = (session.route? url).map Route.undelayed := by
  have hroutes : session.undelayed.routes.filter (·.url = url)
      = (session.routes.filter (·.url = url)).map Route.undelayed := List.filter_map
  have hsent : session.undelayed.sent = session.sent := rfl
  simp only [route?, hroutes, hsent, ← List.map_drop, List.head?_map, List.getLast?_map,
    Option.map_or]

theorem outcome_arrival_undelayed (session : Session) (request : Request) :
    (session.undelayed.arrival request).outcome = (session.arrival request).outcome := by
  rw [arrival, arrival, route?_undelayed]
  cases session.route? request.url with
  | none => rfl
  | some route => rfl

end Session

namespace Web

variable {α β : Type} {x : Web α}

/-- A computation comes to the same, and asks for the same, when every
    answer comes at once. -/
def IgnoresDelays (x : Web α) : Prop :=
  ∀ session, x session.undelayed = ((x session).1, (x session).2.undelayed)

theorem ignoresDelays_lift (outcome : Except Failure α) : IgnoresDelays (lift outcome) :=
  fun _ => rfl

theorem ignoresDelays_pure (a : α) : IgnoresDelays (pure a : Web α) := fun _ => rfl

theorem ignoresDelays_reply (request : Request) : IgnoresDelays (reply request) := by
  intro session
  rw [reply_apply, reply_apply, session.outcome_arrival_undelayed]
  rfl

theorem IgnoresDelays.bind {f : α → Web β} (hx : IgnoresDelays x) (hf : ∀ a, IgnoresDelays (f a)) :
    IgnoresDelays (x >>= f) := by
  intro session
  have hfirst := hx session
  rcases hrun : x session with ⟨failure | a, middle⟩
  · rw [hrun] at hfirst
    rw [bind_apply_error hrun, bind_apply_error hfirst]
  · rw [hrun] at hfirst
    rw [bind_apply_ok hrun, bind_apply_ok hfirst]
    exact hf a middle

theorem IgnoresDelays.orNone {x : Web (Option α)} (hx : IgnoresDelays x) :
    IgnoresDelays x.orNone := by
  intro session
  rw [Web.orNone, Web.orNone, hx session]
  rcases x session with ⟨failure | a, after⟩
  · rfl
  · rfl

end Web

theorem Did.ignoresDelays_resolve (plc did : Text) : Web.IgnoresDelays (resolve plc did) :=
  (Web.ignoresDelays_lift _).bind fun _ =>
    (Web.ignoresDelays_reply _).bind fun _ => Web.ignoresDelays_lift _

namespace Handle

theorem ignoresDelays_resolveDns (dns handle : Text) :
    Web.IgnoresDelays (resolveDns dns handle) :=
  (Web.ignoresDelays_reply _).bind fun _ => Web.ignoresDelays_lift _

theorem ignoresDelays_resolveWellKnown (handle : Text) :
    Web.IgnoresDelays (resolveWellKnown handle) :=
  (Web.ignoresDelays_reply _).bind fun _ => Web.ignoresDelays_lift _

/-- What the file gives is the same without delays, after the records were
    asked for. -/
theorem resolveWellKnown_undelayed (dns handle : Text) (session : Session) :
    (resolveWellKnown handle (session.undelayed.asking [dnsRequest dns handle])).1
      = (resolveWellKnown handle (session.asking [dnsRequest dns handle])).1 := by
  rw [← Session.undelayed_asking, ignoresDelays_resolveWellKnown]

/-- Both methods give a text for a handle, and not the same one. -/
def Disagree (dns handle : Text) (session : Session) : Prop :=
  ∃ did other, (resolveDns dns handle session).1 = .ok (some did)
    ∧ (resolveWellKnown handle (session.asking [dnsRequest dns handle])).1 = .ok (some other)
    ∧ did ≠ other

variable {dns handle did : Text} {session : Session}

theorem gives_undelayed_iff :
    Gives dns handle session.undelayed did ↔ Gives dns handle session did := by
  rw [Gives, Gives, ignoresDelays_resolveDns, resolveWellKnown_undelayed]

theorem disagree_undelayed_iff :
    Disagree dns handle session.undelayed ↔ Disagree dns handle session := by
  rw [Disagree, Disagree, ignoresDelays_resolveDns, resolveWellKnown_undelayed]

/-- What one of the methods gives wins, whenever it comes, if the other
    one does not give something else. -/
theorem resolve_of_gives (hvalid : isValid handle.lowercase = true)
    (hagree : ¬ Disagree dns handle.lowercase session)
    (hgives : Gives dns handle.lowercase session did) :
    resolve dns handle session
      = (.ok (some did),
        session.asking [dnsRequest dns handle.lowercase, wellKnownRequest handle.lowercase]) := by
  have hsame : ∀ record file,
      (recordAttempt dns handle.lowercase session).outcome = .ok (some record) →
      (fileAttempt dns handle.lowercase session).outcome = .ok (some file) → record = file := by
    intro record file hrecord hfile
    by_contra hne
    refine hagree ⟨record, file, ?_, ?_, hne⟩
    · rw [resolveDns_apply, hrecord]
    · rw [resolveWellKnown_apply, hfile]
  rw [Gives, resolveDns_apply, resolveWellKnown_apply] at hgives
  rw [resolve_apply hvalid]
  refine congrArg (Prod.mk · _) ?_
  rcases hgives with hrecord | hfile
  · refine race_of_unanimous List.mem_cons_self hrecord ?_
    intro other hmem found hfound
    rcases List.mem_cons.mp hmem with rfl | hmem
    · exact Option.some.inj (Except.ok.inj (hfound.symm.trans hrecord))
    · obtain rfl := List.mem_singleton.mp hmem
      exact (hsame did found hrecord hfound).symm
  · refine race_of_unanimous (List.mem_cons_of_mem _ List.mem_cons_self) hfile ?_
    intro other hmem found hfound
    rcases List.mem_cons.mp hmem with rfl | hmem
    · exact hsame found did hfound hfile
    · obtain rfl := List.mem_singleton.mp hmem
      exact Option.some.inj (Except.ok.inj (hfound.symm.trans hfile))

end Handle

/-! ## Where an actor leads -/

namespace Actor

variable {services : Services} {actor did : Text} {session a b : Session}

/-- Both methods are asked for an actor, and give different texts. -/
def IsContested (services : Services) (actor : Text) (session : Session) : Prop :=
  isDid actor = false ∧ Handle.isValid actor.lowercase = true
    ∧ Handle.Disagree services.dns actor.lowercase session

/-- An actor that is a DID leads to itself, and a handle to what one of its
    methods gives. -/
def LeadsTo (services : Services) (actor : Text) (session : Session) (did : Text) : Prop :=
  if isDid actor then did = actor
  else Handle.isValid actor.lowercase = true ∧ Handle.Gives services.dns actor.lowercase session did

/-- The identity that a DID of an actor leads to, or nothing if anything
    goes wrong. -/
def follow (services : Services) (actor did : Text) : Web (Option Identity) :=
  Web.orNone do
    let document ← Did.resolve services.plc did
    return some (← Web.lift (identityOf actor did document))

theorem ignoresDelays_follow (services : Services) (actor did : Text) :
    Web.IgnoresDelays (follow services actor did) :=
  ((Did.ignoresDelays_resolve services.plc did).bind fun _ =>
    (Web.ignoresDelays_lift _).bind fun _ => Web.ignoresDelays_pure _).orNone

theorem isContested_undelayed_iff :
    IsContested services actor session.undelayed ↔ IsContested services actor session := by
  rw [IsContested, IsContested, Handle.disagree_undelayed_iff]

theorem leadsTo_undelayed_iff :
    LeadsTo services actor session.undelayed did ↔ LeadsTo services actor session did := by
  rw [LeadsTo, LeadsTo, Handle.gives_undelayed_iff]

theorem snd_did?_undelayed (services : Services) (actor : Text) (session : Session) :
    (did? services actor session.undelayed).2 = (did? services actor session).2.undelayed := by
  rw [did?]
  split
  · rfl
  · cases hvalid : Handle.isValid actor.lowercase with
    | true => rw [Handle.resolve_apply hvalid, Handle.resolve_apply hvalid]; rfl
    | false => rw [Handle.resolve_of_not_isValid hvalid, Handle.resolve_of_not_isValid hvalid]

/-- What is found for an actor is where it leads to. -/
theorem leadsTo_of_did? {last : Session}
    (h : did? services actor session = (.ok (some did), last)) :
    LeadsTo services actor session did := by
  have hdid := (didOf_of_did? h).1
  rw [IsDidOf] at hdid
  rw [LeadsTo]
  split
  · rename_i hisDid
    rwa [if_pos hisDid] at hdid
  · rename_i hisDid
    rw [if_neg hisDid] at hdid
    refine ⟨?_, hdid⟩
    cases hvalid : Handle.isValid actor.lowercase with
    | true => rfl
    | false =>
        rw [did?, if_neg hisDid, Handle.resolve_of_not_isValid hvalid] at h
        cases (Prod.mk.inj h).1

/-- Unless it is contested, an actor's DID is found where the actor leads
    to one. -/
theorem did?_of_leadsTo (hagree : ¬ IsContested services actor session)
    (h : LeadsTo services actor session did) :
    did? services actor session
      = (.ok (some did), session.asking (didRequests services actor)) := by
  rw [LeadsTo] at h
  rw [did?, didRequests]
  by_cases hisDid : isDid actor = true
  · rw [if_pos hisDid] at h ⊢
    rw [if_pos hisDid, h, Session.asking, List.append_nil]
    rfl
  · rw [if_neg hisDid] at h ⊢
    rw [if_neg hisDid]
    refine Handle.resolve_of_gives h.1 ?_ h.2
    intro hdisagree
    exact hagree ⟨Bool.eq_false_iff.mpr hisDid, h.1, hdisagree⟩

theorem resolve_of_leadsTo (hagree : ¬ IsContested services actor session)
    (h : LeadsTo services actor session did) :
    resolve services actor session
      = follow services actor did (session.asking (didRequests services actor)) := by
  rw [resolve, Web.orNone, resolveOrFail, Web.bind_apply_ok (did?_of_leadsTo hagree h)]
  rfl

theorem resolve_of_not_leadsTo (h : ∀ did, ¬ LeadsTo services actor session did) :
    resolve services actor session = (.ok none, (did? services actor session).2) := by
  rw [resolve, Web.orNone, resolveOrFail]
  rcases hdid : did? services actor session with ⟨failure | found, last⟩
  · rw [Web.bind_apply_error hdid]
  · rw [Web.bind_apply_ok hdid]
    cases found with
    | none => rfl
    | some did => exact absurd (leadsTo_of_did? hdid) (h did)

/-- Unless it is contested, an actor is resolved to the same when every
    answer comes at once. -/
theorem resolve_undelayed (hagree : ¬ IsContested services actor session) :
    resolve services actor session.undelayed
      = ((resolve services actor session).1, (resolve services actor session).2.undelayed) := by
  by_cases hleads : ∃ did, LeadsTo services actor session did
  · obtain ⟨did, hdid⟩ := hleads
    rw [resolve_of_leadsTo hagree hdid, resolve_of_leadsTo (mt isContested_undelayed_iff.mp hagree)
      (leadsTo_undelayed_iff.mpr hdid)]
    exact ignoresDelays_follow services actor did (session.asking (didRequests services actor))
  · have hnone : ∀ did, ¬ LeadsTo services actor session did := not_exists.mp hleads
    have hundelayed : ∀ did, ¬ LeadsTo services actor session.undelayed did :=
      fun did h => hnone did (leadsTo_undelayed_iff.mp h)
    rw [resolve_of_not_leadsTo hnone, resolve_of_not_leadsTo hundelayed, snd_did?_undelayed]

/-- Over networks that differ only in their delays an actor that is not
    contested is resolved to the same, by the same requests: if the one or
    the other method gives a DID, to whatever that DID alone leads to. -/
theorem timing_independent (hsame : a.undelayed = b.undelayed)
    (hagree : ¬ IsContested services actor a) :
    (resolve services actor a).1 = (resolve services actor b).1
      ∧ (resolve services actor a).2.undelayed = (resolve services actor b).2.undelayed
      ∧ ∀ did, LeadsTo services actor a did →
        (resolve services actor b).1
          = (follow services actor did (b.asking (didRequests services actor))).1 := by
  have hagree' : ¬ IsContested services actor b := by
    rwa [← isContested_undelayed_iff, ← hsame, isContested_undelayed_iff]
  have hundelayed := resolve_undelayed hagree
  rw [hsame, resolve_undelayed hagree'] at hundelayed
  obtain ⟨hresult, hafter⟩ := Prod.mk.inj hundelayed
  refine ⟨hresult.symm, hafter.symm, ?_⟩
  intro did hleads
  have hleads' : LeadsTo services actor b did := by
    rwa [← leadsTo_undelayed_iff, ← hsame, leadsTo_undelayed_iff]
  rw [resolve_of_leadsTo hagree' hleads']

/-- A network in which the DNS service is out of order, and the well-known
    file of `a.test` holds a DID whose document claims it back. -/
def brokenRecord (record file : Nat) : Session := .start [
  ⟨"https://cloudflare-dns.com/dns-query?name=_atproto.a.test&type=TXT", record,
    .ok ⟨503, [], .ok []⟩⟩,
  ⟨"https://a.test/.well-known/atproto-did", file, .ok ⟨200, [], .ok (Text.utf8 "did:plc:abc\n")⟩⟩,
  ⟨"https://plc.directory/did:plc:abc", 0, .ok ⟨200, [], .ok (Text.utf8
    "\x7b\"id\":\"did:plc:abc\",\"alsoKnownAs\":[\"at://a.test\"]\x7d")⟩⟩]

/-- Whether the DNS service fails before or after the file comes, the DID
    in the file is followed. -/
theorem brokenRecord_timing_independent :
    (brokenRecord 0 7).undelayed = (brokenRecord 9 2).undelayed
      ∧ ¬ IsContested .standard "A.Test" (brokenRecord 0 7)
      ∧ LeadsTo .standard "A.Test" (brokenRecord 0 7) "did:plc:abc"
      ∧ (resolve .standard "A.Test" (brokenRecord 0 7)).1
        = (resolve .standard "A.Test" (brokenRecord 9 2)).1
      ∧ (resolve .standard "A.Test" (brokenRecord 9 2)).1
        = (follow .standard "A.Test" "did:plc:abc"
            ((brokenRecord 9 2).asking (didRequests .standard "A.Test"))).1 := by
  have hsame : (brokenRecord 0 7).undelayed = (brokenRecord 9 2).undelayed := rfl
  have hlower : Text.lowercase "A.Test" = "a.test" := by decide +kernel
  have hagree : ¬ IsContested .standard "A.Test" (brokenRecord 0 7) := by
    rintro ⟨-, -, hdisagree⟩
    rw [hlower] at hdisagree
    obtain ⟨did, other, hrecord, -, -⟩ := hdisagree
    have hfails : (Handle.resolveDns Handle.standardDns "a.test" (brokenRecord 0 7)).1
        = .error (.badStatus 503) := by
      decide +kernel
    exact nomatch hfails.symm.trans hrecord
  have hleads : LeadsTo .standard "A.Test" (brokenRecord 0 7) "did:plc:abc" := by
    rw [LeadsTo, if_neg (by decide), hlower]
    exact ⟨by decide +kernel, .inr (by decide +kernel)⟩
  obtain ⟨hresult, -, hfollow⟩ := timing_independent hsame hagree
  exact ⟨hsame, hagree, hleads, hresult, hfollow _ hleads⟩

end Actor

end Avatar
