import Avatar.Proofs.Identities
import Avatar.Proofs.Races

/-! # Which of its two methods a handle is resolved by

    The two methods are attempts in one race, the TXT records started
    before the file (`resolve_apply`).  A file counts only if it holds a
    DID, but a record may hold any text.  So the handle is resolved to a
    text that is no DID exactly if a record holds it and no file with a
    DID comes before the record (`undeclared_wins_iff`). -/

namespace Avatar.Handle

variable {dns handle found did : Text} {session : Session}

/-- What the TXT records of a handle make of the reply that comes back for
    them, and when. -/
def recordAttempt (dns handle : Text) (session : Session) : Attempt :=
  attempt (didOfDnsReply handle) (session.arrival (dnsRequest dns handle))

/-- What the well-known file of a handle makes of the reply that comes back
    for it, and when; it is asked for after the records. -/
def fileAttempt (dns handle : Text) (session : Session) : Attempt :=
  attempt didOfWellKnownReply
    ((session.asking [dnsRequest dns handle]).arrival (wellKnownRequest handle))

theorem resolveDns_apply (dns handle : Text) (session : Session) :
    resolveDns dns handle session
      = ((recordAttempt dns handle session).outcome, session.asking [dnsRequest dns handle]) :=
  Web.reply_lift_apply ..

theorem resolveWellKnown_apply (dns handle : Text) (session : Session) :
    resolveWellKnown handle (session.asking [dnsRequest dns handle])
      = ((fileAttempt dns handle session).outcome,
        session.asking [dnsRequest dns handle, wellKnownRequest handle]) := by
  rw [resolveWellKnown, Web.reply_lift_apply, Session.asking_asking]
  rfl

/-- A handle that is well-formed in lower case is resolved by a race, and
    both methods are asked whoever wins. -/
theorem resolve_apply (hvalid : isValid handle.lowercase = true) (dns : Text) (session : Session) :
    resolve dns handle session
      = (race [recordAttempt dns handle.lowercase session,
          fileAttempt dns handle.lowercase session],
        session.asking [dnsRequest dns handle.lowercase, wellKnownRequest handle.lowercase]) := by
  have hasked := session.asking_asking [dnsRequest dns handle.lowercase]
    [wellKnownRequest handle.lowercase]
  rw [List.singleton_append] at hasked
  rw [← hasked, resolve]
  exact congrFun (if_pos hvalid) session

theorem resolve_of_not_isValid (hvalid : isValid handle.lowercase = false) (dns : Text)
    (session : Session) : resolve dns handle session = (.error .invalidHandle, session) := by
  rw [resolve, if_neg (Bool.eq_false_iff.mp hvalid)]
  rfl

theorem didOfWellKnownReply_eq_some_iff {reply : Reply} :
    didOfWellKnownReply reply = .ok (some did)
      ↔ reply.isSuccess = true ∧ ∃ octets, reply.body = .ok octets
        ∧ Text.startsWith "did:" did = true
        ∧ (Utf8.decodeLossy (octets.take wellKnownLimit)).trimBlanks = did := by
  rw [didOfWellKnownReply]
  by_cases hsuccess : reply.isSuccess = true
  · rw [if_pos hsuccess, map_eq_ok_iff]
    constructor
    · rintro ⟨octets, hoctets, hfound⟩
      dsimp only at hfound
      split at hfound
      · rename_i hstarts
        obtain rfl := Option.some.inj hfound
        exact ⟨hsuccess, octets, Reply.read_eq_ok_iff.mp hoctets, hstarts, rfl⟩
      · exact nomatch hfound
    · rintro ⟨-, octets, hbody, hstarts, rfl⟩
      exact ⟨octets, Reply.read_eq_ok_iff.mpr hbody, if_pos hstarts⟩
  · rw [if_neg hsuccess]
    constructor
    · intro h
      exact nomatch Except.ok.inj h
    · rintro ⟨h, -⟩
      exact absurd h hsuccess

/-- What a well-known file holds counts only if it starts like a DID. -/
theorem startsWith_of_didOfWellKnownReply {reply : Reply}
    (h : didOfWellKnownReply reply = .ok (some did)) : Text.startsWith "did:" did = true := by
  obtain ⟨-, octets, -, hstarts, -⟩ := didOfWellKnownReply_eq_some_iff.mp h
  exact hstarts

theorem startsWith_of_fileAttempt
    (h : (fileAttempt dns handle session).outcome = .ok (some did)) :
    Text.startsWith "did:" did = true := by
  obtain ⟨reply, -, hread⟩ := bind_eq_ok_iff.mp h
  exact startsWith_of_didOfWellKnownReply hread

/-- A handle is resolved to a text that is no DID exactly if a TXT record
    holds that text and the file does not give a DID before. -/
theorem undeclared_wins_iff (dns handle found : Text) (session : Session) :
    (resolve dns handle session).1 = .ok (some found) ∧ Text.startsWith "did:" found = false
      ↔ isValid handle.lowercase = true
        ∧ Text.startsWith "did:" found = false
        ∧ (resolveDns dns handle.lowercase session).1 = .ok (some found)
        ∧ ∀ did, (resolveWellKnown handle.lowercase
            (session.asking [dnsRequest dns handle.lowercase])).1 = .ok (some did) →
          (recordAttempt dns handle.lowercase session).delay
            ≤ (fileAttempt dns handle.lowercase session).delay := by
  rw [resolveDns_apply, resolveWellKnown_apply]
  cases hvalid : isValid handle.lowercase with
  | false =>
      rw [resolve_of_not_isValid hvalid]
      simp
  | true =>
      rw [resolve_apply hvalid, race_pair_eq_some_iff]
      constructor
      · rintro ⟨⟨hrecord, hfile⟩ | ⟨hfile, -⟩, hundeclared⟩
        · refine ⟨rfl, hundeclared, Attempt.found?_eq_some_iff.mp hrecord, ?_⟩
          intro did hdid
          rcases hfile with hnone | hle
          · rw [Attempt.found?_eq_some_iff.mpr hdid] at hnone
            exact nomatch hnone
          · exact hle
        · -- the file has won, and would not have given such a text
          have hdeclared := startsWith_of_fileAttempt (Attempt.found?_eq_some_iff.mp hfile)
          rw [hundeclared] at hdeclared
          exact nomatch hdeclared
      · rintro ⟨-, hundeclared, hrecord, hfile⟩
        refine ⟨.inl ⟨Attempt.found?_eq_some_iff.mpr hrecord, ?_⟩, hundeclared⟩
        cases hfound : (fileAttempt dns handle.lowercase session).found? with
        | none => exact .inl rfl
        | some did => exact .inr (hfile did (Attempt.found?_eq_some_iff.mp hfound))

/-- A network in which a TXT record of `a.test` holds no DID, and the file
    comes later and holds one. -/
def hastyRecord : Session := .start [
  ⟨"https://cloudflare-dns.com/dns-query?name=_atproto.a.test&type=TXT", 0, .ok ⟨200, [], .ok
    (Text.utf8 "\x7b\"Answer\":[\x7b\"type\":16,\"data\":\"did=alice\"\x7d]\x7d")⟩⟩,
  ⟨"https://a.test/.well-known/atproto-did", 5, .ok ⟨200, [], .ok (Text.utf8 "did:plc:abc")⟩⟩]

/-- Not even where the file gives a DID is it a DID that wins. -/
theorem not_every_winner_declared :
    ¬ ∀ (dns handle found did : Text) (session : Session),
      (resolve dns handle session).1 = .ok (some found) →
        (resolveWellKnown handle (session.asking [dnsRequest dns handle])).1 = .ok (some did) →
          Text.startsWith "did:" found = true := by
  intro h
  have hwinner : (resolve standardDns "a.test" hastyRecord).1 = .ok (some "alice") := by
    decide +kernel
  have hfile : (resolveWellKnown "a.test"
      (hastyRecord.asking [dnsRequest standardDns "a.test"])).1 = .ok (some "did:plc:abc") := by
    decide +kernel
  exact absurd (h _ _ _ _ _ hwinner hfile) (by decide)

end Avatar.Handle
