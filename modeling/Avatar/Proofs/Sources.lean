import Avatar.Service

/-! # What is asked for an avatar

    A computation over the network only adds to the record of a session,
    and what it may add is read off its parts: a DID takes one request, a
    handle two, and a profile record one more.  So the locator of the
    data server looks the actor up once and makes four requests at most,
    the one of Bluesky exactly one, and an image takes one. -/

namespace Avatar

/-- A session after some more requests. -/
def Session.asking (session : Session) (requests : List Request) : Session :=
  { session with sent := session.sent ++ requests }

theorem Session.asking_asking (session : Session) (requests more : List Request) :
    (session.asking requests).asking more = session.asking (requests ++ more) := by
  rw [asking, asking, asking, List.append_assoc]

/-- A request shows on the record. -/
theorem Session.asking_ne (session : Session) (request : Request) :
    session.asking [request] ≠ session := by
  intro h
  have hlength := congrArg (·.sent.length) h
  simp [asking] at hlength

namespace Web

variable {α β : Type} {x : Web α} {lookups : List Text} {m n : Nat}

/-- Whatever comes of it, a computation puts these look-ups on record, and
    at most `n` requests. -/
def Records (lookups : List Text) (n : Nat) (x : Web α) : Prop :=
  ∀ session, ∃ requests, requests.length ≤ n ∧ (x session).2
    = { session with sent := session.sent ++ requests, lookups := session.lookups ++ lookups }

/-- What leaves a session as it was records nothing. -/
theorem records_of_eq (h : ∀ session, (x session).2 = session) : Records [] n x := by
  intro session
  refine ⟨[], Nat.zero_le n, ?_⟩
  rw [h, List.append_nil, List.append_nil]

theorem records_pure (a : α) : Records [] 0 (pure a : Web α) :=
  records_of_eq fun session => congrArg Prod.snd (pure_apply a session)

theorem records_throw (failure : Failure) : Records [] 0 (throw failure : Web α) :=
  records_of_eq fun session => congrArg Prod.snd (throw_apply failure session)

theorem records_lift (outcome : Except Failure α) : Records [] 0 (lift outcome) :=
  records_of_eq fun _ => rfl

theorem records_recordLookup (actor : Text) : Records [actor] 0 (recordLookup actor) := by
  intro session
  refine ⟨[], Nat.le_refl 0, ?_⟩
  rw [List.append_nil]
  rfl

theorem records_send (request : Request) : Records [] 1 (send request) := by
  intro session
  refine ⟨[request], Nat.le_refl 1, ?_⟩
  rw [List.append_nil]
  rfl

theorem records_reply (request : Request) : Records [] 1 (reply request) := by
  intro session
  refine ⟨[request], Nat.le_refl 1, ?_⟩
  rw [reply_apply, List.append_nil]

theorem Records.mono (h : Records lookups m x) (hle : m ≤ n) : Records lookups n x := by
  intro session
  obtain ⟨requests, hlength, hafter⟩ := h session
  exact ⟨requests, Nat.le_trans hlength hle, hafter⟩

/-- Requests add up, whether or not the second computation comes to run. -/
theorem Records.bind {f : α → Web β} (hx : Records lookups m x) (hf : ∀ a, Records [] n (f a)) :
    Records lookups (n + m) (x >>= f) := by
  intro session
  obtain ⟨requests, hlength, hafter⟩ := hx session
  rcases hrun : x session with ⟨outcome, middle⟩
  rw [hrun] at hafter
  cases outcome with
  | error failure =>
      rw [bind_apply_error hrun]
      exact ⟨requests, Nat.le_trans hlength (Nat.le_add_left m n), hafter⟩
  | ok a =>
      rw [bind_apply_ok hrun]
      obtain ⟨further, hfurther, hlast⟩ := hf a middle
      refine ⟨requests ++ further, ?_, ?_⟩
      · rw [List.length_append]
        omega
      · rw [hlast, show middle = _ from hafter, List.append_nil, List.append_assoc]

theorem Records.orNone {x : Web (Option α)} (h : Records lookups n x) :
    Records lookups n x.orNone := by
  intro session
  obtain ⟨requests, hlength, hafter⟩ := h session
  refine ⟨requests, hlength, ?_⟩
  rw [← hafter, Web.orNone]
  rcases x session with ⟨_ | _, after⟩ <;> rfl

/-- A reply that is only read costs one request and is what arrives. -/
theorem reply_lift_apply (request : Request) (read : Reply → Except Failure α)
    (session : Session) :
    (do Web.lift (read (← Web.reply request)) : Web α) session
      = ((session.arrival request).outcome >>= read, session.asking [request]) := by
  have hreply := reply_apply request session
  cases houtcome : (session.arrival request).outcome with
  | error failure =>
      rw [houtcome] at hreply
      exact bind_apply_error hreply
  | ok reply =>
      rw [houtcome] at hreply
      exact bind_apply_ok hreply

end Web

/-! ## The identity of an actor -/

theorem Did.records_resolve (plc did : Text) : Web.Records [] 1 (Did.resolve plc did) :=
  (Web.records_lift _).bind fun _ => (Web.records_reply _).bind fun _ => Web.records_lift _

theorem Handle.records_resolve (dns handle : Text) :
    Web.Records [] 2 (Handle.resolve dns handle) := by
  rw [Handle.resolve]
  split
  · exact (Web.records_send _).bind fun _ => (Web.records_send _).bind fun _ => Web.records_lift _
  · exact (Web.records_throw _).mono (Nat.zero_le 2)

namespace Actor

theorem records_did? (services : Services) (actor : Text) :
    Web.Records [] 2 (did? services actor) := by
  rw [did?]
  split
  · exact (Web.records_pure _).mono (Nat.zero_le 2)
  · exact Handle.records_resolve services.dns actor

/-- A handle takes two requests and its DID a third. -/
theorem records_resolveOrFail (services : Services) (actor : Text) :
    Web.Records [] 3 (resolveOrFail services actor) := by
  refine (records_did? services actor).bind fun did => ?_
  cases did with
  | none => exact (Web.records_pure _).mono (Nat.zero_le 1)
  | some did =>
      refine (Did.records_resolve services.plc did).bind fun document => ?_
      exact (Web.records_lift _).bind fun identity => Web.records_pure _

end Actor

/-- The actor is on record once, whatever becomes of the look-up. -/
theorem Directory.records_resolve (directory : Directory) (actor : Text) :
    Web.Records [actor] 3 (directory.resolve actor) := by
  have hlookup := Web.records_recordLookup actor
  cases directory with
  | online services =>
      exact hlookup.bind fun _ => (Actor.records_resolveOrFail services actor).orNone
  | table entries =>
      refine hlookup.bind fun _ => Web.Records.mono ?_ (Nat.zero_le 3)
      split
      · exact Web.records_pure _
      · exact (Web.records_lift _).bind fun _ => Web.records_pure _

/-! ## The locators and the image -/

namespace Locator

theorem records_fromIdentity (identity : Identity) :
    Web.Records [] 1 (fromIdentity identity) := by
  rw [fromIdentity]
  split
  · exact (Web.records_pure _).mono (Nat.zero_le 1)
  · refine (Web.records_reply _).bind fun reply => ?_
    exact (Web.records_lift _).bind fun contentId => Web.records_pure _

theorem records_fromDataServer (directory : Directory) (actor : Text) :
    Web.Records [actor] 4 (fromDataServer directory actor) := by
  refine ((directory.records_resolve actor).bind fun identity => ?_).orNone
  cases identity with
  | none => exact (Web.records_pure _).mono (Nat.zero_le 1)
  | some identity => exact records_fromIdentity identity

/-- The data server's locator does not fail, looks the actor up once, and
    makes at most four requests. -/
theorem fromDataServer_apply (directory : Directory) (actor : Text) (session : Session) :
    ∃ found requests, requests.length ≤ 4 ∧ fromDataServer directory actor session
      = (.ok found, { session with
          sent := session.sent ++ requests
          lookups := session.lookups ++ [actor] }) := by
  obtain ⟨found, after, hrun⟩ := Web.orNone_apply _ session
  have hlocate : fromDataServer directory actor session = (.ok found, after) := hrun
  obtain ⟨requests, hlength, hafter⟩ := records_fromDataServer directory actor session
  rw [hlocate] at hafter ⊢
  exact ⟨found, requests, hlength, congrArg (Prod.mk _) hafter⟩

/-- The locator of Bluesky does not fail, and makes one request. -/
theorem fromBluesky_apply (bluesky actor : Text) (session : Session) :
    ∃ found, fromBluesky bluesky actor session
      = (.ok found, session.asking [.ofUrl (blueskyUrl bluesky actor)]) := by
  rw [fromBluesky, Web.orNone, Web.reply_lift_apply]
  rcases (session.arrival _).outcome >>= avatarOfBlueskyReply? with failure | found
  · exact ⟨none, rfl⟩
  · exact ⟨found, rfl⟩

end Locator

/-- An image takes one request, and what it is made into is read off the
    reply. -/
theorem Image.fetch_apply (frontEnd : Option Text) (transform : Option Transform) (url : Text)
    (session : Session) :
    fetch frontEnd transform url session
      = ((session.arrival (.ofUrl (transformedUrl frontEnd transform url))).outcome
          >>= ofReply (transformedUrl frontEnd transform url),
        session.asking [.ofUrl (transformedUrl frontEnd transform url)]) :=
  Web.reply_lift_apply ..

end Avatar
