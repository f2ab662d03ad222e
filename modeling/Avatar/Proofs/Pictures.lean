import Avatar.Proofs.Sources

/-! # How the making of a picture ends

    A picture is made as octets of a type under the service's own
    Cache-Control value, or its image cannot be fetched.  Locating an
    avatar never fails, and no failure passes the status of a success
    on. -/

namespace Avatar

/-- A failure that passes on the status of another server passes on none
    that reports success. -/
def Failure.PassesNoSuccess (failure : Failure) : Prop :=
  ∀ url status, failure = .imageNotFetched url status → isSuccess status = false

/-- A failure that passes no status on at all. -/
def Failure.PassesNoStatus (failure : Failure) : Prop :=
  ∀ url status, failure ≠ .imageNotFetched url status

theorem Failure.PassesNoStatus.passesNoSuccess {failure : Failure} (h : failure.PassesNoStatus) :
    failure.PassesNoSuccess :=
  fun url status heq => absurd heq (h url status)

theorem NetworkFailure.passesNoStatus (failure : NetworkFailure) :
    failure.failure.PassesNoStatus := by
  intro url status h
  cases failure <;> exact nomatch h

/-- A request that is not replied to passes no status on. -/
theorem Session.passesNoStatus_of_arrival {session : Session} {request : Request}
    {failure : Failure} (h : (session.arrival request).outcome = .error failure) :
    failure.PassesNoStatus := by
  rw [arrival] at h
  split at h
  · rename_i route _
    cases houtcome : route.outcome with
    | ok reply =>
        rw [houtcome] at h
        exact nomatch h
    | error cause =>
        rw [houtcome] at h
        obtain rfl := Except.error.inj h
        exact cause.passesNoStatus
  · obtain rfl := Except.error.inj h
    exact fun url status heq => nomatch heq

/-- A body that cannot be read passes no status on. -/
theorem Reply.passesNoStatus_of_read {reply : Reply} {failure : Failure}
    (h : reply.read = .error failure) : failure.PassesNoStatus := by
  rw [read] at h
  cases hbody : reply.body with
  | ok body =>
      rw [hbody] at h
      exact nomatch h
  | error cause =>
      rw [hbody] at h
      obtain rfl := Except.error.inj h
      exact cause.passesNoStatus

/-- The making of a picture ends in octets of a type under the service's
    own Cache-Control value, or in a failure that passes no success on. -/
def IsPictureOutcome (outcome : Except Failure Response) : Prop :=
  (∃ contentType body, outcome = .ok (.ofOctets contentType MaxAge.cacheControl body))
    ∨ ∃ failure, outcome = .error failure ∧ failure.PassesNoSuccess

/-- The image in a reply that reports success is passed on. -/
theorem Image.ofReply_of_isSuccess {reply : Reply} (h : reply.isSuccess = true) (url : Text) :
    Image.ofReply url reply
      = reply.read.map (Response.ofOctets (Image.typeOf reply) MaxAge.cacheControl) :=
  if_pos h

/-- Of any other reply the status is passed on. -/
theorem Image.ofReply_of_not_isSuccess {reply : Reply} (h : reply.isSuccess = false) (url : Text) :
    Image.ofReply url reply = .error (.imageNotFetched url reply.status) :=
  if_neg (Bool.eq_false_iff.mp h)

/-- What an image server's reply is made into. -/
theorem Image.ofReply_outcome (url : Text) (reply : Reply) :
    IsPictureOutcome (Image.ofReply url reply) := by
  cases hsuccess : reply.isSuccess with
  | true =>
      rw [Image.ofReply_of_isSuccess hsuccess]
      cases hread : reply.read with
      | ok body => exact .inl ⟨Image.typeOf reply, body, rfl⟩
      | error failure =>
          exact .inr ⟨failure, rfl, (Reply.passesNoStatus_of_read hread).passesNoSuccess⟩
  | false =>
      rw [Image.ofReply_of_not_isSuccess hsuccess]
      refine .inr ⟨.imageNotFetched url reply.status, rfl, ?_⟩
      rintro _ _ ⟨⟩
      exact hsuccess

/-- What fetching an image ends in. -/
theorem Image.fetch_outcome (frontEnd : Option Text) (transform : Option Image.Transform)
    (url : Text) (session : Session) :
    IsPictureOutcome (Image.fetch frontEnd transform url session).1 := by
  rw [Image.fetch_apply]
  let request := Request.ofUrl (Image.transformedUrl frontEnd transform url)
  cases houtcome : (session.arrival request).outcome with
  | ok reply => exact Image.ofReply_outcome _ reply
  | error failure =>
      exact .inr ⟨failure, rfl, (Session.passesNoStatus_of_arrival houtcome).passesNoSuccess⟩

namespace Service

/-- An avatar is located without a failure, whatever the network does. -/
theorem locate_apply (directory : Directory) (bluesky actor : Text) (session : Session) :
    ∃ found after, Locator.locate directory bluesky actor session = (.ok found, after) := by
  have hserver : ∃ found after,
      Locator.fromDataServer directory actor session = (.ok found, after) :=
    Web.orNone_apply _ session
  obtain ⟨found, after, hserver⟩ := hserver
  rw [Locator.locate, Web.bind_apply_ok hserver]
  -- both places where an avatar may be found swallow their failures
  cases found with
  | some url => exact ⟨some url, after, rfl⟩
  | none => exact Web.orNone_apply _ after

/-- What the making of a picture ends in. -/
theorem picture_outcome (settings : Settings) (actor : Text) (tiny : Bool) (session : Session) :
    IsPictureOutcome (picture settings actor tiny session).1 := by
  obtain ⟨found, after, hlocate⟩ :=
    locate_apply settings.directory settings.bluesky actor session
  rw [picture, Web.bind_apply_ok hlocate]
  cases found with
  | none => exact .inl ⟨_, _, rfl⟩
  | some url => exact Image.fetch_outcome _ _ url after

/-- A failure is not answered as a success. -/
theorem status_failureResponse {actor : Text} {failure : Failure} {response : Response}
    (hpasses : failure.PassesNoSuccess) (h : failureResponse actor failure = .ok response) :
    response.status ≠ 200 := by
  simp only [failureResponse] at h
  split at h
  · rename_i url status
    rw [Response.status_of_ofText h]
    rintro rfl
    exact nomatch hpasses url 200 rfl
  · rw [Response.status_of_ofText h]
    decide

end Service

end Avatar
