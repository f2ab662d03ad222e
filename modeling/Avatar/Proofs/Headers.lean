import Avatar.Proofs.Provenance

/-! # Which answers carry the security headers

    The headers that keep a browser from running an answer are put on what
    a route makes: the banner, and whatever a request for an avatar ends
    in.  Answers that are given before a route is taken go out without
    them: to a preflight, to another method, to a path that is not served,
    and to an expectation that is not known (`secured_iff_routed`). -/

namespace Avatar

namespace Response

variable {name value other : Text} {response : Response}

theorem header?_append_of_none (h : response.header? name = none) (headers : List (Text × Text)) :
    { response with headers := response.headers ++ headers }.header? name
      = headers.lookup name := by
  rw [header?] at h ⊢
  rw [List.lookup_append, h, Option.none_or]

theorem header?_setDefault_self (h : response.header? name = none) (value : Text) :
    (response.setDefault name value).header? name = some value := by
  rw [setDefault, h]
  exact (header?_append_of_none h _).trans List.lookup_cons_self

theorem header?_setDefault_of_ne (h : response.header? name = none) (hne : name ≠ other)
    (value : Text) : (response.setDefault other value).header? name = none := by
  rw [setDefault]
  split
  · exact h
  · rw [header?_append_of_none h, List.lookup_cons, beq_eq_false_iff_ne.mpr hne]
    rfl

/-- An answer carries both headers. -/
structure IsSecured (response : Response) : Prop where
  options : response.header? "x-content-type-options" = some "nosniff"
  policy : response.header? "content-security-policy" = some "default-src 'none'; sandbox"

/-- An answer carries neither header. -/
structure IsUnsecured (response : Response) : Prop where
  options : response.header? "x-content-type-options" = none
  policy : response.header? "content-security-policy" = none

theorem IsUnsecured.not_isSecured (h : IsUnsecured response) : ¬ IsSecured response := by
  intro hsecured
  have hoptions := hsecured.options
  rw [h.options] at hoptions
  exact nomatch hoptions

theorem IsUnsecured.setDefault (h : IsUnsecured response)
    (hoptions : Text.ofString "x-content-type-options" ≠ name)
    (hpolicy : Text.ofString "content-security-policy" ≠ name) (value : Text) :
    IsUnsecured (response.setDefault name value) :=
  ⟨header?_setDefault_of_ne h.options hoptions value,
    header?_setDefault_of_ne h.policy hpolicy value⟩

theorem isUnsecured_ofOctets (contentType cacheControl : Text) (bytes : Bytes) :
    IsUnsecured (ofOctets contentType cacheControl bytes) := ⟨rfl, rfl⟩

theorem isUnsecured_of_ofText {status : Nat} {text : Text}
    (h : ofText status text = .ok response) : IsUnsecured response := by
  obtain ⟨bytes, -, rfl⟩ := map_eq_ok_iff.mp h
  exact ⟨rfl, rfl⟩

end Response

/-- What other origins are told has other names than these headers. -/
theorem Cors.lookup_headers {name : Text} (incoming : Incoming)
    (horigin : name ≠ "access-control-allow-origin") (hoptions : optionHeaders.lookup name = none) :
    (headers incoming).lookup name = none := by
  rw [headers]
  cases origin? incoming with
  | none => rfl
  | some origin =>
      show List.lookup name (_ :: if isOptions incoming then optionHeaders else []) = none
      rw [List.lookup_cons, beq_eq_false_iff_ne.mpr horigin]
      show List.lookup name (if isOptions incoming then optionHeaders else []) = none
      split
      · exact hoptions
      · rfl

theorem Response.IsUnsecured.allow {response : Response} (h : response.IsUnsecured)
    (incoming : Incoming) : (Cors.allow incoming response).IsUnsecured where
  options := (header?_append_of_none h.options _).trans
    (Cors.lookup_headers incoming (by decide) (by decide))
  policy := (header?_append_of_none h.policy _).trans
    (Cors.lookup_headers incoming (by decide) (by decide))

namespace Service

open Response

variable {service last : Service} {incoming : Incoming} {response : Response}
  {answer : Except Failure Response}

theorem isSecured_finish (h : response.IsUnsecured) (incoming : Incoming) :
    (finish incoming response).IsSecured := by
  have hoptions := header?_setDefault_self h.options "nosniff"
  have hpolicy : (response.setDefault "x-content-type-options" "nosniff").header?
      "content-security-policy" = none := header?_setDefault_of_ne h.policy (by decide) _
  constructor
  · exact header?_append (header?_setDefault hoptions _ _) _
  · exact header?_append (header?_setDefault_self hpolicy _) _

/-! ## Answers that a route makes -/

theorem isUnsecured_failureResponse {actor : Text} {failure : Failure}
    (h : failureResponse actor failure = .ok response) : response.IsUnsecured := by
  simp only [failureResponse] at h
  split at h
  · exact isUnsecured_of_ofText h
  · exact isUnsecured_of_ofText h

theorem Handled.isUnsecured (h : Handled service incoming answer last)
    (hanswer : answer = .ok response) : response.IsUnsecured := by
  -- the headers come when the answer is finished; before that a row has them as little as a text
  cases h with
  | unlocated => exact nomatch hanswer
  | unencodable => exact nomatch hanswer
  | hit =>
      obtain rfl := Except.ok.inj hanswer
      exact isUnsecured_ofOctets _ _ _
  | badUrl => exact isUnsecured_of_ofText hanswer
  | unverifiable => exact nomatch hanswer
  | forged => exact isUnsecured_of_ofText hanswer
  | failed => exact isUnsecured_failureResponse hanswer
  | unkept => exact isUnsecured_failureResponse hanswer
  | kept =>
      obtain rfl := Except.ok.inj hanswer
      exact isUnsecured_ofOctets _ _ _

end Service

/-- Whether a route is taken for a request. -/
def Incoming.isRouted (incoming : Incoming) : Bool :=
  (Service.unmetExpectation? incoming).isNone && !Cors.isPreflight incoming
    && incoming.asked.isServable && Service.isServed incoming.method

namespace Service

open Response

variable {service : Service} {incoming : Incoming} {response : Response} {failure : Failure}

theorem isForAvatar_eq (incoming : Incoming) :
    incoming.isForAvatar = (incoming.isRouted && decide (incoming.asked.path ≠ "/")) := rfl

theorem encode_banner : ∃ octets, banner.encode = .ok octets :=
  Text.encode_append_iff.mpr ⟨Text.encode_append_iff.mpr
    ⟨Text.encode_map_ofChar _, Text.encode_map_ofChar _⟩, Text.encode_map_ofChar _⟩

theorem respond_of_root (service : Service) (hrouted : incoming.isRouted = true)
    (hroot : incoming.asked.path = "/") :
    (service.respond incoming).1 = (Response.ofText 200 banner).map (finish incoming) := by
  simp only [Incoming.isRouted, Bool.and_eq_true, Bool.not_eq_true', Option.isNone_iff_eq_none]
    at hrouted
  obtain ⟨⟨⟨hexpect, hpreflight⟩, hservable⟩, hserved⟩ := hrouted
  have hroute : service.route incoming = ((Response.ofText 200 banner).map secure, service) := by
    rw [route_eq, hservable, hserved, if_pos hroot]
    rfl
  rw [respond, hexpect]
  show (if Cors.isPreflight incoming = true then (_ : Except Failure Response × Service)
    else _).1 = _
  rw [hpreflight, hroute]
  cases Response.ofText 200 banner <;> rfl

theorem isSecured_of_isRouted (hrouted : incoming.isRouted = true)
    (h : (service.respond incoming).1 = .ok response) : response.IsSecured := by
  by_cases hroot : incoming.asked.path = "/"
  · rw [respond_of_root service hrouted hroot] at h
    obtain ⟨made, hmade, rfl⟩ := map_eq_ok_iff.mp h
    exact isSecured_finish (isUnsecured_of_ofText hmade) incoming
  · have hfor : incoming.isForAvatar = true := by
      rw [isForAvatar_eq, hrouted, Bool.true_and, decide_eq_true_iff]
      exact hroot
    obtain ⟨answer, last, hrespond, hhandled⟩ := respond_handled service hfor
    rw [hrespond] at h
    obtain ⟨made, hmade, rfl⟩ := map_eq_ok_iff.mp h
    exact isSecured_finish (hhandled.isUnsecured hmade) incoming

/-! ## Answers without a route -/

/-- Without a route a request is turned away or told of others, and who
    expects something unknown is told so before anything else. -/
theorem respond_of_not_isRouted (service : Service) (hrouted : incoming.isRouted = false) :
    (∃ expectation, unmetExpectation? incoming = some expectation
        ∧ (service.respond incoming).1 = expectationFailed expectation)
      ∨ (service.respond incoming).1 = .ok (Cors.preflight incoming)
      ∨ (service.respond incoming).1 = notFound.map (Cors.allow incoming)
      ∨ (service.respond incoming).1 = methodNotAllowed.map (Cors.allow incoming) := by
  rw [respond]
  cases hexpect : unmetExpectation? incoming with
  | some expectation => exact .inl ⟨expectation, rfl, rfl⟩
  | none =>
      right
      cases hpreflight : Cors.isPreflight incoming with
      | true => exact .inl rfl
      | false =>
          right
          show (service.route incoming).1.map (Cors.allow incoming) = _
            ∨ (service.route incoming).1.map (Cors.allow incoming) = _
          rw [route_eq]
          cases hservable : incoming.asked.isServable with
          | false => exact .inl rfl
          | true =>
              cases hserved : isServed incoming.method with
              | false => exact .inr rfl
              | true =>
                  -- otherwise a route would have been taken
                  rw [Incoming.isRouted, hexpect, hpreflight, hservable, hserved] at hrouted
                  cases hrouted

theorem isUnsecured_methodNotAllowed (h : methodNotAllowed = .ok response) :
    response.IsUnsecured := by
  rw [methodNotAllowed, bind_eq_ok_iff] at h
  obtain ⟨made, hmade, hallow⟩ := h
  obtain rfl := Except.ok.inj hallow
  exact (isUnsecured_of_ofText hmade).setDefault (by decide) (by decide) _

theorem isUnsecured_preflight (incoming : Incoming) : (Cors.preflight incoming).IsUnsecured := by
  rw [Cors.preflight]
  split
  · exact ⟨rfl, rfl⟩
  · have hplain : IsUnsecured ⟨200, [("content-type", textType)], .octets []⟩ := ⟨rfl, rfl⟩
    exact hplain.allow incoming

theorem isUnsecured_of_not_isRouted (hrouted : incoming.isRouted = false)
    (h : (service.respond incoming).1 = .ok response) : response.IsUnsecured := by
  -- who is turned away is still told what other origins may do
  have hturned {answer : Except Failure Response}
      (hplain : ∀ made, answer = .ok made → made.IsUnsecured)
      (hanswer : answer.map (Cors.allow incoming) = .ok response) : response.IsUnsecured := by
    obtain ⟨made, hmade, rfl⟩ := map_eq_ok_iff.mp hanswer
    exact (hplain made hmade).allow incoming
  rcases respond_of_not_isRouted service hrouted with
    ⟨expectation, -, hfailed⟩ | hpreflight | hnone | hmethod
  · rw [hfailed] at h
    exact isUnsecured_of_ofText h
  · rw [hpreflight] at h
    obtain rfl := Except.ok.inj h
    exact isUnsecured_preflight incoming
  · rw [hnone] at h
    exact hturned (fun made hmade => isUnsecured_of_ofText hmade) h
  · rw [hmethod] at h
    exact hturned (fun made hmade => isUnsecured_methodNotAllowed hmade) h

/-- Only a request for an avatar, or one that expects something that cannot
    be repeated to it, goes without an answer. -/
theorem unanswered_cases {failure : Failure} (h : (service.respond incoming).1 = .error failure) :
    incoming.isForAvatar = true ∨ ∃ expectation, unmetExpectation? incoming = some expectation
      ∧ ∀ octets, expectation.encode ≠ .ok octets := by
  cases hrouted : incoming.isRouted with
  | true =>
      by_cases hroot : incoming.asked.path = "/"
      · rw [respond_of_root service hrouted hroot,
          Response.ofText_of_encode 200 encode_banner] at h
        exact nomatch h
      · left
        rw [isForAvatar_eq, hrouted, Bool.true_and, decide_eq_true_iff]
        exact hroot
  | false =>
      rcases respond_of_not_isRouted service hrouted with
        ⟨expectation, hexpect, hfailed⟩ | hpreflight | hnone | hmethod
      · refine .inr ⟨expectation, hexpect, ?_⟩
        intro octets hencode
        rw [hfailed, expectationFailed, Response.ofText_of_encode 417
          (Text.encode_append_iff.mpr ⟨⟨_, rfl⟩, ⟨octets, hencode⟩⟩)] at h
        exact nomatch h
      · rw [hpreflight] at h
        exact nomatch h
      · rw [hnone] at h
        exact nomatch h
      · rw [hmethod] at h
        exact nomatch h

/-- Which answers to a request are secured. -/
structure SecuresRouted (service : Service) (incoming : Incoming) : Prop where
  secured_iff : ∀ response, (service.respond incoming).1 = .ok response →
    (response.IsSecured ↔ incoming.isRouted = true)
  unsecured_iff : ∀ response, (service.respond incoming).1 = .ok response →
    (response.IsUnsecured ↔ incoming.isRouted = false)
  /-- Only a request for an avatar, or one that expects something that
      cannot be repeated to it, goes without an answer. -/
  unanswered : ∀ failure, (service.respond incoming).1 = .error failure →
    incoming.isForAvatar = true ∨ ∃ expectation, unmetExpectation? incoming = some expectation
      ∧ ∀ octets, expectation.encode ≠ .ok octets

/-- In every state an answer carries the security headers exactly if a
    route was taken for its request, and neither of them otherwise. -/
theorem secured_iff_routed (service : Service) (incoming : Incoming) :
    service.SecuresRouted incoming := by
  constructor
  case secured_iff =>
    intro response h
    cases hrouted : incoming.isRouted with
    | true => simp [isSecured_of_isRouted hrouted h]
    | false => simp [(isUnsecured_of_not_isRouted hrouted h).not_isSecured]
  case unsecured_iff =>
    intro response h
    cases hrouted : incoming.isRouted with
    | true =>
        have hnot : ¬ response.IsUnsecured := by
          intro hbare
          exact hbare.not_isSecured (isSecured_of_isRouted hrouted h)
        simp [hnot]
    | false => simp [isUnsecured_of_not_isRouted hrouted h]
  case unanswered =>
    intro failure h
    exact unanswered_cases h

theorem lonely_secured_iff_routed :
    ∃ response, ((lonely.after [.request signedRequest]).respond signedRequest).1 = .ok response
      ∧ (response.IsSecured ↔ signedRequest.isRouted = true) := by
  have hrepeats := congrArg Prod.fst (respond_of_hits lonely_hits)
  exact ⟨_, hrepeats, (secured_iff_routed _ _).secured_iff _ hrepeats⟩

/-- A request for the banner by a method that is not served. -/
def posted : Incoming := ⟨"POST", "/", "h", []⟩

theorem not_every_answer_secured :
    ¬ ∀ (service : Service) (incoming : Incoming) (response : Response),
      (service.respond incoming).1 = .ok response → response.IsSecured := by
  intro h
  obtain ⟨response, hresponse⟩ : ∃ response, (lonely.respond posted).1 = .ok response := ⟨_, rfl⟩
  have hrouted : posted.isRouted = false := by decide +kernel
  exact (isUnsecured_of_not_isRouted hrouted hresponse).not_isSecured (h _ _ _ hresponse)

end Service

end Avatar
