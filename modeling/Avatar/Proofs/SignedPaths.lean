import Mathlib.Data.List.Basic
import Avatar.CommandLine
import Avatar.Proofs.Course
import Avatar.Proofs.Signatures

/-! # Paths that are signed on the command line

    The command line prints the path of an actor under its signature, and
    the service reads a path by its segments as they stand.  Neither the
    hexadecimal digits of the signature nor a segment hold a slash or a
    question mark, so that the two are inverse whatever else the actor is
    made of and whatever follows it (`signedActor?_pathOf`).  Two things
    stand between them.  What is printed lacks the control sequences of
    the actor, and the signature is not that of what is left
    (`printed_signedPath`); and a path with a line feed, as it stands or
    escaped, is not served (`isServable_iff`).  Where neither is the case,
    a request for the printed path, with any further segments and any
    query, is let through wherever the cache does not hold its answer, and
    it is for the very actor that was signed that others are asked
    (`printed_path_admitted`). -/

namespace Avatar

namespace Target

variable {signature actor : Text} {extras : List Text}

/-- A text may stand between two slashes of a path. -/
def IsSegment (s : Text) : Prop := ∀ c ∈ s, c ≠ '/' ∧ c ≠ '?' ∧ c ≠ '#'

instance (s : Text) : Decidable (IsSegment s) :=
  inferInstanceAs (Decidable (∀ c ∈ s, c ≠ '/' ∧ c ≠ '?' ∧ c ≠ '#'))

/-- The path of some segments. -/
def pathOf (segments : List Text) : Text := segments.flatMap (CodePoint.ofChar '/' :: ·)

/-- What stands behind a path. -/
def queryPart : Option Text → Text
  | none => []
  | some query => CodePoint.ofChar '?' :: query

theorem isSegment_of_hexDigits (h : ∀ c ∈ signature, ∃ value, value < 16 ∧ c = .hexDigit value) :
    IsSegment signature := by
  have hdigits : ∀ value : Fin 16, CodePoint.hexDigit value ≠ '/'
      ∧ CodePoint.hexDigit value ≠ '?' ∧ CodePoint.hexDigit value ≠ '#' := by
    decide
  intro c hc
  obtain ⟨value, hvalue, rfl⟩ := h c hc
  exact hdigits ⟨value, hvalue⟩

theorem not_mem_pathOf {segments : List Text} (h : ∀ segment ∈ segments, IsSegment segment) :
    CodePoint.ofChar '?' ∉ pathOf segments := by
  intro hmem
  obtain ⟨segment, hsegment, hc⟩ := List.mem_flatMap.mp hmem
  rcases List.mem_cons.mp hc with hslash | hc
  · exact absurd hslash (by decide)
  · exact (h segment hsegment _ hc).2.1 rfl

/-- The query begins at the first question mark, and there is none in the
    path. -/
theorem path_ofText {path : Text} (h : CodePoint.ofChar '?' ∉ path) (query : Option Text) :
    (ofText (path ++ queryPart query)).path = path := by
  cases query with
  | none => rw [queryPart, List.append_nil, ofText, Text.cut_of_not_mem h]
  | some query => rw [queryPart, ofText, Text.cut_append_cons h]

/-- A path gives its first two segments back. -/
theorem signedActor?_pathOf (hsignature : IsSegment signature) (hactor : IsSegment actor)
    (hextras : ∀ extra ∈ extras, IsSegment extra) (query : Option Text) :
    (ofText (pathOf (signature :: actor :: extras) ++ queryPart query)).signedActor?
      = some (signature, actor) := by
  have hnoSlash {segment : Text} (h : IsSegment segment) : CodePoint.ofChar '/' ∉ segment :=
    fun hmem => (h _ hmem).1 rfl
  have hsegments : ∀ segment ∈ signature :: actor :: extras, IsSegment segment :=
    List.forall_mem_cons.mpr ⟨hsignature, List.forall_mem_cons.mpr ⟨hactor, hextras⟩⟩
  have hsplit : Text.splitOn '/' (withoutSlash (pathOf (signature :: actor :: extras)))
      = signature :: actor :: extras := by
    refine Text.splitOn_append_flatMap (hnoSlash hsignature) ?_
    intro segment hmem
    exact hnoSlash (hsegments segment (List.mem_cons_of_mem signature hmem))
  rw [signedActor?, path_ofText (not_mem_pathOf hsegments) query, hsplit]

/-! ## Line feeds -/

/-- A line feed stands in a text, as it is or escaped. -/
def HoldsLineFeed (s : Text) : Prop :=
  CodePoint.ofChar '\n' ∈ s
    ∨ ∃ before after, s.asciiLowercase = before ++ Text.ofString "%0a" ++ after

theorem holdsLineFeed_iff {s : Text} :
    HoldsLineFeed s ↔ Text.hasPart "\n" s = true ∨ Text.hasPart "%0a" s.asciiLowercase = true := by
  have hnewline : Text.hasPart "\n" s = true ↔ CodePoint.ofChar '\n' ∈ s := by
    rw [Text.hasPart_iff, List.mem_iff_append]
    simp only [List.append_assoc]
    exact Iff.rfl
  rw [HoldsLineFeed, hnewline, Text.hasPart_iff]

/-- A path is served unless there is a line feed in it. -/
theorem isServable_iff {target : Target} (h : Text.startsWith "/" target.path = true) :
    target.isServable = true ↔ ¬ HoldsLineFeed target.path := by
  rw [isServable, h, holdsLineFeed_iff, not_or]
  simp only [Bool.true_and, Bool.and_eq_true, Bool.not_eq_true', Bool.not_eq_true]

theorem hasPart_append_pathOf {part : Text} (hpart : part ≠ [])
    (hslash : CodePoint.ofChar '/' ∉ part) (s : Text) (segments : List Text) :
    Text.hasPart part (s ++ pathOf segments) = true
      ↔ Text.hasPart part s = true ∨ ∃ segment ∈ segments, Text.hasPart part segment = true := by
  induction segments generalizing s with
  | nil => simp [pathOf]
  | cons segment segments ih =>
      have hcons : pathOf (segment :: segments)
          = CodePoint.ofChar '/' :: (segment ++ pathOf segments) := rfl
      rw [hcons, Text.hasPart_append_cons hpart hslash, Bool.or_eq_true, ih,
        List.exists_mem_cons_iff]

theorem hasPart_pathOf_iff {part : Text} (hpart : part ≠ [])
    (hslash : CodePoint.ofChar '/' ∉ part) {segments : List Text} :
    Text.hasPart part (pathOf segments) = true
      ↔ ∃ segment ∈ segments, Text.hasPart part segment = true := by
  have hnil : ¬ Text.hasPart part [] = true := mt List.isEmpty_iff.mp hpart
  rw [← List.nil_append (pathOf segments), hasPart_append_pathOf hpart hslash, or_iff_right hnil]

theorem asciiLowercase_pathOf (segments : List Text) :
    (pathOf segments).asciiLowercase = pathOf (segments.map Text.asciiLowercase) := by
  rw [pathOf, pathOf, Text.asciiLowercase, List.map_flatMap, List.flatMap_map]
  rfl

/-- There is a line feed in a path if there is one in a segment. -/
theorem holdsLineFeed_pathOf_iff {segments : List Text} :
    HoldsLineFeed (pathOf segments) ↔ ∃ segment ∈ segments, HoldsLineFeed segment := by
  simp only [holdsLineFeed_iff, asciiLowercase_pathOf]
  rw [hasPart_pathOf_iff (by decide) (by decide), hasPart_pathOf_iff (by decide) (by decide)]
  simp only [List.mem_map, exists_exists_and_eq_and, and_or_left, exists_or]

/-- A path of segments, the first of which has no line feed, is served if
    the others have none. -/
theorem isServable_of_path {target : Target} {segments : List Text}
    (hpath : target.path = pathOf (signature :: segments))
    (hsignature : ¬ HoldsLineFeed signature) :
    target.isServable = true ↔ ∀ segment ∈ segments, ¬ HoldsLineFeed segment := by
  have hslash : Text.startsWith "/" target.path = true := Text.startsWith_iff.mpr ⟨_, hpath⟩
  rw [isServable_iff hslash, hpath, holdsLineFeed_pathOf_iff, List.exists_mem_cons_iff,
    or_iff_right hsignature]
  simp only [not_exists, not_and]

theorem not_holdsLineFeed_of_sign {signer : Signer} (h : signer.sign actor = .ok signature) :
    ¬ HoldsLineFeed signature := by
  have hdigits : ∀ value : Fin 16, CodePoint.hexDigit value ≠ '\n'
      ∧ (CodePoint.hexDigit value).asciiLowercase ≠ '%' := by
    decide
  rintro (hnewline | ⟨before, after, hescaped⟩)
  · obtain ⟨value, hvalue, heq⟩ := Signer.exists_of_mem_sign h hnewline
    exact (hdigits ⟨value, hvalue⟩).1 heq.symm
  · have hpercent : CodePoint.ofChar '%' ∈ signature.asciiLowercase := by
      rw [hescaped]
      exact List.mem_append_left after (List.mem_append_right before List.mem_cons_self)
    obtain ⟨c, hc, heq⟩ := List.mem_map.mp hpercent
    obtain ⟨value, hvalue, rfl⟩ := Signer.exists_of_mem_sign h hc
    exact (hdigits ⟨value, hvalue⟩).2 heq

end Target

/-! ## Requests -/

/-- A GET for a path with further segments behind it, and with or without
    a query. -/
structure Incoming.IsGetFor (incoming : Incoming) (path : Text) (extras : List Text) : Prop where
  get : incoming.method = "GET"
  segments : ∀ extra ∈ extras, Target.IsSegment extra
  target : ∃ query, incoming.target = path ++ Target.pathOf extras ++ Target.queryPart query

namespace Incoming.IsGetFor

open Target

variable {incoming : Incoming} {path signature segment : Text} {extras : List Text}

theorem asked_eq (h : incoming.IsGetFor (pathOf [signature, segment]) extras) :
    ∃ query, incoming.asked
      = .ofText (pathOf (signature :: segment :: extras) ++ queryPart query) := by
  obtain ⟨query, htarget⟩ := h.target
  rw [pathOf, pathOf, ← List.flatMap_append] at htarget
  exact ⟨query, congrArg ofText htarget⟩

theorem path_asked (h : incoming.IsGetFor (pathOf [signature, segment]) extras)
    (hsignature : IsSegment signature) (hsegment : IsSegment segment) :
    incoming.asked.path = pathOf (signature :: segment :: extras) := by
  have hsegments : ∀ piece ∈ signature :: segment :: extras, IsSegment piece :=
    List.forall_mem_cons.mpr ⟨hsignature, List.forall_mem_cons.mpr ⟨hsegment, h.segments⟩⟩
  obtain ⟨query, hasked⟩ := h.asked_eq
  rw [hasked, path_ofText (not_mem_pathOf hsegments)]

theorem signedActor?_asked (h : incoming.IsGetFor (pathOf [signature, segment]) extras)
    (hsignature : IsSegment signature) (hsegment : IsSegment segment) :
    incoming.asked.signedActor? = some (signature, segment) := by
  obtain ⟨query, hasked⟩ := h.asked_eq
  rw [hasked, signedActor?_pathOf hsignature hsegment h.segments]

theorem isPreflight_eq_false (h : incoming.IsGetFor path extras) :
    Cors.isPreflight incoming = false := by
  rw [Cors.isPreflight, Cors.isOptions, h.get]
  rfl

theorem isForAvatar (h : incoming.IsGetFor path extras)
    (hpath : incoming.asked.path = pathOf (signature :: segment :: extras))
    (hexpect : Service.unmetExpectation? incoming = none)
    (hservable : incoming.asked.isServable = true) : incoming.isForAvatar = true := by
  have hserved : Service.isServed incoming.method = true := by
    rw [h.get]
    decide
  have hroot : incoming.asked.path ≠ "/" := by
    intro hroot
    have hlength := congrArg List.length (hpath.symm.trans hroot)
    simp only [pathOf, List.flatMap_cons, List.length_append, List.length_cons] at hlength
    have hone : (Text.ofString "/").length = 1 := rfl
    omega
  exact Incoming.isForAvatar_iff.mpr ⟨hexpect, h.isPreflight_eq_false, hservable, hserved, hroot⟩

end Incoming.IsGetFor

namespace Service

open Target

variable {service : Service} {incoming : Incoming} {url secret actor signature segment : Text}
  {extras : List Text}

/-! ## What is printed -/

theorem output_sign (h : Signer.ofSecret secret = .ok service.signer)
    (hsign : service.signer.sign actor = .ok signature) :
    (CommandLine.Command.sign secret actor).output = .ok ([pathOf [signature, actor]], []) := by
  have hpath : Text.ofString "/" ++ signature ++ Text.ofString "/" ++ actor
      = pathOf [signature, actor] := by
    rw [List.append_assoc, List.append_assoc, pathOf, List.flatMap_cons, List.flatMap_singleton]
    rfl
  have hsigned : CommandLine.signedPath secret actor = .ok (pathOf [signature, actor]) :=
    bind_eq_ok_iff.mpr ⟨service.signer, h, bind_eq_ok_iff.mpr
      ⟨signature, hsign, congrArg Except.ok hpath⟩⟩
  exact bind_eq_ok_iff.mpr ⟨_, hsigned, rfl⟩

/-- The path is printed without the control sequences of the actor; there
    are none in front of it. -/
theorem printed_signedPath {signer : Signer} (h : signer.sign actor = .ok signature) :
    CommandLine.printed (pathOf [signature, actor])
      = pathOf [signature, actor.withoutControlSequences] ++ Text.ofString "\n" := by
  have hstart (last : Text) : pathOf [signature, last]
      = (CodePoint.ofChar '/' :: signature ++ [CodePoint.ofChar '/']) ++ last := by
    simp [pathOf]
  have hescape : CodePoint.ofChar '\x1b'
      ∉ CodePoint.ofChar '/' :: signature ++ [CodePoint.ofChar '/'] := by
    have hdigits : ∀ value : Fin 16, CodePoint.hexDigit value ≠ '\x1b' := by decide
    simp only [List.mem_append, List.mem_cons, List.not_mem_nil, or_false, not_or]
    refine ⟨⟨by decide, fun hmem => ?_⟩, by decide⟩
    obtain ⟨value, hvalue, heq⟩ := Signer.exists_of_mem_sign h hmem
    exact hdigits ⟨value, hvalue⟩ heq.symm
  rw [CommandLine.printed, Text.withoutControlSequences_append_newline, hstart, hstart,
    Text.withoutControlSequences_append hescape]

/-! ## What becomes of a path -/

theorem respond_of_unmet {expectation : Text}
    (h : unmetExpectation? incoming = some expectation) :
    service.respond incoming = (expectationFailed expectation, service) := by
  rw [respond, h]

/-- What cannot be served is not found, and nothing else happens. -/
theorem respond_of_not_isServable (hexpect : unmetExpectation? incoming = none)
    (hpreflight : Cors.isPreflight incoming = false) (h : incoming.asked.isServable = false) :
    ∃ response, service.respond incoming = (.ok response, service) ∧ response.status = 404 := by
  have hroute : service.route incoming = (notFound, service) := by
    rw [route_eq, h]
    rfl
  have hrespond : service.respond incoming = (notFound.map (Cors.allow incoming), service) := by
    rw [respond, hexpect]
    show (if Cors.isPreflight incoming = true then (_ : Except Failure Response × Service)
      else _) = _
    rw [hpreflight, hroute]
    rfl
  rw [hrespond, notFound, Response.ofText_of_encode 404 (Text.encode_ofString _)]
  exact ⟨_, rfl, rfl⟩

/-- The cache is asked for every avatar whose URL has a form to ask for;
    without one the request fails, and nothing else happens. -/
theorem hits_or_misses (hfor : incoming.isForAvatar = true) :
    (∃ row, service.Hits incoming row) ∨ (∃ url, service.Misses incoming url)
      ∨ ∃ failure, (incoming.url >>= Text.encode) = .error failure
        ∧ service.respond incoming = (.error failure, service) := by
  obtain ⟨answer, last, hrespond, hhandled⟩ := service.respond_handled hfor
  cases hhandled with
  | unlocated hurl => exact .inr (.inr ⟨_, congrArg (· >>= Text.encode) hurl, hrespond⟩)
  | unencodable hurl hencode =>
      exact .inr (.inr ⟨_, (congrArg (· >>= Text.encode) hurl).trans hencode, hrespond⟩)
  | hit hhit => exact .inl ⟨_, hhit⟩
  | badUrl hmiss => exact .inr (.inl ⟨_, hmiss⟩)
  | unverifiable hmiss => exact .inr (.inl ⟨_, hmiss⟩)
  | forged hmiss => exact .inr (.inl ⟨_, hmiss⟩)
  | failed hadmits => exact .inr (.inl ⟨_, hadmits.misses⟩)
  | unkept hadmits => exact .inr (.inl ⟨_, hadmits.misses⟩)
  | kept hadmits => exact .inr (.inl ⟨_, hadmits.misses⟩)

/-- What becomes of a GET for a path that starts with the signature of an
    actor and some segment. -/
structure Follows (service : Service) (incoming : Incoming) (signature actor segment : Text)
    (extras : List Text) : Prop where
  /-- The path names the signature and the segment. -/
  named : incoming.asked.signedActor? = some (signature, segment)
  /-- Who expects something that is not known is told so. -/
  unmet : ∀ expectation, unmetExpectation? incoming = some expectation →
    service.respond incoming = (expectationFailed expectation, service)
  /-- A path with a line feed behind the signature is not found, and
      nothing else happens. -/
  lost : unmetExpectation? incoming = none →
    (∃ piece ∈ segment :: extras, HoldsLineFeed piece) →
      ∃ response, service.respond incoming = (.ok response, service) ∧ response.status = 404
  /-- Every other path is one for an avatar, and the cache is asked unless
      the URL has no form to ask for. -/
  asked : unmetExpectation? incoming = none →
    (∀ piece ∈ segment :: extras, ¬ HoldsLineFeed piece) → incoming.isForAvatar = true
      ∧ ((∃ row, service.Hits incoming row) ∨ (∃ url, service.Misses incoming url)
        ∨ ∃ failure, (incoming.url >>= Text.encode) = .error failure
          ∧ service.respond incoming = (.error failure, service))
  /-- If the cache does not hold the answer, the actor is let through
      exactly if the segment is the actor. -/
  admits_iff : ∀ url, service.Misses incoming url →
    (service.Admits incoming url actor ↔ segment = actor)
  /-- Then it is the actor that is looked up, and for whom others are
      asked. -/
  course : ∀ url, service.Misses incoming url → segment = actor →
    ∃ onServer found middle last, service.Course incoming actor onServer found middle last
  /-- A segment with another signature is refused. -/
  forged : ∀ url, service.Misses incoming url → service.signer.sign segment ≠ .ok signature →
    service.respond incoming
      = (.ok (refusal incoming 403 "Invalid signature"), service.missed url)

theorem follows (hget : incoming.IsGetFor (pathOf [signature, segment]) extras)
    (hsign : service.signer.sign actor = .ok signature) (hsegment : IsSegment segment)
    (hencode : ∃ octets, segment.encode = .ok octets) :
    service.Follows incoming signature actor segment extras := by
  have hsignature : IsSegment signature :=
    isSegment_of_hexDigits fun c hc => Signer.exists_of_mem_sign hsign hc
  have hpath := hget.path_asked hsignature hsegment
  have hnamed := hget.signedActor?_asked hsignature hsegment
  have hservable := isServable_of_path hpath (not_holdsLineFeed_of_sign hsign)
  have hadmits {url : Text} (hmiss : service.Misses incoming url) (hsame : segment = actor) :
      service.Admits incoming url actor :=
    ⟨hmiss, signature, hsame ▸ hnamed, Signer.verify_sign hsign⟩
  constructor
  case named => exact hnamed
  case unmet =>
    intro expectation hexpect
    exact respond_of_unmet hexpect
  case lost =>
    rintro hexpect ⟨piece, hpiece, hholds⟩
    have hlost : incoming.asked.isServable = false :=
      Bool.eq_false_iff.mpr fun hserved => hservable.mp hserved piece hpiece hholds
    exact respond_of_not_isServable hexpect hget.isPreflight_eq_false hlost
  case asked =>
    intro hexpect hnone
    have hfor := hget.isForAvatar hpath hexpect (hservable.mpr hnone)
    exact ⟨hfor, hits_or_misses hfor⟩
  case admits_iff =>
    intro url hmiss
    constructor
    · rintro ⟨-, other, hother, -⟩
      rw [hnamed] at hother
      exact (Prod.mk.inj (Option.some.inj hother)).2
    · exact hadmits hmiss
  case course =>
    intro url hmiss hsame
    obtain ⟨onServer, found, middle, last, hlocates⟩ := exists_locates service actor
    exact ⟨onServer, found, middle, last, hlocates.course (hadmits hmiss hsame)⟩
  case forged =>
    intro url hmiss hother
    exact respond_of_forged hmiss hencode hnamed (Signer.verify_ne_of_sign_ne hsign hencode hother)

theorem isSegment_withoutControlSequences (h : IsSegment actor) :
    IsSegment actor.withoutControlSequences :=
  fun c hc => h c ((Text.withoutControlSequences_sublist actor).mem hc)

theorem encode_withoutControlSequences (h : ∃ octets, actor.encode = .ok octets) :
    ∃ octets, actor.withoutControlSequences.encode = .ok octets :=
  Text.encode_iff.mpr fun c hc =>
    Text.encode_iff.mp h c ((Text.withoutControlSequences_sublist actor).mem hc)

/-- The command line prints a path for every actor that can be encoded,
    without the control sequences that the actor holds.  On a service that
    has the same secret, whatever state it is in, a GET for that path is
    let through for that actor, with any further segments and any query, if
    the actor holds no control sequence and no line feed follows the
    signature. -/
theorem printed_path_admitted (hsecret : Signer.ofSecret secret = .ok service.signer)
    (hencode : ∃ octets, actor.encode = .ok octets) (hactor : IsSegment actor) :
    ∃ signature path, service.signer.sign actor = .ok signature
      ∧ (CommandLine.Command.sign secret actor).output = .ok ([path], [])
      ∧ path = pathOf [signature, actor]
      ∧ CommandLine.printed path
        = pathOf [signature, actor.withoutControlSequences] ++ Text.ofString "\n"
      ∧ (actor.withoutControlSequences = actor ↔ ¬ actor.HoldsControlSequence)
      ∧ (∀ extras incoming, incoming.IsGetFor path extras →
        service.Follows incoming signature actor actor extras)
      ∧ ∀ line extras incoming, CommandLine.printed path = line ++ Text.ofString "\n" →
        incoming.IsGetFor line extras →
          service.Follows incoming signature actor actor.withoutControlSequences extras := by
  obtain ⟨signature, hsign⟩ := service.signer.exists_sign hencode
  refine ⟨signature, _, hsign, output_sign hsecret hsign, rfl, printed_signedPath hsign,
    Text.withoutControlSequences_eq_self_iff, ?_, ?_⟩
  · intro extras incoming hget
    exact follows hget hsign hactor hencode
  · intro line extras incoming hprinted hget
    rw [printed_signedPath hsign] at hprinted
    obtain rfl := List.append_cancel_right hprinted
    exact follows hget hsign (isSegment_withoutControlSequences hactor)
      (encode_withoutControlSequences hencode)

/-- A path is asked for with nothing behind it. -/
theorem isGetFor_self (path host : Text) (headers : List (Text × Text)) :
    Incoming.IsGetFor ⟨"GET", path, host, headers⟩ path [] where
  get := rfl
  segments := fun extra hextra => nomatch hextra
  target := ⟨none, by rw [pathOf, queryPart, List.flatMap_nil, List.append_nil, List.append_nil]⟩

theorem ofSecret_lonely : Signer.ofSecret "s" = .ok lonely.signer := by decide +kernel

/-- The signature of the actor `..`, who leads elsewhere in a path. -/
def climbingSignature : Text := "a5121b2fd6cba787c18d48c0d406030b976f11e17833ca9d653d5fd1c3f3cdd1"

/-- A request for the avatar of the actor `..`. -/
def climbingRequest : Incoming where
  method := "GET"
  target := pathOf [climbingSignature, ".."] ++ Text.ofString "/x?size=tiny"
  host := "h"
  headers := []

/-- The lonely service asks for the actor `..` all the same. -/
theorem lonely_printed_path_admitted :
    Signer.ofSecret "s" = .ok lonely.signer
      ∧ (CommandLine.Command.sign "s" "..").output
        = .ok ([pathOf [climbingSignature, ".."]], [])
      ∧ CommandLine.printed (pathOf [climbingSignature, ".."])
        = pathOf [climbingSignature, ".."] ++ Text.ofString "\n"
      ∧ climbingRequest.isForAvatar = true
      ∧ lonely.Misses climbingRequest "http://h/x?size=tiny"
      ∧ lonely.Admits climbingRequest "http://h/x?size=tiny" ".."
      ∧ ∃ onServer found middle last,
        lonely.Course climbingRequest ".." onServer found middle last := by
  have hactor : IsSegment ".." := by decide
  have hsign : lonely.signer.sign ".." = .ok climbingSignature := by decide +kernel
  have hmiss : lonely.Misses climbingRequest "http://h/x?size=tiny" :=
    ⟨by decide +kernel, by decide +kernel, by decide +kernel⟩
  have hkept : Text.withoutControlSequences ".." = Text.ofString ".." :=
    Text.withoutControlSequences_of_not_mem (by decide)
  obtain ⟨signature, path, hsigned, houtput, rfl, hprinted, -, -, hfollows⟩ :=
    printed_path_admitted ofSecret_lonely ⟨_, rfl⟩ hactor
  obtain rfl : climbingSignature = signature := Except.ok.inj (hsign.symm.trans hsigned)
  rw [hkept] at hprinted hfollows
  have hfollow := hfollows _ [Text.ofString "x"] climbingRequest hprinted
    ⟨rfl, by decide, some "size=tiny", by decide +kernel⟩
  refine ⟨ofSecret_lonely, houtput, hprinted, (hfollow.asked rfl ?_).1, hmiss, ?_, ?_⟩
  · simp only [List.forall_mem_cons, holdsLineFeed_iff]
    decide
  · exact (hfollow.admits_iff _ hmiss).mpr rfl
  · exact hfollow.course _ hmiss rfl

/-- The signature of the actor `alice` in red. -/
def redSignature : Text := "c0009cdcc65a3c0524809464191f535313a38b5ff0f5765d03fa1bf11bde7515"

/-- A request for what is printed for that actor. -/
def redRequest : Incoming := ⟨"GET", pathOf [redSignature, "alice"], "h", []⟩

/-- The signature of an actor with an escaped line feed. -/
def brokenSignature : Text := "4e782886b6e70b9ca56a70ab01fbb220fac39f8b5f8916c91328417621ac5379"

/-- A request for that actor. -/
def brokenRequest : Incoming := ⟨"GET", pathOf [brokenSignature, "a%0Ab"], "h", []⟩

/-- Not for every actor is the printed path let through where the cache
    does not hold the answer, and not every path that is printed as it is
    leads to a look-up or an answer from the cache. -/
theorem not_every_printed_path_admitted :
    (¬ ∀ (service : Service) (secret actor path line url : Text) (incoming : Incoming),
      Signer.ofSecret secret = .ok service.signer → (∃ octets, actor.encode = .ok octets) →
        IsSegment actor → (CommandLine.Command.sign secret actor).output = .ok ([path], []) →
          CommandLine.printed path = line ++ Text.ofString "\n" → incoming.IsGetFor line [] →
            service.Misses incoming url → service.Admits incoming url actor)
      ∧ ¬ ∀ (service : Service) (secret actor path : Text) (incoming : Incoming),
        Signer.ofSecret secret = .ok service.signer → (∃ octets, actor.encode = .ok octets) →
          IsSegment actor → (CommandLine.Command.sign secret actor).output = .ok ([path], []) →
            CommandLine.printed path = path ++ Text.ofString "\n" → incoming.IsGetFor path [] →
              (∀ row, ¬ service.Hits incoming row) →
                (service.step (.request incoming)).1.lookups = [actor] := by
  constructor
  · intro h
    have hsign : lonely.signer.sign "\x1b[31malice" = .ok redSignature := by decide +kernel
    have hsequence : Text.afterControlSequence? "\x1b[31malice" = some (Text.ofString "alice") := by
      decide
    have hprinted := printed_signedPath hsign
    rw [Text.withoutControlSequences_of_some hsequence,
      Text.withoutControlSequences_of_not_mem (by decide)] at hprinted
    have hmiss : lonely.Misses redRequest
        "http://h/c0009cdcc65a3c0524809464191f535313a38b5ff0f5765d03fa1bf11bde7515/alice" :=
      ⟨by decide +kernel, by decide +kernel, by decide +kernel⟩
    obtain ⟨-, signature, hactor, -⟩ := h lonely "s" _ _ _ _ redRequest ofSecret_lonely ⟨_, rfl⟩
      (by decide) (output_sign ofSecret_lonely hsign) hprinted (isGetFor_self ..) hmiss
    have hnamed : redRequest.asked.actor? = some (Text.ofString "\x1b[31malice") := by
      rw [actor?, hactor]
      rfl
    exact absurd hnamed (by decide +kernel)
  · intro h
    have hsign : lonely.signer.sign "a%0Ab" = .ok brokenSignature := by decide +kernel
    have hprinted := printed_signedPath hsign
    rw [Text.withoutControlSequences_of_not_mem (by decide)] at hprinted
    have hfor : brokenRequest.isForAvatar = false := by decide +kernel
    have hlookups := h lonely "s" _ _ brokenRequest ofSecret_lonely ⟨_, rfl⟩ (by decide)
      (output_sign ofSecret_lonely hsign) hprinted (isGetFor_self ..)
      fun row hhit => Bool.false_ne_true (hfor.symm.trans hhit.isForAvatar)
    exact absurd hlookups (by decide +kernel)

end Service

end Avatar
