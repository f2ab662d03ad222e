import Avatar.Proofs.Handles
import Avatar.Proofs.Searches

/-! # The TXT records of a handle

    Each of the answers that come back for a handle is read on its own: it
    holds a DID (`Holds`), or it does not, or it cannot be read at all
    (`Unreadable`).  What they come to together depends on how many hold a
    DID and on whether one cannot be read, and so not on the order in which
    they come (`records_in_any_order`).  The one thing that does is what a
    failure says: it is about the first answer that cannot be read. -/

namespace Avatar.Handle

variable {dns handle did : Text} {session : Session} {answer : Json} {answers shuffled : List Json}
  {failure : Failure}

/-! ## One record -/

/-- The members of a TXT record. -/
def IsTxt (members : List (Text × Json)) : Prop :=
  ∃ type, Json.lookup members "type" = some type ∧ type.isNat 16 = true

/-- The data of a record; one without data has the empty text. -/
def HasData (members : List (Text × Json)) (data : Text) : Prop :=
  Json.lookup members "data" = some (.str data) ∨ Json.lookup members "data" = none ∧ data = []

/-- An object that is no TXT record, or one whose data is a text. -/
def IsReadable (answer : Json) : Prop :=
  ∃ members, answer = .obj members ∧ (IsTxt members → ∃ data, HasData members data)

/-- A text without the double quotes at its two ends. -/
def IsUnquoted (core data : Text) : Prop :=
  ∃ left right : Text, data = left ++ core ++ right
    ∧ (∀ c ∈ left, c = CodePoint.ofChar '"') ∧ (∀ c ∈ right, c = CodePoint.ofChar '"')
    ∧ core.head? ≠ some (CodePoint.ofChar '"') ∧ core.getLast? ≠ some (CodePoint.ofChar '"')

/-- A TXT record whose data is a DID behind `did=`, in quotes or not. -/
def Holds (answer : Json) (did : Text) : Prop :=
  ∃ members data, answer = .obj members ∧ IsTxt members ∧ HasData members data
    ∧ IsUnquoted (Text.ofString "did=" ++ did) data

theorem trim_eq_iff_isUnquoted {core data : Text} :
    data.trim (· = CodePoint.ofChar '"') = core ↔ IsUnquoted core data := by
  have hends (found : Option CodePoint) :
      (∀ c, found = some c → decide (c = CodePoint.ofChar '"') = false)
        ↔ found ≠ some (CodePoint.ofChar '"') := by
    cases found <;> simp
  rw [Text.trim_eq_iff]
  simp only [hends, decide_eq_true_eq]
  exact Iff.rfl

theorem isTxt_iff {members : List (Text × Json)} :
    (Json.lookup members "type").any (·.isNat txtType) = true ↔ IsTxt members := by
  rw [Option.any_eq_true]
  exact Iff.rfl

theorem hasData_iff {members : List (Text × Json)} {data : Text} :
    (Json.lookup members "data").getD (.str []) = .str data ↔ HasData members data := by
  rw [HasData]
  cases Json.lookup members "data" with
  | none => simp [eq_comm]
  | some value => simp

/-- An answer that is no object, or a TXT record whose data is no text, and
    what is said of it. -/
inductive Unreadable : Json → Failure → Prop
  | noObject {answer : Json} (h : ∀ members, answer ≠ .obj members) :
      Unreadable answer (.missingMember answer.kind "get")
  | noText {members : List (Text × Json)} {data : Json} (htxt : IsTxt members)
      (hdata : Json.lookup members "data" = some data) (h : ∀ s, data ≠ .str s) :
      Unreadable (.obj members) (.missingMember data.kind "strip")

theorem exists_unreadable (h : ¬ IsReadable answer) : ∃ failure, Unreadable answer failure := by
  cases answer with
  | obj members =>
      have htxt : IsTxt members := by
        by_contra hnot
        exact h ⟨members, rfl, fun htxt => absurd htxt hnot⟩
      cases hdata : Json.lookup members "data" with
      | none => exact absurd ⟨members, rfl, fun _ => ⟨[], .inr ⟨hdata, rfl⟩⟩⟩ h
      | some data =>
          refine ⟨_, .noText htxt hdata ?_⟩
          rintro s rfl
          exact h ⟨members, rfl, fun _ => ⟨s, .inl hdata⟩⟩
  | _ => exact ⟨_, .noObject fun _ => nofun⟩

theorem recordDid?_of_unreadable (h : Unreadable answer failure) :
    recordDid? answer = .error failure := by
  cases h with
  | noObject h =>
      cases answer with
      | obj members => exact absurd rfl (h members)
      | _ => rfl
  | @noText members data htxt hdata h =>
      rw [recordDid?, if_pos (isTxt_iff.mpr htxt), hdata]
      cases data with
      | str s => exact absurd rfl (h s)
      | _ => rfl

/-- The DID that an answer holds, if it can be read. -/
def heldDid? (answer : Json) : Option Text :=
  match recordDid? answer with
  | .ok did => did
  | .error _ => none

theorem recordDid?_of_isReadable (h : IsReadable answer) :
    recordDid? answer = .ok (heldDid? answer) := by
  obtain ⟨members, rfl, hreadable⟩ := h
  rw [heldDid?, recordDid?]
  by_cases htxt : IsTxt members
  · obtain ⟨data, hdata⟩ := hreadable htxt
    rw [if_pos (isTxt_iff.mpr htxt), hasData_iff.mpr hdata]
  · rw [if_neg (fun h => htxt (isTxt_iff.mp h))]

theorem Unreadable.not_isReadable (h : Unreadable answer failure) : ¬ IsReadable answer := by
  intro hreadable
  have hread := recordDid?_of_isReadable hreadable
  rw [recordDid?_of_unreadable h] at hread
  exact nomatch hread

theorem heldDid?_eq_some_iff : heldDid? answer = some did ↔ Holds answer did := by
  constructor
  · intro h
    by_cases hreadable : IsReadable answer
    · obtain ⟨members, rfl, hdata⟩ := hreadable
      rw [heldDid?, recordDid?] at h
      by_cases htxt : IsTxt members
      · obtain ⟨data, hdata⟩ := hdata htxt
        rw [if_pos (isTxt_iff.mpr htxt), hasData_iff.mpr hdata] at h
        have hunquoted := trim_eq_iff_isUnquoted.mp (Text.after?_eq_some_iff.mp h)
        exact ⟨members, data, rfl, htxt, hdata, hunquoted⟩
      · rw [if_neg (fun h => htxt (isTxt_iff.mp h))] at h
        exact nomatch h
    · obtain ⟨failure, hfailure⟩ := exists_unreadable hreadable
      rw [heldDid?, recordDid?_of_unreadable hfailure] at h
      exact nomatch h
  · rintro ⟨members, data, rfl, htxt, hdata, hunquoted⟩
    rw [heldDid?, recordDid?, if_pos (isTxt_iff.mpr htxt), hasData_iff.mpr hdata]
    exact Text.after?_eq_some_iff.mpr (trim_eq_iff_isUnquoted.mpr hunquoted)

theorem heldDid?_eq_none_iff : heldDid? answer = none ↔ ∀ did, ¬ Holds answer did := by
  rw [Option.eq_none_iff_forall_ne_some]
  simp only [ne_eq, heldDid?_eq_some_iff]

/-! ## All of them -/

theorem recordDids_of_readable (h : ∀ answer ∈ answers, IsReadable answer) :
    recordDids answers = .ok (answers.filterMap heldDid?) := by
  induction answers with
  | nil => rfl
  | cons answer rest ih =>
      obtain ⟨hanswer, hrest⟩ := List.forall_mem_cons.mp h
      rw [recordDids, recordDid?_of_isReadable hanswer, ih hrest, List.filterMap_cons]
      cases heldDid? answer <;> rfl

/-- The first answer that cannot be read, and what is said of it. -/
def FirstUnreadable (answers : List Json) (failure : Failure) : Prop :=
  ∃ earlier answer later, answers = earlier ++ answer :: later ∧ Unreadable answer failure
    ∧ ∀ other ∈ earlier, IsReadable other

theorem firstUnreadable_cons_iff :
    FirstUnreadable (answer :: answers) failure
      ↔ Unreadable answer failure ∨ IsReadable answer ∧ FirstUnreadable answers failure :=
  stops_cons_iff

theorem exists_firstUnreadable (h : ¬ ∀ answer ∈ answers, IsReadable answer) :
    ∃ failure, FirstUnreadable answers failure := by
  induction answers with
  | nil => exact absurd (fun answer hanswer => nomatch hanswer) h
  | cons answer rest ih =>
      simp only [firstUnreadable_cons_iff]
      by_cases hanswer : IsReadable answer
      · obtain ⟨failure, hfailure⟩ := ih fun hrest => h (List.forall_mem_cons.mpr ⟨hanswer, hrest⟩)
        exact ⟨failure, .inr ⟨hanswer, hfailure⟩⟩
      · obtain ⟨failure, hfailure⟩ := exists_unreadable hanswer
        exact ⟨failure, .inl hfailure⟩

theorem FirstUnreadable.not_readable (h : FirstUnreadable answers failure) :
    ¬ ∀ answer ∈ answers, IsReadable answer := by
  obtain ⟨earlier, answer, later, rfl, hanswer, -⟩ := h
  intro hall
  exact hanswer.not_isReadable (hall answer (List.mem_append_right earlier List.mem_cons_self))

/-- What is said of an answer that cannot be read is always that it lacks
    a member. -/
theorem FirstUnreadable.eq_missingMember (h : FirstUnreadable answers failure) :
    ∃ kind name, failure = .missingMember kind name := by
  obtain ⟨_, _, _, _, hanswer, _⟩ := h
  cases hanswer with
  | noObject => exact ⟨_, _, rfl⟩
  | noText => exact ⟨_, _, rfl⟩

theorem recordDids_of_firstUnreadable (h : FirstUnreadable answers failure) :
    recordDids answers = .error failure := by
  induction answers with
  | nil => exact absurd h not_stops_nil
  | cons answer rest ih =>
      rw [recordDids]
      rcases firstUnreadable_cons_iff.mp h with hanswer | ⟨hanswer, hrest⟩
      · rw [recordDid?_of_unreadable hanswer]
        rfl
      · rw [recordDid?_of_isReadable hanswer, ih hrest]
        rfl

theorem onlyDid_of_perm {dids others : List Text} (h : dids.Perm others) :
    onlyDid handle dids = onlyDid handle others := by
  match dids, others with
  | [], others => rw [List.nil_perm.mp h]
  | [did], others => rw [List.singleton_perm.mp h]
  | first :: second :: rest, [] => exact absurd h.length_eq (by simp)
  | first :: second :: rest, [other] => exact absurd h.length_eq (by simp)
  | first :: second :: rest, other :: another :: more => rfl

/-- One answer holds a DID, and no other answer holds any. -/
def HoldOnly (answers : List Json) (did : Text) : Prop :=
  ∃ earlier record later, answers = earlier ++ record :: later ∧ Holds record did
    ∧ ∀ other ∈ earlier ++ later, ∀ did, ¬ Holds other did

/-- Two of the answers hold a DID each. -/
def HoldSeveral (answers : List Json) : Prop :=
  ∃ first second, [first, second].Sublist answers
    ∧ (∃ did, Holds first did) ∧ ∃ did, Holds second did

theorem filterMap_heldDid?_eq_nil_iff :
    answers.filterMap heldDid? = [] ↔ ∀ answer ∈ answers, ∀ did, ¬ Holds answer did := by
  rw [List.filterMap_eq_nil_iff]
  simp only [heldDid?_eq_none_iff]

theorem filterMap_heldDid?_eq_singleton_iff :
    answers.filterMap heldDid? = [did] ↔ HoldOnly answers did := by
  rw [List.filterMap_eq_cons_iff, HoldOnly]
  simp only [List.forall_mem_append, filterMap_heldDid?_eq_nil_iff, heldDid?_eq_none_iff,
    heldDid?_eq_some_iff]
  constructor
  · rintro ⟨earlier, record, later, rfl, hearlier, hrecord, hlater⟩
    exact ⟨earlier, record, later, rfl, hrecord, hearlier, hlater⟩
  · rintro ⟨earlier, record, later, rfl, hrecord, hearlier, hlater⟩
    exact ⟨earlier, record, later, rfl, hearlier, hrecord, hlater⟩

theorem two_le_length_filterMap_iff :
    2 ≤ (answers.filterMap heldDid?).length ↔ HoldSeveral answers := by
  constructor
  · intro h
    match hdids : answers.filterMap heldDid? with
    | [] => simp [hdids] at h
    | [_] => simp [hdids] at h
    | _ :: _ :: _ =>
        obtain ⟨earlier, first, rest, rfl, -, hfirst, hrest⟩ := List.filterMap_eq_cons_iff.mp hdids
        obtain ⟨between, second, later, rfl, -, hsecond, -⟩ := List.filterMap_eq_cons_iff.mp hrest
        refine ⟨first, second, ?_, ⟨_, heldDid?_eq_some_iff.mp hfirst⟩,
          ⟨_, heldDid?_eq_some_iff.mp hsecond⟩⟩
        have hsecond_mem : [second].Sublist (between ++ second :: later) :=
          List.singleton_sublist.mpr (List.mem_append_right between List.mem_cons_self)
        exact (hsecond_mem.cons_cons first).trans (List.sublist_append_right earlier _)
  · rintro ⟨first, second, hsublist, ⟨_, hfirst⟩, ⟨_, hsecond⟩⟩
    have hdids := (hsublist.filterMap heldDid?).length_le
    rw [List.filterMap_cons, heldDid?_eq_some_iff.mpr hfirst, List.filterMap_cons,
      heldDid?_eq_some_iff.mpr hsecond] at hdids
    exact hdids

theorem onlyDid_eq_some_iff {dids : List Text} :
    onlyDid handle dids = .ok (some did) ↔ dids = [did] := by
  match dids with
  | [] => simp [onlyDid]
  | [only] => simp [onlyDid]
  | _ :: _ :: _ => simp [onlyDid]

theorem onlyDid_eq_none_iff {dids : List Text} : onlyDid handle dids = .ok none ↔ dids = [] := by
  match dids with
  | [] => simp [onlyDid]
  | [only] => simp [onlyDid]
  | _ :: _ :: _ => simp [onlyDid]

theorem onlyDid_eq_error_iff {dids : List Text} {failure : Failure} :
    onlyDid handle dids = .error failure ↔ failure = .severalDids handle ∧ 2 ≤ dids.length := by
  match dids with
  | [] => simp [onlyDid]
  | [only] => simp [onlyDid]
  | _ :: _ :: _ => simp [onlyDid, eq_comm]

/-! ## The reply -/

/-- The DNS service replies with success and an object with these
    answers. -/
def AnswersWith (dns handle : Text) (session : Session) (answers : List Json) : Prop :=
  ∃ reply octets members, (session.arrival (dnsRequest dns handle)).outcome = .ok reply
    ∧ reply.isSuccess = true ∧ reply.body = .ok octets
    ∧ Json.parseUtf8 octets = .ok (.obj members)
    ∧ Json.lookup members "Answer" = some (.arr answers)

theorem resolveDns_of_answersWith (h : AnswersWith dns handle session answers) :
    (resolveDns dns handle session).1 = recordDids answers >>= onlyDid handle := by
  obtain ⟨reply, octets, members, hreply, hsuccess, hbody, hparse, hanswers⟩ := h
  have hstatus : reply.status < 400 := by
    have := (reply.isSuccess_iff.mp hsuccess).2
    omega
  have helements : Json.elementsOf "Answer" (.obj members) = .ok answers := by
    rw [Json.elementsOf, hanswers]
    rfl
  rw [resolveDns, Web.reply_lift_apply, hreply]
  show didOfDnsReply handle reply = _
  rw [didOfDnsReply, Reply.bodyUnlessError_eq_ok_iff.mpr ⟨hstatus, hbody⟩]
  show (Json.parseUtf8 octets >>= _) = _
  rw [hparse]
  show (Json.elementsOf "Answer" (.obj members) >>= _) = _
  rw [helements]
  rfl

theorem resolveDns_of_readable (h : AnswersWith dns handle session answers)
    (hreadable : ∀ answer ∈ answers, IsReadable answer) :
    (resolveDns dns handle session).1 = onlyDid handle (answers.filterMap heldDid?) := by
  rw [resolveDns_of_answersWith h, recordDids_of_readable hreadable]
  rfl

theorem resolveDns_of_firstUnreadable (h : AnswersWith dns handle session answers)
    (hfirst : FirstUnreadable answers failure) :
    (resolveDns dns handle session).1 = .error failure := by
  rw [resolveDns_of_answersWith h, recordDids_of_firstUnreadable hfirst]
  rfl

/-- What the answers for a handle come to. -/
structure ComesOf (dns handle : Text) (session : Session) (answers : List Json) : Prop where
  /-- It is the DID of the only answer that holds any. -/
  found : ∀ did, (resolveDns dns handle session).1 = .ok (some did)
    ↔ (∀ answer ∈ answers, IsReadable answer) ∧ HoldOnly answers did
  /-- It is none if there is no such answer. -/
  missing : (resolveDns dns handle session).1 = .ok none
    ↔ ∀ answer ∈ answers, IsReadable answer ∧ ∀ did, ¬ Holds answer did
  /-- It is a failure about the first answer that cannot be read, or one
      that names the handle if several answers hold a DID. -/
  failed : ∀ failure, (resolveDns dns handle session).1 = .error failure
    ↔ FirstUnreadable answers failure
      ∨ (∀ answer ∈ answers, IsReadable answer) ∧ failure = .severalDids handle
        ∧ HoldSeveral answers
  /-- The one says which member which kind of value lacks, and the other
      whose records there are several of. -/
  said : (∀ kind name, (Failure.missingMember kind name).message
      = Text.ofString "'" ++ kind ++ Text.ofString "' object has no attribute '" ++ name
        ++ Text.ofString "'")
    ∧ (Failure.severalDids handle).message
      = Text.ofString "multiple DIDs in _atproto TXT records for " ++ handle

theorem comesOf (h : AnswersWith dns handle session answers) :
    ComesOf dns handle session answers := by
  by_cases hreadable : ∀ answer ∈ answers, IsReadable answer
  · have hnone (failure : Failure) : ¬ FirstUnreadable answers failure :=
      fun hfirst => hfirst.not_readable hreadable
    constructor
    case found =>
      intro did
      rw [resolveDns_of_readable h hreadable, onlyDid_eq_some_iff,
        filterMap_heldDid?_eq_singleton_iff, and_iff_right hreadable]
    case missing =>
      rw [resolveDns_of_readable h hreadable, onlyDid_eq_none_iff, filterMap_heldDid?_eq_nil_iff,
        forall₂_and, and_iff_right hreadable]
    case failed =>
      intro failure
      rw [resolveDns_of_readable h hreadable, onlyDid_eq_error_iff, two_le_length_filterMap_iff,
        or_iff_right (hnone failure), and_iff_right hreadable]
    case said => exact ⟨fun _ _ => rfl, rfl⟩
  · obtain ⟨first, hfirst⟩ := exists_firstUnreadable hreadable
    have houtcome := resolveDns_of_firstUnreadable h hfirst
    constructor
    case found =>
      intro did
      rw [houtcome]
      exact ⟨fun heq => (nomatch heq), fun hall => absurd hall.1 hreadable⟩
    case missing =>
      rw [houtcome]
      exact ⟨fun heq => (nomatch heq),
        fun hall => absurd (fun answer hanswer => (hall answer hanswer).1) hreadable⟩
    case failed =>
      intro failure
      rw [houtcome]
      constructor
      · intro heq
        obtain rfl := Except.error.inj heq
        exact .inl hfirst
      · rintro (hother | ⟨hall, -⟩)
        · rw [← houtcome, resolveDns_of_firstUnreadable h hother]
        · exact absurd hall hreadable
    case said => exact ⟨fun _ _ => rfl, rfl⟩

/-- Two outcomes are the same, but for the words in which a member is said
    to be missing. -/
inductive Alike : Except Failure (Option Text) → Except Failure (Option Text) → Prop
  | same (outcome : Except Failure (Option Text)) : Alike outcome outcome
  | missing (kind name otherKind otherName : Text) :
      Alike (.error (.missingMember kind name)) (.error (.missingMember otherKind otherName))

/-- What the answers for a handle come to in another order. -/
structure ComesAlike (dns handle : Text) (session other : Session)
    (answers shuffled : List Json) : Prop where
  /-- It is the same DID, none, or the same kind of failure. -/
  alike : Alike (resolveDns dns handle session).1 (resolveDns dns handle other).1
  /-- Also the failure says the same, exactly if the first answers that
      cannot be read do not differ in what is said of them. -/
  same_iff : (resolveDns dns handle other).1 = (resolveDns dns handle session).1
    ↔ ∀ failure, FirstUnreadable answers failure ↔ FirstUnreadable shuffled failure

theorem comesAlike {other : Session} (h : AnswersWith dns handle session answers)
    (hother : AnswersWith dns handle other shuffled) (hperm : answers.Perm shuffled) :
    ComesAlike dns handle session other answers shuffled := by
  have hmem : (∀ answer ∈ answers, IsReadable answer) ↔ ∀ answer ∈ shuffled, IsReadable answer := by
    simp only [hperm.mem_iff]
  by_cases hreadable : ∀ answer ∈ answers, IsReadable answer
  · have hsame : (resolveDns dns handle other).1 = (resolveDns dns handle session).1 := by
      rw [resolveDns_of_readable h hreadable, resolveDns_of_readable hother (hmem.mp hreadable)]
      exact (onlyDid_of_perm (hperm.filterMap heldDid?)).symm
    refine ⟨hsame ▸ .same _, fun _ failure => ⟨?_, ?_⟩, fun _ => hsame⟩
    · exact fun hfirst => absurd hreadable hfirst.not_readable
    · exact fun hfirst => absurd (hmem.mp hreadable) hfirst.not_readable
  · -- one answer that cannot be read spoils them all, and the first one is told of
    obtain ⟨first, hfirst⟩ := exists_firstUnreadable hreadable
    obtain ⟨another, hanother⟩ := exists_firstUnreadable (mt hmem.mpr hreadable)
    have houtcome := resolveDns_of_firstUnreadable h hfirst
    have hshuffled := resolveDns_of_firstUnreadable hother hanother
    constructor
    case alike =>
      obtain ⟨kind, name, rfl⟩ := hfirst.eq_missingMember
      obtain ⟨otherKind, otherName, rfl⟩ := hanother.eq_missingMember
      rw [houtcome, hshuffled]
      exact .missing kind name otherKind otherName
    case same_iff =>
      constructor
      · intro hsame failure
        rw [hshuffled, houtcome] at hsame
        obtain rfl := Except.error.inj hsame
        constructor
        · intro h'
          rw [resolveDns_of_firstUnreadable h h'] at houtcome
          exact Except.error.inj houtcome ▸ hanother
        · intro h'
          rw [resolveDns_of_firstUnreadable hother h'] at hshuffled
          exact Except.error.inj hshuffled ▸ hfirst
      · intro hsame
        rw [houtcome, resolveDns_of_firstUnreadable hother ((hsame first).mp hfirst)]

/-- The answers for a handle come to the same in any order, but for what a
    failure says of the first answer that cannot be read. -/
theorem records_in_any_order (h : AnswersWith dns handle session answers) :
    ComesOf dns handle session answers
      ∧ ∀ other shuffled, answers.Perm shuffled → AnswersWith dns handle other shuffled →
        ComesAlike dns handle session other answers shuffled := by
  refine ⟨comesOf h, ?_⟩
  intro other shuffled hperm hother
  exact comesAlike h hother hperm

/-- A TXT record of `a.test` with a DID in quotes. -/
def quotedRecord : Json := .obj [("type", .int 16), ("data", .str "\"did=did:plc:abc\"")]

/-- A record of another type. -/
def foreignRecord : Json := .obj [("type", .int 5), ("data", .str "did=b.test")]

/-- The two records in JSON, without and with the foreign one in front. -/
def recordTexts : Text × Text :=
  let quoted : Text := "\x7b\"type\":16,\"data\":\"\\\"did=did:plc:abc\\\"\"\x7d"
  let foreign : Text := "\x7b\"type\":5,\"data\":\"did=b.test\"\x7d"
  ("\x7b\"Answer\":[" ++ quoted ++ "," ++ foreign ++ "]\x7d",
    "\x7b\"Answer\":[" ++ foreign ++ "," ++ quoted ++ "]\x7d")

/-- A network in which the DNS service replies with a text. -/
def dnsSession (body : Text) : Session := .start [
  ⟨"https://cloudflare-dns.com/dns-query?name=_atproto.a.test&type=TXT", 0,
    .ok ⟨200, [], .ok body.utf8⟩⟩]

theorem dnsSession_answersWith {body : Text}
    (h : Json.parseUtf8 body.utf8 = .ok (.obj [("Answer", .arr answers)])) :
    AnswersWith standardDns "a.test" (dnsSession body) answers := by
  refine ⟨⟨200, [], .ok body.utf8⟩, body.utf8, _, ?_, rfl, rfl, h, rfl⟩
  have hurl : Text.ofString "https://cloudflare-dns.com/dns-query?name=_atproto.a.test&type=TXT"
      = (dnsRequest standardDns "a.test").url := by
    decide +kernel
  rw [dnsSession, Session.arrival_start_singleton hurl]
  rfl

theorem parseUtf8_recordTexts :
    Json.parseUtf8 recordTexts.1.utf8 = .ok (.obj [("Answer", .arr [quotedRecord, foreignRecord])])
      ∧ Json.parseUtf8 recordTexts.2.utf8
        = .ok (.obj [("Answer", .arr [foreignRecord, quotedRecord])]) := by
  decide +kernel

/-- The record is found in front of the foreign one and behind it. -/
theorem quoted_records_in_any_order :
    AnswersWith standardDns "a.test" (dnsSession recordTexts.1) [quotedRecord, foreignRecord]
      ∧ AnswersWith standardDns "a.test" (dnsSession recordTexts.2) [foreignRecord, quotedRecord]
      ∧ (resolveDns standardDns "a.test" (dnsSession recordTexts.2)).1
        = (resolveDns standardDns "a.test" (dnsSession recordTexts.1)).1
      ∧ (resolveDns standardDns "a.test" (dnsSession recordTexts.1)).1
        = .ok (some "did:plc:abc") := by
  have hfirst := dnsSession_answersWith parseUtf8_recordTexts.1
  have hlast := dnsSession_answersWith parseUtf8_recordTexts.2
  obtain ⟨hcomes, halike⟩ := records_in_any_order hfirst
  have hreadable : ∀ answer ∈ [quotedRecord, foreignRecord], IsReadable answer := by
    simp only [List.forall_mem_cons]
    exact ⟨⟨_, rfl, fun _ => ⟨_, .inl rfl⟩⟩, ⟨_, rfl, fun _ => ⟨_, .inl rfl⟩⟩, by simp⟩
  have hswap : [quotedRecord, foreignRecord].Perm [foreignRecord, quotedRecord] :=
    List.Perm.swap ..
  have hsame := (halike _ _ hswap hlast).same_iff.mpr fun failure =>
    ⟨fun hbad => absurd hreadable hbad.not_readable, fun hbad => absurd
      (fun answer hanswer => hreadable answer (hswap.mem_iff.mpr hanswer)) hbad.not_readable⟩
  refine ⟨hfirst, hlast, hsame, ?_⟩
  refine (hcomes.found _).mpr ⟨hreadable, [], quotedRecord, [foreignRecord], rfl, ?_, ?_⟩
  · exact ⟨_, _, rfl, ⟨.int 16, rfl, rfl⟩, .inl rfl, "\"", "\"", rfl, by decide, by decide,
      by decide, by decide⟩
  · rintro other hother did ⟨members, _, hmembers, ⟨type, htype, hnat⟩, -⟩
    obtain rfl := List.mem_singleton.mp hother
    obtain rfl := Json.obj.inj hmembers
    obtain rfl := Option.some.inj htype
    exact nomatch hnat

/-- A number and a text where records should be, in the two orders. -/
def strayTexts : Text × Text := ("\x7b\"Answer\":[1,\"x\"]\x7d", "\x7b\"Answer\":[\"x\",1]\x7d")

theorem parseUtf8_strayTexts :
    Json.parseUtf8 strayTexts.1.utf8 = .ok (.obj [("Answer", .arr [.int 1, .str "x"])])
      ∧ Json.parseUtf8 strayTexts.2.utf8 = .ok (.obj [("Answer", .arr [.str "x", .int 1])]) := by
  decide +kernel

/-- What a failure says may depend on the order of the answers. -/
theorem not_every_order_same :
    ¬ ∀ (dns handle : Text) (session other : Session) (answers shuffled : List Json)
        (failure another : Failure),
      AnswersWith dns handle session answers → answers.Perm shuffled →
        AnswersWith dns handle other shuffled →
          (resolveDns dns handle session).1 = .error failure →
            (resolveDns dns handle other).1 = .error another →
              failure.message = another.message := by
  intro h
  have hnumber := dnsSession_answersWith parseUtf8_strayTexts.1
  have htext := dnsSession_answersWith parseUtf8_strayTexts.2
  have hfirst : FirstUnreadable [.int 1, .str "x"] (.missingMember "int" "get") :=
    firstUnreadable_cons_iff.mpr (.inl (.noObject fun _ => nofun))
  have hother : FirstUnreadable [.str "x", .int 1] (.missingMember "str" "get") :=
    firstUnreadable_cons_iff.mpr (.inl (.noObject fun _ => nofun))
  have hmessage := h _ _ _ _ _ _ _ _ hnumber (List.Perm.swap ..) htext
    (resolveDns_of_firstUnreadable hnumber hfirst) (resolveDns_of_firstUnreadable htext hother)
  exact absurd hmessage (by decide)

end Avatar.Handle
