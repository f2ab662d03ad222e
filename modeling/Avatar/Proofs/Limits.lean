import Avatar.Proofs.Handles

/-! # What the size limits let through

    Two kinds of bodies are read up to a limit.  A DID document is refused
    once it reaches its limit, so whatever is accepted was read to its end
    (`Did.documentOf_eq_ok_iff`).  The well-known file of a handle is cut
    at its limit and read as if it ended there.  A DID that is found in
    this way is the one in the whole file exactly if nothing but white
    space was cut off (`Handle.cut_short_iff`).  All this is about bodies
    that are delivered whole; where one comes in pieces, the single read of
    a well-known file may end before its limit. -/

namespace Avatar

/-! ## White space around a text -/

namespace Text

variable {p : CodePoint → Bool} {left : Text} {c : CodePoint}

/-- A text ends in a code point outside of a class only if nothing of the
    class stands at its end. -/
theorem concat_eq_append_iff {core right shared : Text} {last : CodePoint}
    (hright : ∀ d ∈ right, p d = true) (hlast : p last = false) (hcore : core ≠ []) :
    shared ++ [last] = left ++ c :: core ++ right
      ↔ right = [] ∧ ∃ init, core = init ++ [last] ∧ shared = left ++ c :: init := by
  constructor
  · intro h
    have hnil : right = [] := by
      by_cases hne : right = []
      · exact hne
      · rw [← List.dropLast_concat_getLast hne, ← List.append_assoc] at h
        obtain ⟨-, hends⟩ := List.append_inj' h rfl
        have hclass := hright _ (List.getLast_mem hne)
        rw [← (List.cons.inj hends).1, hlast] at hclass
        exact nomatch hclass
    rw [hnil, List.append_nil, ← List.dropLast_concat_getLast hcore, ← List.cons_append,
      ← List.append_assoc] at h
    obtain ⟨hshared, hends⟩ := List.append_inj' h rfl
    refine ⟨hnil, core.dropLast, ?_, hshared⟩
    rw [(List.cons.inj hends).1, List.dropLast_concat_getLast]
  · rintro ⟨rfl, init, rfl, rfl⟩
    simp

end Text

/-! ## Well-known files -/

namespace Handle

variable {handle did : Text} {session : Session} {octets : Bytes} {n : Nat}

/-- The text of a well-known file. -/
def fileText (octets : Bytes) : Text := (Utf8.decodeLossy octets).trimBlanks

/-- The well-known file of a handle comes back, delivered whole, with
    these octets. -/
def FileArrives (handle : Text) (session : Session) (octets : Bytes) : Prop :=
  ∃ reply, (session.arrival (wellKnownRequest handle)).outcome = .ok reply
    ∧ reply.isSuccess = true ∧ reply.body = .ok octets

/-- Behind its first octets a file goes on with nothing but white space. -/
def IsBlankAfter (n : Nat) (octets : Bytes) : Prop :=
  ∃ blanks, Utf8.decodeLossy octets = Utf8.decodeLossy (octets.take n) ++ blanks
    ∧ ∀ c ∈ blanks, c.isBlank = true

theorem FileArrives.unique {other : Bytes} (h : FileArrives handle session octets)
    (hother : FileArrives handle session other) : octets = other := by
  obtain ⟨reply, hreply, -, hbody⟩ := h
  obtain ⟨reply', hreply', -, hbody'⟩ := hother
  obtain rfl : reply = reply' := Except.ok.inj (hreply.symm.trans hreply')
  exact Except.ok.inj (hbody.symm.trans hbody')

theorem resolveWellKnown_eq_some_iff :
    (resolveWellKnown handle session).1 = .ok (some did)
      ↔ ∃ octets, FileArrives handle session octets ∧ Text.startsWith "did:" did = true
        ∧ fileText (octets.take wellKnownLimit) = did := by
  rw [resolveWellKnown, Web.reply_lift_apply]
  constructor
  · intro h
    obtain ⟨reply, hreply, hread⟩ := bind_eq_ok_iff.mp h
    obtain ⟨hsuccess, octets, hbody, hstarts, htext⟩ := didOfWellKnownReply_eq_some_iff.mp hread
    exact ⟨octets, ⟨reply, hreply, hsuccess, hbody⟩, hstarts, htext⟩
  · rintro ⟨octets, ⟨reply, hreply, hsuccess, hbody⟩, hstarts, htext⟩
    refine bind_eq_ok_iff.mpr ⟨reply, hreply, ?_⟩
    exact didOfWellKnownReply_eq_some_iff.mpr ⟨hsuccess, octets, hbody, hstarts, htext⟩

/-- A sequence that the limit cuts in two is given up with U+FFFD, which
    is no white space; so it counts as cut off only if the whole file has
    U+FFFD there as well. -/
theorem fileText_eq_iff (hstarts : Text.startsWith "did:" did = true)
    (htext : fileText (octets.take n) = did) :
    fileText octets = did ↔ IsBlankAfter n octets := by
  obtain ⟨left, right, hbefore, hleft, hright, hfirst, hlast⟩ := Text.trim_eq_iff.mp htext
  constructor
  · intro hwhole
    obtain ⟨left', right', hafter, hleft', hright', -, -⟩ := Text.trim_eq_iff.mp hwhole
    obtain ⟨name, hdid⟩ := Text.startsWith_iff.mp hstarts
    obtain ⟨core, hcore, rfl⟩ : ∃ core : Text, core ≠ [] ∧ did = CodePoint.ofChar 'd' :: core :=
      ⟨Text.ofString "id:" ++ name, List.cons_ne_nil _ _, hdid⟩
    have hd : (CodePoint.ofChar 'd').isBlank = false := by decide
    have hreplacement : CodePoint.replacement.isBlank = false := by decide
    have hcases := Utf8.decodeLossy_append_cases (octets.take n) (octets.drop n)
    rw [List.take_append_drop] at hcases
    rcases hcases with ⟨more, hmore⟩ | ⟨shared, more, hshared, hmore⟩
    · refine ⟨more, hmore, ?_⟩
      rw [hmore, hbefore] at hafter
      simp only [List.append_assoc, List.cons_append] at hafter
      obtain ⟨-, hsame⟩ := Text.append_cons_inj hleft hleft' hd hafter
      have hright_more : right ++ more = right' := List.append_cancel_left hsame
      intro c hc
      exact hright' c (hright_more ▸ List.mem_append_right right hc)
    · rw [hshared, Text.concat_eq_append_iff hright hreplacement hcore] at hbefore
      obtain ⟨-, init, rfl, rfl⟩ := hbefore
      rw [hmore] at hafter
      simp only [List.append_assoc, List.cons_append] at hafter
      obtain ⟨-, hsame⟩ := Text.append_cons_inj hleft hleft' hd hafter
      have hmore_right : more = [CodePoint.replacement] ++ right' := List.append_cancel_left hsame
      refine ⟨right', ?_, hright'⟩
      rw [hmore, hshared, hmore_right, ← List.append_assoc]
  · rintro ⟨blanks, hblanks, hall⟩
    refine Text.trim_eq_iff.mpr ⟨left, right ++ blanks, ?_, hleft, ?_, hfirst, hlast⟩
    · rw [hblanks, hbefore, List.append_assoc]
    · exact List.forall_mem_append.mpr ⟨hright, hall⟩

end Handle

/-! ## Documents -/

/-- A document that reaches the limit is refused, and any other is read
    from the whole body. -/
theorem Did.documentOf_eq_ok_iff {limit : Nat} {reply : Reply} {document : Json} :
    documentOf limit reply = .ok document
      ↔ reply.status < 400 ∧ ∃ octets, reply.body = .ok octets ∧ octets.length < limit
        ∧ Json.parseBytes octets = .ok document := by
  rw [documentOf, bind_eq_ok_iff]
  constructor
  · rintro ⟨octets, hoctets, hparse⟩
    obtain ⟨hstatus, hbody⟩ := Reply.bodyUnlessError_eq_ok_iff.mp hoctets
    split at hparse
    · exact nomatch hparse
    · rename_i hlimit
      exact ⟨hstatus, octets, hbody, Nat.not_le.mp hlimit, hparse⟩
  · rintro ⟨hstatus, octets, hbody, hlimit, hparse⟩
    refine ⟨octets, Reply.bodyUnlessError_eq_ok_iff.mpr ⟨hstatus, hbody⟩, ?_⟩
    rw [if_neg (Nat.not_le.mpr hlimit)]
    exact hparse

namespace Handle

/-- Of bodies that are delivered whole: a well-known file gives a DID that
    is not the one in the whole file exactly if more than its first 4096
    octets arrive, these hold the DID, and something other than white space
    comes after them.  A document is accepted only if it is below its limit
    and read to its end. -/
theorem cut_short_iff (handle did : Text) (session : Session) (limit : Nat) (reply : Reply)
    (document : Json) :
    ((resolveWellKnown handle session).1 = .ok (some did)
        ∧ ¬ (∃ octets, FileArrives handle session octets ∧ fileText octets = did)
      ↔ ∃ octets, FileArrives handle session octets ∧ 4096 < octets.length
        ∧ Text.startsWith "did:" did = true ∧ fileText (octets.take 4096) = did
        ∧ ¬ IsBlankAfter 4096 octets)
      ∧ (Did.documentOf limit reply = .ok document
        ↔ reply.status < 400 ∧ ∃ octets, reply.body = .ok octets ∧ octets.length < limit
          ∧ Json.parseBytes octets = .ok document) := by
  refine ⟨?_, Did.documentOf_eq_ok_iff⟩
  rw [resolveWellKnown_eq_some_iff]
  constructor
  · rintro ⟨⟨octets, harrives, hstarts, htext⟩, hnot⟩
    have hcut : ¬ fileText octets = did := fun hwhole => hnot ⟨octets, harrives, hwhole⟩
    refine ⟨octets, harrives, ?_, hstarts, htext, ?_⟩
    · -- a file within the limit is its own beginning
      refine Nat.lt_of_not_le fun hle : octets.length ≤ wellKnownLimit => hcut ?_
      rw [← htext, List.take_of_length_le hle]
    · exact fun hblank => hcut ((fileText_eq_iff hstarts htext).mpr hblank)
  · rintro ⟨octets, harrives, -, hstarts, htext, hblank⟩
    refine ⟨⟨octets, harrives, hstarts, htext⟩, ?_⟩
    rintro ⟨other, hother, hwhole⟩
    obtain rfl := harrives.unique hother
    exact hblank ((fileText_eq_iff hstarts htext).mp hwhole)

/-- A network in which `a.test` has a file with these octets. -/
def fileSession (octets : Bytes) : Session := .start [
  ⟨"https://a.test/.well-known/atproto-did", 0, .ok ⟨200, [], .ok octets⟩⟩]

theorem fileSession_arrives (octets : Bytes) :
    FileArrives "a.test" (fileSession octets) octets := by
  refine ⟨⟨200, [], .ok octets⟩, ?_, rfl, rfl⟩
  have hurl : Text.ofString "https://a.test/.well-known/atproto-did"
      = (wellKnownRequest "a.test").url := by
    decide +kernel
  rw [fileSession, Session.arrival_start_singleton hurl]
  rfl

/-- A DID and white space up to the limit. -/
def paddedDid : Bytes := Text.utf8 "did:plc:abc" ++ List.replicate 4085 0x20

theorem decodeLossy_paddedDid (more : Bytes) (h : ∀ b ∈ more, b < 0x80) :
    Utf8.decodeLossy (paddedDid ++ more) = Text.ofString "did:plc:abc"
      ++ List.replicate 4085 (CodePoint.ofNat 0x20)
      ++ more.map fun b => CodePoint.ofNat b.toNat := by
  have hdid : ∀ b ∈ Text.utf8 "did:plc:abc", b < 0x80 := by decide +kernel
  have hspaces : ∀ b ∈ List.replicate 4085 (0x20 : UInt8), b < 0x80 := by
    intro b hb
    rw [List.eq_of_mem_replicate hb]
    decide
  have hascii : ∀ b ∈ paddedDid ++ more, b < 0x80 :=
    List.forall_mem_append.mpr ⟨List.forall_mem_append.mpr ⟨hdid, hspaces⟩, h⟩
  rw [Utf8.decodeLossy_ascii hascii, paddedDid, List.map_append, List.map_append,
    List.map_replicate]
  rfl

theorem fileText_paddedDid : fileText paddedDid = "did:plc:abc" := by
  have hdecoded := decodeLossy_paddedDid [] (by simp)
  rw [List.append_nil, List.map_nil, List.append_nil] at hdecoded
  refine Text.trim_eq_iff.mpr ⟨[], _, hdecoded, by simp, ?_, by decide, by decide⟩
  intro c hc
  rw [List.eq_of_mem_replicate hc]
  decide

theorem take_paddedDid (more : Bytes) : (paddedDid ++ more).take 4096 = paddedDid := by
  refine List.take_left' ?_
  rw [paddedDid, List.length_append, List.length_replicate]
  rfl

/-- Not every DID is the one in the whole file. -/
theorem not_every_file_whole :
    ¬ ∀ (handle did : Text) (session : Session),
      (resolveWellKnown handle session).1 = .ok (some did) →
        ∃ octets, FileArrives handle session octets ∧ fileText octets = did := by
  intro h
  -- the letter behind the white space is beyond the limit
  have harrives := fileSession_arrives (paddedDid ++ [0x78])
  have htext : fileText ((paddedDid ++ [0x78]).take 4096) = "did:plc:abc" := by
    rw [take_paddedDid, fileText_paddedDid]
  have hfound := resolveWellKnown_eq_some_iff.mpr ⟨_, harrives, by decide, htext⟩
  obtain ⟨octets, hother, hwhole⟩ := h _ _ _ hfound
  obtain rfl := hother.unique harrives
  obtain ⟨blanks, hblanks, hall⟩ := (fileText_eq_iff (by decide) htext).mp hwhole
  rw [take_paddedDid, decodeLossy_paddedDid [0x78] (by decide +kernel),
    ← List.append_nil paddedDid, decodeLossy_paddedDid [] (by simp), List.map_nil,
    List.append_nil] at hblanks
  rw [← List.append_cancel_left hblanks] at hall
  exact absurd (hall (CodePoint.ofNat 0x78) (by decide)) (by decide)

end Handle

end Avatar
