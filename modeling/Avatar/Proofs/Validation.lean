import Avatar.Proofs.Identities

/-! # Which DIDs are asked for

    A DID is followed only if it is short enough and spelled the way its
    method demands: the start that names the method, and then at least one
    code point of a small class (`IsStrict`).  The check does not look at a
    line feed at the end, so a DID with one behind it is followed as well;
    everything else is turned away before anything is asked for
    (`asked_for_iff`). -/

namespace Avatar

/-! ## The final line feed -/

namespace Text

theorem withoutFinalNewline_append (s : Text) :
    withoutFinalNewline (s ++ Text.ofString "\n") = s := by
  have hends : endsWith "\n" (s ++ Text.ofString "\n") = true :=
    List.isSuffixOf_iff_suffix.mpr (List.suffix_append s _)
  rw [withoutFinalNewline, withoutEnding, if_pos hends, List.length_append, Nat.add_sub_cancel,
    List.take_left]

/-- A text without line feeds is left as it is. -/
theorem withoutFinalNewline_of_not_mem {s : Text} (h : CodePoint.ofChar '\n' ∉ s) :
    withoutFinalNewline s = s := by
  refine if_neg fun hends => ?_
  obtain ⟨start, hstart⟩ := List.isSuffixOf_iff_suffix.mp hends
  exact h (hstart ▸ List.mem_append_right start List.mem_cons_self)

end Text

namespace Did

/-! ## Spellings -/

/-- A text is a start and then at least one code point of a class, with
    nothing else before or behind. -/
def IsSpelledOut (start : Text) (isPoint : CodePoint → Bool) (s : Text) : Prop :=
  ∃ rest : Text, s = start ++ rest ∧ rest ≠ [] ∧ ∀ c ∈ rest, isPoint c = true

/-- A DID in the exact spelling of one of the two methods. -/
def IsStrict (did : Text) : Prop :=
  IsSpelledOut "did:plc:" isPlcPoint did ∨ IsSpelledOut "did:web:" isHostPoint did

/-- Such a DID with a line feed behind it. -/
def HasLineFeed (did : Text) : Prop :=
  ∃ strict : Text, IsStrict strict ∧ did = strict ++ Text.ofString "\n"

variable {start s did plc : Text} {isPoint : CodePoint → Bool}

theorem not_mem_of_isSpelledOut (hstart : CodePoint.ofChar '\n' ∉ start)
    (hpoint : isPoint (CodePoint.ofChar '\n') = false) (h : IsSpelledOut start isPoint s) :
    CodePoint.ofChar '\n' ∉ s := by
  obtain ⟨rest, rfl, -, hrest⟩ := h
  intro hmem
  rcases List.mem_append.mp hmem with hmem | hmem
  · exact hstart hmem
  · rw [hrest _ hmem] at hpoint
    exact nomatch hpoint

theorem not_mem_of_isStrict (h : IsStrict did) : CodePoint.ofChar '\n' ∉ did := by
  rcases h with hplc | hweb
  · exact not_mem_of_isSpelledOut (by decide) (by decide) hplc
  · exact not_mem_of_isSpelledOut (by decide) (by decide) hweb

theorem HasLineFeed.not_isStrict (h : HasLineFeed did) : ¬ IsStrict did := by
  obtain ⟨strict, -, rfl⟩ := h
  intro hstrict
  exact not_mem_of_isStrict hstrict (List.mem_append_right strict List.mem_cons_self)

/-- The check of a spelling lets a final line feed pass. -/
theorem isSpelled_iff (hstart : CodePoint.ofChar '\n' ∉ start)
    (hpoint : isPoint (CodePoint.ofChar '\n') = false) :
    isSpelled start isPoint s = true ↔
      ∃ strict : Text, IsSpelledOut start isPoint strict
        ∧ (s = strict ∨ s = strict ++ Text.ofString "\n") := by
  have hchecked : isSpelled start isPoint s = true ↔
      IsSpelledOut start isPoint (Text.withoutFinalNewline s) := by
    simp only [isSpelled, IsSpelledOut, ← Text.after?_eq_some_iff]
    cases Text.after? start (Text.withoutFinalNewline s) with
    | none => simp
    | some rest => simp
  rw [hchecked]
  constructor
  · intro h
    exact ⟨_, h, Text.eq_withoutEnding_or "\n" s⟩
  · rintro ⟨strict, hstrict, hs⟩
    have hnewline : CodePoint.ofChar '\n' ∉ strict := not_mem_of_isSpelledOut hstart hpoint hstrict
    rcases hs with rfl | rfl
    · rwa [Text.withoutFinalNewline_of_not_mem hnewline]
    · rwa [Text.withoutFinalNewline_append]

/-! ## The URL of a document -/

/-- A DID that is not too long is followed by its method. -/
theorem documentUrl_of_method (plc method rest : Text) (hlength : did.length ≤ maxLength)
    (hcolon : CodePoint.ofChar ':' ∉ method)
    (hdid : did = Text.ofString "did:" ++ method ++ CodePoint.ofChar ':' :: rest) :
    documentUrl plc did
      = if method = "web" then webDocumentUrl did
        else if method = "plc" then plcDocumentUrl plc did
        else .error (.unsupportedDidMethod method) := by
  have hsplit : Text.splitOn ':' did = Text.ofString "did" :: method :: Text.splitOn ':' rest := by
    rw [hdid]
    show Text.splitOn ':' (Text.ofString "did" ++ CodePoint.ofChar ':'
      :: (method ++ CodePoint.ofChar ':' :: rest)) = _
    rw [Text.splitOn_append_cons (by decide), Text.splitOn_append_cons hcolon]
  rw [documentUrl, if_neg (Nat.not_lt.mpr hlength), hsplit]
  exact if_neg (not_not_intro rfl)

theorem exists_documentUrl_iff_isSpelled :
    (∃ url, documentUrl plc did = .ok url) ↔ did.length ≤ maxLength
      ∧ (isSpelled "did:plc:" isPlcPoint did = true ∨ isSpelled "did:web:" isHostPoint did = true) := by
  constructor
  · rintro ⟨url, h⟩
    obtain ⟨hlength, hweb | hplc⟩ := documentUrl_cases h
    · exact ⟨hlength, .inr (webDocumentUrl_eq_ok_iff.mp hweb).1⟩
    · exact ⟨hlength, .inl (plcDocumentUrl_eq_ok_iff.mp hplc).1⟩
  · rintro ⟨hlength, hspelled | hspelled⟩
    · obtain ⟨rest, hdid, -⟩ := exists_of_isSpelled hspelled
      rw [documentUrl_of_method plc "plc" rest hlength (by decide) hdid]
      exact ⟨_, plcDocumentUrl_eq_ok_iff.mpr ⟨hspelled, rfl⟩⟩
    · obtain ⟨rest, hdid, -⟩ := exists_of_isSpelled hspelled
      rw [documentUrl_of_method plc "web" rest hlength (by decide) hdid]
      exact ⟨_, webDocumentUrl_eq_ok_iff.mpr ⟨hspelled, rfl⟩⟩

theorem exists_documentUrl_iff :
    (∃ url, documentUrl plc did = .ok url)
      ↔ did.length ≤ maxLength ∧ (IsStrict did ∨ HasLineFeed did) := by
  rw [exists_documentUrl_iff_isSpelled, isSpelled_iff (by decide) (by decide),
    isSpelled_iff (by decide) (by decide)]
  refine and_congr_right fun _ => ?_
  constructor
  · rintro (⟨strict, hstrict, rfl | rfl⟩ | ⟨strict, hstrict, rfl | rfl⟩)
    · exact .inl (.inl hstrict)
    · exact .inr ⟨strict, .inl hstrict, rfl⟩
    · exact .inl (.inr hstrict)
    · exact .inr ⟨strict, .inr hstrict, rfl⟩
  · rintro ((hstrict | hstrict) | ⟨strict, hstrict | hstrict, hdid⟩)
    · exact .inl ⟨did, hstrict, .inl rfl⟩
    · exact .inr ⟨did, hstrict, .inl rfl⟩
    · exact .inl ⟨strict, hstrict, .inr hdid⟩
    · exact .inr ⟨strict, hstrict, .inr hdid⟩

/-! ## What is asked for -/

variable {session : Session}

/-- A DID that has a place takes one request. -/
theorem resolve_of_documentUrl {url : Text} (h : documentUrl plc did = .ok url) :
    (resolve plc did session).2 = session.asking [.ofUrl url] := by
  have hlift : (Web.lift (documentUrl plc did)) session = (.ok url, session) :=
    congrArg (Prod.mk · session) h
  rw [resolve, Web.bind_apply_ok hlift, Web.reply_lift_apply]

/-- One that has none is turned away before anything is asked for. -/
theorem resolve_of_no_documentUrl {failure : Failure} (h : documentUrl plc did = .error failure) :
    resolve plc did session = (.error failure, session) := by
  have hlift : (Web.lift (documentUrl plc did)) session = (.error failure, session) :=
    congrArg (Prod.mk · session) h
  rw [resolve, Web.bind_apply_error hlift]

/-- One request is made for a DID of at most 2048 code points in the exact
    spelling of a method or with a line feed behind that; for every other
    text nothing is asked, and there is a failure.  So the DIDs that are
    asked for without being strict are those with the line feed. -/
theorem asked_for_iff (plc did : Text) (session : Session) :
    ((∃ url, (resolve plc did session).2 = session.asking [.ofUrl url])
        ↔ did.length ≤ 2048 ∧ (IsStrict did ∨ HasLineFeed did))
      ∧ ((∃ failure, resolve plc did session = (.error failure, session))
        ↔ ¬ (did.length ≤ 2048 ∧ (IsStrict did ∨ HasLineFeed did)))
      ∧ ((∃ url, (resolve plc did session).2 = session.asking [.ofUrl url])
          ∧ ¬ (did.length ≤ 2048 ∧ IsStrict did)
        ↔ did.length ≤ 2048 ∧ HasLineFeed did) := by
  have hplace : (∃ url, documentUrl plc did = .ok url)
      ↔ did.length ≤ 2048 ∧ (IsStrict did ∨ HasLineFeed did) := exists_documentUrl_iff
  -- a request leaves its trace in the session, so that asking and failing
  -- are told apart by the state alone
  have hasked : (∃ url, (resolve plc did session).2 = session.asking [.ofUrl url])
      ↔ ∃ url, documentUrl plc did = .ok url := by
    cases hurl : documentUrl plc did with
    | ok url => exact iff_of_true ⟨url, resolve_of_documentUrl hurl⟩ ⟨url, rfl⟩
    | error failure =>
        rw [resolve_of_no_documentUrl hurl]
        refine iff_of_false ?_ ?_
        · rintro ⟨url, h⟩
          exact session.asking_ne _ h.symm
        · rintro ⟨url, h⟩
          exact nomatch h
  have hfailed : (∃ failure, resolve plc did session = (.error failure, session))
      ↔ ¬ ∃ url, documentUrl plc did = .ok url := by
    cases hurl : documentUrl plc did with
    | ok url =>
        refine iff_of_false ?_ (not_not_intro ⟨url, rfl⟩)
        rintro ⟨failure, h⟩
        have hafter : (resolve plc did session).2 = session.asking [.ofUrl url] :=
          resolve_of_documentUrl hurl
        rw [h] at hafter
        exact session.asking_ne _ hafter.symm
    | error failure =>
        refine iff_of_true ⟨failure, resolve_of_no_documentUrl hurl⟩ ?_
        rintro ⟨url, h⟩
        exact nomatch h
  refine ⟨hasked.trans hplace, hfailed.trans (not_congr hplace), ?_⟩
  rw [hasked, hplace]
  constructor
  · rintro ⟨⟨hlength, hstrict | hlineFeed⟩, hnot⟩
    · exact absurd ⟨hlength, hstrict⟩ hnot
    · exact ⟨hlength, hlineFeed⟩
  · rintro ⟨hlength, hlineFeed⟩
    exact ⟨⟨hlength, .inr hlineFeed⟩, fun h => hlineFeed.not_isStrict h.2⟩

/-- Not every DID that is asked for is strict. -/
theorem not_every_asked_strict :
    ¬ ∀ (plc did : Text) (session : Session),
      (∃ url, (resolve plc did session).2 = session.asking [.ofUrl url]) →
        did.length ≤ 2048 ∧ IsStrict did := by
  intro h
  have hurl : documentUrl standardPlc "did:plc:abc\n"
      = .ok "https://plc.directory/did:plc:abc\n" := by
    decide +kernel
  have hnewline : CodePoint.ofChar '\n' ∈ Text.ofString "did:plc:abc\n" := by decide
  have hstrict := (h _ _ (.start []) ⟨_, resolve_of_documentUrl hurl⟩).2
  exact not_mem_of_isStrict hstrict hnewline

end Did

end Avatar
