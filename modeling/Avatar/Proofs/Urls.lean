import Avatar.Proofs.Requests

/-! # What a URL tells about a request

    The URL under which an answer is kept comes from the path without its
    dot segments, but the signature and the actor are read off the path as
    it stands.  So on one host a URL determines the *plain* target of a
    request (`plain_eq_of_url_eq`), and with it the query and the size that
    is asked for; it determines the signature and the actor only of
    requests whose first two segments outlast the removal of the dots. -/

namespace Avatar

namespace Target

/-! ## Paths without dot segments -/

/-- Pushing a segment keeps no other one than it and those before. -/
theorem mem_pushSegment {kept : List Text} {segment piece : Text}
    (h : piece ∈ pushSegment kept segment) : piece = segment ∨ piece ∈ kept := by
  rw [pushSegment] at h
  split at h
  · exact .inr (List.mem_of_mem_tail h)
  · split at h
    · exact .inr h
    · exact List.mem_cons.mp h

/-- What is kept was there from the start or is one of the segments. -/
theorem mem_foldl_pushSegment {segments kept : List Text} {piece : Text}
    (h : piece ∈ segments.foldl pushSegment kept) : piece ∈ segments ∨ piece ∈ kept := by
  induction segments generalizing kept with
  | nil => exact .inr h
  | cons segment segments ih =>
      rcases ih h with hmem | hkept
      · exact .inl (List.mem_cons_of_mem segment hmem)
      · rcases mem_pushSegment hkept with rfl | hbefore
        · exact .inl List.mem_cons_self
        · exact .inr hbefore

/-- Removing the dots leaves only segments that were there, and maybe an
    empty one. -/
theorem mem_removeDots {segments : List Text} {piece : Text} (h : piece ∈ removeDots segments) :
    piece = [] ∨ piece ∈ segments := by
  have hkept : piece ∈ segments.foldl pushSegment [] → piece ∈ segments := fun hmem =>
    (mem_foldl_pushSegment hmem).resolve_right List.not_mem_nil
  rw [removeDots, List.mem_reverse] at h
  split at h
  · rcases List.mem_cons.mp h with hempty | hmem
    · exact .inl hempty
    · exact .inr (hkept hmem)
  · exact .inr (hkept h)

/-- A path is its first slash, if it starts with one, and the rest. -/
theorem slash_append_withoutSlash (path : Text) :
    (if Text.startsWith "/" path then Text.ofString "/" else []) ++ withoutSlash path = path := by
  cases hafter : Text.after? "/" path with
  | none =>
      have hslash : ¬ Text.startsWith "/" path = true := by
        intro hstart
        obtain ⟨rest, hrest⟩ := Text.startsWith_iff.mp hstart
        rw [Text.after?_eq_some_iff.mpr hrest] at hafter
        exact nomatch hafter
      rw [if_neg hslash, withoutSlash, hafter]
      rfl
  | some rest =>
      have hrest := Text.after?_eq_some_iff.mp hafter
      rw [if_pos (Text.startsWith_iff.mpr ⟨rest, hrest⟩), withoutSlash, hafter]
      exact hrest.symm

/-- A path without its first slash holds nothing that is not in the
    path. -/
theorem mem_of_mem_withoutSlash {path : Text} {c : CodePoint} (h : c ∈ withoutSlash path) :
    c ∈ path := by
  rw [← slash_append_withoutSlash path]
  exact List.mem_append_right _ h

/-- Removing the dots adds nothing to a path but slashes. -/
theorem mem_of_mem_plainPath {path : Text} {c : CodePoint} (h : c ∈ plainPath path) :
    c = '/' ∨ c ∈ path := by
  rcases List.mem_append.mp h with hstart | hrest
  · split at hstart
    · exact .inl (List.mem_singleton.mp hstart)
    · exact nomatch hstart
  · rcases Text.mem_join hrest with hslash | ⟨piece, hpiece, hc⟩
    · exact .inl hslash
    · rcases mem_removeDots hpiece with rfl | hsegment
      · exact nomatch hc
      · exact .inr (mem_of_mem_withoutSlash (Text.mem_of_mem_splitOn hsegment hc).2)

/-! ## The target that a URL holds -/

/-- A target without the dot segments of its path. -/
def plain (target : Target) : Target := ⟨plainPath target.path, target.query⟩

/-- The path that is read off a request line holds no question mark. -/
theorem not_mem_path_ofText (s : Text) : CodePoint.ofChar '?' ∉ (ofText s).path :=
  Text.not_mem_cut '?' s

/-- The end of a URL, read as a target, is the plain target. -/
theorem ofText_plainText {target : Target} (h : CodePoint.ofChar '?' ∉ target.path) :
    ofText target.plainText = target.plain := by
  have hpath : CodePoint.ofChar '?' ∉ plainPath target.path := by
    intro hmem
    rcases mem_of_mem_plainPath hmem with hslash | hpath
    · exact absurd hslash (by decide)
    · exact h hpath
  rw [ofText, plainText, plain]
  -- the first question mark, if there is one, is the one before the query
  cases hquery : target.query with
  | nil =>
      rw [List.isEmpty_nil, if_pos rfl, List.append_nil, Text.cut_of_not_mem hpath]
      rfl
  | cons c rest =>
      have hcut : Text.cut '?' (plainPath target.path ++ (Text.ofString "?" ++ c :: rest))
          = (plainPath target.path, some (c :: rest)) := Text.cut_append_cons hpath (c :: rest)
      rw [List.isEmpty_cons, if_neg Bool.false_ne_true, hcut]
      rfl

/-! ## What outlasts the removal of the dots -/

/-- The actor that a path names as it stands. -/
def actor? (target : Target) : Option Text := target.signedActor?.map Prod.snd

/-- Whether the signature and the actor outlast the removal of the
    dots. -/
def keepsSignedActor (target : Target) : Bool := target.plain.signedActor? = target.signedActor?

/-- Whether the actor outlasts the removal of the dots. -/
def keepsActor (target : Target) : Bool := target.plain.actor? = target.actor?

/-- The size that is asked for does not depend on the path. -/
theorem isTiny_plain (target : Target) : target.plain.isTiny = target.isTiny := rfl

/-! ## Detours -/

/-- A path that starts with a segment and leaves it again leads to where
    it would lead without. -/
theorem plainPath_detour {path : Text} (h : Text.startsWith "/" path = true) :
    plainPath (Text.ofString "/x/.." ++ path) = plainPath path := by
  obtain ⟨rest, rfl⟩ := Text.startsWith_iff.mp h
  have hsegments : Text.splitOn '/' (withoutSlash (Text.ofString "/x/.." ++ ("/" ++ rest)))
      = Text.ofString "x" :: Text.ofString ".." :: Text.splitOn '/' rest := by
    have hcut : withoutSlash (Text.ofString "/x/.." ++ ("/" ++ rest))
        = Text.ofString "x" ++ CodePoint.ofChar '/' ::
          (Text.ofString ".." ++ CodePoint.ofChar '/' :: rest) := rfl
    rw [hcut, Text.splitOn_append_cons (by decide), Text.splitOn_append_cons (by decide)]
  have hrest : withoutSlash ("/" ++ rest) = rest := rfl
  have hdots (segments : List Text) (hne : segments ≠ []) :
      removeDots (Text.ofString "x" :: Text.ofString ".." :: segments) = removeDots segments := by
    have hlast : (Text.ofString "x" :: Text.ofString ".." :: segments).getLast?
        = segments.getLast? := by
      rw [List.getLast?_cons_of_ne_nil (List.cons_ne_nil _ _), List.getLast?_cons_of_ne_nil hne]
    rw [removeDots, hlast]
    rfl
  rw [plainPath, plainPath, hsegments, hdots _ (Text.splitOn_ne_nil _ _), hrest]
  rfl

end Target

namespace Incoming

/-! ## The host and the target in a URL -/

/-- The normal form of the host of a request. -/
def authority (incoming : Incoming) : Except Failure Text := Authority.normalize incoming.host

/-- A URL is made of the normal form of a host and the plain target. -/
theorem url_eq_ok_iff {incoming : Incoming} {url : Text} :
    incoming.url = .ok url ↔ ∃ authority, incoming.authority = .ok authority
      ∧ url = Text.ofString "http://" ++ authority ++ incoming.asked.plainText := by
  show (incoming.authority.map fun authority => _) = _ ↔ _
  cases incoming.authority with
  | error failure => exact ⟨fun h => (nomatch h), fun ⟨_, h, _⟩ => (nomatch h)⟩
  | ok authority =>
      constructor
      · rintro ⟨⟩
        exact ⟨authority, rfl, rfl⟩
      · rintro ⟨_, ⟨⟩, rfl⟩
        rfl

/-- The end of a URL, read as a target, is the plain target. -/
theorem ofText_plainText (incoming : Incoming) :
    Target.ofText incoming.asked.plainText = incoming.asked.plain :=
  Target.ofText_plainText (Target.not_mem_path_ofText incoming.target)

/-- Requests to one host with one URL are for one target, up to the dot
    segments. -/
theorem plain_eq_of_url_eq {a b : Incoming} {url : Text} (ha : a.url = .ok url)
    (hb : b.url = .ok url) (hsame : a.authority = b.authority) : a.asked.plain = b.asked.plain := by
  obtain ⟨x, hx, hxurl⟩ := url_eq_ok_iff.mp ha
  obtain ⟨y, hy, hyurl⟩ := url_eq_ok_iff.mp hb
  have hxy : x = y := by
    rw [hx, hy] at hsame
    exact Except.ok.inj hsame
  have htext : a.asked.plainText = b.asked.plainText := by
    rw [hxurl, hxy] at hyurl
    exact List.append_cancel_left hyurl
  rw [← ofText_plainText a, ← ofText_plainText b, htext]

/-- The path of a request for an avatar starts with a slash. -/
theorem startsWith_of_isForAvatar {incoming : Incoming} (h : incoming.isForAvatar = true) :
    Text.startsWith "/" incoming.asked.path = true := by
  have hservable := (isForAvatar_iff.mp h).2.2.1
  simp only [Target.isServable, Bool.and_eq_true] at hservable
  exact hservable.1.1

/-! ## Requests by way of a detour -/

/-- The same request, by way of a segment that its path leaves again. -/
def detoured (incoming : Incoming) : Incoming :=
  { incoming with target := Text.ofString "/x/.." ++ incoming.target }

/-- A detour is part of the path. -/
theorem asked_detoured (incoming : Incoming) :
    incoming.detoured.asked
      = ⟨Text.ofString "/x/.." ++ incoming.asked.path, incoming.asked.query⟩ := rfl

/-- A detour leads to the same URL. -/
theorem url_detoured {incoming : Incoming} (h : incoming.isForAvatar = true) :
    incoming.detoured.url = incoming.url := by
  have hplain := Target.plainPath_detour (startsWith_of_isForAvatar h)
  have htext : incoming.detoured.asked.plainText = incoming.asked.plainText := by
    rw [asked_detoured]
    show Target.plainPath (Text.ofString "/x/.." ++ incoming.asked.path) ++ _ = _
    rw [hplain]
    rfl
  show incoming.authority.map (fun authority => Text.ofString "http://" ++ authority
    ++ incoming.detoured.asked.plainText) = _
  rw [htext]
  rfl

/-- A detour is served if the path is. -/
theorem isForAvatar_detoured {incoming : Incoming} (h : incoming.isForAvatar = true) :
    incoming.detoured.isForAvatar = true := by
  obtain ⟨hexpect, hpreflight, hservable, hserved, -⟩ := isForAvatar_iff.mp h
  refine isForAvatar_iff.mpr ⟨hexpect, hpreflight, ?_, hserved, ?_⟩
  · simp only [Target.isServable, Bool.and_eq_true] at hservable ⊢
    exact ⟨⟨rfl, hservable.1.2⟩, hservable.2⟩
  · rw [asked_detoured]
    exact fun hroot => nomatch List.cons.inj hroot

/-- A detour is signed by nobody: its first segment is no signature. -/
theorem isSignedBy_detoured (signer : Signer) (incoming : Incoming) :
    incoming.detoured.isSignedBy signer = false := by
  rw [Bool.eq_false_iff]
  intro hsigned
  obtain ⟨signature, actor, hactor, hverify⟩ := isSignedBy_iff.mp hsigned
  have hfirst : signature = Text.ofString "x" := by
    have hsegments : Text.splitOn '/' (Target.withoutSlash incoming.detoured.asked.path)
        = Text.ofString "x" :: Text.splitOn '/' (Text.ofString ".." ++ incoming.asked.path) :=
      Text.splitOn_append_cons (s := Text.ofString "x") (by decide) _
    rw [Target.signedActor?, hsegments] at hactor
    split at hactor
    · rename_i hsplit
      rw [(List.cons.inj hsplit).1]
      exact (Prod.mk.inj (Option.some.inj hactor)).1.symm
    · cases hactor
  rw [hfirst, Signer.verify] at hverify
  cases hdigest : signer.digest actor with
  | error failure =>
      rw [hdigest] at hverify
      cases hverify
  | ok expected =>
      rw [hdigest] at hverify
      cases hverify

end Incoming

end Avatar
