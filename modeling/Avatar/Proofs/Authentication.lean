import Avatar.Proofs.Provenance
import Avatar.Proofs.Urls

/-! # Who is let through

    The cache is asked before the signature is looked at.  That would be
    harmless if a URL determined the signature and the actor of a request,
    but the URL is made without the dot segments of a path that is split
    with them.  So an unsigned request succeeds exactly when an earlier
    signed one kept an answer under its URL, and on one host that takes a
    detour of the one or the other (`unsigned_succeeds_iff`).  An answer
    from the cache may also have been made for another actor; of two
    requests one of which keeps its actor without the dots, both name the
    same one exactly if both keep it (`hit_actor`). -/

namespace Avatar

namespace Incoming

/-- Requests to one host with one URL that both keep their signature and
    actor without the dots have the same ones. -/
theorem signedActor?_eq_of_keeps {a b : Incoming} {url : Text} (haurl : a.url = .ok url)
    (hburl : b.url = .ok url) (hsame : a.authority = b.authority)
    (ha : a.asked.keepsSignedActor = true) (hb : b.asked.keepsSignedActor = true) :
    a.asked.signedActor? = b.asked.signedActor? := by
  simp only [Target.keepsSignedActor, decide_eq_true_eq] at ha hb
  rw [← ha, ← hb, plain_eq_of_url_eq haurl hburl hsame]

/-- A signature is checked against nothing but the first two segments. -/
theorem isSignedBy_congr {a b : Incoming} (h : a.asked.signedActor? = b.asked.signedActor?)
    (signer : Signer) : a.isSignedBy signer = b.isSignedBy signer := by
  simp only [isSignedBy, h]

end Incoming

namespace Service

/-! ## Detours -/

/-- A detour of the request that the lonely service was sent before is
    answered by the same row. -/
theorem lonely_hits_detoured :
    (lonely.after [.request signedRequest]).Hits signedRequest.detoured placeholderRow :=
  lonely_hits.of_url_eq (Incoming.isForAvatar_detoured lonely_hits.isForAvatar)
    (Incoming.url_detoured lonely_hits.isForAvatar)

/-! ## Unsigned requests -/

/-- The request that stored a row is signed under the secret of then. -/
theorem Stores.isSignedBy {service : Service} {maker : Incoming} {actor : Text} {row : Row}
    (h : service.Stores maker actor row) : maker.isSignedBy service.signer = true := by
  obtain ⟨signature, hactor, hverify⟩ := h.admits.signed
  exact Incoming.isSignedBy_iff.mpr ⟨signature, actor, hactor, hverify⟩

/-- The requests before another one of a run keep its secret as well. -/
theorem KeepsSecret.before {service : Service} {events before between : List Event}
    {maker : Incoming} (h : service.KeepsSecret events)
    (hsplit : events = before ++ .request maker :: between) : service.KeepsSecret before := by
  intro secret hmem
  exact h secret (hsplit ▸ List.mem_append_left _ hmem)

/-- Requests alone bring no secret. -/
theorem lonely_keepsSecret : lonely.KeepsSecret [.request signedRequest] := by
  intro secret hmem
  exact nomatch List.mem_singleton.mp hmem

/-- Under one secret an unsigned request succeeds exactly if the cache
    holds an answer under its URL that an earlier, signed request was
    given.  If both were to one host, that takes a path whose first two
    segments do not outlast the removal of the dots. -/
theorem unsigned_succeeds_iff {start : Service} (hempty : start.cache.rows = [])
    {events : List Event} (hkeeps : start.KeepsSecret events) {incoming : Incoming}
    (hunsigned : incoming.isSignedBy start.signer = false) :
    (∃ response, (start.after events).Succeeds incoming response) ↔
      ∃ before maker actor between row, start.StoredBy events row before maker actor between
        ∧ (start.after events).Hits incoming row
        ∧ maker.isSignedBy start.signer = true
        ∧ (maker.authority = incoming.authority →
          ¬ (maker.asked.keepsSignedActor = true ∧ incoming.asked.keepsSignedActor = true)) := by
  constructor
  · rintro ⟨response, hsucceeds⟩
    obtain ⟨row, hkeptrow⟩ := keeps_of_succeeds hsucceeds
    rcases hkeptrow.origin with hhit | ⟨actor, hstores⟩
    · obtain ⟨before, maker, actor, between, hstored⟩ := provenance hempty hhit.mem_rows
      have hsigned : maker.isSignedBy start.signer = true := by
        rw [← signer_after (hkeeps.before hstored.split)]
        exact hstored.stores.isSignedBy
      refine ⟨before, maker, actor, between, row, hstored, hhit, hsigned, ?_⟩
      rintro hsame ⟨hmaker, hincoming⟩
      -- both keep their first two segments, so both are signed alike
      have hactors := Incoming.signedActor?_eq_of_keeps hstored.stores.admits.misses.located
        hhit.located hsame hmaker hincoming
      rw [Incoming.isSignedBy_congr hactors, hunsigned] at hsigned
      exact nomatch hsigned
    · -- an answer that is made now is made for a signed request
      have hsigned := hstores.isSignedBy
      rw [signer_after hkeeps, hunsigned] at hsigned
      exact nomatch hsigned
  · rintro ⟨before, maker, actor, between, row, -, hhit, -, -⟩
    refine ⟨finish incoming row.response, hhit.isForAvatar, ?_, status_finish _ _⟩
    rw [respond_of_hits hhit]

/-- The detour to the placeholder of the actor `a` succeeds, unsigned as
    it is, for the reason that is given. -/
theorem lonely_unsigned_succeeds :
    lonely.cache.rows = [] ∧ lonely.KeepsSecret [.request signedRequest]
      ∧ signedRequest.detoured.isSignedBy lonely.signer = false
      ∧ ((∃ response, (lonely.after [.request signedRequest]).Succeeds
            signedRequest.detoured response) ↔
          ∃ before maker actor between row,
            lonely.StoredBy [.request signedRequest] row before maker actor between
            ∧ (lonely.after [.request signedRequest]).Hits signedRequest.detoured row
            ∧ maker.isSignedBy lonely.signer = true
            ∧ (maker.authority = signedRequest.detoured.authority →
              ¬ (maker.asked.keepsSignedActor = true
                ∧ signedRequest.detoured.asked.keepsSignedActor = true))) :=
  ⟨rfl, lonely_keepsSecret, Incoming.isSignedBy_detoured _ _,
    unsigned_succeeds_iff rfl lonely_keepsSecret (Incoming.isSignedBy_detoured _ _)⟩

/-- Not every success is signed for: the detour is not. -/
theorem not_every_success_signed :
    ¬ ∀ (start : Service) (events : List Event) (incoming : Incoming) (response : Response),
      start.cache.rows = [] → start.KeepsSecret events →
        (start.after events).Succeeds incoming response →
          incoming.isSignedBy start.signer = true := by
  intro h
  have hanswered := respond_of_hits lonely_hits_detoured
  have hsigned := h lonely [.request signedRequest] signedRequest.detoured _ rfl lonely_keepsSecret
    ⟨lonely_hits_detoured.isForAvatar, by rw [hanswered], status_finish _ _⟩
  rw [Incoming.isSignedBy_detoured] at hsigned
  exact nomatch hsigned

/-! ## Answers made for another actor -/

/-- The request that stored a row names the actor that its picture was
    made for. -/
theorem Stores.actor? {service : Service} {maker : Incoming} {actor : Text} {row : Row}
    (h : service.Stores maker actor row) : maker.asked.actor? = some actor := by
  obtain ⟨signature, hactor, -⟩ := h.admits.signed
  rw [Target.actor?, hactor]
  rfl

/-- A request for the avatar of the actor `b`, signed as such, whose path
    leads on to that of the actor `a`. -/
def misleadingRequest : Incoming where
  method := "GET"
  target := Text.ofString
    "/27e6af74a061a5f40d6d0176376ae333768e477fdf1d1d756828aaf1192fd664/b/../.."
      ++ signedRequest.target
  host := "h"
  headers := []

/-- The row that keeps the placeholder of the actor `b` under the URL of
    the actor `a`. -/
def misplacedRow : Row :=
  { placeholderRow with body := (Placeholder.svg "b" Placeholder.size).utf8 }

/-- The misleading request stores the misplaced row. -/
theorem lonely_cache_after_misleadingRequest :
    (lonely.after [.request misleadingRequest]).cache = ⟨.memory, 1, [misplacedRow], 0, 1⟩ := by
  decide +kernel

/-- The misplaced row answers the request for the actor `a`. -/
theorem lonely_hits_misplacedRow :
    (lonely.after [.request misleadingRequest]).Hits signedRequest misplacedRow :=
  lonely_hits_of_cache lonely_cache_after_misleadingRequest rfl rfl

/-- An answer from the cache shows the picture that an earlier request
    with the same URL was given for its own actor and size.  If both were
    to one host, the size is the one that is asked for now, and the two
    actors become the same without the dots; so if either request keeps
    its actor, they name the same one exactly if both keep it. -/
theorem hit_actor {start : Service} (hempty : start.cache.rows = []) {events : List Event}
    {incoming : Incoming} {row : Row} (hhit : (start.after events).Hits incoming row) :
    ∃ before maker actor between, start.StoredBy events row before maker actor between
      ∧ maker.url = incoming.url
      ∧ maker.asked.actor? = some actor
      ∧ ((start.after before).pictureFor maker actor).1 = .ok row.response
      ∧ ((start.after events).respond incoming).1 = .ok (finish incoming row.response)
      ∧ (maker.authority = incoming.authority →
        incoming.asked.isTiny = maker.asked.isTiny
          ∧ incoming.asked.plain.actor? = maker.asked.plain.actor?
          ∧ (maker.asked.keepsActor = true ∨ incoming.asked.keepsActor = true →
            (incoming.asked.actor? = some actor ↔
              maker.asked.keepsActor = true ∧ incoming.asked.keepsActor = true))) := by
  obtain ⟨before, maker, actor, between, hstored⟩ := provenance hempty hhit.mem_rows
  have hmiss := hstored.stores.admits.misses
  have hactor := hstored.stores.actor?
  refine ⟨before, maker, actor, between, hstored, by rw [hmiss.located, hhit.located], hactor,
    hstored.stores.made, by rw [respond_of_hits hhit], ?_⟩
  intro hsame
  have hplain : incoming.asked.plain = maker.asked.plain :=
    Incoming.plain_eq_of_url_eq hhit.located hmiss.located hsame.symm
  refine ⟨?_, by rw [hplain], ?_⟩
  · rw [← Target.isTiny_plain, hplain, Target.isTiny_plain]
  · simp only [Target.keepsActor, decide_eq_true_eq]
    rw [hplain, ← hactor]
    intro hkeeps
    constructor
    · -- with one actor, what the one request keeps the other keeps
      intro hactors
      rw [hactors] at hkeeps ⊢
      exact ⟨hkeeps.elim id id, hkeeps.elim id id⟩
    · rintro ⟨hmakerKeeps, hincomingKeeps⟩
      rw [← hincomingKeeps, hmakerKeeps]

/-- The placeholder of the actor `a` is the one that was made for the
    request that stored it. -/
theorem lonely_hit_actor :
    lonely.cache.rows = []
      ∧ (lonely.after [.request signedRequest]).Hits signedRequest placeholderRow
      ∧ ∃ before maker actor between,
        lonely.StoredBy [.request signedRequest] placeholderRow before maker actor between
        ∧ maker.url = signedRequest.url
        ∧ maker.asked.actor? = some actor
        ∧ ((lonely.after before).pictureFor maker actor).1 = .ok placeholderRow.response
        ∧ ((lonely.after [.request signedRequest]).respond signedRequest).1
          = .ok (finish signedRequest placeholderRow.response)
        ∧ (maker.authority = signedRequest.authority →
          signedRequest.asked.isTiny = maker.asked.isTiny
            ∧ signedRequest.asked.plain.actor? = maker.asked.plain.actor?
            ∧ (maker.asked.keepsActor = true ∨ signedRequest.asked.keepsActor = true →
              (signedRequest.asked.actor? = some actor ↔
                maker.asked.keepsActor = true ∧ signedRequest.asked.keepsActor = true))) :=
  ⟨rfl, lonely_hits, hit_actor rfl lonely_hits⟩

/-- Not every answer from the cache was made for the actor that is asked
    for: the misplaced one was made for another. -/
theorem not_every_hit_of_actor :
    ¬ ∀ (start : Service) (events before between : List Event) (incoming maker : Incoming)
        (actor : Text) (row : Row),
      start.cache.rows = [] → (start.after events).Hits incoming row →
        start.StoredBy events row before maker actor between →
          maker.asked.actor? = incoming.asked.actor?
            ∧ maker.asked.isTiny = incoming.asked.isTiny := by
  intro h
  obtain ⟨before, maker, actor, between, hstored⟩ :=
    provenance rfl lonely_hits_misplacedRow.mem_rows
  have hmaker : maker = misleadingRequest := by
    have hmem : Event.request maker ∈ [Event.request misleadingRequest] := by
      rw [hstored.split]
      exact List.mem_append_right _ List.mem_cons_self
    exact Event.request.inj (List.mem_singleton.mp hmem)
  have hactor := (h lonely _ before between signedRequest maker actor misplacedRow rfl
    lonely_hits_misplacedRow hstored).1
  rw [hmaker] at hactor
  exact absurd hactor (by decide +kernel)

end Service

end Avatar
