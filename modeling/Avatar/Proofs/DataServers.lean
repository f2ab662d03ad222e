import Avatar.Did.Document
import Avatar.Proofs.Searches

/-! # Which data server a document names

    The services of a document are looked through in order, and the first
    one that offers a data server is taken (`Offers`).  A service of any
    other shape is passed over, unless it is an object whose identifier is
    there and no text (`IsMisnamed`): such a one ends the search with a
    failure that tells of what kind the identifier is.  So the first offer
    is found exactly if no misnamed service comes before it
    (`first_offer_found_unless_misnamed`). -/

namespace Avatar.Did.Document

variable {service id : Json} {services : List Json} {members : List (Text × Json)} {endpoint : Text}

/-! ## One service -/

/-- An object with an identifier that is no text. -/
def IsMisnamed (service : Json) : Prop :=
  ∃ members id, service = .obj members ∧ Json.lookup members "id" = some id ∧ ∀ s, id ≠ .str s

/-- An object with this identifier, which is no text. -/
def IsMisnamedBy (service id : Json) : Prop :=
  ∃ members, service = .obj members ∧ Json.lookup members "id" = some id ∧ ∀ s, id ≠ .str s

/-- The members of a data server. -/
def IsDataServer (members : List (Text × Json)) : Prop :=
  (∃ start, Json.lookup members "id" = some (.str (start ++ Text.ofString "#atproto_pds")))
    ∧ Json.lookup members "type" = some (.str "AtprotoPersonalDataServer")

/-- A data server that can be reached at an endpoint. -/
def Offers (service : Json) (endpoint : Text) : Prop :=
  ∃ members, service = .obj members ∧ IsDataServer members
    ∧ Json.lookup members "serviceEndpoint" = some (.str endpoint)

theorem isMisnamed_iff : IsMisnamed service ↔ ∃ id, IsMisnamedBy service id := exists_comm

theorem IsMisnamedBy.unique {other : Json} (h : IsMisnamedBy service id)
    (hother : IsMisnamedBy service other) : id = other := by
  obtain ⟨members, rfl, hid, -⟩ := h
  obtain ⟨_, ⟨⟩, hlookup, -⟩ := hother
  exact Option.some.inj (hid.symm.trans hlookup)

theorem IsMisnamed.not_offers (h : IsMisnamed service) : ¬ Offers service endpoint := by
  obtain ⟨members, id, rfl, hid, hnoText⟩ := h
  rintro ⟨_, ⟨⟩, ⟨⟨start, hstart⟩, -⟩, -⟩
  exact hnoText _ (Option.some.inj (hid.symm.trans hstart))

theorem Offers.unique {other : Text} (h : Offers service endpoint) (hother : Offers service other) :
    endpoint = other := by
  obtain ⟨members, rfl, -, hendpoint⟩ := h
  obtain ⟨_, ⟨⟩, -, hlookup⟩ := hother
  exact Json.str.inj (Option.some.inj (hendpoint.symm.trans hlookup))

theorem isDataServer_of_isMisnamedBy (h : IsMisnamedBy (.obj members) id) :
    isDataServer members = .error (.missingMember id.kind "endswith") := by
  obtain ⟨_, ⟨⟩, hid, hnoText⟩ := h
  rw [isDataServer, hid]
  cases id with
  | str s => exact absurd rfl (hnoText s)
  | _ => rfl

theorem isDataServer_of_not_isMisnamed (h : ¬ IsMisnamed (.obj members)) :
    ∃ answer, isDataServer members = .ok answer ∧ (answer = true ↔ IsDataServer members) := by
  rw [isDataServer, IsDataServer]
  cases hid : Json.lookup members "id" with
  | none =>
      -- a missing identifier counts as an empty one, which ends in nothing
      refine ⟨_, rfl, ?_⟩
      have hempty : Text.endsWith "#atproto_pds" [] = false := by decide
      simp [hempty]
  | some id =>
      cases id with
      | str s =>
          refine ⟨_, rfl, ?_⟩
          simp [Text.endsWith_iff, Json.lookupText_eq_some_iff]
      | _ => exact absurd ⟨members, _, rfl, hid, fun _ => nofun⟩ h

/-- A service ends the search with a failure, ends it with what it offers,
    or is passed over. -/
theorem firstDataServer?_cons_cases (service : Json) (rest : List Json) :
    (∃ id, IsMisnamedBy service id
        ∧ firstDataServer? (service :: rest) = .error (.missingMember id.kind "endswith"))
      ∨ (∃ endpoint, Offers service endpoint
        ∧ firstDataServer? (service :: rest) = .ok (some endpoint))
      ∨ (¬ IsMisnamed service ∧ (∀ endpoint, ¬ Offers service endpoint)
        ∧ firstDataServer? (service :: rest) = firstDataServer? rest) := by
  by_cases hmisnamed : IsMisnamed service
  · obtain ⟨id, hid⟩ := isMisnamed_iff.mp hmisnamed
    refine .inl ⟨id, hid, ?_⟩
    obtain ⟨members, -, rfl, -⟩ := hmisnamed
    rw [firstDataServer?, isDataServer_of_isMisnamedBy hid]
  · cases service with
    | obj members =>
        obtain ⟨answer, hanswer, hserver⟩ := isDataServer_of_not_isMisnamed hmisnamed
        rw [firstDataServer?, hanswer]
        cases answer with
        | false =>
            refine .inr (.inr ⟨hmisnamed, ?_, rfl⟩)
            rintro endpoint ⟨_, ⟨⟩, hisServer, -⟩
            exact nomatch hserver.mpr hisServer
        | true =>
            cases hendpoint : Json.lookupText members "serviceEndpoint" with
            | some endpoint =>
                refine .inr (.inl ⟨endpoint, ⟨members, rfl, hserver.mp rfl, ?_⟩, rfl⟩)
                exact Json.lookupText_eq_some_iff.mp hendpoint
            | none =>
                refine .inr (.inr ⟨hmisnamed, ?_, rfl⟩)
                rintro endpoint ⟨_, ⟨⟩, -, hlookup⟩
                rw [Json.lookupText_eq_some_iff.mpr hlookup] at hendpoint
                exact nomatch hendpoint
    | _ =>
        refine .inr (.inr ⟨hmisnamed, ?_, rfl⟩)
        rintro endpoint ⟨_, h, -⟩
        exact nomatch h

/-! ## The search -/

/-- Some service has a property, and no service before it offers a data
    server. -/
def Reaches (P : Json → Prop) (services : List Json) : Prop :=
  ∃ earlier service later, services = earlier ++ service :: later ∧ P service
    ∧ ∀ other ∈ earlier, ∀ endpoint, ¬ Offers other endpoint

theorem not_reaches_nil {P : Json → Prop} : ¬ Reaches P [] := not_stops_nil

theorem reaches_cons_iff {P : Json → Prop} :
    Reaches P (service :: services)
      ↔ P service ∨ (∀ endpoint, ¬ Offers service endpoint) ∧ Reaches P services :=
  stops_cons_iff

/-- The first misnamed service has this identifier. -/
def FirstMisnamed (services : List Json) (id : Json) : Prop :=
  ∃ earlier service later, services = earlier ++ service :: later ∧ IsMisnamedBy service id
    ∧ ∀ other ∈ earlier, ¬ IsMisnamed other

theorem firstMisnamed_cons_iff :
    FirstMisnamed (service :: services) id
      ↔ IsMisnamedBy service id ∨ ¬ IsMisnamed service ∧ FirstMisnamed services id :=
  stops_cons_iff

theorem firstDataServer?_eq_error_iff {failure : Failure} :
    firstDataServer? services = .error failure
      ↔ Reaches IsMisnamed services
        ∧ ∃ id, FirstMisnamed services id ∧ failure = .missingMember id.kind "endswith" := by
  induction services with
  | nil => simp [firstDataServer?, not_reaches_nil]
  | cons service rest ih =>
      simp only [reaches_cons_iff, firstMisnamed_cons_iff]
      rcases firstDataServer?_cons_cases service rest with
        ⟨id, hid, hstep⟩ | ⟨endpoint, hoffers, hstep⟩ | ⟨hnamed, hnone, hstep⟩
      · rw [hstep]
        have hmisnamed : IsMisnamed service := isMisnamed_iff.mpr ⟨id, hid⟩
        have honly (other : Json) : IsMisnamedBy service other ↔ other = id := by
          constructor
          · intro hother
            exact hother.unique hid
          · rintro rfl
            exact hid
        simp [hmisnamed, honly, eq_comm]
      · rw [hstep]
        have hnamed : ¬ IsMisnamed service := fun h => h.not_offers hoffers
        have hends : ¬ ∀ endpoint, ¬ Offers service endpoint := fun h => h endpoint hoffers
        simp [hnamed, hends]
      · rw [hstep, ih]
        have hnot (id : Json) : ¬ IsMisnamedBy service id :=
          fun hid => hnamed (isMisnamed_iff.mpr ⟨id, hid⟩)
        simp [hnamed, hnone, hnot]

theorem firstDataServer?_eq_some_iff :
    firstDataServer? services = .ok (some endpoint)
      ↔ Reaches (Offers · endpoint) services ∧ ¬ Reaches IsMisnamed services := by
  induction services with
  | nil => simp [firstDataServer?, not_reaches_nil]
  | cons service rest ih =>
      rw [reaches_cons_iff, reaches_cons_iff]
      rcases firstDataServer?_cons_cases service rest with
        ⟨id, hid, hstep⟩ | ⟨found, hoffers, hstep⟩ | ⟨hnamed, hnone, hstep⟩
      · rw [hstep]
        simp [isMisnamed_iff.mpr ⟨id, hid⟩]
      · rw [hstep]
        have hnamed : ¬ IsMisnamed service := fun h => h.not_offers hoffers
        have hends : ¬ ∀ endpoint, ¬ Offers service endpoint := fun h => h found hoffers
        have hfound : found = endpoint ↔ Offers service endpoint := by
          constructor
          · rintro rfl
            exact hoffers
          · intro h
            exact hoffers.unique h
        simp [hnamed, hends, hfound]
      · rw [hstep, ih]
        simp [hnamed, hnone]

theorem firstDataServer?_eq_none_iff :
    firstDataServer? services = .ok none
      ↔ (∀ service ∈ services, ∀ endpoint, ¬ Offers service endpoint)
        ∧ ¬ Reaches IsMisnamed services := by
  induction services with
  | nil => simp [firstDataServer?, not_reaches_nil]
  | cons service rest ih =>
      rw [reaches_cons_iff, List.forall_mem_cons]
      rcases firstDataServer?_cons_cases service rest with
        ⟨id, hid, hstep⟩ | ⟨found, hoffers, hstep⟩ | ⟨hnamed, hnone, hstep⟩
      · rw [hstep]
        simp [isMisnamed_iff.mpr ⟨id, hid⟩]
      · rw [hstep]
        have hends : ¬ ∀ endpoint, ¬ Offers service endpoint := fun h => h found hoffers
        simp [hends]
      · rw [hstep, ih]
        simp [hnamed, hnone]

theorem dataServer?_of_lookup (hservices : Json.lookup members "service" = some (.arr services)) :
    dataServer? (.obj members) = firstDataServer? services := by
  have helements : Json.elementsOf "service" (.obj members) = .ok services := by
    rw [Json.elementsOf, hservices]
    rfl
  rw [dataServer?, helements]
  rfl

/-- Among the services of a document the first offer is found, or that
    there is none, unless the search reaches a misnamed service; then, and
    only then, it fails, and the failure is about the first such
    service. -/
theorem first_offer_found_unless_misnamed
    (hservices : Json.lookup members "service" = some (.arr services)) :
    (∀ endpoint, dataServer? (.obj members) = .ok (some endpoint)
        ↔ Reaches (Offers · endpoint) services ∧ ¬ Reaches IsMisnamed services)
      ∧ (dataServer? (.obj members) = .ok none
        ↔ (∀ service ∈ services, ∀ endpoint, ¬ Offers service endpoint)
          ∧ ¬ Reaches IsMisnamed services)
      ∧ ∀ failure, dataServer? (.obj members) = .error failure
        ↔ Reaches IsMisnamed services
          ∧ ∃ id, FirstMisnamed services id ∧ failure = .missingMember id.kind "endswith" := by
  rw [dataServer?_of_lookup hservices]
  refine ⟨?_, firstDataServer?_eq_none_iff, ?_⟩
  · intro endpoint
    exact firstDataServer?_eq_some_iff
  · intro failure
    exact firstDataServer?_eq_error_iff

/-- A service with a number for its identifier. -/
def numbered : Json := .obj [("id", .int 7)]

/-- A data server. -/
def offered : Json := .obj [("id", .str "#atproto_pds"), ("type", .str "AtprotoPersonalDataServer"),
  ("serviceEndpoint", .str "https://p")]

theorem isMisnamedBy_numbered : IsMisnamedBy numbered (.int 7) := ⟨_, rfl, rfl, fun _ => nofun⟩

theorem isMisnamed_numbered : IsMisnamed numbered := isMisnamed_iff.mpr ⟨_, isMisnamedBy_numbered⟩

theorem offers_offered : Offers offered "https://p" := ⟨_, rfl, ⟨⟨[], rfl⟩, rfl⟩, rfl⟩

/-- Behind the numbered service the data server is not found. -/
theorem numbered_hides_offer :
    Json.lookup [("service", .arr [numbered, offered])] "service" = some (.arr [numbered, offered])
      ∧ dataServer? (.obj [("service", .arr [numbered, offered])])
        = .error (.missingMember "int" "endswith") := by
  refine ⟨rfl, ?_⟩
  refine ((first_offer_found_unless_misnamed rfl).2.2 _).mpr ⟨?_, .int 7, ?_, rfl⟩
  · exact reaches_cons_iff.mpr (.inl isMisnamed_numbered)
  · exact firstMisnamed_cons_iff.mpr (.inl isMisnamedBy_numbered)

/-- Not every document with an offer has its data server found. -/
theorem not_every_offer_found :
    ¬ ∀ (members : List (Text × Json)) (services : List Json) (endpoint : Text),
      Json.lookup members "service" = some (.arr services) →
        Reaches (Offers · endpoint) services →
          dataServer? (.obj members) = .ok (some endpoint) := by
  intro h
  have hreaches : Reaches (Offers · "https://p") [numbered, offered] := by
    refine reaches_cons_iff.mpr (.inr ⟨?_, reaches_cons_iff.mpr (.inl offers_offered)⟩)
    intro endpoint
    exact isMisnamed_numbered.not_offers
  have hfound := h [("service", .arr [numbered, offered])] _ _ rfl hreaches
  rw [dataServer?_of_lookup rfl] at hfound
  have hmisnamed : Reaches IsMisnamed [numbered, offered] :=
    reaches_cons_iff.mpr (.inl isMisnamed_numbered)
  exact (firstDataServer?_eq_some_iff.mp hfound).2 hmisnamed

end Avatar.Did.Document
