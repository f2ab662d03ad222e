import Mathlib.Data.List.Basic

/-! # Searches

    A list is gone through from its beginning until an element stops the
    search.  Which one that is says how the list splits (`Stops`), and that
    is decided one element after the other (`stops_cons_iff`). -/

namespace Avatar

variable {α : Type} {passes stops : α → Prop} {x : α} {xs : List α}

/-- Some element of a list stops a search that passes every element before
    it. -/
def Stops (passes stops : α → Prop) (xs : List α) : Prop :=
  ∃ earlier x later, xs = earlier ++ x :: later ∧ stops x ∧ ∀ other ∈ earlier, passes other

theorem not_stops_nil : ¬ Stops passes stops [] := by
  rintro ⟨earlier, x, later, h, -⟩
  exact List.append_ne_nil_of_right_ne_nil earlier (List.cons_ne_nil x later) h.symm

theorem stops_cons_iff :
    Stops passes stops (x :: xs) ↔ stops x ∨ passes x ∧ Stops passes stops xs := by
  constructor
  · rintro ⟨earlier, last, later, hsplit, hlast, hearlier⟩
    cases earlier with
    | nil =>
        obtain ⟨rfl, -⟩ := List.cons.inj hsplit
        exact .inl hlast
    | cons first earlier =>
        obtain ⟨rfl, rfl⟩ := List.cons.inj hsplit
        obtain ⟨hfirst, hearlier⟩ := List.forall_mem_cons.mp hearlier
        exact .inr ⟨hfirst, earlier, last, later, rfl, hlast, hearlier⟩
  · rintro (h | ⟨hfirst, earlier, last, later, rfl, hlast, hearlier⟩)
    · exact ⟨[], x, xs, rfl, h, fun other hother => nomatch hother⟩
    · exact ⟨x :: earlier, last, later, rfl, hlast, List.forall_mem_cons.mpr ⟨hfirst, hearlier⟩⟩

end Avatar
