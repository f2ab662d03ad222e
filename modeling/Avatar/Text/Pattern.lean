import Avatar.Text.Parts

/-! # Patterns

    A pattern is a regular expression.  It is matched by trying its ways
    one after the other, the longer repetition and the earlier
    alternative first, and a way counts only if it leads on: the matcher
    is told what comes next, and comes back to try another way if that
    fails. -/

namespace Avatar

/-- A regular expression. -/
inductive Pattern
  /-- Nothing at all. -/
  | empty
  /-- One code point of a class. -/
  | point (accepts : CodePoint → Bool)
  /-- The start of the text. -/
  | start
  /-- The end of the text, or the place before the line feed that ends
      it. -/
  | finish
  /-- One pattern and then another. -/
  | seq (first second : Pattern)
  /-- One pattern or else another. -/
  | either (first second : Pattern)
  /-- A pattern several times, but no more often than a bound allows. -/
  | atMost (bound : Nat) (body : Pattern)
  /-- A pattern any number of times. -/
  | many (body : Pattern)

/-- A place in a text. -/
structure Place where
  /-- Whether nothing stands before it. -/
  isStart : Bool
  /-- What stands behind it. -/
  rest : Text

namespace Place

/-- The place where a text begins. -/
def first (s : Text) : Place := ⟨true, s⟩

/-- What stands between a place and a later one. -/
def upTo (place later : Place) : Text := place.rest.take (place.rest.length - later.rest.length)

theorem upTo_of_append (isStart : Bool) (later : Place) (part : Text) :
    upTo ⟨isStart, part ++ later.rest⟩ later = part := by
  rw [upTo, List.length_append, Nat.add_sub_cancel, List.take_left]

end Place

namespace Pattern

/-- Takes steps as long as they lead on, up to a bound, and goes on from
    the last one; with fewer steps if that fails. -/
def repeatedly {α : Type} (step : (Place → Option α) → Place → Option α) :
    Nat → (Place → Option α) → Place → Option α
  | 0, next, place => next place
  | bound + 1, next, place => (step (repeatedly step bound next) place).or (next place)

/-- What comes next after the first way to match a pattern at a place that
    leads on. -/
def run {α : Type} : Pattern → (Place → Option α) → Place → Option α
  | empty, next, place => next place
  | point accepts, next, place =>
    match place.rest with
    | [] => none
    | c :: rest => if accepts c then next ⟨false, rest⟩ else none
  | start, next, place => if place.isStart then next place else none
  | finish, next, place => if place.rest = [] ∨ place.rest = "\n" then next place else none
  | seq first second, next, place => first.run (second.run next) place
  | either first second, next, place => (first.run next place).or (second.run next place)
  | atMost bound body, next, place => repeatedly body.run bound next place
  -- no more steps lead on than there are code points to step over
  | many body, next, place => repeatedly body.run place.rest.length next place

/-- Whether a text begins with a match. -/
def matchesAt (pattern : Pattern) (s : Text) : Bool := (pattern.run some (.first s)).isSome

/-- What a second pattern matches behind a pattern, where both match one
    behind the other at a place. -/
def behind (pattern group : Pattern) (place : Place) : Option Text :=
  pattern.run (fun place => group.run (fun later => some (place.upTo later)) place) place

/-- What a second pattern matches behind the first match of a pattern, at
    a place or somewhere behind it. -/
def searchFrom (pattern group : Pattern) : Bool → Text → Option Text
  | isStart, [] => pattern.behind group ⟨isStart, []⟩
  | isStart, c :: rest =>
    (pattern.behind group ⟨isStart, c :: rest⟩).or (searchFrom pattern group false rest)

/-- What a second pattern matches behind the first match of a pattern in a
    text. -/
def search (pattern group : Pattern) (s : Text) : Option Text := searchFrom pattern group true s

/-! ## Patterns made of others -/

/-- A text as it stands. -/
def literal (s : Text) : Pattern := s.foldr (fun c later => seq (point (· = c)) later) empty

/-- A pattern or nothing. -/
def optional (body : Pattern) : Pattern := either body empty

/-- A pattern at least once. -/
def atLeastOnce (body : Pattern) : Pattern := seq body (many body)

end Pattern

end Avatar
