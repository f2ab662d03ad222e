import Avatar.Failure
import Avatar.Json.Binary64

/-! # JSON values

    A document as a tree.  An object keeps its members in the order in
    which their names first came, each name once. -/

namespace Avatar

/-- A JSON value. -/
inductive Json
  | null
  | bool (value : Bool)
  | int (value : Int)
  | real (value : Binary64)
  | str (value : Text)
  | arr (elements : List Json)
  | obj (members : List (Text × Json))

namespace Json

/-! ## Equality

    Whether two values are the same is decided along the tree.  No instance
    can be derived for a type that is nested in lists of itself. -/

mutual

/-- Whether two values are the same. -/
def same : Json → Json → Bool
  | .null, .null => true
  | .bool a, .bool b => a = b
  | .int a, .int b => a = b
  | .real a, .real b => a = b
  | .str a, .str b => a = b
  | .arr as, .arr bs => sameElements as bs
  | .obj as, .obj bs => sameMembers as bs
  | _, _ => false
termination_by structural value => value

/-- Whether two lists have the same values. -/
def sameElements : List Json → List Json → Bool
  | [], [] => true
  | a :: as, b :: bs => same a b && sameElements as bs
  | _, _ => false
termination_by structural elements => elements

/-- Whether two lists have the same members, in the same order. -/
def sameMembers : List (Text × Json) → List (Text × Json) → Bool
  | [], [] => true
  | a :: as, b :: bs => sameMember a b && sameMembers as bs
  | _, _ => false
termination_by structural members => members

/-- Whether two members have the same name and the same value. -/
def sameMember : Text × Json → Text × Json → Bool
  | (m, a), (n, b) => m = n && same a b
termination_by structural member => member

end

mutual

theorem same_iff : ∀ a b, same a b = true ↔ a = b
  | .null, b => by cases b <;> simp [same]
  | .bool _, b => by cases b <;> simp [same]
  | .int _, b => by cases b <;> simp [same]
  | .real _, b => by cases b <;> simp [same]
  | .str _, b => by cases b <;> simp [same]
  | .arr as, b => by
      cases b with
      | arr bs => rw [same, sameElements_iff as bs, Json.arr.injEq]
      | _ => simp [same]
  | .obj as, b => by
      cases b with
      | obj bs => rw [same, sameMembers_iff as bs, Json.obj.injEq]
      | _ => simp [same]

theorem sameElements_iff : ∀ as bs, sameElements as bs = true ↔ as = bs
  | [], bs => by cases bs <;> simp [sameElements]
  | a :: as, bs => by
      cases bs with
      | nil => simp [sameElements]
      | cons b bs =>
          rw [sameElements, Bool.and_eq_true, same_iff a b, sameElements_iff as bs,
            List.cons.injEq]

theorem sameMembers_iff : ∀ as bs, sameMembers as bs = true ↔ as = bs
  | [], bs => by cases bs <;> simp [sameMembers]
  | a :: as, bs => by
      cases bs with
      | nil => simp [sameMembers]
      | cons b bs =>
          rw [sameMembers, Bool.and_eq_true, sameMember_iff a b, sameMembers_iff as bs,
            List.cons.injEq]

theorem sameMember_iff : ∀ a b, sameMember a b = true ↔ a = b
  | (m, a), (n, b) => by
      rw [sameMember, Bool.and_eq_true, decide_eq_true_eq, same_iff a b, Prod.mk.injEq]

end

instance : DecidableEq Json := fun a b => decidable_of_iff _ (same_iff a b)

/-! ## Reading -/

/-- The members after one was set: a name that is there keeps its place
    and takes the new value, a new name goes last. -/
def setMember (name : Text) (value : Json) : List (Text × Json) → List (Text × Json)
  | [] => [(name, value)]
  | (n, v) :: rest => if n = name then (n, value) :: rest else (n, v) :: setMember name value rest

/-- The value of a member. -/
def lookup (members : List (Text × Json)) (name : Text) : Option Json := List.lookup name members

/-- The text that a value is. -/
def text? : Json → Option Text
  | .str s => some s
  | _ => none

/-- The text that is the value of a member. -/
def lookupText (members : List (Text × Json)) (name : Text) : Option Text :=
  (lookup members name).bind text?

theorem text?_eq_some_iff {value : Json} {s : Text} : value.text? = some s ↔ value = .str s := by
  cases value with
  | str t =>
      constructor
      · intro h
        exact congrArg Json.str (Option.some.inj h)
      · intro h
        exact congrArg some (Json.str.inj h)
  | _ =>
      constructor
      · intro h
        exact nomatch h
      · intro h
        exact nomatch h

theorem lookupText_eq_some_iff {members : List (Text × Json)} {name s : Text} :
    lookupText members name = some s ↔ lookup members name = some (.str s) := by
  rw [lookupText, Option.bind_eq_some_iff]
  constructor
  · rintro ⟨value, hvalue, htext⟩
    rw [hvalue, text?_eq_some_iff.mp htext]
  · intro h
    exact ⟨.str s, h, rfl⟩

/-- What kind of value a value is, in a word. -/
def kind : Json → Text
  | .null => "NoneType"
  | .bool _ => "bool"
  | .int _ => "int"
  | .real _ => "float"
  | .str _ => "str"
  | .arr _ => "list"
  | .obj _ => "dict"

/-- Whether a value is a number equal to a positive integer. -/
def isNat (n : Nat) : Json → Bool
  | .int m => m = n
  | .real x => x.isNat n
  | _ => false

/-- What a value consists of: the elements of an array, the names of an
    object, the single code points of a text. -/
def elements? : Json → Option (List Json)
  | .arr elements => some elements
  | .obj members => some (members.map fun m => .str m.1)
  | .str s => some (s.map fun c => .str [c])
  | _ => none

/-- What the member of an object consists of; nothing if there is no such
    member. -/
def elementsOf (name : Text) : Json → Except Failure (List Json)
  | .obj members =>
    let value := (lookup members name).getD (.arr [])
    match value.elements? with
    | some elements => .ok elements
    | none => .error (.notASequence value.kind)
  | other => .error (.missingMember other.kind "get")

end Json

end Avatar
