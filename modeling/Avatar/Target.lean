import Avatar.Authority
import Avatar.Text.Parts
import Avatar.Text.Percent

/-! # Request targets

    The target of a request is a path and a query.  The path is split as
    it stands into a signature and an actor; the URL under which an
    answer is kept has the dot segments of the path removed. -/

namespace Avatar

/-- What a request is for. -/
structure Target where
  path : Text
  query : Text
deriving DecidableEq

namespace Target

/-- The target in a request line: the query follows the first question
    mark. -/
def ofText (s : Text) : Target := ⟨(s.cut '?').1, (s.cut '?').2.getD []⟩

/-- A path without the slash that it starts with. -/
def withoutSlash (path : Text) : Text := (Text.after? "/" path).getD path

/-- The segments that stay, latest first, when one more is met: a single
    dot adds nothing and two dots take the segment before away. -/
def pushSegment (kept : List Text) (segment : Text) : List Text :=
  if segment = ".." then kept.tail
  else if segment = "." then kept
  else segment :: kept

/-- Whether a segment stands for a directory by dots. -/
def isDots (segment : Text) : Bool := segment = "." || segment = ".."

/-- The segments without dot segments; a dot segment at the end leaves an
    empty one, so that the path still ends in a slash. -/
def removeDots (segments : List Text) : List Text :=
  let kept := segments.foldl pushSegment []
  (if segments.getLast?.any isDots then [] :: kept else kept).reverse

/-- The path without dot segments. -/
def plainPath (path : Text) : Text :=
  let start : Text := if Text.startsWith "/" path then "/" else []
  start ++ Text.join "/" (removeDots (Text.splitOn '/' (withoutSlash path)))

/-- The path without dot segments, and the query if there is one. -/
def plainText (target : Target) : Text :=
  plainPath target.path
    ++ (if target.query.isEmpty then [] else Text.ofString "?" ++ target.query)

/-- The URL of a target on a host. -/
def url (host : Text) (target : Target) : Except Failure Text :=
  (Authority.normalize host).map fun authority =>
    Text.ofString "http://" ++ authority ++ target.plainText

/-- The first two segments of the path as it stands. -/
def signedActor? (target : Target) : Option (Text × Text) :=
  match Text.splitOn '/' (withoutSlash target.path) with
  | signature :: actor :: _ => some (signature, actor)
  | _ => none

/-- Whether a path can be served at all: it starts with a slash and holds
    no line feed, be it escaped or not. -/
def isServable (target : Target) : Bool :=
  Text.startsWith "/" target.path && !Text.hasPart "\n" target.path
    && !Text.hasPart "%0a" target.path.asciiLowercase

/-- The octets of a code point in a query: a plus sign is a space. -/
def pointOctets (c : CodePoint) : Bytes := if c = '+' then [0x20] else c.utf8

/-- The octets of a part of a query. -/
def queryOctets (s : Text) : Bytes := s.unescaped pointOctets

/-- The text of a part of a query. -/
def queryText (s : Text) : Text := Utf8.decodeLossy (queryOctets s)

/-- The parameters of a query, in their order.  One without an equals
    sign is empty. -/
def parameters (target : Target) : List (Text × Text) :=
  (target.query.splitOn '&').map fun parameter =>
    (queryText (parameter.cut '=').1, queryText ((parameter.cut '=').2.getD []))

/-- Whether the small form of an avatar is asked for. -/
def isTiny (target : Target) : Bool :=
  target.parameters.lookup (Text.ofString "size") = some (Text.ofString "tiny")

end Target

end Avatar
