import Avatar.Address.Written
import Avatar.Failure
import Avatar.Text.Integer
import Avatar.Text.Lowercase
import Avatar.Text.Percent
import Avatar.Text.Punycode

/-! # Authorities

    The authority of a URL names a host, and maybe a port and a user.  In
    its normal form the host is in lower case, in ASCII, and, if it is an
    address, in its one form; the port is in decimal and left out if it is
    the one that the scheme implies. -/

namespace Avatar

/-- Who is asked for something. -/
structure Authority where
  user : Option Text
  password : Option Text
  host : Text
  port : Option Nat

namespace Authority

/-- The port that is asked unless another one is named. -/
def impliedPort : Nat := 80

/-- What stands before and after the last separator. -/
def cutLast (separator : CodePoint) (s : Text) : Option (Text × Text) :=
  match Text.cut separator s.reverse with
  | (_, none) => none
  | (after, some before) => some (before.reverse, after.reverse)

/-- A host and the text of its port; a host in brackets may hold
    colons. -/
def hostAndPort (s : Text) : Text × Text :=
  match s.cut '[' with
  | (_, none) => ((s.cut ':').1, (s.cut ':').2.getD [])
  | (_, some bracketed) =>
    let (host, rest) := bracketed.cut ']'
    (host, ((rest.getD []).cut ':').2.getD [])

/-- The port that a text stands for; no text stands for none. -/
def portOf (s : Text) : Except Failure (Option Nat) :=
  if s.isEmpty then .ok none
  else
    match s.integer? with
    | none => .error .invalidPort
    | some n => if 0 ≤ n ∧ n ≤ 65535 then .ok (some n.toNat) else .error .portOutOfRange

/-- The authority that a text stands for.  An empty user is none. -/
def ofText (s : Text) : Except Failure Authority := do
  let (credentials, place) :=
    match cutLast '@' s with
    | none => (([], none), s)
    | some (credentials, place) => (credentials.cut ':', place)
  let (host, port) := hostAndPort place
  return {
    user := if credentials.1.isEmpty then none else some credentials.1
    password := credentials.2
    host
    port := ← portOf port }

/-- A code point that stands for itself in a user or password. -/
def isPlain (c : CodePoint) : Bool :=
  c.isLower || c.isUpper || c.isDigit || (Text.ofString "-._~!$'()*,+&=;").contains c

/-- The authority with its user and password escaped. -/
def escaped (authority : Authority) : Authority :=
  { authority with
    user := authority.user.map (Text.escaped isPlain)
    password := authority.password.map (Text.escaped isPlain) }

/-- The user and password before a host. -/
def credentials (authority : Authority) : Text :=
  match authority.user, authority.password with
  | none, none => []
  | some user, none => user ++ "@"
  | user, some password => user.getD [] ++ ":" ++ password ++ "@"

/-- An authority as it is written. -/
def text (authority : Authority) : Text :=
  authority.credentials ++ authority.host
    ++ (authority.port.map fun port => ":" ++ Text.ofNat port).getD []

/-- The address that a host is, in its one form; brackets are put around
    one of version six.  The scope is kept as it stands. -/
def address? (host : Text) : Option Text :=
  if host.contains (CodePoint.ofChar ':') || host.getLast?.any CodePoint.isDigit then
    let (address, scope) := host.cut '%'
    let scope := (scope.map (Text.ofString "%" ++ ·)).getD []
    match Address.parse? address with
    | none => none
    | some (.v4 value) => some (Address.written (.v4 value) ++ scope)
    | some (.v6 value) => some ("[" ++ Address.written (.v6 value) ++ scope ++ "]")
  else none

/-- The form of a character that is used in host names: wide letters and
    the full stops of other scripts are those of ASCII. -/
def hostPoint (c : CodePoint) : CodePoint :=
  if c.val = 0x3002 || c.val = 0xFF61 then '.'
  else if 0xFF01 ≤ c.val && c.val ≤ 0xFF5E then .ofNat (c.val - 0xFEE0)
  else c

/-- A part of a host name in ASCII. -/
def asciiLabel (label : Text) : Text :=
  if label.all (·.val < 0x80) then label else "xn--" ++ Punycode.encode label

/-- The normal form of a host. -/
def hostText (host : Text) : Text :=
  match address? host with
  | some address => address
  | none =>
    if host.all (·.val < 0x80) then host.asciiLowercase
    else
      Text.join "." ((Text.splitOn '.' (Text.lowercase (host.map hostPoint))).map asciiLabel)

/-- The authority without a port that is implied. -/
def withoutImpliedPort (authority : Authority) : Authority :=
  { authority with port := authority.port.filter (· ≠ impliedPort) }

/-- The host as it stands in an authority: one that holds a colon is put
    into brackets. -/
def bracketed (authority : Authority) : Authority :=
  if authority.host.contains (CodePoint.ofChar ':') then
    { authority with host := "[" ++ authority.host ++ "]" }
  else authority

/-- The normal form of an authority.  It is read once more, because a port
    may have been hidden in brackets. -/
def normalize (s : Text) : Except Failure Text := do
  let authority ← ofText s
  let normal := text { authority.escaped.withoutImpliedPort with host := hostText authority.host }
  let again ← ofText normal
  return if again.port = some impliedPort then again.bracketed.withoutImpliedPort.text else normal

end Authority

end Avatar
