import Avatar.MediaType.Parameter
import Avatar.Text.Lowercase

/-! # Media types

    A media type has a name, which is two words with a slash between
    them, and parameters, of which one may name the encoding of a text.
    A header is first put into its plain form, in which every value
    stands between quotation marks, and then taken apart; whatever is not
    the name of a type counts as mere octets. -/

namespace Avatar

/-- The type of a body. -/
structure MediaType where
  name : Text
  parameters : List (Text × Text)

namespace MediaType

/-- The name of the type of octets of which nothing else is known. -/
def octets : Text := "application/octet-stream"

/-- The name of the type of plain text. -/
def plainText : Text := "text/plain"

/-! ## The plain form of a header -/

/-- A header up to its end: a line that starts with a blank goes on with
    the one before, and the first other line is no part of it. -/
def unfolded : Text → Text
  | [] => []
  | [c] => if c = '\r' || c = '\n' then [] else [c]
  | c :: d :: rest =>
    if c = '\r' && d = '\n' then unfolded (d :: rest)
    else if c = '\r' || c = '\n' then if isGap d then unfolded (d :: rest) else []
    else c :: unfolded (d :: rest)

/-- A text between quotation marks. -/
def inQuotes (s : Text) : Text :=
  "\"" ++ s.flatMap (fun c : CodePoint =>
    if c = '\\' || c = '"' then [CodePoint.ofChar '\\', c] else [c]) ++ "\""

/-- A parameter in its plain form; an empty value is left out. -/
def parameterText (parameter : Text × Text) : Text :=
  if parameter.2.isEmpty then parameter.1 else parameter.1 ++ "=" ++ inQuotes parameter.2

/-- The plain form of a header. -/
def plainForm (header : Text) : Text :=
  match parts .plain (unfolded header) with
  | [] => []
  | [name] => tidy .plain name
  | name :: others =>
    let written := (parametersOf others).map parameterText
    tidy .plain name ++ ";"
      ++ (if written.isEmpty then [] else Text.ofString " " ++ Text.join "; " written)

/-! ## The parts of the plain form -/

/-- The fields between semicolons outside of quotation marks, from the one
    on whose beginning is held latest code point first. -/
def fieldsFrom (start : Text) (isQuoted : Bool) : Text → List Text
  | [] => [start.reverse]
  | c :: rest =>
    if c = ';' && (start.isEmpty || !isQuoted) then start.reverse :: fieldsFrom [] false rest
    else
      let turns := c = '"' && start.head? ≠ some (CodePoint.ofChar '\\')
      fieldsFrom (c :: start) (if turns then !isQuoted else isQuoted) rest

/-- The text in which one code point stands in the place of each two. -/
def withoutPairs (first second : CodePoint) : Text → Text
  | [] => []
  | [c] => [c]
  | c :: d :: rest =>
    if c = first && d = second then second :: withoutPairs first second rest
    else c :: withoutPairs first second (d :: rest)

/-- What stands between quotation marks or angle brackets, if a field
    stands between them. -/
def withoutQuotes (s : Text) : Text :=
  if 1 < s.length && Text.startsWith "\"" s && Text.endsWith "\"" s then
    withoutPairs '\\' '"' (withoutPairs '\\' '\\' (s.drop 1).dropLast)
  else if 1 < s.length && Text.startsWith "<" s && Text.endsWith ">" s then (s.drop 1).dropLast
  else s

/-- The name and the value of a field. -/
def nameAndValue (field : Text) : Text × Text :=
  match Text.cut '=' field with
  | (name, none) => (Text.trimBlanks name, [])
  | (name, some value) =>
    (Text.lowercase (Text.trimBlanks name), withoutQuotes (Text.trimBlanks value))

/-- The parameters with one set to a value, at its place if it is there
    already. -/
def setParameter (name value : Text) : List (Text × Text) → List (Text × Text)
  | [] => [(name, value)]
  | first :: others =>
    if first.1 = name then (name, value) :: others else first :: setParameter name value others

/-- The name of a type in its plain form: one slash has to be in it. -/
def nameOf (form : Text) : Text :=
  let name := Text.trimBlanks (Text.cut ';' (Text.lowercase form)).1
  if name.count (CodePoint.ofChar '/') = 1 then name else octets

/-- The media type that a header names. -/
def ofHeader (header : Text) : MediaType :=
  let form := plainForm header
  { name := nameOf form
    parameters := ((fieldsFrom [] false form).drop 1).foldl (fun parameters field =>
      let (name, value) := nameAndValue field
      setParameter name value parameters) [] }

/-! ## Headers -/

/-- The header of a media type. -/
def header (type : MediaType) : Text :=
  Text.join "; " (type.name :: type.parameters.map fun p => p.1 ++ "=" ++ p.2)

/-- The encoding that a media type names. -/
def charset? (type : MediaType) : Option Text := type.parameters.lookup (Text.ofString "charset")

/-- The media type with an encoding. -/
def withCharset (charset : Text) (type : MediaType) : MediaType :=
  { type with parameters := setParameter "charset" charset type.parameters }

/-- The header under which a text is sent that is given another one: mere
    octets become plain text, and UTF-8 is named unless an encoding is. -/
def textHeader (given : Text) : Text :=
  let type := ofHeader given
  let header := if type.name = octets then { type with name := plainText }.header else given
  let type := ofHeader header
  match type.charset? with
  | some _ => header
  | none => (type.withCharset "utf-8").header

/-- The encoding of a text that is sent under a header. -/
def encodingOf (header : Text) : Except Failure Charset :=
  match (ofHeader header).charset? with
  | none => .error .encodingNotNamed
  | some name =>
    match Charset.ofName? name with
    | none => .error (.unknownEncoding name)
    | some charset => .ok charset

end MediaType

end Avatar
