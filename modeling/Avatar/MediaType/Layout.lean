import Avatar.Text.Blank

/-! # The layout of structured headers

    In a header that is made of parts a comment in parentheses may stand
    wherever a blank may, and comments may hold comments; in a comment and
    between quotation marks a backslash takes the next character as it
    is.  A part ends at a semicolon that stands outside of both. -/

namespace Avatar.MediaType

/-- Where in a header the next code point stands. -/
inductive Position
  /-- Among the words. -/
  | plain
  /-- After blanks among the words. -/
  | blank
  /-- Between quotation marks, maybe after a backslash. -/
  | quoted (isEscaped : Bool)
  /-- In a comment inside some others, maybe after a backslash. -/
  | comment (others : Nat) (isEscaped : Bool)
deriving DecidableEq

/-- A blank between words. -/
def isGap (c : CodePoint) : Bool := c = ' ' || c = '\t'

namespace Position

/-- The position after a code point in a comment. -/
def inComment (others : Nat) (c : CodePoint) : Position :=
  if c = '\\' then .comment others true
  else if c = '(' then .comment (others + 1) false
  else if c = ')' then
    match others with
    | 0 => .plain
    | others + 1 => .comment others false
  else .comment others false

/-- The position after a code point. -/
def next (position : Position) (c : CodePoint) : Position :=
  match position with
  | .comment others true => .comment others false
  | .comment others false => inComment others c
  | .quoted true => .quoted false
  | .quoted false => if c = '\\' then .quoted true else if c = '"' then .plain else .quoted false
  | _ =>
    if c = '"' then .quoted false
    else if c = '(' then .comment 0 false
    else if isGap c then .blank
    else if position = .blank && c.isBlank then .blank
    else .plain

/-- Whether the words go on at a position. -/
def isOutside : Position → Bool
  | .plain | .blank => true
  | _ => false

/-- What a code point at a position is written as: a backslash is put only
    where one is needed. -/
def written (position : Position) (c : CodePoint) : Text :=
  match position with
  | .comment _ isEscaped =>
    if isEscaped && (c = '\\' || c = '(' || c = ')') then [CodePoint.ofChar '\\', c]
    else if !isEscaped && c = '\\' then []
    else [c]
  | .quoted isEscaped =>
    if isEscaped && (c = '\\' || c = '"') then [CodePoint.ofChar '\\', c]
    else if !isEscaped && c = '\\' then []
    else [c]
  | _ => [c]

/-- What ends everything that is still open at a position. -/
def closing : Position → Text
  | .comment others _ => List.replicate (others + 1) (CodePoint.ofChar ')')
  | .quoted _ => Text.ofString "\""
  | _ => []

end Position

/-- The parts between the semicolons of a header. -/
def parts (position : Position) : Text → List Text
  | [] => [[]]
  | c :: rest =>
    if position.isOutside && c = ';' then [] :: parts .plain rest
    else
      match parts (position.next c) rest with
      | [] => [[c]]
      | part :: others => (c :: part) :: others

/-- A part with its comments and quotations in their plain form. -/
def tidy (position : Position) : Text → Text
  | [] => position.closing
  | c :: rest => position.written c ++ tidy (position.next c) rest

/-- What follows the blanks and comments that a text goes on with. -/
def afterGaps (position : Position) : Text → Text
  | [] => []
  | c :: rest =>
    if !position.isOutside || isGap c || c = '(' || (position = .blank && c.isBlank) then
      afterGaps (position.next c) rest
    else c :: rest

/-- What stands between quotation marks from a position on, and what
    follows it. -/
def quotation (isEscaped : Bool) : Text → Text × Text
  | [] => ([], [])
  | c :: rest =>
    if !isEscaped && c = '"' then ([], rest)
    else if !isEscaped && c = '\\' then quotation true rest
    else
      let (content, after) := quotation false rest
      (c :: content, after)

end Avatar.MediaType
