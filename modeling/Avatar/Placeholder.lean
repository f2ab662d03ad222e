import Avatar.Text.Hex
import Avatar.Text.Utf16

/-! # Placeholder images

    An actor without an avatar is shown as a square whose colour comes
    from the three lowest octets of a 32-bit hash of the actor's text.
    The hash runs over units of sixteen bits, so that every component
    that computes it agrees. -/

namespace Avatar.Placeholder

/-- Takes one more unit into a hash: thirty-one times the hash, as a shift
    less the hash itself, and the unit.  The shift, the difference and the
    sum wrap around, each on its own. -/
def mix (hash : Int32) (unit : UInt16) : Int32 :=
  unit.toUInt32.toInt32 + ((hash <<< 5) - hash)

/-- The hash of some units, from the first to the last. -/
def hashUnits (units : List UInt16) : Int32 := units.foldl mix 0

/-- The hash of a text. -/
def hash (s : Text) : Int32 := hashUnits s.units16

/-- The octet of a hash that is so many bits above its lowest one.  The
    shift keeps the sign, of which nothing is left in the octet. -/
def octet (hash places : Int32) : UInt8 := (hash >>> places).toUInt32.toUInt8

/-- A colour of the web: a number sign and three octets in hexadecimal,
    here the lowest three of the hash, the lowest of them first. -/
def color (s : Text) : Text := "#" ++ Text.ofOctets ([0, 8, 16].map (octet (hash s)))

/-- The width and height of a placeholder. -/
def size : Int := 128

/-- The width and height of a small placeholder. -/
def tinySize : Int := 32

/-- A square in a colour, as an SVG document. -/
def square (color : Text) (size : Int) : Text :=
  let side := Text.ofInt size
  "<svg width=\"" ++ side ++ "\" height=\"" ++ side ++ "\" viewBox=\"0 0 " ++ side ++ " " ++ side
    ++ "\" xmlns=\"http://www.w3.org/2000/svg\"><rect width=\"" ++ side ++ "\" height=\"" ++ side
    ++ "\" fill=\"" ++ color ++ "\"/></svg>"

/-- The square that is shown for an actor. -/
def svg (actor : Text) (size : Int) : Text := square (color actor) size

end Avatar.Placeholder
