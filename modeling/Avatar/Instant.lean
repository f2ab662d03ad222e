/-! # Instants

    The clock reads seconds with a fraction; what is stored and compared
    is the whole number of seconds next to it on the side of zero. -/

namespace Avatar

/-- A reading of the clock, in seconds. -/
structure Instant where
  seconds : Rat

namespace Instant

/-- The whole seconds of a reading, the fraction cut off. -/
def whole (t : Instant) : Int := t.seconds.num.tdiv t.seconds.den

/-- The reading some seconds later. -/
def after (t : Instant) (seconds : Nat) : Instant := ⟨t.seconds + seconds⟩

end Instant

end Avatar
