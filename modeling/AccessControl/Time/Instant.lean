import AccessControl.Numeric.Double
/-!
# Instants

An instant is a number of seconds since the Unix epoch with nanoseconds.  A second before the end of
a minute may have up to two seconds' worth of nanoseconds, which is how a leap second is held.

* `Instant.ofDouble?` : the instant that a number of seconds denotes.
-/

namespace AccessControl

-- Powers are those of the core library, also where other libraries bring their own.
attribute [local instance (high)] instPowNat

/-- A point in time. -/
structure Instant where
  /-- Seconds since the Unix epoch. -/
  seconds : Int
  /-- Nanoseconds on top; a thousand million and more in a leap second. -/
  nanos : Nat
  deriving DecidableEq

namespace Instant

/-- The first second that can be held. -/
def firstSecond : Int := -8334601228800

/-- The last second that can be held. -/
def lastSecond : Int := 8210266876799

/-- The instant with the given parts, if it can be held; nanoseconds beyond a second only in the
last second of a minute. -/
def ofParts? (seconds : Int) (nanos : Nat) : Option Instant :=
  if firstSecond ≤ seconds ∧ seconds ≤ lastSecond ∧
      (nanos < 10 ^ (9 : Nat) ∨ (nanos < 2 * 10 ^ (9 : Nat) ∧ seconds % 60 = 59)) then
    some ⟨seconds, nanos⟩
  else none

/-- The seconds since the epoch as a double: the whole seconds plus the nanoseconds as a double. -/
def toDouble (i : Instant) : Double :=
  Double.nearest (i.seconds + (Double.nearest ((i.nanos : Rat) / 10 ^ (9 : Nat))).toRat)

/-- The instant of a number of seconds since the epoch: the fraction is cut off towards zero and
made nanoseconds, and a negative fraction gives none. -/
def ofDouble? (x : Double) : Option Instant :=
  ofParts? x.truncate (Double.nearest (x.fraction * 10 ^ (9 : Nat))).roundToNat

end Instant

end AccessControl
