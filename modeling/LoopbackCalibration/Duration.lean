import LoopbackCalibration.Decimal

/-! # Durations

A duration is a count of nanoseconds. Its text has the largest unit that leaves
a whole part, and as many decimals as it needs.
-/

namespace LoopbackCalibration

/-- A length of time. -/
structure Duration where
  nanoseconds : Nat
  deriving Repr, DecidableEq, Inhabited

namespace Duration

/-- A number of milliseconds. -/
def ofMilliseconds (count : Nat) : Duration := ⟨count * 1000000⟩

/-- A number of seconds. -/
def ofSeconds (count : Nat) : Duration := ⟨count * 1000000000⟩

/-- The longest duration: all ones in a 64-bit count of seconds, and the most
nanoseconds below a further second. -/
def longest : Duration := ⟨2 ^ (64 : Nat) * 1000000000 - 1⟩

/-- It has no length at all. -/
def isZero (duration : Duration) : Bool :=
  duration.nanoseconds == 0

/-- A count of parts of a unit, `places` of them decimal, as a decimal number without
zeros at the end. -/
def decimal (places parts : Nat) : String :=
  let unit := 10 ^ places
  let fraction := parts % unit
  if fraction = 0 then
    toString (parts / unit)
  else
    let digits := Decimal.digitsOf fraction
    let padded := List.replicate (places - digits.length) '0' ++ digits
    toString (parts / unit) ++ "." ++
      String.ofList (padded.reverse.dropWhile (· == '0')).reverse

/-- A duration in the largest unit of which it has at least one. -/
def text (duration : Duration) : String :=
  let count := duration.nanoseconds
  if 1000000000 ≤ count then
    decimal 9 count ++ "s"
  else if 1000000 ≤ count then
    decimal 6 count ++ "ms"
  else if 1000 ≤ count then
    decimal 3 count ++ "µs"
  else
    toString count ++ "ns"

/-- The duration in seconds, the whole seconds and the rest converted apart. -/
def seconds (duration : Duration) : Float :=
  Float.ofNat (duration.nanoseconds / 1000000000) +
    Float.ofNat (duration.nanoseconds % 1000000000) / 1000000000.0

end Duration

end LoopbackCalibration
