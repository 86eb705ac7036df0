/-! # Stream status codes

A stream read that fails reports a negative code. Only the timeout code means
that the read may be tried again.
-/

namespace LoopbackCalibration

/-- A stream status. -/
structure StatusCode where
  code : Int
  deriving Repr, DecidableEq

namespace StatusCode

/-- No samples arrived while the read waited. -/
def timeout : StatusCode := ⟨-1⟩

/-- A failure of the stream that no other code tells. -/
def streamError : StatusCode := ⟨-2⟩

/-- The data of the stream is corrupt. -/
def corruption : StatusCode := ⟨-3⟩

/-- Samples arrived faster than they were read. -/
def overflow : StatusCode := ⟨-4⟩

/-- The stream does not support the call. -/
def notSupported : StatusCode := ⟨-5⟩

/-- A timed operation failed. -/
def timeError : StatusCode := ⟨-6⟩

/-- Samples were sent too slowly. -/
def underflow : StatusCode := ⟨-7⟩

/-- The read may be tried again. -/
def isTimeout (status : StatusCode) : Bool :=
  status == timeout

/-- The symbolic name of a status. -/
def name (status : StatusCode) : String :=
  if status = timeout then "TIMEOUT"
  else if status = streamError then "STREAM_ERROR"
  else if status = corruption then "CORRUPTION"
  else if status = overflow then "OVERFLOW"
  else if status = notSupported then "NOT_SUPPORTED"
  else if status = timeError then "TIME_ERROR"
  else if status = underflow then "UNDERFLOW"
  else "UNKNOWN"

/-- A status as it stands in messages: the code with its name. -/
def text (status : StatusCode) : String :=
  s!"{status.code} ({status.name})"

end StatusCode

end LoopbackCalibration
