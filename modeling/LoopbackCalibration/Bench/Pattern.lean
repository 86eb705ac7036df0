import LoopbackCalibration.Device.Transceiver

/-! # Repeating transceivers

A transceiver that ignores every command and delivers a fixed sequence of samples
on each channel over and over. One cursor counts the samples of both channels.
-/

namespace LoopbackCalibration

/-- A transceiver that repeats what it holds. -/
structure Pattern (α : Type) where
  /-- What is repeated on each channel, in the order of a stream's buffers. -/
  sequences : PerChannel (Array (Phasor α))
  maxRead : Nat
  cursor : Nat

namespace Pattern

variable {α : Type} [Arithmetic α]

/-- A number of samples of a repeated sequence, from a position on. -/
def slice (sequence : Array (Phasor α)) (cursor count : Nat) : Array (Phasor α) :=
  Array.ofFn fun index : Fin count =>
    (sequence.getD ((cursor + index) % sequence.size) .zero).stored

/-- Bring the next samples of the pattern, as many as there is room for and one read may bring. -/
def read (rooms : List Nat) : Action (Pattern α) StatusCode (Delivery α) :=
  fun pattern =>
    let count := min (rooms.min?.getD 0) pattern.maxRead
    (.ok ⟨count, Channel.all.map fun channel =>
        slice (pattern.sequences.get channel) pattern.cursor count⟩,
      { pattern with cursor := pattern.cursor + count })

/-- A transceiver that takes every command and reads from a pattern. -/
def transceiver : Transceiver (Pattern α) Unit α where
  description pattern := s!"Pattern(max_read={pattern.maxRead})"
  command _ := Action.pure ()
  openStream _ := Action.pure ()
  activate _ _ := Action.pure ()
  read _ rooms _ := read rooms
  closeStream _ := Action.pure ()

end Pattern

end LoopbackCalibration
