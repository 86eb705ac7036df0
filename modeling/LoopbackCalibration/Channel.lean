/-! # Signal paths

The transceiver has a receive and a transmit direction and two channels. A
quantity that exists once per channel is a `PerChannel`, read with `get` and
changed with `set`.
-/

namespace LoopbackCalibration

/-- Direction of a signal path. -/
inductive Direction where
  | rx
  | tx
  deriving Repr, DecidableEq

namespace Direction

/-- Both directions, receive first. -/
def all : List Direction := [.rx, .tx]

/-- The name of a direction in reports. -/
def label : Direction → String
  | .rx => "Rx"
  | .tx => "Tx"

end Direction

/-- One of the two channels. -/
inductive Channel where
  | a
  | b
  deriving Repr, DecidableEq

namespace Channel

/-- Both channels, in index order. -/
def all : List Channel := [.a, .b]

/-- Position of the channel in device calls. -/
def index : Channel → Nat
  | .a => 0
  | .b => 1

/-- The letter that settings and reports call the channel by. -/
def letter : Channel → String
  | .a => "A"
  | .b => "B"

/-- The name of a channel in reports. -/
def label (channel : Channel) : String :=
  "Ch" ++ channel.letter

/-- The channel that is not this one. -/
def other : Channel → Channel
  | .a => .b
  | .b => .a

/-- The channel that a letter names. -/
def ofLetter? : String → Option Channel
  | "A" => some .a
  | "B" => some .b
  | _ => none

theorem mem_all (channel : Channel) : channel ∈ all := by
  cases channel <;> decide

@[simp] theorem other_other (channel : Channel) : channel.other.other = channel := by
  cases channel <;> rfl

theorem ofLetter?_letter (channel : Channel) : ofLetter? channel.letter = some channel := by
  cases channel <;> rfl

end Channel

/-- A value for each of the two channels. -/
structure PerChannel (β : Type) where
  a : β
  b : β
  deriving Repr, BEq, DecidableEq, Inhabited

namespace PerChannel

variable {β γ : Type}

/-- The value of a channel. -/
@[inline] def get (values : PerChannel β) : Channel → β
  | .a => values.a
  | .b => values.b

/-- The values with one of them replaced. -/
@[inline] def set (values : PerChannel β) (channel : Channel) (value : β) : PerChannel β :=
  match channel with
  | .a => { values with a := value }
  | .b => { values with b := value }

/-- The same value on both channels. -/
@[inline] def both (value : β) : PerChannel β := ⟨value, value⟩

/-- The values that a function gives the channels. -/
@[inline] def ofFn (values : Channel → β) : PerChannel β := ⟨values .a, values .b⟩

/-- Each value changed by itself. -/
@[inline] def map (change : β → γ) (values : PerChannel β) : PerChannel γ :=
  ⟨change values.a, change values.b⟩

/-- Each channel with the value of the other one. -/
def swap (values : PerChannel β) : PerChannel β := ofFn fun channel => values.get channel.other

/-- Each channel with its value, in index order. -/
def toList (values : PerChannel β) : List (Channel × β) :=
  Channel.all.map fun channel => (channel, values.get channel)

@[simp] theorem get_set_same (values : PerChannel β) (channel : Channel) (value : β) :
    (values.set channel value).get channel = value := by
  cases channel <;> rfl

@[simp] theorem get_set_other (values : PerChannel β) (channel : Channel) (value : β) :
    (values.set channel value).get channel.other = values.get channel.other := by
  cases channel <;> rfl

@[simp] theorem get_ofFn (values : Channel → β) (channel : Channel) :
    (ofFn values).get channel = values channel := by
  cases channel <;> rfl

@[simp] theorem get_both (value : β) (channel : Channel) : (both value).get channel = value := by
  cases channel <;> rfl

@[simp] theorem get_map (change : β → γ) (values : PerChannel β) (channel : Channel) :
    (values.map change).get channel = change (values.get channel) := by
  cases channel <;> rfl

end PerChannel

end LoopbackCalibration
