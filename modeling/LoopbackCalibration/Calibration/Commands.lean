import LoopbackCalibration.Calibration.Config
import LoopbackCalibration.Search.Tracker

/-! # What a calibration commands

The commands that a calibration gives without looking at a capture are lists,
computed from its settings: the setup of the front end, the tuning that clears all
corrections, and the writing of corrections.
-/

namespace LoopbackCalibration

/-- The commands that write a correction of one kind on each channel. -/
def writeCorrections {α : Type} (kind : CorrectionKind) (direction : Direction)
    (values : PerChannel (Phasor α)) : List (Command α) :=
  Channel.all.map fun channel => .correction kind direction channel (values.get channel)

/-- The commands that write an IQ correction and then an offset on each channel. -/
def writeTransmit {α : Type} (iq dc : PerChannel (Phasor α)) : List (Command α) :=
  Channel.all.flatMap fun channel =>
    [.iqBalance .tx channel (iq.get channel), .dcOffset .tx channel (dc.get channel)]

/-- The commands that write the best corrections that a search has found. -/
def SearchState.commands {α : Type} [Arithmetic α] (found : SearchState α)
    (direction : Direction) : List (Command α) :=
  writeCorrections found.kind direction found.corrections

namespace Config

variable {α : Type} [Arithmetic α]

/-- The frequency at which both oscillators are parked while the rates are set. New
rates take effect only on a tuned device. -/
def parkingFrequency : α := Arithmetic.ofCount 1000000000

/-- What is set once on a channel: rates, antennas, gains and the DC offset mode. -/
def channelSetup (config : Config α) (channel : Channel) : List (Command α) :=
  [.sampleRate .tx channel config.sampleRate,
    .sampleRate .rx channel config.sampleRate,
    .antenna .rx channel config.rxAntenna,
    .antenna .tx channel config.txAntenna] ++
  config.txGainPlan.map (fun (stage, decibels) => .gain .tx channel stage decibels) ++
  config.rxGainPlan.map (fun (stage, decibels) => .gain .rx channel stage decibels) ++
  [.dcOffsetMode .rx channel false]

/-- What turns the test tone of a channel on. -/
def toneSetup (channel : Channel) : List (Command α) :=
  [.setting "ACTIVE_CHANNEL" channel.letter, .setting "ENABLE_TXTSP_CONST" "true"]

/-- Everything that is set before a stream is opened. -/
def setup (config : Config α) : List (Command α) :=
  Direction.all.map (fun direction => .frequency direction .a .rf parkingFrequency) ++
  [.masterClockRate config.clockRate] ++
  Channel.all.flatMap config.channelSetup ++
  Channel.all.flatMap toneSetup

/-- The commands that tune both directions, stop the baseband oscillators and clear
every correction except the receive offset. -/
def tuning (config : Config α) (frequency : α) : List (Command α) :=
  [.frequency .rx .a .rf frequency, .frequency .tx .a .rf (frequency + config.txDelta)] ++
  Channel.all.flatMap (fun channel =>
    [.frequency .tx channel .baseband 0, .frequency .rx channel .baseband 0]) ++
  writeCorrections .dcOffset .tx (.both CorrectionKind.dcOffset.identity) ++
  writeCorrections .iqBalance .tx (.both CorrectionKind.iqBalance.identity) ++
  writeCorrections .iqBalance .rx (.both CorrectionKind.iqBalance.identity)

/-- The commands that set the receive amplifiers of both channels. -/
def receiveGain (gains : PerChannel α) : List (Command α) :=
  Channel.all.map fun channel => .gain .rx channel .pga (gains.get channel)

/-- The commands that move the transmit tones apart. -/
def separation (config : Config α) : List (Command α) :=
  Channel.all.map fun channel => .frequency .tx channel .baseband (config.txCordic.get channel)

/-- The gain that brings a tone of a level to the target, as far as the gain goes. -/
def adjustedGain (config : Config α) (level : α) : α :=
  Arithmetic.smaller (config.rxPgaGain + (config.rxTargetLevel - level)) config.maxRxPgaGain

/-- The grids of a search, one for each depth. -/
def grids (config : Config α) : List Grid := config.searchDepths.toList.map config.grid

/-- How many points the two searches try together. -/
def candidates (config : Config α) : Nat :=
  2 * config.searchDepths.size * (config.grid 0).size

end Config

end LoopbackCalibration
