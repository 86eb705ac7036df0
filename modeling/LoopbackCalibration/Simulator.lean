import LoopbackCalibration.Device.Transceiver
import LoopbackCalibration.Noise.Normal
import LoopbackCalibration.Simulator.Signal

/-! # The simulated transceiver

A software transceiver whose transmit output is looped back into its receiver. It
keeps what was last set on every path, counts what was done to it, and delivers
samples of the modelled signal. A call that fails leaves the device as it was.
-/

namespace LoopbackCalibration

/-- What was set on one path. -/
structure PathState (α : Type) where
  rf : Option α
  baseband : Option α
  gains : GainStage → Option α
  antenna : Option String
  iqBalance : Phasor α
  dcOffset : Phasor α
  dcAutomatic : Option Bool
  sampleRate : α

namespace PathState

variable {α : Type} [Arithmetic α]

/-- A path on which nothing was set. -/
def initial : PathState α :=
  ⟨none, none, fun _ => none, none, .one, .zero, none, Arithmetic.ofCount 10000000⟩

/-- What a stage is tuned to, if it was tuned. -/
def frequency? (path : PathState α) : FrequencyStage → Option α
  | .rf => path.rf
  | .baseband => path.baseband

/-- The frequency of a stage; zero until set. -/
def frequency (path : PathState α) (stage : FrequencyStage) : α :=
  (path.frequency? stage).getD 0

/-- The path with a stage tuned. -/
def tune (path : PathState α) (stage : FrequencyStage) (hertz : α) : PathState α :=
  match stage with
  | .rf => { path with rf := some hertz }
  | .baseband => { path with baseband := some hertz }

/-- The path with a gain element set. -/
def amplify (path : PathState α) (stage : GainStage) (decibels : α) : PathState α :=
  { path with
    gains := fun element => if element = stage then some decibels else path.gains element }

end PathState

/-- A simulated transceiver. Its scalars are `α` and its noise comes from `ν`. -/
structure Simulator (ν α : Type) where
  model : LoopbackModel α
  noise : ν
  /-- Master clock rate; zero until set. -/
  clockRate : α
  rx : PerChannel (PathState α)
  tx : PerChannel (PathState α)
  /-- Every setting written, in order. -/
  settings : Array (String × String)
  /-- The channel that channel settings apply to. -/
  activeChannel : Channel
  /-- Whether each channel's constant tone is on. -/
  tone : PerChannel Bool
  /-- Index of the next sample since the device was made. -/
  sampleClock : Nat
  /-- Samples that the current burst still has. -/
  burst : Nat
  reads : Nat
  iqWrites : Nat
  opened : Nat
  closed : Nat
  /-- The number of reads after which every read fails, if there is one. -/
  failReadsAfter : Option Nat
  stalled : Bool
  /-- The operation that always fails, if there is one. -/
  failOperation : Option String

namespace Simulator

variable {ν α : Type}

section State

variable [Arithmetic α]

/-- A device that nothing was done to. -/
def initial (model : LoopbackModel α) (noise : ν) : Simulator ν α where
  model := model
  noise := noise
  clockRate := 0
  rx := .both .initial
  tx := .both .initial
  settings := #[]
  activeChannel := .a
  tone := .both false
  sampleClock := 0
  burst := 0
  reads := 0
  iqWrites := 0
  opened := 0
  closed := 0
  failReadsAfter := none
  stalled := false
  failOperation := none

/-- Both paths of a direction. -/
def paths (device : Simulator ν α) : Direction → PerChannel (PathState α)
  | .rx => device.rx
  | .tx => device.tx

/-- The path of a channel. -/
def path (device : Simulator ν α) (direction : Direction) (channel : Channel) : PathState α :=
  (device.paths direction).get channel

/-- The device with one path changed. -/
def changePath (device : Simulator ν α) (direction : Direction) (channel : Channel)
    (change : PathState α → PathState α) : Simulator ν α :=
  match direction with
  | .rx => { device with rx := device.rx.set channel (change (device.rx.get channel)) }
  | .tx => { device with tx := device.tx.set channel (change (device.tx.get channel)) }

/-- Carry out an operation unless it is the one that always fails. -/
def unlessFailing {β : Type} (operation : String)
    (action : Action (Simulator ν α) DeviceError β) : Action (Simulator ν α) DeviceError β :=
  fun device =>
    if device.failOperation = some operation then
      (.error (.configuration operation "injected failure"), device)
    else
      action device

/-- Write a low-level setting. Two keys act on the device: one names the channel that
the other switches the tone of. -/
def writeSetting (key value : String) : Action (Simulator ν α) DeviceError Unit :=
  fun device =>
    let written (device : Simulator ν α) : Simulator ν α :=
      { device with settings := device.settings.push (key, value) }
    if key = "ACTIVE_CHANNEL" then
      match Channel.ofLetter? value with
      | some channel => (.ok (), written { device with activeChannel := channel })
      | none => (.error (.configuration "write_setting" s!"unknown channel: {value}"), device)
    else if key = "ENABLE_TXTSP_CONST" then
      (.ok (), written
        { device with tone := device.tone.set device.activeChannel (value == "true") })
    else
      (.ok (), written device)

/-- Set the sample rate of a path, which may not be zero or less. -/
def writeSampleRate [Numeral α] (direction : Direction) (channel : Channel) (hertz : α) :
    Action (Simulator ν α) DeviceError Unit :=
  fun device =>
    if hertz ≤ 0 then
      (.error (.configuration "set_sample_rate"
        s!"rate must be positive, got {Numeral.plain hertz}"), device)
    else
      (.ok (), device.changePath direction channel fun path => { path with sampleRate := hertz })

/-- What a command does once nothing prevents it. -/
def carryOut [Numeral α] : Command α → Action (Simulator ν α) DeviceError Unit
  | .frequency direction channel stage hertz =>
    Action.modify fun device => device.changePath direction channel fun path =>
      path.tune stage hertz
  | .gain direction channel stage decibels =>
    Action.modify fun device => device.changePath direction channel fun path =>
      path.amplify stage decibels
  | .antenna direction channel connector =>
    Action.modify fun device => device.changePath direction channel fun path =>
      { path with antenna := some connector }
  | .dcOffset direction channel offset =>
    Action.modify fun device => device.changePath direction channel fun path =>
      { path with dcOffset := offset }
  | .iqBalance direction channel balance =>
    Action.modify fun device =>
      { device.changePath direction channel fun path => { path with iqBalance := balance } with
        iqWrites := device.iqWrites + 1 }
  | .dcOffsetMode direction channel automatic =>
    Action.modify fun device => device.changePath direction channel fun path =>
      { path with dcAutomatic := some automatic }
  | .masterClockRate hertz => Action.modify fun device => { device with clockRate := hertz }
  | .sampleRate direction channel hertz => writeSampleRate direction channel hertz
  | .setting key value => writeSetting key value

/-- Carry out a command, unless the device was told to fail it. -/
def command [Numeral α] (command : Command α) : Action (Simulator ν α) DeviceError Unit :=
  unlessFailing command.operation (carryOut command)

/-- Open a stream, whose handle is the list of its channels. -/
def openStream (channels : List Channel) : Action (Simulator ν α) DeviceError (List Channel) :=
  unlessFailing "setup_rx_stream" fun device =>
    (.ok channels, { device with opened := device.opened + 1 })

/-- Start a burst of so many samples; what was left of an earlier one is dropped. -/
def activate (_ : List Channel) (count : Nat) : Action (Simulator ν α) DeviceError Unit :=
  unlessFailing "activate_burst" fun device => (.ok (), { device with burst := count })

/-- Close a stream, which also ends its burst. -/
def closeStream (_ : List Channel) : Action (Simulator ν α) DeviceError Unit :=
  fun device => (.ok (), { device with closed := device.closed + 1, burst := 0 })

end State

section Reading

variable [Scalar α]

/-- The transmit path of a channel as its samples see it. -/
def txPath (device : Simulator ν α) (channel : Channel) : Signal.TxPath α :=
  let path := device.path .tx channel
  { tone := device.tone.get channel
    oscillator := path.frequency .baseband
    image := Signal.imbalanceError (device.model.txImbalance.get channel) path.iqBalance
    offset := device.model.txLeakage.get channel + path.dcOffset }

/-- The receive path of a channel as it stands. The oscillator of each direction is
tuned through the first channel. -/
def rxPath (device : Simulator ν α) (channel : Channel) : Signal.RxPath α :=
  let path := device.path .rx channel
  let between := (device.path .tx .a).frequency .rf - (device.path .rx .a).frequency .rf
  let gain := (path.gains .pga).getD 0
  { rate := path.sampleRate
    shift := between - path.frequency .baseband
    gain := device.model.toneAmplitude * Scalar.exp10 (gain / Arithmetic.ofCount 20)
    image := Signal.imbalanceError (device.model.rxImbalance.get channel) path.iqBalance }

/-- The signal paths behind a buffer of a channel. -/
def chain (device : Simulator ν α) (channel : Channel) : Signal.Chain α :=
  { own := device.txPath channel
    other := device.txPath channel.other
    rx := device.rxPath channel
    crosstalk := device.model.crosstalk }

variable [NoiseSource ν α]

/-- The next samples of a chain with noise added, after those already in the buffer.
Each sample draws its real and then its imaginary noise. -/
def receive (chain : Signal.Chain α) (sigma : α) :
    Nat → Nat → Array (Phasor α) → ν → Array (Phasor α) × ν
  | 0, _, buffer, noise => (buffer, noise)
  | remaining + 1, index, buffer, noise =>
    match (NoiseSource.draw noise : α × ν) with
    | (re, noise) =>
      match (NoiseSource.draw noise : α × ν) with
      | (im, noise) =>
        let sample := chain.sample index + Phasor.scale ⟨re, im⟩ sigma
        receive chain sigma remaining (index + 1) (buffer.push sample.stored) noise

/-- One buffer for each channel of a stream, the noise going from one to the next. -/
def receiveAll (device : Simulator ν α) (count : Nat) :
    List Channel → ν → List (Array (Phasor α)) × ν
  | [], noise => ([], noise)
  | channel :: rest, noise =>
    match receive (device.chain channel) device.model.noiseSigma count device.sampleClock
        (Array.mkEmpty count) noise with
    | (buffer, noise) =>
      match receiveAll device count rest noise with
      | (buffers, noise) => (buffer :: buffers, noise)

/-- Samples per buffer that a read with the given room delivers. -/
def deliverable (device : Simulator ν α) (rooms : List Nat) : Nat :=
  min device.burst (min device.model.maxRead (rooms.min?.getD 0))

/-- Read from the burst. The failures that the device was told to have come first, then the end of
the burst, then a wrong number of buffers. -/
def read (stream : List Channel) (rooms : List Nat) (_ : Duration) :
    Action (Simulator ν α) StatusCode (Delivery α) :=
  fun device =>
    if device.stalled then
      (.error .timeout, device)
    else if device.failReadsAfter.any fun limit => limit ≤ device.reads then
      (.error .streamError, device)
    else if device.burst = 0 then
      (.error .timeout, device)
    else if rooms.length ≠ stream.length then
      (.error .notSupported, device)
    else
      let count := device.deliverable rooms
      match device.receiveAll count stream device.noise with
      | (buffers, noise) =>
        (.ok ⟨count, buffers⟩, { device with
          noise := noise
          sampleClock := device.sampleClock + count
          burst := device.burst - count
          reads := device.reads + 1 })

/-- The simulated transceiver. -/
def transceiver [Numeral α] : Transceiver (Simulator ν α) (List Channel) α where
  description device :=
    s!"SimulatedLoopback(seed={device.model.seed}, " ++
      s!"noise_rms={Numeral.scientific device.model.noiseRms}, " ++
      s!"max_read={device.model.maxRead})"
  command := command
  openStream := openStream
  activate := activate
  read := read
  closeStream := closeStream

end Reading

/-- A device of the program: double precision, and noise from the seed of its model. -/
def ofModel (model : LoopbackModel Float) : Simulator Noise.Keystream Float :=
  initial model (.ofSeed (UInt64.ofNat model.seed))

end Simulator

end LoopbackCalibration
