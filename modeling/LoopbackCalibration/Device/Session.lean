import LoopbackCalibration.Device.Acquisition

/-! # Capture sessions

A session owns one receive stream of both channels from its opening to its close.
`withStream` closes the stream after a computation that uses it, whether the
computation succeeds or not; only after success does a failing close count.
`CaptureSession.run` serves a list of requests and then closes or abandons the
stream, which closes it as well but tells no one about a failure.
-/

namespace LoopbackCalibration

variable {σ η α ε β : Type}

/-- Run a computation with a stream of both channels that is open exactly while it
runs. -/
def withStream (rig : Rig σ η α) (openFailed closeFailed : DeviceError → ε)
    (body : η → Action σ ε β) : Action σ ε β :=
  fun world =>
    match rig.openStream Channel.all world with
    | (.error cause, world) => (.error (openFailed cause), world)
    | (.ok stream, world) =>
      match body stream world with
      | (.error cause, world) => (.error cause, (rig.closeStream stream world).2)
      | (.ok value, world) =>
        match rig.closeStream stream world with
        | (.error cause, world) => (.error (closeFailed cause), world)
        | (.ok _, world) => (.ok value, world)

namespace CaptureSession

/-- What the user of an open session asks for. -/
inductive Request where
  | acquire (count : Nat) (options : AcquisitionOptions)
  | read (rooms : List Nat) (wait : Duration)
  deriving Repr

/-- What a request is answered with. -/
inductive Answer (α : Type) where
  | block (result : Except (Halt AcquisitionError) (SampleBlock α))
  | samples (result : Except StatusCode Nat)

/-- How the user leaves a session. -/
inductive Ending where
  | close
  | abandon
  deriving Repr, DecidableEq

/-- What a session came to. -/
structure Transcript (α : Type) where
  opened : Except DeviceError Unit
  answers : List (Answer α)
  /-- The outcome of the close, if the session was closed and not abandoned. -/
  closed : Option (Except DeviceError Unit)

variable [Arithmetic α]

/-- Answer one request with an open stream. -/
def serve (rig : Rig σ η α) (stream : η) (request : Request) (world : σ) : Answer α × σ :=
  match request with
  | .acquire count options =>
    match Acquisition.acquire rig stream count options world with
    | (result, world) => (.block result, world)
  | .read rooms wait =>
    match rig.read stream rooms wait world with
    | (result, world) => (.samples (result.map Delivery.count), world)

/-- Answer requests in order, whether or not one of them fails. -/
def serveAll (rig : Rig σ η α) (stream : η) : List Request → σ → List (Answer α) × σ
  | [], world => ([], world)
  | request :: rest, world =>
    match serve rig stream request world with
    | (answer, world) =>
      match serveAll rig stream rest world with
      | (answers, world) => (answer :: answers, world)

/-- Open a stream, serve the requests, and leave in the given way. -/
def run (rig : Rig σ η α) (requests : List Request) (ending : Ending) (world : σ) :
    Transcript α × σ :=
  match rig.openStream Channel.all world with
  | (.error cause, world) => (⟨.error cause, [], none⟩, world)
  | (.ok stream, world) =>
    match serveAll rig stream requests world with
    | (answers, world) =>
      match rig.closeStream stream world with
      | (closed, world) =>
        (⟨.ok (), answers, if ending = .close then some closed else none⟩, world)

end CaptureSession

end LoopbackCalibration
