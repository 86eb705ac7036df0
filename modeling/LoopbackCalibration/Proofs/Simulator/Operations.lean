import LoopbackCalibration.Proofs.Simulator.Work

/-! # Operations on the simulated transceiver

Everything that can be done to a simulated transceiver, with what it replies and what it leaves
in the buffers of its caller. What fails does so for one of a few reasons, and it changes neither
the device nor a buffer (`Simulator.failure_changes_nothing`). A read that succeeds overwrites the
start of every buffer with the samples that come next (`Simulator.perform_read`).
-/

namespace LoopbackCalibration

/-- A delivery with as many samples for each buffer as there is room for replaces the start of
each. -/
theorem Delivery.fill_eq_zipWith {α : Type} {count : Nat}
    {written buffers : List (Array (Phasor α))} (lengths : written.length = buffers.length)
    (counted : ∀ samples ∈ written, samples.size = count)
    (fits : ∀ buffer ∈ buffers, count ≤ buffer.size) :
    Delivery.fill ⟨count, written⟩ buffers =
      List.zipWith (fun samples buffer => samples ++ buffer.extract count) written buffers := by
  refine List.ext_getElem (by simp [fill, lengths]) fun index below above => ?_
  have inside : index < written.length := by simp at above; omega
  have room : index < buffers.length := by simp at above; omega
  have size : written[index].size = count := counted _ (List.getElem_mem inside)
  have enough : written[index].size ≤ buffers[index].size :=
    size.trans_le (fits _ (List.getElem_mem room))
  simp only [fill, List.getElem_map, List.getElem_zipIdx, Nat.zero_add, List.getElem_zipWith,
    List.getD_eq_getElem?_getD, List.getElem?_eq_getElem inside, Option.getD_some, overwrite, size]
  rw [Array.extract_eq_self_of_le enough]

namespace Simulator

variable {ν α : Type}

/-- What can be done to a simulated transceiver. -/
inductive Operation (α : Type) where
  | command (command : Command α)
  | openStream (channels : List Channel)
  | activate (stream : List Channel) (count : Nat)
  /-- Read into the buffers of a caller. -/
  | read (stream : List Channel) (buffers : List (Array (Phasor α))) (wait : Duration)
  | closeStream (stream : List Channel)
  /-- Have an operation fail from now on. -/
  | failOperation (name : String)
  /-- Have every read fail once there were so many. -/
  | failReadsAfter (reads : Nat)
  | stallReads

namespace Operation

/-- The buffers that the caller hands over. -/
def buffers : Operation α → List (Array (Phasor α))
  | .read _ buffers _ => buffers
  | _ => []

end Operation

/-- What an operation replies. -/
inductive Reply where
  | done
  | opened (stream : List Channel)
  /-- So many samples were put into every buffer. -/
  | delivered (count : Nat)
  | refused (error : DeviceError)
  | interrupted (status : StatusCode)
  deriving DecidableEq

/-- Whether a reply tells of a failure. -/
def Reply.failed : Reply → Bool
  | .refused _ | .interrupted _ => true
  | _ => false

/-- What an operation replied and left behind: the device and the buffers of the caller. -/
structure Performed (ν α : Type) where
  reply : Reply
  device : Simulator ν α
  buffers : List (Array (Phasor α))

/-- What an action on the device alone replies and leaves behind. -/
def Performed.ofResult {β : Type} (reply : β → Reply) :
    Except DeviceError β × Simulator ν α → Performed ν α
  | (.ok value, device) => ⟨reply value, device, []⟩
  | (.error cause, device) => ⟨.refused cause, device, []⟩

section Performing

variable [Scalar α] [Numeral α] [NoiseSource ν α]

/-- Carry out an operation on a device. -/
def perform (device : Simulator ν α) : Operation α → Performed ν α
  | .command command => .ofResult (fun _ => .done) (Simulator.command command device)
  | .openStream channels => .ofResult .opened (Simulator.openStream channels device)
  | .activate stream count => .ofResult (fun _ => .done) (Simulator.activate stream count device)
  | .read stream buffers wait =>
    match Simulator.read stream (buffers.map Array.size) wait device with
    | (.ok delivery, device) => ⟨.delivered delivery.count, device, delivery.fill buffers⟩
    | (.error status, device) => ⟨.interrupted status, device, buffers⟩
  | .closeStream stream => .ofResult (fun _ => .done) (Simulator.closeStream stream device)
  | .failOperation name => ⟨.done, { device with failOperation := some name }, []⟩
  | .failReadsAfter reads => ⟨.done, { device with failReadsAfter := some reads }, []⟩
  | .stallReads => ⟨.done, { device with stalled := true }, []⟩

/-- A read into so many buffers cannot bring samples. -/
def Withholds (device : Simulator ν α) (stream : List Channel) (buffers : Nat) : Prop :=
  device.stalled ∨ (∃ limit ∈ device.failReadsAfter, limit ≤ device.reads) ∨ device.burst = 0 ∨
    buffers ≠ stream.length

/-- What keeps a device from an operation: it was told to fail it, or it does not take the
command, or it has nothing to read. -/
def Prevents (device : Simulator ν α) : Operation α → Prop
  | .command issued => device.failOperation = some issued.operation ∨ ¬issued.accepted
  | .openStream _ => device.failOperation = some "setup_rx_stream"
  | .activate _ _ => device.failOperation = some "activate_burst"
  | .read stream buffers _ => device.Withholds stream buffers.length
  | _ => False

variable {device : Simulator ν α}

section Setting

variable {β : Type} {name : String} {action : Action (Simulator ν α) DeviceError β}

omit [NoiseSource ν α] [Numeral α] [Scalar α] in
theorem unlessFailing_of_injected (injected : device.failOperation = some name) :
    unlessFailing name action device =
      (.error (.configuration name "injected failure"), device) :=
  if_pos injected

omit [NoiseSource ν α] [Numeral α] [Scalar α] in
theorem unlessFailing_of_not_injected (obedient : device.failOperation ≠ some name) :
    unlessFailing name action device = action device :=
  if_neg obedient

omit [NoiseSource ν α] in
theorem carryOut_of_not_accepted {command : Command α} (refused : ¬command.accepted) :
    ∃ cause, carryOut command device = (.error cause, device) := by
  cases command with
  | sampleRate direction channel hertz => exact ⟨_, if_pos (Decidable.not_not.mp refused)⟩
  | setting key value =>
      obtain ⟨rfl, unknown⟩ := Classical.not_imp.mp refused
      have missing := Option.not_isSome_iff_eq_none.mp unknown
      simp only [carryOut, writeSetting, if_pos, missing]
      exact ⟨_, rfl⟩
  | _ => exact absurd trivial refused

end Setting

omit [Numeral α] in
theorem read_of_withholds {stream : List Channel} {buffers : List (Array (Phasor α))}
    (withholds : device.Withholds stream buffers.length) (wait : Duration) :
    ∃ status, Simulator.read stream (buffers.map Array.size) wait device =
      (.error status, device) := by
  unfold Simulator.read
  rw [List.length_map]
  split_ifs with stalled limited exhausted mismatched
  · exact ⟨_, rfl⟩
  · exact ⟨_, rfl⟩
  · exact ⟨_, rfl⟩
  · exact ⟨_, rfl⟩
  · rcases withholds with stalls | ⟨limit, given, met⟩ | used | different
    · exact absurd stalls stalled
    · exact absurd (by simp [Option.mem_def.mp given, met]) limited
    · exact absurd used exhausted
    · exact absurd different mismatched

/-- What is prevented fails and changes nothing. -/
theorem perform_of_prevents {operation : Operation α} (prevents : device.Prevents operation) :
    (device.perform operation).reply.failed ∧ (device.perform operation).device = device ∧
      (device.perform operation).buffers = operation.buffers := by
  have fails : ∃ reply : Reply, reply.failed ∧
      device.perform operation = ⟨reply, device, operation.buffers⟩ := by
    cases operation with
    | command issued =>
        have refuses : ∃ cause, Simulator.command issued device = (.error cause, device) := by
          unfold Simulator.command
          by_cases injected : device.failOperation = some issued.operation
          · exact ⟨_, unlessFailing_of_injected injected⟩
          · rw [unlessFailing_of_not_injected injected]
            exact carryOut_of_not_accepted (prevents.resolve_left injected)
        obtain ⟨cause, refuses⟩ := refuses
        exact ⟨.refused cause, rfl, by simp only [perform, refuses]; rfl⟩
    | openStream channels =>
        have refuses : Simulator.openStream channels device = _ :=
          unlessFailing_of_injected prevents
        exact ⟨_, rfl, by simp only [perform, refuses]; rfl⟩
    | activate stream count =>
        have refuses : Simulator.activate stream count device = _ :=
          unlessFailing_of_injected prevents
        exact ⟨_, rfl, by simp only [perform, refuses]; rfl⟩
    | read stream buffers wait =>
        obtain ⟨status, fails⟩ := read_of_withholds prevents wait
        exact ⟨.interrupted status, rfl, by simp only [perform, fails]; rfl⟩
    | closeStream | failOperation | failReadsAfter | stallReads => exact prevents.elim
  obtain ⟨reply, failed, performed⟩ := fails
  rw [performed]
  exact ⟨failed, rfl, rfl⟩

theorem perform_command {issued : Command α} (allowed : ¬device.Prevents (.command issued)) :
    device.perform (.command issued) = ⟨.done, (carryOut issued device).2, []⟩ := by
  obtain ⟨obedient, accepted⟩ := not_or.mp allowed
  have carried := carryOut_of_accepted (not_not.mp accepted) device
  have commanded : Simulator.command issued device = carryOut issued device :=
    unlessFailing_of_not_injected obedient
  simp only [perform, commanded]
  rcases done : carryOut issued device with ⟨_ | _, after⟩ <;> rw [done] at carried
  · cases carried
  · rfl

theorem perform_openStream {channels : List Channel}
    (allowed : ¬device.Prevents (.openStream channels)) :
    device.perform (.openStream channels) =
      ⟨.opened channels, { device with opened := device.opened + 1 }, []⟩ := by
  have opened : Simulator.openStream channels device = _ := unlessFailing_of_not_injected allowed
  simp only [perform, opened]
  rfl

theorem perform_activate {stream : List Channel} {count : Nat}
    (allowed : ¬device.Prevents (.activate stream count)) :
    device.perform (.activate stream count) = ⟨.done, { device with burst := count }, []⟩ := by
  have activated : Simulator.activate stream count device = _ :=
    unlessFailing_of_not_injected allowed
  simp only [perform, activated]
  rfl

omit [Numeral α] in
@[simp] theorem size_receive (chain : Signal.Chain α) (sigma : α) (count index : Nat)
    (buffer : Array (Phasor α)) (noise : ν) :
    (receive chain sigma count index buffer noise).1.size = buffer.size + count := by
  induction count generalizing index buffer noise with
  | zero => rfl
  | succ count ih =>
      simp only [receive, ih, Array.size_push]
      omega

omit [Numeral α] in
@[simp] theorem length_receiveAll (count : Nat) (channels : List Channel) (noise : ν) :
    (device.receiveAll count channels noise).1.length = channels.length := by
  induction channels generalizing noise with
  | nil => rfl
  | cons channel rest ih => simp only [receiveAll, List.length_cons, ih]

omit [Numeral α] in
theorem size_of_mem_receiveAll {count : Nat} {channels : List Channel} {noise : ν}
    {samples : Array (Phasor α)} (member : samples ∈ (device.receiveAll count channels noise).1) :
    samples.size = count := by
  induction channels generalizing noise with
  | nil => cases member
  | cons channel rest ih =>
      simp only [receiveAll, List.mem_cons] at member
      rcases member with rfl | later
      · exact (size_receive ..).trans (Nat.zero_add count)
      · exact ih later

omit [NoiseSource ν α] [Numeral α] [Scalar α] in
theorem deliverable_le {rooms : List Nat} {room : Nat} (member : room ∈ rooms) :
    device.deliverable rooms ≤ room := by
  have least : rooms.min?.getD 0 ≤ room := List.min?_getD_le_of_mem member
  unfold deliverable
  omega

omit [NoiseSource ν α] [Numeral α] in
/-- A read that nothing prevents has a buffer for every channel. -/
theorem length_buffers_of_allowed {stream : List Channel} {buffers : List (Array (Phasor α))}
    {wait : Duration} (allowed : ¬device.Prevents (.read stream buffers wait)) :
    buffers.length = stream.length :=
  not_not.mp fun different => allowed (.inr (.inr (.inr different)))

/-- A read that nothing prevents puts the samples that come next at the start of each buffer. -/
theorem perform_read {stream : List Channel} {buffers : List (Array (Phasor α))} {wait : Duration}
    {count : Nat} {samples : List (Array (Phasor α))} {noise : ν}
    (allowed : ¬device.Prevents (.read stream buffers wait))
    (counted : device.deliverable (buffers.map Array.size) = count)
    (received : device.receiveAll count stream device.noise = (samples, noise)) :
    device.perform (.read stream buffers wait) =
      ⟨.delivered count,
        { device with
          noise := noise
          sampleClock := device.sampleClock + count
          burst := device.burst - count
          reads := device.reads + 1 },
        List.zipWith (fun samples buffer => samples ++ buffer.extract count) samples buffers⟩ := by
  obtain ⟨running, unlimited, lasting, matching⟩ :
      device.stalled = false ∧ (∀ limit ∈ device.failReadsAfter, ¬limit ≤ device.reads) ∧
        device.burst ≠ 0 ∧ buffers.length = stream.length := by
    simpa [Prevents, Withholds] using allowed
  have read : Simulator.read stream (buffers.map Array.size) wait device =
      (.ok ⟨count, samples⟩, { device with
        noise := noise
        sampleClock := device.sampleClock + count
        burst := device.burst - count
        reads := device.reads + 1 }) := by
    have below : ¬device.failReadsAfter.any fun limit => limit ≤ device.reads := by
      rw [Option.any_eq_true]
      rintro ⟨limit, given, met⟩
      exact unlimited limit given (of_decide_eq_true met)
    unfold Simulator.read
    rw [if_neg (by simp [running]), if_neg below, if_neg lasting, if_neg (by simp [matching])]
    simp only [counted, received]
  obtain rfl : (device.receiveAll count stream device.noise).1 = samples :=
    congrArg Prod.fst received
  have lengths : (device.receiveAll count stream device.noise).1.length = buffers.length :=
    (length_receiveAll ..).trans matching.symm
  have fits : ∀ buffer ∈ buffers, count ≤ buffer.size := fun buffer member =>
    counted ▸ deliverable_le (List.mem_map_of_mem member)
  simp only [perform, read]
  rw [Delivery.fill_eq_zipWith lengths (fun _ => size_of_mem_receiveAll) fits]

theorem failed_iff_prevents {operation : Operation α} :
    (device.perform operation).reply.failed ↔ device.Prevents operation := by
  refine ⟨fun failed => by_contra fun allowed => ?_, fun prevents =>
    (perform_of_prevents prevents).1⟩
  have succeeds : (device.perform operation).reply.failed = false := by
    cases operation with
    | command issued => rw [perform_command allowed]; rfl
    | openStream channels => rw [perform_openStream allowed]; rfl
    | activate stream count => rw [perform_activate allowed]; rfl
    | read stream buffers wait => rw [perform_read allowed rfl rfl]; rfl
    | closeStream | failOperation | failReadsAfter | stallReads => rfl
  exact Bool.false_ne_true (succeeds.symm.trans failed)

/-- **Failures change nothing.** An operation fails exactly when something prevents it: a failure
that was asked for, a rate or a channel that the device does not take, or nothing to read. It then
leaves the device and the buffers of its caller exactly as they were. -/
theorem failure_changes_nothing (device : Simulator ν α) (operation : Operation α) :
    ((device.perform operation).reply.failed ↔ device.Prevents operation) ∧
      ((device.perform operation).reply.failed →
        (device.perform operation).device = device ∧
          (device.perform operation).buffers = operation.buffers) :=
  ⟨failed_iff_prevents, fun failed => (perform_of_prevents (failed_iff_prevents.mp failed)).2⟩

end Performing

/-- Reading into a single buffer from both channels of a device with a burst. -/
theorem failure_changes_nothing_mismatched :
    let operation : Operation Float := .read Channel.all [#[.one, .zero]] ⟨0⟩
    (Calibration.used.perform operation).reply = .interrupted .notSupported ∧
      (Calibration.used.perform operation).device = Calibration.used ∧
        (Calibration.used.perform operation).buffers = [#[.one, .zero]] := by
  intro operation
  have reply : (Calibration.used.perform operation).reply = .interrupted .notSupported := by
    decide +kernel
  exact ⟨reply, (failure_changes_nothing Calibration.used operation).2 (by rw [reply]; rfl)⟩

end Simulator

end LoopbackCalibration
