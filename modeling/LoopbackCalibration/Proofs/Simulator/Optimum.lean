import LoopbackCalibration.Proofs.Scalar.Polar
import LoopbackCalibration.Proofs.Simulator.Chunking

/-! # The best corrections of the simulated transceiver

An image vanishes under one correction only, the inverse of the imbalance, and the transmit offset
under one only, the opposite of the leakage. These are the corrections that the model names as the
best ones. With all of them set on both channels a noiseless device delivers the tones of the
channels, turned, amplified and with their crosstalk, and nothing else
(`Simulator.optimal_corrections`).
-/

namespace LoopbackCalibration

variable {ν : Type}

namespace Signal

/-- An image vanishes just under the inverse of the imbalance. -/
theorem imbalanceError_eq_zero_iff {imbalance : Phasor ℝ} (nonzero : imbalance ≠ .zero)
    (correction : Phasor ℝ) :
    imbalanceError imbalance correction = .zero ↔ correction = imbalance.inverse := by
  have proper : imbalance.toComplex ≠ 0 := mt Phasor.toComplex_eq_zero_iff.mp nonzero
  have halved : ((Arithmetic.two : ℝ) : ℂ) ≠ 0 := by
    rw [Exact.two_eq]
    norm_num
  rw [← Phasor.toComplex_eq_zero_iff, ← Phasor.toComplex_injective.eq_iff,
    Phasor.toComplex_inverse, imbalanceError, Phasor.toComplex_divide, Phasor.toComplex_sub,
    Phasor.toComplex_mul, Phasor.toComplex_one, div_eq_zero_iff, or_iff_left halved, sub_eq_zero,
    mul_comm, mul_eq_one_iff_eq_inv₀ proper]

theorem withImage_zero (signal : Phasor ℝ) : withImage .zero signal = signal := by
  refine Phasor.toComplex_injective ?_
  rw [withImage, Phasor.toComplex_add, Phasor.toComplex_mul, Phasor.toComplex_zero, zero_mul,
    add_zero]

theorem toComplex_rotation (frequency time : ℝ) :
    (rotation frequency time).toComplex = cycle (frequency * time) := by
  rw [← Phasor.toComplex_ofPolar_turns, ← mul_assoc]
  rfl

end Signal

namespace Simulator

/-- The best corrections are set on both channels. -/
structure Corrected (device : Simulator ν ℝ) : Prop where
  rxIq : ∀ channel, (device.path .rx channel).iqBalance = device.model.optimalRxIq channel
  txIq : ∀ channel, (device.path .tx channel).iqBalance = device.model.optimalTxIq channel
  txDc : ∀ channel, (device.path .tx channel).dcOffset = device.model.optimalTxDc channel

/-- No imbalance of a model is zero. -/
structure Balanceable (model : LoopbackModel ℝ) : Prop where
  rx : ∀ channel, model.rxImbalance.get channel ≠ .zero
  tx : ∀ channel, model.txImbalance.get channel ≠ .zero

/-- The constant tone of a channel at a time, if it is on. -/
noncomputable def toneAt (device : Simulator ν ℝ) (channel : Channel) (time : ℝ) : ℂ :=
  if device.tone.get channel then
    cycle ((device.path .tx channel).frequency .baseband * time)
  else
    0

/-- How far the transmitter is tuned above the receiver of a channel. -/
noncomputable def separation (device : Simulator ν ℝ) (channel : Channel) : ℝ :=
  (device.path .tx .a).frequency .rf - (device.path .rx .a).frequency .rf -
    (device.path .rx channel).frequency .baseband

/-- The amplitude with which a channel receives a tone. -/
noncomputable def loopGain (device : Simulator ν ℝ) (channel : Channel) : ℝ :=
  device.model.toneAmplitude *
    (10 : ℕ) ^ (((device.path .rx channel).gains .pga).getD 0 / (20 : ℕ))

/-- What a channel would receive at a sample if nothing were impaired: the tones of both channels,
amplified and turned. -/
noncomputable def ideal (device : Simulator ν ℝ) (channel : Channel) (index : Nat) : ℂ :=
  let time := index / (device.path .rx channel).sampleRate
  device.loopGain channel * cycle (device.separation channel * time) *
    (device.toneAt channel time + device.model.crosstalk * device.toneAt channel.other time)

/-- Samples are those that a channel would receive from the clock on if nothing were impaired. -/
def Clean (device : Simulator ν ℝ) (channel : Channel) (samples : List (Phasor ℝ)) : Prop :=
  samples.map Phasor.toComplex =
    (List.range' device.sampleClock samples.length).map (device.ideal channel)

variable {device : Simulator ν ℝ}

section Coefficients

variable (balanceable : Balanceable device.model) (channel : Channel)
include balanceable

theorem rxImage_eq_zero_iff : (device.rxPath channel).image = .zero ↔
    (device.path .rx channel).iqBalance = device.model.optimalRxIq channel :=
  Signal.imbalanceError_eq_zero_iff (balanceable.rx channel) _

theorem txImage_eq_zero_iff : (device.txPath channel).image = .zero ↔
    (device.path .tx channel).iqBalance = device.model.optimalTxIq channel :=
  Signal.imbalanceError_eq_zero_iff (balanceable.tx channel) _

end Coefficients

theorem txOffset_eq_zero_iff (channel : Channel) : (device.txPath channel).offset = .zero ↔
    (device.path .tx channel).dcOffset = device.model.optimalTxDc channel := by
  change device.model.txLeakage.get channel + (device.path .tx channel).dcOffset = .zero ↔
    (device.path .tx channel).dcOffset = -device.model.txLeakage.get channel
  rw [← Phasor.toComplex_eq_zero_iff, ← Phasor.toComplex_injective.eq_iff, Phasor.toComplex_add,
    Phasor.toComplex_neg, add_comm, add_eq_zero_iff_eq_neg]

/-- A corrected transmitter puts out the tone alone. -/
theorem Corrected.toComplex_output (corrected : device.Corrected)
    (balanceable : Balanceable device.model) (channel : Channel) (time : ℝ) :
    ((device.txPath channel).output time).toComplex = device.toneAt channel time := by
  have image := (txImage_eq_zero_iff balanceable channel).mpr (corrected.txIq channel)
  have offset := (txOffset_eq_zero_iff channel).mpr (corrected.txDc channel)
  rw [Signal.TxPath.output, image, offset, toneAt]
  change (if device.tone.get channel then _ else _ : Phasor ℝ).toComplex = _
  by_cases on : device.tone.get channel
  · rw [if_pos on, if_pos on, Signal.withImage_zero, Phasor.toComplex_add, Phasor.toComplex_zero,
      add_zero, Signal.toComplex_rotation]
    rfl
  · rw [if_neg on, if_neg on, Phasor.toComplex_zero]

/-- A corrected receiver takes the tones in as they are. -/
theorem Corrected.toComplex_sample (corrected : device.Corrected)
    (balanceable : Balanceable device.model) (channel : Channel) (index : Nat) :
    ((device.chain channel).sample index).stored.toComplex = device.ideal channel index := by
  have image := (rxImage_eq_zero_iff balanceable channel).mpr (corrected.rxIq channel)
  have amplified (left right : ℂ) (gain : ℝ) (turned : ℂ) :
      (left + right * device.model.crosstalk) * gain * turned =
        gain * turned * (left + device.model.crosstalk * right) := by
    ring
  change ((device.chain channel).sample index).toComplex = _
  simp only [Signal.Chain.sample, chain, image, Signal.withImage_zero, Phasor.toComplex_mul,
    Phasor.toComplex_scale, Phasor.toComplex_add, corrected.toComplex_output balanceable,
    Signal.toComplex_rotation, amplified]
  rfl

section Delivery

variable [NoiseSource ν ℝ]

/-- However a corrected device without noise is read, it brings the tones. -/
theorem Corrected.clean_readings (corrected : device.Corrected)
    (balanceable : Balanceable device.model) (silent : device.model.noiseRms = 0)
    {stream : List Channel} {position : Nat} {channel : Channel}
    (placed : stream[position]? = some channel) (way : List (Reading ℝ)) :
    device.Clean channel ((device.performAll (readings stream way)).1.samples position) := by
  have continued : Continues device channel _ _ :=
    continues_readings tame_exact (Exact.isZero_iff.mpr silent) placed way
  generalize (device.performAll (readings stream way)).1.samples position = samples
    at continued ⊢
  have recorded : samples =
      (device.chain channel).recorded device.sampleClock samples.length :=
    List.forall₂_eq_eq_eq ▸ continued.agree.imp fun _ _ => Exact.eq_of_same
  calc samples.map Phasor.toComplex
      = ((device.chain channel).recorded device.sampleClock samples.length).map
          Phasor.toComplex := by rw [← recorded]
    _ = (List.range' device.sampleClock samples.length).map (device.ideal channel) := by
        simp only [Signal.Chain.recorded, List.map_map, Function.comp_def,
          corrected.toComplex_sample balanceable]

/-- **The named corrections are the best ones, and no others are.** An image or an offset of a
channel vanishes just under the correction that the model names for it. A device without noise that
has all of them set on both channels delivers at every sample the tone of the channel and the
crosstalk of the other one's, amplified and turned, and a tone that is off adds nothing. -/
theorem optimal_corrections (device : Simulator ν ℝ) (balanceable : Balanceable device.model)
    (silent : device.model.noiseRms = 0) :
    (∀ channel,
      ((device.rxPath channel).image = .zero ↔
        (device.path .rx channel).iqBalance = device.model.optimalRxIq channel) ∧
      ((device.txPath channel).image = .zero ↔
        (device.path .tx channel).iqBalance = device.model.optimalTxIq channel) ∧
      ((device.txPath channel).offset = .zero ↔
        (device.path .tx channel).dcOffset = device.model.optimalTxDc channel)) ∧
    (device.Corrected → ∀ (stream : List Channel) (way : List (Reading ℝ)) (position : Nat)
        (channel : Channel), stream[position]? = some channel →
      device.Clean channel ((device.performAll (readings stream way)).1.samples position)) :=
  ⟨fun channel => ⟨rxImage_eq_zero_iff balanceable channel, txImage_eq_zero_iff balanceable channel,
      txOffset_eq_zero_iff channel⟩,
    fun corrected _ way _ _ placed => corrected.clean_readings balanceable silent placed way⟩

end Delivery

theorem balanceable_standard {noiseRms : ℝ} {maxRead : Nat} :
    Balanceable { LoopbackModel.standard with noiseRms, maxRead } := by
  have nonzero (power angle : Int) : (LoopbackModel.imbalance power angle : Phasor ℝ) ≠ .zero := by
    rw [ne_eq, ← Phasor.toComplex_eq_zero_iff, LoopbackModel.imbalance, Phasor.toComplex_ofPolar]
    exact mul_ne_zero (Complex.ofReal_ne_zero.mpr (Real.rpow_pos_of_pos two_pos _).ne')
      (Complex.exp_ne_zero _)
  constructor <;> rintro (_ | _) <;> exact nonzero _ _

/-- A device in the midst of a burst, with the best corrections and one of the tones on. -/
noncomputable def sounding : Simulator Unit ℝ :=
  let device := quiet 3
  { device with
    rx := .ofFn fun channel =>
      { device.rx.get channel with iqBalance := device.model.optimalRxIq channel }
    tx := .ofFn fun channel =>
      { device.tx.get channel with
        iqBalance := device.model.optimalTxIq channel
        dcOffset := device.model.optimalTxDc channel }
    tone := ⟨true, false⟩ }

/-- Two reads bring the five samples of the burst to the channel whose tone is off. -/
theorem optimal_corrections_sounding :
    let way : List (Reading ℝ) := List.replicate 2 ([Array.replicate 3 .zero], ⟨0⟩)
    ((sounding.performAll (readings [.b] way)).1.samples 0).length = 5 ∧
      sounding.Clean .b ((sounding.performAll (readings [.b] way)).1.samples 0) := by
  intro way
  have corrected : sounding.Corrected := by
    constructor <;> rintro (_ | _) <;> rfl
  have placed : [Channel.b][0]? = some .b := rfl
  obtain ⟨-, clean⟩ := optimal_corrections sounding balanceable_standard rfl
  have used : (sounding.performAll (readings [.b] way)).2.burst = 0 := by decide +kernel
  have continued : Continues sounding .b _ _ :=
    continues_readings tame_exact (Exact.isZero_iff.mpr rfl) placed way
  have taken := continued.burst_eq
  rw [used] at taken
  exact ⟨taken, clean corrected [.b] way 0 .b placed⟩

end Simulator

end LoopbackCalibration
