import LoopbackCalibration.Noise.Keystream

/-! # Normally distributed draws

The standard normal distribution by the ziggurat method: the area under the bell
is covered by 256 layers of equal area, a draw picks a layer and a place in it,
and a place outside the layer above is accepted by chance. Rejection loops are
bounded; each try fails with small probability, and the bound is never met.
-/

namespace LoopbackCalibration

/-- A source of standard normal scalars. -/
class NoiseSource (ν α : Type) where
  draw : ν → α × ν

namespace Noise

/-- Where the tail of the bell begins. -/
def tailStart : Float := 3.654152885361009

/-- The area of each layer. -/
def layerArea : Float := 0.00492867323399

/-- Height of the bell, one at the middle. -/
def bell (place : Float) : Float :=
  Float.exp (-place * place / 2.0)

/-- The right edges of the layers after the first two, from the bottom up. -/
def upperEdges : Nat → Float → List Float
  | 0, _ => []
  | count + 1, below =>
    let edge := Float.sqrt (-2.0 * Float.log (layerArea / below + bell below))
    edge :: upperEdges count edge

/-- The right edges of the layers. The bottom layer is as wide as a box of the same
area, and the last entry is the top of the bell. -/
def edges : FloatArray :=
  ⟨([layerArea / bell tailStart, tailStart] ++ upperEdges 254 tailStart ++ [0.0]).toArray⟩

/-- Heights of the bell at the edges of the layers. -/
def heights : FloatArray :=
  ⟨edges.data.map bell⟩

/-- The spacing of the numbers just below one. -/
def lastPlace : Float := (1.0 : Float).scaleB (-53)

/-- A number of `[1, 2)` from the upper bits of a draw. -/
@[inline] def unitInterval (draw : UInt64) : Float :=
  Float.ofBits (((1023 : UInt64) <<< 52) ||| (draw >>> 12))

/-- A number of the open interval `(0, 1)` from a draw. -/
@[inline] def openUnit (draw : UInt64) : Float :=
  unitInterval draw - (1.0 - lastPlace)

/-- A number of `[-1, 1)` from the upper bits of a draw. -/
@[inline] def symmetricUnit (draw : UInt64) : Float :=
  Float.ofBits (((1024 : UInt64) <<< 52) ||| (draw >>> 12)) - 3.0

/-- A number of `[0, 1)` with fifty-three bits of a draw. -/
@[inline] def halfOpenUnit (draw : UInt64) : Float :=
  (draw >>> 11).toFloat * lastPlace

/-- How often a rejected draw is tried again. -/
def tries : Nat := 1000

/-- The distance beyond the start of the tail, by two exponential draws. -/
def tailOffset : Nat → Keystream → Float × Keystream
  | 0, stream => (0.0, stream)
  | more + 1, stream =>
    match stream.next with
    | (first, stream) =>
      match stream.next with
      | (second, stream) =>
        let across := Float.log (openUnit first) / tailStart
        let down := Float.log (openUnit second)
        if -2.0 * down < across * across then tailOffset more stream else (across, stream)

/-- A standard normal number. -/
def normal : Nat → Keystream → Float × Keystream
  | 0, stream => (0.0, stream)
  | more + 1, stream =>
    match stream.next with
    | (draw, stream) =>
      let layer := (draw &&& 255).toNat
      let side := symmetricUnit draw
      let place := side * edges.get! layer
      if place.abs < edges.get! (layer + 1) then
        (place, stream)
      else if layer = 0 then
        match tailOffset tries stream with
        | (offset, stream) =>
          (if side < 0.0 then offset - tailStart else tailStart - offset, stream)
      else
        match stream.next with
        | (chance, stream) =>
          let top := heights.get! (layer + 1)
          if top + (heights.get! layer - top) * halfOpenUnit chance < bell place then
            (place, stream)
          else
            normal more stream

instance : NoiseSource Keystream Float where
  draw := normal tries

end Noise

end LoopbackCalibration
