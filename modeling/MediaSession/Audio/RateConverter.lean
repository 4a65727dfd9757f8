import MediaSession.Audio.Pool
import MediaSession.Fault

/-!
# MediaSession.Audio.RateConverter

Frames brought from one sample rate to another by linear interpolation between neighbours. Every
frame is converted by itself.

* `RateConverter`: the two rates
* `position`, `place`: where a converted sample lies in the frame
* `neighbours`, `interpolate`: the signal there
* `RateConverter.convert`: the converted samples
* `RateConverter.convertBuffer`: the converted buffer; with equal rates the buffer itself
-/

namespace MediaSession

structure RateConverter where
  inputRate : UInt32
  outputRate : UInt32
deriving DecidableEq

namespace RateConverter

def ratesAgree (r : RateConverter) : Bool := r.inputRate == r.outputRate

def setRates (r : RateConverter) (inputRate outputRate : UInt32) : Bool × RateConverter :=
  (decide ((⟨inputRate, outputRate⟩ : RateConverter) ≠ r), ⟨inputRate, outputRate⟩)

/-- Two rates that a conversion is not possible between: zero is no rate. -/
def fault? (r : RateConverter) : Option Fault :=
  if r.inputRate = 0 ∨ r.outputRate = 0 then
    some (.conversion r.inputRate r.outputRate "sample rate must be greater than 0")
  else none

/-- The length of a converted frame, rounded down. -/
def outputLength (r : RateConverter) (length : Nat) : Nat :=
  length * r.outputRate.toNat / r.inputRate.toNat

/-- There is nothing to read only where there is nothing to write. -/
theorem size_pos_of_lt_outputLength {r : RateConverter} {length i : Nat}
    (h : i < r.outputLength length) : 0 < length := by
  cases length with
  | zero => simp [outputLength] at h
  | succ n => exact Nat.succ_pos n

/-- The time of a converted sample, counted in samples of the frame. -/
def position (r : RateConverter) (i : Nat) : Float :=
  i.toUInt64.toFloat * (r.inputRate.toFloat / r.outputRate.toFloat)

/--
The place of the sample before a position, in 64 bits. Positions below zero and those that are no
number are at 0, so cutting off is rounding down; positions too large are at the last number.
-/
def place (position : Float) : UInt64 := position.toUInt64

/-- The samples before and after a position. Beyond the end the last sample stands for both. -/
def neighbours (samples : Array Int16) (nonempty : 0 < samples.size) (position : Float) :
    Int16 × Int16 :=
  let base := place position
  have last_lt : samples.size - 1 < samples.size := Nat.sub_one_lt_of_lt nonempty
  have first_lt : min base.toNat (samples.size - 1) < samples.size :=
    Nat.lt_of_le_of_lt (Nat.min_le_right _ _) last_lt
  (samples[min base.toNat (samples.size - 1)],
    samples[(base + 1).toNat]?.getD samples[samples.size - 1])

/-- The point between two samples at a part of the way. -/
def blend (ends : Int16 × Int16) (part : Float) : Int16 :=
  (ends.1.toFloat + (ends.2.toFloat - ends.1.toFloat) * part).round.toInt16

/-- The signal at a position, on the straight line between the samples next to it. -/
def interpolate (samples : Array Int16) (nonempty : 0 < samples.size) (position : Float) : Int16 :=
  blend (neighbours samples nonempty position) (position - position.floor)

/-- Each output sample is the signal at its own time. -/
def convert (r : RateConverter) (samples : Array Int16) : Array Int16 :=
  Array.ofFn (n := r.outputLength samples.size) fun i =>
    interpolate samples (size_pos_of_lt_outputLength i.isLt) (r.position i.val)

@[simp] theorem size_convert (r : RateConverter) (samples : Array Int16) :
    (r.convert samples).size = r.outputLength samples.size := by
  simp [convert]

/-- A converted frame has a cell of its own, and the holder gives up the old one. -/
def convertBuffer (r : RateConverter) (pool : Pool) (b : Buffer) : Except Fault (Buffer × Pool) :=
  match r.fault? with
  | some fault => .error fault
  | none =>
    if r.ratesAgree then .ok (b, pool)
    else
      let (out, pool) := pool.alloc (r.convert (pool.samples b))
      .ok (out, pool.release b)

end RateConverter
end MediaSession
