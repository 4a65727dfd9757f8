import MediaSession.Audio.Gain
import MediaSession.Audio.Pool

/-!
# MediaSession.Audio.Amplifier

Multiplying samples by a gain. Products are formed in 32 bits in a scratch block, shifted back by
the bits behind the point, and kept within 16 bits.

* `amplify`: one pass over samples and scratch
* `Amplifier`: a gain and the scratch block it has come to need
* `Amplifier.scale`: the samples of one frame; unity leaves them, and the scratch, alone
* `Amplifier.apply`: the same for a buffer, copied first if others hold it
-/

namespace MediaSession

/-- A product taken back to a sample: shifted toward negative infinity, and saturated. -/
def narrow (product : Int32) : Int16 :=
  let shifted := product >>> 14
  if shifted < -32768 then -32768
  else if 32767 < shifted then 32767
  else shifted.toInt16

/--
Scales as many samples as the scratch block has room for. The block keeps the products; samples
and scratch beyond stay as they are.
-/
def amplify (samples : Array Int16) (gain : Gain) (scratch : Array Int32) :
    Array Int16 × Array Int32 :=
  let n := min samples.size scratch.size
  let products := (samples.extract 0 n).map fun x => x.toInt32 * gain.raw.toInt32
  (products.map narrow ++ samples.extract n samples.size,
    products ++ scratch.extract n scratch.size)

/-- A block of accumulators: those written so far, and zeros up to its size. -/
structure Scratch where
  size : Nat
  written : Array Int32 := #[]

namespace Scratch

def load (s : Scratch) (n : Nat) : Array Int32 :=
  let head := s.written.extract 0 n
  head ++ Array.replicate (n - head.size) 0

def store (s : Scratch) (head : Array Int32) : Scratch :=
  { s with written := head ++ s.written.extract head.size s.written.size }

/-- A block that is too small gives way to a fresh one. -/
def grown (s : Scratch) (size : Nat) : Scratch := if s.size < size then { size } else s

end Scratch

structure Amplifier where
  gain : Gain := Gain.unity
  /-- Allocated by the first frame that is scaled. -/
  scratch : Option Scratch := none

namespace Amplifier

def withGain (s : Amplifier) (gain : Gain) : Amplifier := { s with gain }

def hasScratch (s : Amplifier) : Bool := s.scratch.isSome

/-- The first `frameLength` samples scaled, and the amplifier with the scratch block it used. -/
def scale (s : Amplifier) (samples : Array Int16) (frameLength : Nat) :
    Array Int16 × Amplifier :=
  if s.gain.isUnity then (samples, s)
  else
    let scratch := (s.scratch.getD { size := 0 }).grown frameLength
    let n := min samples.size frameLength
    let (scaled, block) := amplify (samples.extract 0 n) s.gain (scratch.load n)
    (scaled ++ samples.extract n samples.size, { s with scratch := some (scratch.store block) })

/-- Unity leaves the buffer with all its holders; any other gain writes to a cell of its own. -/
def apply (s : Amplifier) (pool : Pool) (b : Buffer) (frameLength : Nat) :
    Buffer × Amplifier × Pool :=
  if s.gain.isUnity then (b, s, pool)
  else
    let (b, pool) := pool.own b
    let (samples, s) := s.scale (pool.samples b) frameLength
    (b, s, pool.write b samples)

end Amplifier
end MediaSession
