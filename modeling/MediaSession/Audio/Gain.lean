import MediaSession.Binary32
import MediaSession.Decimal
import MediaSession.Json.Record

/-!
# MediaSession.Audio.Gain

Loudness factors in fixed point: a 16-bit word of which 14 bits stand behind the point, so that
16384 leaves a signal as it is.

* `Gain`: the factor
* `Gain.ofRaw`, `Gain.ofBinary32`: factors from outside, never negative
* `Gain.toBinary32`, `Gain.text`: the exact value, and its text to four places
-/

namespace MediaSession

structure Gain where
  raw : Int16
deriving DecidableEq

namespace Gain

/-- The bits behind the point. -/
def fractionBits : Nat := 14

def unity : Gain := ⟨16384⟩

def mute : Gain := ⟨0⟩

instance : Inhabited Gain := ⟨unity⟩

def isUnity (g : Gain) : Bool := g == unity

/-- A negative word counts as zero. -/
def ofRaw (raw : Int16) : Gain := if raw < 0 then mute else ⟨raw⟩

/--
The nearest factor to a number, a half going up; the largest factor for what lies beyond it. What
is negative, infinite or no number at all mutes.
-/
def ofBinary32 (x : Binary32) : Gain :=
  match x.magnitude? with
  | none => mute
  | some (m, e) =>
    if x.isNegative then mute
    else
      let scaled :=
        if 135 ≤ e then m * Nat.pow 2 (e - 135)
        else (2 * m + Nat.pow 2 (135 - e)) / (2 * Nat.pow 2 (135 - e))
      ⟨Int16.ofNat (min scaled 32767)⟩

def toBinary32 (g : Gain) : Binary32 := Binary32.ofScaled g.raw.toInt fractionBits

def text (g : Gain) : String := Decimal.fixed 4 g.raw.toInt (Nat.pow 2 fractionBits)

def toJson (g : Gain) : Json.Value := .ofInt g.raw.toInt

/-- Any word is read as it stands, a negative one too. -/
def ofJson? (v : Json.Value) : Option Gain := v.int16?.map Gain.mk

end Gain
end MediaSession
