import MediaSession.Audio.Amplifier

/-!
# MediaSession.Proofs.Audio.Scaling

What an amplifier does to samples, over the integers: each product is divided by 16384 rounding
down, and kept within 16 bits.

* `saturate`, `Gain.times`: the integer meaning of one product
* `narrow_mul`: the 32-bit product, its shift and its narrowing come to exactly that
* `Gain.scaled`: the samples of a frame that are scaled, and those after them
* `Amplifier.scale_fst`: an amplifier gives these samples whatever its scratch block holds, with
  unity as with any other gain
* `Amplifier.apply_of_unity`, `Amplifier.apply_of_ne_unity`: what becomes of a buffer
-/

namespace MediaSession

/-- The nearest integer that a sample can hold. -/
def saturate (v : Int) : Int := max (-32768) (min 32767 v)

namespace Gain

/-- A sample by a gain, over the integers. -/
def times (g : Gain) (x : Int16) : Int16 := Int16.ofInt (saturate (x.toInt * g.raw.toInt / 16384))

/-- Samples of which the first ones are scaled. -/
def scaled (g : Gain) (frameLength : Nat) (samples : Array Int16) : Array Int16 :=
  samples.mapIdx fun i x => if i < frameLength then g.times x else x

theorem isUnity_iff {g : Gain} : g.isUnity = true ↔ g = unity := beq_iff_eq

end Gain

theorem saturate_bounds (v : Int) : -32768 ≤ saturate v ∧ saturate v < 32768 := by
  unfold saturate
  omega

theorem toInt_times (g : Gain) (x : Int16) :
    (g.times x).toInt = saturate (x.toInt * g.raw.toInt / 16384) := by
  obtain ⟨hlow, hhigh⟩ := saturate_bounds (x.toInt * g.raw.toInt / 16384)
  exact Int16.toInt_ofInt_of_le (by omega) (by omega)

/-- Two samples multiplied do not come near the end of 32 bits. -/
theorem product_bounds (x y : Int16) :
    -1073741824 ≤ x.toInt * y.toInt ∧ x.toInt * y.toInt ≤ 1073741824 := by
  have hx := x.le_toInt
  have hx' := x.toInt_lt
  have hy := y.le_toInt
  have hy' := y.toInt_lt
  have hsize : (x.toInt * y.toInt).natAbs ≤ 32768 * 32768 := by
    rw [Int.natAbs_mul]
    exact Nat.mul_le_mul (by omega) (by omega)
  omega

theorem toInt_mul_toInt32 (x y : Int16) :
    (x.toInt32 * y.toInt32).toInt = x.toInt * y.toInt := by
  obtain ⟨hlow, hhigh⟩ := product_bounds x y
  rw [Int32.toInt_mul, Int16.toInt_toInt32, Int16.toInt_toInt32]
  exact Int.bmod_eq_of_le (by omega) (by omega)

/-- The shift divides, rounding down. -/
theorem toInt_shiftRight_fraction (p : Int32) : (p >>> 14).toInt = p.toInt / 16384 := by
  have hshift : (p >>> 14).toInt = (p.toBitVec.sshiftRight 14).toInt := rfl
  rw [hshift, BitVec.toInt_sshiftRight, Int.shiftRight_eq_div_pow]
  rfl

theorem toInt_narrow (p : Int32) : (narrow p).toInt = saturate (p.toInt / 16384) := by
  have hshift := toInt_shiftRight_fraction p
  unfold narrow saturate
  dsimp only
  split
  · rename_i hlow
    rw [Int32.lt_iff_toInt_lt, hshift] at hlow
    have hbound : (-32768 : Int32).toInt = -32768 := rfl
    have hsample : (-32768 : Int16).toInt = -32768 := rfl
    omega
  · rename_i hlow
    rw [Int32.lt_iff_toInt_lt, hshift] at hlow
    have hbound : (-32768 : Int32).toInt = -32768 := rfl
    split
    · rename_i hhigh
      rw [Int32.lt_iff_toInt_lt, hshift] at hhigh
      have hbound' : (32767 : Int32).toInt = 32767 := rfl
      have hsample : (32767 : Int16).toInt = 32767 := rfl
      omega
    · rename_i hhigh
      rw [Int32.lt_iff_toInt_lt, hshift] at hhigh
      have hbound' : (32767 : Int32).toInt = 32767 := rfl
      rw [Int32.toInt_toInt16, hshift, Int.bmod_eq_of_le (by omega) (by omega)]
      omega

theorem narrow_mul (g : Gain) (x : Int16) : narrow (x.toInt32 * g.raw.toInt32) = g.times x := by
  rw [← Int16.toInt_inj, toInt_narrow, toInt_mul_toInt32, toInt_times]

theorem unity_times (x : Int16) : Gain.unity.times x = x := by
  have hlow := x.le_toInt
  have hhigh := x.toInt_lt
  have hraw : Gain.unity.raw.toInt = 16384 := rfl
  rw [← Int16.toInt_inj, toInt_times, hraw, Int.mul_ediv_cancel _ (by omega)]
  unfold saturate
  omega

theorem unity_scaled (frameLength : Nat) (samples : Array Int16) :
    Gain.unity.scaled frameLength samples = samples := by
  apply Array.ext
  · simp [Gain.scaled]
  · intro i h₁ h₂
    simp only [Gain.scaled, Array.getElem_mapIdx, unity_times, ite_self]

theorem scaled_of_size_le {g : Gain} {frameLength : Nat} {samples : Array Int16}
    (h : samples.size ≤ frameLength) : g.scaled frameLength samples = samples.map g.times := by
  apply Array.ext
  · simp [Gain.scaled]
  · intro i h₁ h₂
    have hi : i < frameLength := by
      rw [Array.size_map] at h₂
      omega
    simp [Gain.scaled, hi]

/-- The samples that are scaled, and then those that are left as they are. -/
theorem scaled_eq_append (g : Gain) (frameLength : Nat) (samples : Array Int16) :
    g.scaled frameLength samples =
      (samples.extract 0 (min samples.size frameLength)).map g.times ++
        samples.extract (min samples.size frameLength) samples.size := by
  apply Array.ext
  · simp only [Gain.scaled, Array.size_mapIdx, Array.size_append, Array.size_map,
      Array.size_extract]
    omega
  · intro i h₁ h₂
    have hi : i < samples.size := by simpa [Gain.scaled] using h₁
    simp only [Gain.scaled, Array.getElem_mapIdx, Array.getElem_append, Array.size_map,
      Array.size_extract, Array.getElem_map, Array.getElem_extract, Nat.zero_add]
    by_cases hframe : i < frameLength
    · have hfirst : i < min (min samples.size frameLength) samples.size - 0 := by omega
      simp only [if_pos hframe, dif_pos hfirst]
    · have hrest : ¬ i < min (min samples.size frameLength) samples.size - 0 := by omega
      simp only [if_neg hframe, dif_neg hrest]
      congr 1
      omega

theorem amplify_fst (samples : Array Int16) (g : Gain) (scratch : Array Int32) :
    (amplify samples g scratch).1 = g.scaled scratch.size samples := by
  rw [scaled_eq_append]
  simp only [amplify, Array.map_map, Function.comp_def, narrow_mul]

/-- A block gives as many accumulators as it is asked for. -/
theorem size_load (s : Scratch) (n : Nat) : (s.load n).size = n := by
  simp only [Scratch.load, Array.size_append, Array.size_extract, Array.size_replicate]
  omega

namespace Amplifier

theorem scale_fst (a : Amplifier) (samples : Array Int16) (frameLength : Nat) :
    (a.scale samples frameLength).1 = a.gain.scaled frameLength samples := by
  unfold scale
  split
  · rename_i hunity
    rw [Gain.isUnity_iff.mp hunity, unity_scaled]
  · have hfirst : (samples.extract 0 (min samples.size frameLength)).size ≤
        min samples.size frameLength := by
      rw [Array.size_extract]
      omega
    simp only [amplify_fst, size_load]
    rw [scaled_of_size_le hfirst, scaled_eq_append]

/-! ## Frames in a pool -/

variable {a : Amplifier} {pool : Pool} {b : Buffer} {frameLength : Nat}

theorem apply_of_unity (h : a.gain = Gain.unity) : a.apply pool b frameLength = (b, a, pool) :=
  if_pos (Gain.isUnity_iff.mpr h)

theorem apply_of_ne_unity (h : a.gain ≠ Gain.unity) :
    a.apply pool b frameLength =
      ((pool.own b).1, (a.scale (pool.samples b) frameLength).2,
        (pool.own b).2.write (pool.own b).1 (a.scale (pool.samples b) frameLength).1) := by
  rw [apply, if_neg (mt Gain.isUnity_iff.mp h)]
  simp only [Pool.samples_own]

end Amplifier

end MediaSession
