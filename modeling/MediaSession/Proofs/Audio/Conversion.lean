import MediaSession.Proofs.Audio.Magnitude
import MediaSession.Proofs.Audio.Passing

/-!
# MediaSession.Proofs.Audio.Conversion

A conversion between rates reads inside its frame and gives as many samples as it should, whatever
becomes of the positions in floating point: both follow from lengths alone. Only the step from a
place to the next one asks for a bound, and the positions of a frame are far below it.

* `neighbours?`, `convert?`: the conversion with every subtraction, addition and reading checked,
  at any positions at all
* `convert?_eq`: it comes to an end when each place has a next one
* `place_lt`: the places of the positions stay under `2 ^ 37`
* `convertBuffer_total`: when a frame is converted, to what, and what all others read then
-/

namespace MediaSession
namespace RateConverter

/-- The last place of a frame, for one that has samples. -/
def last? (samples : Array Int16) : Option Nat :=
  if 1 ≤ samples.size then some (samples.size - 1) else none

/-- The place after another one, where 64 bits have room for it. -/
def successor? (place : UInt64) : Option UInt64 :=
  if place.toNat + 1 < 18446744073709551616 then some (place + 1) else none

/-- The samples before and after a position. Beyond the end the last sample stands for both. -/
def neighbours? (next? : UInt64 → Option UInt64) (samples : Array Int16) (position : Float) :
    Option (Int16 × Int16) := do
  let last ← last? samples
  let first ← samples[min (place position).toNat last]?
  let next ← next? (place position)
  let final ← samples[last]?
  some (first, samples[next.toNat]?.getD final)

/-- The number of converted samples, from a product of 64 bits. -/
def length? (r : RateConverter) (samples : Array Int16) : Option Nat :=
  if samples.size * r.outputRate.toNat < 18446744073709551616 ∧ r.inputRate ≠ 0 then
    some (samples.size * r.outputRate.toNat / r.inputRate.toNat)
  else none

/-- Each sample between its two neighbours, at positions that are given. -/
def convert? (r : RateConverter) (next? : UInt64 → Option UInt64) (samples : Array Int16)
    (positions : Nat → Float) : Option (List Int16) := do
  let length ← r.length? samples
  (List.range length).mapM fun i => do
    let ends ← neighbours? next? samples (positions i)
    some (blend ends (positions i - (positions i).floor))

/-! ## Lengths -/

variable {r : RateConverter} {samples : Array Int16}

theorem product_lt (h : samples.size < 4294967296) (r : RateConverter) :
    samples.size * r.outputRate.toNat < 18446744073709551616 := by
  have hrate : r.outputRate.toNat < 4294967296 := r.outputRate.toNat_lt
  calc samples.size * r.outputRate.toNat
      ≤ 4294967295 * 4294967295 := Nat.mul_le_mul (by omega) (by omega)
    _ < 18446744073709551616 := by decide

theorem length?_eq (h : samples.size < 4294967296) (hinput : r.inputRate ≠ 0) :
    r.length? samples = some (r.outputLength samples.size) :=
  if_pos ⟨product_lt h r, hinput⟩

/-! ## Readings -/

variable {next? : UInt64 → Option UInt64} {position : Float} {positions : Nat → Float}

theorem successor?_isSome_iff {place : UInt64} :
    (successor? place).isSome ↔ place.toNat + 1 < 18446744073709551616 := by
  unfold successor?
  split <;> simp_all

/-- In a frame that has samples nothing else is read, whatever the position. -/
theorem neighbours?_eq (h : 0 < samples.size)
    (hnext : next? (place position) = some (place position + 1)) :
    neighbours? next? samples position = some (neighbours samples h position) := by
  have hlast : last? samples = some (samples.size - 1) := if_pos h
  have hfirst : min (place position).toNat (samples.size - 1) < samples.size := by omega
  have hfinal : samples.size - 1 < samples.size := by omega
  simp only [neighbours?, hlast, hnext, Array.getElem?_eq_getElem hfirst,
    Array.getElem?_eq_getElem hfinal, Option.bind_eq_bind, Option.bind_some]
  rfl

theorem next?_isSome_of_neighbours? {ends : Int16 × Int16}
    (h : neighbours? next? samples position = some ends) : (next? (place position)).isSome := by
  simp only [neighbours?, Option.bind_eq_bind, Option.bind_eq_some_iff] at h
  obtain ⟨_, -, _, -, _, hnext, -⟩ := h
  exact Option.isSome_of_mem hnext

theorem mapM_eq_some {α β : Type} {xs : List α} {f : α → Option β} {g : α → β}
    (h : ∀ x ∈ xs, f x = some (g x)) : xs.mapM f = some (xs.map g) := by
  induction xs with
  | nil => rfl
  | cons x xs ih =>
    obtain ⟨hx, hrest⟩ := List.forall_mem_cons.mp h
    rw [List.mapM_cons, hx, ih hrest]
    rfl

theorem exists_of_mapM_eq_some {α β : Type} {xs : List α} {f : α → Option β} {ys : List β}
    (h : xs.mapM f = some ys) : ∀ x ∈ xs, ∃ y, f x = some y := by
  induction xs generalizing ys with
  | nil => exact fun x hx => absurd hx List.not_mem_nil
  | cons x xs ih =>
    simp only [List.mapM_cons, Option.bind_eq_bind, Option.bind_eq_some_iff] at h
    obtain ⟨y, hy, zs, hzs, -⟩ := h
    exact List.forall_mem_cons.mpr ⟨⟨y, hy⟩, ih hzs⟩

theorem outputLength_zero (r : RateConverter) : r.outputLength 0 = 0 := by
  rw [outputLength, Nat.zero_mul, Nat.zero_div]

theorem convert?_eq (hsize : samples.size < 4294967296) (hinput : r.inputRate ≠ 0)
    (h : 0 < samples.size)
    (hnext : ∀ i < r.outputLength samples.size,
      next? (place (positions i)) = some (place (positions i) + 1)) :
    r.convert? next? samples positions =
      some ((List.range (r.outputLength samples.size)).map fun i =>
        interpolate samples h (positions i)) := by
  rw [convert?, length?_eq hsize hinput, Option.bind_eq_bind, Option.bind_some]
  refine mapM_eq_some fun i hi => ?_
  rw [neighbours?_eq h (hnext i (List.mem_range.mp hi)), Option.bind_eq_bind, Option.bind_some]
  rfl

/-- A frame without samples has nothing to read, and nothing is asked of it. -/
theorem convert?_empty (hempty : samples.size = 0) (hinput : r.inputRate ≠ 0) :
    r.convert? next? samples positions = some [] := by
  rw [convert?, length?_eq (by omega) hinput, hempty, outputLength_zero]
  rfl

theorem exists_convert? (hsize : samples.size < 4294967296) (hinput : r.inputRate ≠ 0)
    (hnext : ∀ i < r.outputLength samples.size,
      next? (place (positions i)) = some (place (positions i) + 1)) :
    ∃ out, r.convert? next? samples positions = some out ∧
      out.length = r.outputLength samples.size := by
  rcases Nat.eq_zero_or_pos samples.size with hempty | h
  · refine ⟨[], convert?_empty hempty hinput, ?_⟩
    rw [hempty, outputLength_zero, List.length_nil]
  · refine ⟨_, convert?_eq hsize hinput h hnext, ?_⟩
    rw [List.length_map, List.length_range]

theorem next?_isSome_of_convert? (hsize : samples.size < 4294967296) (hinput : r.inputRate ≠ 0)
    {out : List Int16} (h : r.convert? next? samples positions = some out) {i : Nat}
    (hi : i < r.outputLength samples.size) : (next? (place (positions i))).isSome := by
  rw [convert?, length?_eq hsize hinput, Option.bind_eq_bind, Option.bind_some] at h
  obtain ⟨_, hread⟩ := exists_of_mapM_eq_some h i (List.mem_range.mpr hi)
  obtain ⟨ends, hends, -⟩ := Option.bind_eq_some_iff.mp hread
  exact next?_isSome_of_neighbours? hends

/-- With a checked addition the conversion comes to an end just where each place has a next one. -/
theorem exists_convert?_successor?_iff (hsize : samples.size < 4294967296)
    (hinput : r.inputRate ≠ 0) :
    (∃ out, r.convert? successor? samples positions = some out ∧
      out.length = r.outputLength samples.size) ↔
    ∀ i < r.outputLength samples.size, (place (positions i)).toNat + 1 < 18446744073709551616 := by
  constructor
  · rintro ⟨out, hout, -⟩ i hi
    exact successor?_isSome_iff.mp (next?_isSome_of_convert? hsize hinput hout hi)
  · intro hroom
    exact exists_convert? hsize hinput fun i hi => if_pos (hroom i hi)

/-! ## The positions -/

open Magnitude

/-- A position lies hardly beyond its frame, though neither it nor the step is exact. -/
theorem place_lt {length i : Nat} (hlength : length < 4294967296) (hinput : r.inputRate ≠ 0)
    (houtput : r.outputRate ≠ 0) (hi : i < r.outputLength length) :
    (place (r.position i)).toNat < 2 ^ 37 := by
  have hin : r.inputRate.toNat ≠ 0 := fun h => hinput (UInt32.toNat_inj.mp h)
  have hout : r.outputRate.toNat ≠ 0 := fun h => houtput (UInt32.toNat_inj.mp h)
  have hinLog : r.inputRate.toNat.log2 < 32 := (Nat.log2_lt hin).mpr r.inputRate.toNat_lt
  have houtLog : r.outputRate.toNat.log2 < 32 := (Nat.log2_lt hout).mpr r.outputRate.toNat_lt
  have hindex : i.toUInt64.toNat.log2 ≤ i.log2 := log2_mono (Nat.mod_le _ _)
  have hpos : 0 < length := size_pos_of_lt_outputLength hi
  have hwithin : i.log2 + r.inputRate.toNat.log2 ≤ r.outputRate.toNat.log2 + 32 := by
    rcases Nat.eq_zero_or_pos i with rfl | hpos'
    · rw [Nat.log2_zero]
      omega
    · have hle : i * r.inputRate.toNat ≤ length * r.outputRate.toNat :=
        (Nat.le_div_iff_mul_le (Nat.pos_of_ne_zero hin)).mp hi.le
      have hlengthLog : length.log2 < 32 := (Nat.log2_lt hpos.ne').mpr hlength
      calc i.log2 + r.inputRate.toNat.log2
          ≤ (i * r.inputRate.toNat).log2 := log2_add_le hpos'.ne' hin
        _ ≤ (length * r.outputRate.toNat).log2 := log2_mono hle
        _ ≤ length.log2 + r.outputRate.toNat.log2 + 1 := log2_mul_le _ _
        _ ≤ r.outputRate.toNat.log2 + 32 := by omega
  have hstep := below_float_div (below_of_full (full_toFloat hinput) (by omega))
    (full_toFloat houtput) (by omega) (by omega)
  have hposition := below_float_mul (below_toFloat i.toUInt64) hstep (by omega) (by omega)
  exact toNat_toUInt64_lt (hposition.mono (by omega))

theorem successor?_place {length i : Nat} (hlength : length < 4294967296)
    (hinput : r.inputRate ≠ 0) (houtput : r.outputRate ≠ 0) (hi : i < r.outputLength length) :
    successor? (place (r.position i)) = some (place (r.position i) + 1) := by
  have hlt := place_lt hlength hinput houtput hi
  exact if_pos (by omega)

theorem convert?_position (hsize : samples.size < 4294967296) (hinput : r.inputRate ≠ 0)
    (houtput : r.outputRate ≠ 0) :
    r.convert? successor? samples r.position = some (r.convert samples).toList := by
  rcases Nat.eq_zero_or_pos samples.size with hempty | h
  · have hnone : r.convert samples = #[] := by
      apply Array.eq_empty_of_size_eq_zero
      rw [size_convert, hempty, outputLength_zero]
    rw [convert?_empty hempty hinput, hnone]
  · rw [convert?_eq hsize hinput h fun i hi => successor?_place hsize hinput houtput hi,
      Option.some.injEq]
    apply List.ext_getElem
    · simp
    · intro i h₁ h₂
      simp only [List.getElem_map, List.getElem_range, Array.getElem_toList, convert,
        Array.getElem_ofFn]

/-! ## Frames -/

theorem fault?_eq_some_iff {fault : Fault} :
    r.fault? = some fault ↔ (r.inputRate = 0 ∨ r.outputRate = 0) ∧
      fault = .conversion r.inputRate r.outputRate "sample rate must be greater than 0" := by
  unfold fault?
  split
  · rename_i hzero
    simp [hzero, eq_comm]
  · rename_i hzero
    simp [hzero]

variable {p : Pool} {b : Buffer} {held : List Buffer}

theorem convertBuffer_eq_error_iff {fault : Fault} :
    r.convertBuffer p b = .error fault ↔ r.fault? = some fault := by
  unfold convertBuffer
  cases r.fault? with
  | none => cases r.ratesAgree <;> simp
  | some fault => simp

theorem convertBuffer_of_rates_eq (hfault : r.fault? = none) (h : r.inputRate = r.outputRate) :
    r.convertBuffer p b = .ok (b, p) := by
  rw [convertBuffer, hfault]
  exact if_pos (beq_iff_eq.mpr h)

theorem convertBuffer_of_rates_ne (hfault : r.fault? = none) (h : r.inputRate ≠ r.outputRate) :
    let made := p.alloc (r.convert (p.samples b))
    r.convertBuffer p b = .ok (made.1, made.2.release b) := by
  rw [convertBuffer, hfault]
  exact if_neg (by simpa [ratesAgree] using h)

/--
A frame is refused just when one of the rates is zero, with both rates in the fault. Between equal
rates it goes on as it is. Between others it goes on as a new frame, of the length that the rates
give, rounded down; and all other handles, to the old frame too, read what they did. The length is
a quotient of numbers of 64 bits. With every step checked the samples are the same. At any
positions whatever, a conversion that counts on from the last place to 0 reads inside the frame and
gives as many samples; one that checks this addition too does so just where no place is the last.
-/
theorem convertBuffer_total (r : RateConverter) {p : Pool} {b : Buffer} {held : List Buffer}
    (hcounted : p.Counted (b :: held)) (hsize : (p.samples b).size < 4294967296) :
    (∀ fault, r.convertBuffer p b = .error fault ↔ (r.inputRate = 0 ∨ r.outputRate = 0) ∧
      fault = .conversion r.inputRate r.outputRate "sample rate must be greater than 0") ∧
    (r.inputRate ≠ 0 → r.outputRate ≠ 0 →
      (r.inputRate = r.outputRate → r.convertBuffer p b = .ok (b, p)) ∧
      (r.inputRate ≠ r.outputRate →
        (p.samples b).size * r.outputRate.toNat < 18446744073709551616 ∧
        ∃ out p', r.convertBuffer p b = .ok (out, p') ∧ out ∉ b :: held ∧
          p'.Counted (out :: held) ∧ (∀ c ∈ held, p'.samples c = p.samples c) ∧
          (p'.samples out).size = (p.samples b).size * r.outputRate.toNat / r.inputRate.toNat ∧
          r.convert? successor? (p.samples b) r.position = some (p'.samples out).toList) ∧
      ∀ positions,
        (∃ out, r.convert? (fun place => some (place + 1)) (p.samples b) positions = some out ∧
          out.length = (p.samples b).size * r.outputRate.toNat / r.inputRate.toNat) ∧
        ((∃ out, r.convert? successor? (p.samples b) positions = some out ∧
            out.length = (p.samples b).size * r.outputRate.toNat / r.inputRate.toNat) ↔
          ∀ i < (p.samples b).size * r.outputRate.toNat / r.inputRate.toNat,
            (place (positions i)).toNat + 1 < 18446744073709551616)) := by
  refine ⟨fun fault => convertBuffer_eq_error_iff.trans fault?_eq_some_iff, fun hin hout => ?_⟩
  have hfault : r.fault? = none := if_neg (not_or.mpr ⟨hin, hout⟩)
  refine ⟨convertBuffer_of_rates_eq hfault, fun hne => ⟨product_lt hsize r, ?_⟩,
    fun positions => ⟨exists_convert? hsize hin fun _ _ => rfl,
      exists_convert?_successor?_iff hsize hin⟩⟩
  have hok := convertBuffer_of_rates_ne (p := p) (b := b) hfault hne
  have hpasses := Pool.passes_convert hcounted hok
  have hsamples := hpasses.samples_eq
  rw [converted, ratesAgree, beq_eq_false_iff_ne.mpr hne, if_neg Bool.false_ne_true] at hsamples
  refine ⟨_, _, hok, hcounted.fresh_not_mem _, hpasses.counted, hpasses.others, ?_, ?_⟩
  · rw [hsamples, size_convert]
    rfl
  · rw [hsamples]
    exact convert?_position hsize hin hout

/-- A frame of four samples that someone else keeps too comes to eight; its twin is left alone. -/
theorem convertBuffer_total_doubled :
    let samples : Array Int16 := #[0, 100, -32768, 32767]
    let b := (({} : Pool).alloc samples).1
    let p := (({} : Pool).alloc samples).2.share b
    let r : RateConverter := ⟨8000, 16000⟩
    p.Counted [b, b] ∧ (p.samples b).size < 4294967296 ∧
      ∃ out p', r.convertBuffer p b = .ok (out, p') ∧ out ≠ b ∧ p'.samples b = samples ∧
        (p'.samples out).size = 8 := by
  intro samples b p r
  have hcounted : p.Counted [b, b] :=
    (Pool.counted_empty.alloc samples).share List.mem_cons_self
  have hsamples : p.samples b = samples := by
    rw [Pool.samples_share, Pool.samples_alloc]
  have hsize : (p.samples b).size < 4294967296 := by
    rw [hsamples]
    decide
  obtain ⟨-, out, p', hok, hfresh, -, hothers, hlength, -⟩ :=
    ((convertBuffer_total r hcounted hsize).2 (by decide) (by decide)).2.1 (by decide)
  rw [hsamples] at hlength
  have hne : out ≠ b := by
    rintro rfl
    exact hfresh List.mem_cons_self
  exact ⟨hcounted, hsize, out, p', hok, hne,
    (hothers b List.mem_cons_self).trans hsamples, hlength.trans (by decide)⟩

end RateConverter
end MediaSession
