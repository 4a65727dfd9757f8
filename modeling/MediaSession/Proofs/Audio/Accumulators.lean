import Mathlib.Data.List.Induction
import MediaSession.Proofs.Audio.Holders
import MediaSession.Proofs.Audio.Scaling

/-!
# MediaSession.Proofs.Audio.Accumulators

The block of accumulators that an amplifier keeps from frame to frame shows in no sample.

* `multiply?`: the multiplication on a block that is written out in full, with slices that have to
  lie within what they are cut from
* `multiply?_eq`: it comes to an end with any block and any gain
* `Amplifier.Call`, `Amplifier.run`: gains and frames in a row, given to a new amplifier
* `Amplifier.multiply?_apply`: an amplifier, which stores no zeros, against the full block
* `gain_is_all_memory`: what every frame of a run comes to
-/

namespace MediaSession

/-! ## The multiplication, step by step -/

/-- The first elements and those after them; nothing if there are not so many. -/
def cut? {α : Type} (xs : Array α) (n : Nat) : Option (Array α × Array α) :=
  if n ≤ xs.size then some (xs.extract 0 n, xs.extract n xs.size) else none

/-- A block that is missing or too short gives way to zeros. -/
def roomy (block : Option (Array Int32)) (size : Nat) : Array Int32 :=
  let block := block.getD #[]
  if block.size < size then Array.replicate size 0 else block

/-- The samples of a frame multiplied, with any gain, and the block as it is then. -/
def multiply? (gain : Gain) (block : Option (Array Int32)) (samples : Array Int16)
    (frameLength : Nat) : Option (Array Int16 × Array Int32) := do
  let block := roomy block frameLength
  let n := min samples.size frameLength
  let (first, rest) ← cut? samples n
  let (accumulators, idle) ← cut? block n
  let (scaled, products) := amplify first gain accumulators
  some (scaled ++ rest, products ++ idle)

/-- The products of the samples that a frame length takes in. -/
def products (gain : Gain) (samples : Array Int16) (frameLength : Nat) : Array Int32 :=
  (samples.extract 0 (min samples.size frameLength)).map fun x =>
    x.toInt32 * gain.raw.toInt32

theorem cut?_eq_some {α : Type} {xs : Array α} {n : Nat} (h : n ≤ xs.size) :
    cut? xs n = some (xs.extract 0 n, xs.extract n xs.size) :=
  if_pos h

theorem size_products (gain : Gain) (samples : Array Int16) (frameLength : Nat) :
    (products gain samples frameLength).size = min samples.size frameLength := by
  rw [products, Array.size_map, Array.size_extract]
  omega

theorem le_size_roomy (block : Option (Array Int32)) (size : Nat) :
    size ≤ (roomy block size).size := by
  unfold roomy
  dsimp only
  split
  · exact Nat.le_of_eq Array.size_replicate.symm
  · omega

/-- As many accumulators as samples hold their products, whatever they held before. -/
theorem amplify_first (gain : Gain) (samples : Array Int16) (frameLength : Nat)
    {accumulators : Array Int32} (h : accumulators.size = min samples.size frameLength) :
    amplify (samples.extract 0 (min samples.size frameLength)) gain accumulators =
      ((samples.extract 0 (min samples.size frameLength)).map gain.times,
        products gain samples frameLength) := by
  have hsize : (samples.extract 0 (min samples.size frameLength)).size = accumulators.size := by
    rw [Array.size_extract, h]
    omega
  have hscaled := amplify_fst (samples.extract 0 (min samples.size frameLength)) gain accumulators
  rw [scaled_of_size_le (Nat.le_of_eq hsize)] at hscaled
  refine Prod.ext hscaled ?_
  simp [amplify, products, hsize, h]

theorem multiply?_eq (gain : Gain) (block : Option (Array Int32)) (samples : Array Int16)
    (frameLength : Nat) :
    multiply? gain block samples frameLength =
      some (gain.scaled frameLength samples,
        products gain samples frameLength ++
          (roomy block frameLength).extract (min samples.size frameLength)
            (roomy block frameLength).size) := by
  have hroom := le_size_roomy block frameLength
  have hblock : min samples.size frameLength ≤ (roomy block frameLength).size := by omega
  have haccumulators : ((roomy block frameLength).extract 0 (min samples.size frameLength)).size =
      min samples.size frameLength := by
    rw [Array.size_extract]
    omega
  simp only [multiply?, cut?_eq_some (Nat.min_le_left _ _), cut?_eq_some hblock,
    Option.bind_eq_bind, Option.bind_some, amplify_first gain samples frameLength haccumulators,
    scaled_eq_append]

/-! ## The stored block -/

namespace Scratch

theorem le_size_grown (s : Scratch) (size : Nat) : size ≤ (s.grown size).size := by
  unfold grown
  split
  · exact Nat.le_refl _
  · rename_i h
    exact Nat.le_of_not_lt h

theorem getElem_load (s : Scratch) {n i : Nat} (hi : i < (s.load n).size) :
    (s.load n)[i] = s.written[i]?.getD 0 := by
  have hn : i < n := by rwa [size_load] at hi
  simp only [load, Array.getElem_append, Array.size_extract, Array.getElem_extract,
    Array.getElem_replicate]
  by_cases hwritten : i < s.written.size
  · have hfirst : i < min n s.written.size - 0 := by omega
    rw [dif_pos hfirst, Array.getElem?_eq_getElem hwritten, Option.getD_some]
    simp only [Nat.zero_add]
  · have hrest : ¬ i < min n s.written.size - 0 := by omega
    rw [dif_neg hrest, Array.getElem?_eq_none (Nat.le_of_not_lt hwritten), Option.getD_none]

/-- What is stored stands at the start of the block, and the rest is as it was. -/
theorem load_store {s : Scratch} {head : Array Int32} (hhead : head.size ≤ s.size) :
    (s.store head).load s.size = head ++ (s.load s.size).extract head.size s.size := by
  apply Array.ext
  · rw [Array.size_append, Array.size_extract, size_load, size_load]
    omega
  · intro i h₁ h₂
    rw [getElem_load, Array.getElem_append]
    simp only [store, Array.getElem?_append, Array.getElem_extract, getElem_load]
    by_cases hi : i < head.size
    · rw [if_pos hi, dif_pos hi, Array.getElem?_eq_getElem hi, Option.getD_some]
    · rw [if_neg hi, dif_neg hi, Array.getElem?_extract]
      have hplace : head.size + (i - head.size) = i := by omega
      rw [hplace]
      split
      · rfl
      · rw [Array.getElem?_eq_none (by omega)]

theorem load_fresh (size : Nat) : ({ size } : Scratch).load size = Array.replicate size 0 := by
  apply Array.ext
  · rw [size_load, Array.size_replicate]
  · intro i h₁ h₂
    simp [getElem_load]

/-- Growing a block is growing all of it. -/
theorem roomy_load (s : Scratch) (size : Nat) :
    roomy (some (s.load s.size)) size = (s.grown size).load (s.grown size).size := by
  unfold roomy grown
  dsimp only
  rw [Option.getD_some, size_load]
  split
  · exact (load_fresh size).symm
  · rfl

end Scratch

namespace Amplifier

variable {a : Amplifier}

/-- The whole block of an amplifier, zeros and all. -/
def block? (a : Amplifier) : Option (Array Int32) := a.scratch.map fun s => s.load s.size

/-- The block that a frame of some length is scaled with. -/
def scratchFor (a : Amplifier) (frameLength : Nat) : Scratch :=
  (a.scratch.getD { size := 0 }).grown frameLength

theorem roomy_block? (a : Amplifier) (frameLength : Nat) :
    roomy a.block? frameLength =
      (a.scratchFor frameLength).load (a.scratchFor frameLength).size := by
  rw [scratchFor, ← Scratch.roomy_load, block?]
  cases a.scratch with
  | none =>
    rw [Option.getD_none, Scratch.load_fresh]
    rfl
  | some s => rfl

/-- Scaling by another gain than unity stores the products. -/
theorem scratch_scale (h : a.gain ≠ Gain.unity) (samples : Array Int16) (frameLength : Nat) :
    (a.scale samples frameLength).2.scratch =
      some ((a.scratchFor frameLength).store (products a.gain samples frameLength)) := by
  rw [scale, if_neg (mt Gain.isUnity_iff.mp h)]
  simp only [amplify_first a.gain samples frameLength (size_load _ _)]
  rfl

/-- Scaling by another gain than unity is the multiplication on the whole block. -/
theorem multiply?_block? (h : a.gain ≠ Gain.unity) (samples : Array Int16) (frameLength : Nat) :
    ∃ block, (a.scale samples frameLength).2.block? = some block ∧
      multiply? a.gain a.block? samples frameLength =
        some ((a.scale samples frameLength).1, block) := by
  have hroom : frameLength ≤ (a.scratchFor frameLength).size := Scratch.le_size_grown _ _
  have hhead : (products a.gain samples frameLength).size ≤ (a.scratchFor frameLength).size := by
    rw [size_products]
    omega
  refine ⟨_, ?_, (multiply?_eq _ _ _ _).trans (by rw [scale_fst])⟩
  rw [block?, scratch_scale h, Option.map_some, a.roomy_block?, size_load]
  have hstore := Scratch.load_store hhead
  rw [size_products] at hstore
  exact congrArg some hstore

/-! ## One frame -/

variable {pool : Pool} {b : Buffer} {frameLength : Nat}

/-- A buffer without a cell has no samples before or after. -/
theorem samples_apply (a : Amplifier) (pool : Pool) (b : Buffer) (frameLength : Nat) :
    (a.apply pool b frameLength).2.2.samples (a.apply pool b frameLength).1 =
      a.gain.scaled frameLength (pool.samples b) := by
  by_cases hunity : a.gain = Gain.unity
  · rw [apply_of_unity hunity, hunity, unity_scaled]
  · rw [apply_of_ne_unity hunity]
    by_cases hcell : b.cell < pool.cells.size
    · rw [Pool.samples_write_of_lt (Pool.own_cell_lt hcell), scale_fst]
    · have hmissing : pool.cells[b.cell]? = none := Array.getElem?_eq_none (Nat.le_of_not_lt hcell)
      have hown : pool.own b = (b, pool) := by simp [Pool.own, Pool.holders, hmissing]
      simp [hown, Pool.samples, Pool.write, Array.getElem?_modify, hmissing, Gain.scaled]

/-- Whatever the gain, a frame has the samples of the multiplication; unity only skips the block. -/
theorem multiply?_apply (a : Amplifier) (pool : Pool) (b : Buffer) (frameLength : Nat) :
    ∃ block, multiply? a.gain a.block? (pool.samples b) frameLength =
        some ((a.apply pool b frameLength).2.2.samples (a.apply pool b frameLength).1, block) ∧
      (a.apply pool b frameLength).2.1.block? =
        if a.gain = Gain.unity then a.block? else some block := by
  rw [samples_apply]
  by_cases hunity : a.gain = Gain.unity
  · refine ⟨_, multiply?_eq _ _ _ _, ?_⟩
    rw [apply_of_unity hunity, if_pos hunity]
  · obtain ⟨block, hblock, hmultiply⟩ := multiply?_block? hunity (pool.samples b) frameLength
    rw [scale_fst] at hmultiply
    refine ⟨block, hmultiply, ?_⟩
    rw [apply_of_ne_unity hunity, if_neg hunity, hblock]

theorem gain_apply (a : Amplifier) (pool : Pool) (b : Buffer) (frameLength : Nat) :
    (a.apply pool b frameLength).2.1.gain = a.gain := by
  by_cases hunity : a.gain = Gain.unity
  · rw [apply_of_unity hunity]
  · rw [apply_of_ne_unity hunity, scale, if_neg (mt Gain.isUnity_iff.mp hunity)]

/-! ## Calls in a row -/

/-- A gain that is set, or a frame in a pool as it is at that time. -/
inductive Call
  | setGain (gain : Gain)
  | frame (pool : Pool) (b : Buffer) (frameLength : Nat)

def Call.gain? : Call → Option Gain
  | .setGain gain => some gain
  | .frame .. => none

def after (a : Amplifier) : Call → Amplifier
  | .setGain gain => a.withGain gain
  | .frame pool b frameLength => (a.apply pool b frameLength).2.1

/-- What a new amplifier has come to. -/
def run (calls : List Call) : Amplifier := calls.foldl after {}

/-- The gain that was set last; unity if none was. -/
def lastGain (calls : List Call) : Gain := (calls.filterMap Call.gain?).getLastD Gain.unity

variable {calls : List Call} {c : Call}

theorem run_concat (calls : List Call) (c : Call) : run (calls ++ [c]) = (run calls).after c := by
  rw [run, List.foldl_append]
  rfl

theorem gain_run (calls : List Call) : (run calls).gain = lastGain calls := by
  induction calls using List.reverseRecOn with
  | nil => rfl
  | append_singleton calls c ih =>
    rw [run_concat]
    cases c with
    | setGain gain =>
      have hlast : lastGain (calls ++ [.setGain gain]) = gain := by
        simp [lastGain, Call.gain?]
      exact hlast.symm
    | frame pool b frameLength =>
      have hlast : lastGain (calls ++ [.frame pool b frameLength]) = lastGain calls := by
        simp [lastGain, Call.gain?]
      rw [hlast, ← ih]
      exact gain_apply _ _ _ _

/-- A call leaves the block, or one that is at least as long. -/
theorem block?_after {block : Array Int32} (h : a.block? = some block) (c : Call) :
    ∃ block', (a.after c).block? = some block' ∧ block.size ≤ block'.size := by
  cases c with
  | setGain gain => exact ⟨block, h, Nat.le_refl _⟩
  | frame pool b frameLength =>
    obtain ⟨block', hmultiply, hblock⟩ := multiply?_apply a pool b frameLength
    by_cases hunity : a.gain = Gain.unity
    · rw [if_pos hunity] at hblock
      exact ⟨block, hblock.trans h, Nat.le_refl _⟩
    · rw [if_neg hunity] at hblock
      refine ⟨block', hblock, ?_⟩
      rw [multiply?_eq] at hmultiply
      obtain ⟨-, rfl⟩ := Prod.mk.inj (Option.some.inj hmultiply)
      have hroom := le_size_roomy a.block? frameLength
      have hkept : block.size ≤ (roomy a.block? frameLength).size := by
        rw [h, roomy, Option.getD_some]
        split
        · rw [Array.size_replicate]
          omega
        · exact Nat.le_refl _
      rw [Array.size_append, size_products, Array.size_extract]
      omega

theorem block?_run_append {block : Array Int32} (h : (run calls).block? = some block)
    (more : List Call) :
    ∃ block', (run (calls ++ more)).block? = some block' ∧ block.size ≤ block'.size := by
  induction more using List.reverseRecOn with
  | nil => exact ⟨block, by rwa [List.append_nil], Nat.le_refl _⟩
  | append_singleton more c ih =>
    obtain ⟨block', hblock', hle⟩ := ih
    obtain ⟨block'', hblock'', hle'⟩ := block?_after hblock' c
    rw [← List.append_assoc, run_concat]
    exact ⟨block'', hblock'', Nat.le_trans hle hle'⟩

theorem hasScratch_eq (a : Amplifier) : a.hasScratch = a.block?.isSome := by
  rw [hasScratch, block?, Option.isSome_map]

/-- A block is there from the first frame on that is scaled by another gain than unity. -/
theorem hasScratch_run_iff (calls : List Call) :
    (run calls).hasScratch = true ↔
      ∃ before pool b frameLength, before ++ [.frame pool b frameLength] <+: calls ∧
        lastGain before ≠ Gain.unity := by
  induction calls using List.reverseRecOn with
  | nil => simp [run, hasScratch]
  | append_singleton calls c ih =>
    simp only [List.prefix_concat_iff, or_and_right, exists_or, ← ih, run_concat]
    cases c with
    | setGain gain => simp [after, withGain, hasScratch]
    | frame pool b frameLength =>
      obtain ⟨block, -, hblock⟩ := multiply?_apply (run calls) pool b frameLength
      have hnext : ((run calls).after (.frame pool b frameLength)).block? = _ := hblock
      rw [hasScratch_eq, hnext, hasScratch_eq, gain_run]
      by_cases hunity : lastGain calls = Gain.unity
      · simp +contextual [hunity]
      · simp [hunity]

/--
An amplifier remembers its gain and nothing else that shows. After any gains and frames, each frame
comes to the samples that the gain set last makes of it alone: those within the frame length are
scaled over the integers and the others left. The same samples come of the multiplication with its
slices, none of which goes beyond what it is cut from, on the block that earlier frames have left;
with unity too, where the block is not touched. There is a block once a frame has been scaled by
another gain than unity, and it never gets shorter.
-/
theorem gain_is_all_memory (calls : List Call) (pool : Pool) (b : Buffer) (frameLength : Nat) :
    let reply := (run calls).apply pool b frameLength
    reply.2.2.samples reply.1 = (lastGain calls).scaled frameLength (pool.samples b) ∧
    (∃ block, multiply? (lastGain calls) (run calls).block? (pool.samples b) frameLength =
        some (reply.2.2.samples reply.1, block) ∧
      reply.2.1.block? = if lastGain calls = Gain.unity then (run calls).block? else some block) ∧
    ((run calls).hasScratch = true ↔
      ∃ before pool b frameLength, before ++ [.frame pool b frameLength] <+: calls ∧
        lastGain before ≠ Gain.unity) ∧
    ∀ more block, (run calls).block? = some block →
      ∃ block', (run (calls ++ more)).block? = some block' ∧ block.size ≤ block'.size := by
  intro reply
  rw [← gain_run calls]
  exact ⟨samples_apply _ _ _ _, multiply?_apply _ _ _ _, hasScratch_run_iff calls,
    fun more block h => block?_run_append h more⟩

end Amplifier
end MediaSession
