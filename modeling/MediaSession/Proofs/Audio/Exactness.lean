import MediaSession.Proofs.Audio.Scaling

/-!
# MediaSession.Proofs.Audio.Exactness

Samples multiplied by a gain come to what they would over the integers, and no number on the way
is too large for its word.

* `word?`, `sample?`: integers that have to fit in 32 bits, and in 16
* `overwrite?`: a loop along two blocks at once, to the end of the shorter one
* `Gain.multiplyInto?`, `narrowInto?`: products into accumulators, and accumulators into samples,
  over the integers and with every number checked
* `multiplyInto?_amplify`, `narrowInto?_amplify`: words go through both loops as integers do
* `times_mono`, `natAbs_times_le`: a gain that is not negative keeps the order of samples, and up
  to unity it makes none larger
* `amplify_exact`: what becomes of each sample and of each accumulator
-/

namespace MediaSession

/-! ## Numbers that fit -/

/-- An integer in 32 bits; nothing if it does not fit. -/
def word? (v : Int) : Option Int32 :=
  if -2147483648 ≤ v ∧ v ≤ 2147483647 then some (Int32.ofInt v) else none

/-- An integer in 16 bits; nothing if it does not fit. -/
def sample? (v : Int) : Option Int16 :=
  if -32768 ≤ v ∧ v ≤ 32767 then some (Int16.ofInt v) else none

theorem word?_toInt (w : Int32) : word? w.toInt = some w := by
  have hlow := w.le_toInt
  have hhigh := w.toInt_lt
  rw [word?, if_pos (by omega), Int32.ofInt_toInt]

theorem sample?_toInt (x : Int16) : sample? x.toInt = some x := by
  have hlow := x.le_toInt
  have hhigh := x.toInt_lt
  rw [sample?, if_pos (by omega), Int16.ofInt_toInt]

/-- The product of two samples fits in 32 bits, and the word that is formed is this product. -/
theorem word?_product (x y : Int16) :
    word? (x.toInt * y.toInt) = some (x.toInt32 * y.toInt32) := by
  rw [← toInt_mul_toInt32, word?_toInt]

/-- Every accumulator comes to a number that fits in 16 bits. -/
theorem sample?_narrow (p : Int32) : sample? (saturate (p.toInt / 16384)) = some (narrow p) := by
  rw [← toInt_narrow, sample?_toInt]

/-! ## The loops -/

/-- One element after another is written over with what the element beside it gives. -/
def overwrite? {α β : Type} (f : β → Option α) : List α → List β → Option (List α)
  | _ :: block, b :: beside => do
    let a ← f b
    let rest ← overwrite? f block beside
    some (a :: rest)
  | block, _ => some block

/-- The product of each sample goes into the accumulator beside it. -/
def Gain.multiplyInto? (g : Gain) : List Int32 → List Int16 → Option (List Int32) :=
  overwrite? fun x => word? (x.toInt * g.raw.toInt)

/-- Each accumulator goes into the sample beside it: divided, rounding down, and saturated. -/
def narrowInto? : List Int16 → List Int32 → Option (List Int16) :=
  overwrite? fun p => sample? (saturate (p.toInt / 16384))

/-- In a loop that cannot fail each place sees its neighbour alone, and stays if it has none. -/
theorem overwrite?_eq {α β : Type} {f : β → Option α} {h : β → α} (hf : ∀ b, f b = some (h b))
    (block : List α) (beside : List β) :
    overwrite? f block beside = some (block.mapIdx fun i a => (beside[i]?.map h).getD a) := by
  induction block generalizing beside with
  | nil => rfl
  | cons a block ih =>
    cases beside with
    | nil =>
      have hkept : (a :: block).mapIdx (fun _ x => x) = a :: block := by
        apply List.ext_getElem?
        intro i
        rw [List.getElem?_mapIdx, Option.map_id']
      exact congrArg some hkept.symm
    | cons b beside =>
      simp only [overwrite?, hf b, ih beside, Option.bind_eq_bind, Option.bind_some,
        List.mapIdx_cons, List.getElem?_cons_zero, List.getElem?_cons_succ, Option.map_some,
        Option.getD_some]

/-! ## Both results, place by place -/

/-- An accumulator holds the product of the sample at its place, or what it held. -/
theorem amplify_snd (samples : Array Int16) (g : Gain) (scratch : Array Int32) :
    (amplify samples g scratch).2 =
      scratch.mapIdx fun i a => (samples[i]?.map fun x => x.toInt32 * g.raw.toInt32).getD a := by
  apply Array.ext
  · simp only [amplify, Array.size_mapIdx, Array.size_append, Array.size_map, Array.size_extract]
    omega
  · intro i h₁ h₂
    have hi : i < scratch.size := by rwa [Array.size_mapIdx] at h₂
    simp only [amplify, Array.getElem_append, Array.size_map, Array.size_extract,
      Array.getElem_map, Array.getElem_extract, Array.getElem_mapIdx, Nat.zero_add]
    by_cases hsample : i < samples.size
    · have hfirst : i < min (min samples.size scratch.size) samples.size - 0 := by omega
      rw [dif_pos hfirst, Array.getElem?_eq_getElem hsample, Option.map_some, Option.getD_some]
    · have hrest : ¬ i < min (min samples.size scratch.size) samples.size - 0 := by omega
      rw [dif_neg hrest, Array.getElem?_eq_none (by omega), Option.map_none, Option.getD_none]
      congr 1
      omega

section Places

variable (samples : Array Int16) (g : Gain) (scratch : Array Int32) (i : Nat)

theorem getElem?_amplify_fst :
    (amplify samples g scratch).1[i]? =
      samples[i]?.map fun x => if i < scratch.size then g.times x else x := by
  rw [amplify_fst, Gain.scaled, Array.getElem?_mapIdx]

theorem getElem?_amplify_snd :
    (amplify samples g scratch).2[i]? =
      scratch[i]?.map fun a => (samples[i]?.map fun x => x.toInt32 * g.raw.toInt32).getD a := by
  rw [amplify_snd, Array.getElem?_mapIdx]

theorem size_amplify_fst : (amplify samples g scratch).1.size = samples.size := by
  rw [amplify_fst, Gain.scaled, Array.size_mapIdx]

theorem size_amplify_snd : (amplify samples g scratch).2.size = scratch.size := by
  rw [amplify_snd, Array.size_mapIdx]

theorem multiplyInto?_amplify :
    g.multiplyInto? scratch.toList samples.toList =
      some (amplify samples g scratch).2.toList := by
  rw [Gain.multiplyInto?, overwrite?_eq (fun x => word?_product x g.raw), amplify_snd,
    Array.toList_mapIdx]
  simp only [Array.getElem?_toList]

theorem narrowInto?_amplify :
    narrowInto? samples.toList (amplify samples g scratch).2.toList =
      some (amplify samples g scratch).1.toList := by
  rw [narrowInto?, overwrite?_eq sample?_narrow, Option.some.injEq]
  -- the second loop reads what the first one has left, and at one place that is one product
  apply List.ext_getElem?
  intro i
  simp only [List.getElem?_mapIdx, Array.getElem?_toList, getElem?_amplify_fst,
    getElem?_amplify_snd]
  cases hsample : samples[i]? with
  | none => rfl
  | some x =>
    by_cases hi : i < scratch.size
    · rw [Array.getElem?_eq_getElem hi, Option.map_some, Option.map_some, Option.map_some]
      simp [hi, narrow_mul]
    · simp [hi]

end Places

/-! ## Order, signs and sizes -/

variable {g : Gain} {x y : Int16}

theorem saturate_le_saturate {v w : Int} (h : v ≤ w) : saturate v ≤ saturate w := by
  unfold saturate
  omega

/-- Rounding down and saturating keep the order of products. -/
theorem times_le_times {g' : Gain} (h : x.toInt * g.raw.toInt ≤ y.toInt * g'.raw.toInt) :
    g.times x ≤ g'.times y := by
  rw [Int16.le_iff_toInt_le, toInt_times, toInt_times]
  exact saturate_le_saturate (Int.ediv_le_ediv (by decide) h)

theorem times_mono (hg : 0 ≤ g.raw) (h : x ≤ y) : g.times x ≤ g.times y :=
  times_le_times
    (Int.mul_le_mul_of_nonneg_right (Int16.le_iff_toInt_le.mp h) (Int16.le_iff_toInt_le.mp hg))

theorem times_zero (g : Gain) : g.times 0 = 0 := by
  have hzero : (0 : Int16).toInt = 0 := rfl
  rw [← Int16.toInt_inj, toInt_times, hzero, Int.zero_mul]
  rfl

theorem times_nonneg (hg : 0 ≤ g.raw) (hx : 0 ≤ x) : 0 ≤ g.times x :=
  calc 0 = g.times 0 := (times_zero g).symm
    _ ≤ g.times x := times_mono hg hx

theorem times_nonpos (hg : 0 ≤ g.raw) (hx : x ≤ 0) : g.times x ≤ 0 :=
  calc g.times x ≤ g.times 0 := times_mono hg hx
    _ = 0 := times_zero g

/-- Up to unity no sample moves away from zero. -/
theorem natAbs_times_le (hg : 0 ≤ g.raw) (hunity : g.raw ≤ Gain.unity.raw) (x : Int16) :
    (g.times x).toInt.natAbs ≤ x.toInt.natAbs := by
  have hraw := Int16.le_iff_toInt_le.mp hunity
  have hzero : (0 : Int16).toInt = 0 := rfl
  rcases Int16.le_total 0 x with hx | hx
  · have hsample := Int16.le_iff_toInt_le.mp hx
    have hlow := Int16.le_iff_toInt_le.mp (times_nonneg hg hx)
    have hhigh : g.times x ≤ Gain.unity.times x :=
      times_le_times (Int.mul_le_mul_of_nonneg_left hraw hsample)
    rw [unity_times, Int16.le_iff_toInt_le] at hhigh
    omega
  · have hsample := Int16.le_iff_toInt_le.mp hx
    have hhigh := Int16.le_iff_toInt_le.mp (times_nonpos hg hx)
    have hlow : Gain.unity.times x ≤ g.times x :=
      times_le_times (Int.mul_le_mul_of_nonpos_left hsample hraw)
    rw [unity_times, Int16.le_iff_toInt_le] at hlow
    omega

/-! ## The multiplication -/

variable {samples others : Array Int16} {scratch block : Array Int32} {i j : Nat}

/-- A sample that has an accumulator, and what becomes of both. -/
theorem exists_amplify_of_lt (g : Gain) (h : i < min samples.size scratch.size) :
    ∃ x y p, samples[i]? = some x ∧ (amplify samples g scratch).1[i]? = some y ∧
      (amplify samples g scratch).2[i]? = some p ∧
      y.toInt = saturate (x.toInt * g.raw.toInt / 16384) ∧ p.toInt = x.toInt * g.raw.toInt := by
  have hsample : i < samples.size := by omega
  have hscratch : i < scratch.size := by omega
  refine ⟨samples[i], g.times samples[i], samples[i].toInt32 * g.raw.toInt32,
    Array.getElem?_eq_getElem hsample, ?_, ?_, toInt_times _ _, toInt_mul_toInt32 _ _⟩
  · rw [getElem?_amplify_fst, Array.getElem?_eq_getElem hsample, Option.map_some,
      if_pos hscratch]
  · rw [getElem?_amplify_snd, Array.getElem?_eq_getElem hsample,
      Array.getElem?_eq_getElem hscratch]
    rfl

/-- What stands beyond the end of either block is left as it is. -/
theorem amplify_of_le (g : Gain) (h : min samples.size scratch.size ≤ i) :
    (amplify samples g scratch).1[i]? = samples[i]? ∧
      (amplify samples g scratch).2[i]? = scratch[i]? := by
  rw [getElem?_amplify_fst, getElem?_amplify_snd]
  -- an accumulator there has no sample; without one a sample is not scaled
  rcases Nat.lt_or_ge i scratch.size with hi | hi
  · have hsample : samples[i]? = none := Array.getElem?_eq_none (by omega)
    simp [hsample]
  · simp [Nat.not_lt.mpr hi]

/-- A sample is scaled if it has an accumulator and left if it has none. -/
theorem eq_of_getElem?_amplify (hx : samples[i]? = some x)
    (hy : (amplify samples g scratch).1[i]? = some y) :
    y = if i < scratch.size then g.times x else x := by
  rw [getElem?_amplify_fst, hx, Option.map_some] at hy
  exact (Option.some.inj hy).symm

/-- Of two samples that both have an accumulator, or both have none, the smaller stays smaller. -/
theorem amplify_mono (hg : 0 ≤ g.raw) {x' y' : Int16} (hplaces : i < scratch.size ↔ j < block.size)
    (hx : samples[i]? = some x) (hy : (amplify samples g scratch).1[i]? = some y)
    (hx' : others[j]? = some x') (hy' : (amplify others g block).1[j]? = some y')
    (h : x ≤ x') : y ≤ y' := by
  rw [eq_of_getElem?_amplify hx hy, eq_of_getElem?_amplify hx' hy']
  by_cases hi : i < scratch.size
  · rw [if_pos hi, if_pos (hplaces.mp hi)]
    exact times_mono hg h
  · rw [if_neg hi, if_neg (mt hplaces.mpr hi)]
    exact h

/-- A sample stays on its side of zero, and up to unity it does not move away from it. -/
theorem amplify_bounds (hg : 0 ≤ g.raw) (hx : samples[i]? = some x)
    (hy : (amplify samples g scratch).1[i]? = some y) :
    (0 ≤ x → 0 ≤ y) ∧ (x ≤ 0 → y ≤ 0) ∧
      (g.raw ≤ Gain.unity.raw → y.toInt.natAbs ≤ x.toInt.natAbs) := by
  rw [eq_of_getElem?_amplify hx hy]
  split
  · exact ⟨times_nonneg hg, times_nonpos hg, fun hunity => natAbs_times_le hg hunity x⟩
  · exact ⟨id, id, fun _ => Nat.le_refl _⟩

/--
Samples multiplied by any gain, a negative one too, with any number of accumulators that hold
anything. The two loops over the integers, one along the accumulators and one along the samples,
come to an end with every product in 32 bits and every sample in 16, and with the same words.
Where there is both a sample and an accumulator, the accumulator holds the product and the sample
is the product divided by 16384, rounding down, and saturated; all else is left as it was. A gain
that is not negative keeps the order of samples and turns none around zero; up to unity it makes
none larger.
-/
theorem amplify_exact (samples : Array Int16) (g : Gain) (scratch : Array Int32) :
    let reply := amplify samples g scratch
    let m := min samples.size scratch.size
    (g.multiplyInto? scratch.toList samples.toList = some reply.2.toList ∧
      narrowInto? samples.toList reply.2.toList = some reply.1.toList) ∧
    (reply.1.size = samples.size ∧ reply.2.size = scratch.size) ∧
    (∀ i, i < m → ∃ x y p,
      samples[i]? = some x ∧ reply.1[i]? = some y ∧ reply.2[i]? = some p ∧
      y.toInt = saturate (x.toInt * g.raw.toInt / 16384) ∧ p.toInt = x.toInt * g.raw.toInt ∧
      -2147483648 ≤ x.toInt * g.raw.toInt ∧ x.toInt * g.raw.toInt ≤ 2147483647) ∧
    (∀ i, m ≤ i → reply.1[i]? = samples[i]? ∧ reply.2[i]? = scratch[i]?) ∧
    (0 ≤ g.raw → ∀ i x y, samples[i]? = some x → reply.1[i]? = some y →
      (∀ (others : Array Int16) (block : Array Int32) j x' y',
        (i < scratch.size ↔ j < block.size) → others[j]? = some x' →
        (amplify others g block).1[j]? = some y' → x ≤ x' → y ≤ y') ∧
      (0 ≤ x → 0 ≤ y) ∧ (x ≤ 0 → y ≤ 0) ∧
      (g.raw ≤ Gain.unity.raw → y.toInt.natAbs ≤ x.toInt.natAbs)) := by
  intro reply m
  refine ⟨⟨multiplyInto?_amplify samples g scratch, narrowInto?_amplify samples g scratch⟩,
    ⟨size_amplify_fst samples g scratch, size_amplify_snd samples g scratch⟩,
    fun i hi => ?_, fun i hi => amplify_of_le g hi, fun hg i x y hx hy => ⟨?_, ?_⟩⟩
  · obtain ⟨x, y, p, hx, hy, hp, hsample, hproduct⟩ := exists_amplify_of_lt g hi
    obtain ⟨hlow, hhigh⟩ := product_bounds x g.raw
    exact ⟨x, y, p, hx, hy, hp, hsample, hproduct, by omega, by omega⟩
  · intro others block j x' y' hplaces hx' hy' h
    exact amplify_mono hg hplaces hx hy hx' hy' h
  · exact amplify_bounds hg hx hy

/--
Three samples and two accumulators. At three quarters the sample below zero that is nearest to it
rounds to itself, the one without an accumulator is left, and the lowest one stays below the next
and comes no further from zero. The lowest gain that JSON can hold takes the lowest sample beyond
the highest.
-/
theorem amplify_exact_short_block :
    let samples : Array Int16 := #[-32768, -1, 32767]
    let scratch : Array Int32 := #[7, 7]
    let quieter : Gain := ⟨12288⟩
    let reply := amplify samples quieter scratch
    (1 < min samples.size scratch.size ∧ ∃ y p,
      reply.1[1]? = some y ∧ reply.2[1]? = some p ∧ y.toInt = -1 ∧ p.toInt = -12288) ∧
    (min samples.size scratch.size ≤ 2 ∧ reply.1[2]? = some (32767 : Int16)) ∧
    (0 ≤ quieter.raw ∧ quieter.raw ≤ Gain.unity.raw ∧ ∃ y y',
      reply.1[0]? = some y ∧ reply.1[1]? = some y' ∧ y ≤ y' ∧ y ≤ 0 ∧ y.toInt.natAbs ≤ 32768) ∧
    ∃ lowest y p, Gain.ofJson? (.ofInt (-32768)) = some lowest ∧
      (amplify samples lowest scratch).1[0]? = some y ∧
      (amplify samples lowest scratch).2[0]? = some p ∧ y.toInt = 32767 ∧ p.toInt = 1073741824 := by
  intro samples scratch quieter reply
  obtain ⟨-, -, hscaled, hkept, horder⟩ := amplify_exact samples quieter scratch
  obtain ⟨x, y, p, hx, hy, -⟩ := hscaled 0 (by decide)
  obtain ⟨x', y', p', hx', hy', hp', hsample, hproduct, -⟩ := hscaled 1 (by decide)
  cases hx
  cases hx'
  refine ⟨⟨by decide, y', p', hy', hp', hsample, hproduct⟩, ⟨by decide, (hkept 2 (by decide)).1⟩,
    ⟨by decide, by decide, y, y', hy, hy', ?_⟩, ⟨-32768⟩, ?_⟩
  · obtain ⟨hmono, -, hnonpos, hsize⟩ := horder (by decide) 0 _ y rfl hy
    exact ⟨hmono samples scratch 1 _ y' (by decide) rfl hy' (by decide), hnonpos (by decide),
      hsize (by decide)⟩
  · obtain ⟨-, -, hlowest, -⟩ := amplify_exact samples ⟨-32768⟩ scratch
    obtain ⟨x, y, p, hx, hy, hp, hsample, hproduct, -⟩ := hlowest 0 (by decide)
    cases hx
    exact ⟨y, p, rfl, hy, hp, hsample, hproduct⟩

end MediaSession
