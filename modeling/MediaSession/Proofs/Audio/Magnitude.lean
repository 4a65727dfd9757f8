import Mathlib

/-!
# MediaSession.Proofs.Audio.Magnitude

How large a number in floating point can come to. A power of two bounds it, and the exponent of
the bound follows the operations: a product may add one to it, a quotient two, for what the
rounding carries. Nothing is said about how near a result is to the exact one.

* `Below`, `Full`: a number under a power of two; one that starts right at the power before it
* `below_roundWithAccuracy`: a rounding carries at most to the next power
* `below_mul`, `below_div`: products and quotients
* `below_unpack_pack`, `full_unpack_pack`: what the bits of a number keep of it
* `below_ofNat`, `full_ofNat`: whole numbers
* `toNat_toUInt64_lt`: a number cut down to a whole one is under the same power
-/

namespace MediaSession
namespace Magnitude

open Float.Model Float.Model.UnpackedFloat

/-! ## Lengths in bits -/

theorem log2_mono {m n : Nat} (h : m ≤ n) : m.log2 ≤ n.log2 := by
  rw [Nat.log2_eq_log_two, Nat.log2_eq_log_two]
  exact Nat.log_mono_right h

theorem log2_div_two_pow (m s : Nat) : (m / 2 ^ s).log2 = m.log2 - s := by
  rw [Nat.log2_eq_log_two, Nat.log2_eq_log_two, Nat.log_div_base_pow]

theorem div_two_pow_eq_zero {m s : Nat} (h : m.log2 < s) : m / 2 ^ s = 0 :=
  Nat.div_eq_of_lt (Nat.lt_of_lt_of_le Nat.lt_log2_self (Nat.pow_le_pow_right (by decide) h))

theorem log2_succ_le (m : Nat) : (m + 1).log2 ≤ m.log2 + 1 := by
  have hlt : m + 1 < 2 ^ (m.log2 + 1 + 1) := by
    have hm := Nat.lt_log2_self (n := m)
    rw [Nat.pow_succ]
    omega
  exact Nat.le_of_lt_succ ((Nat.log2_lt (Nat.succ_ne_zero m)).mpr hlt)

theorem log2_mul_le (m n : Nat) : (m * n).log2 ≤ m.log2 + n.log2 + 1 := by
  rcases Nat.eq_zero_or_pos (m * n) with hzero | hpos
  · rw [hzero]
    exact Nat.zero_le _
  · have hlt : m * n < 2 ^ (m.log2 + n.log2 + 2) := by
      calc m * n
          < 2 ^ (m.log2 + 1) * 2 ^ (n.log2 + 1) :=
            Nat.mul_lt_mul'' Nat.lt_log2_self Nat.lt_log2_self
        _ = 2 ^ (m.log2 + n.log2 + 2) := by ring
    exact Nat.le_of_lt_succ ((Nat.log2_lt (Nat.ne_of_gt hpos)).mpr hlt)

theorem log2_add_le {m n : Nat} (hm : m ≠ 0) (hn : n ≠ 0) : m.log2 + n.log2 ≤ (m * n).log2 := by
  refine (Nat.le_log2 (Nat.mul_ne_zero hm hn)).mpr ?_
  rw [Nat.pow_add]
  exact Nat.mul_le_mul (Nat.log2_self_le hm) (Nat.log2_self_le hn)

theorem log2_shiftLeft {m : Nat} (hm : m ≠ 0) (s : Nat) : (m <<< s).log2 = m.log2 + s := by
  have hge := log2_add_le hm (Nat.ne_of_gt (Nat.two_pow_pos s))
  have hdiv := log2_div_two_pow (m * 2 ^ s) s
  rw [Nat.mul_div_cancel m (Nat.two_pow_pos s)] at hdiv
  rw [Nat.log2_two_pow] at hge
  rw [Nat.shiftLeft_eq]
  omega

theorem log2_div_le (m : Nat) {n : Nat} (hn : n ≠ 0) : (m / n).log2 ≤ m.log2 - n.log2 := by
  rw [← log2_div_two_pow]
  exact log2_mono (Nat.div_le_div_left (Nat.log2_self_le hn) (Nat.two_pow_pos _))

/-! ## Rounding -/

theorem mantissa_shiftRight (em : ExtendedMantissa) (n : Nat) :
    (em >>> n).mantissa = em.mantissa / 2 ^ n := by
  change (n.repeat ExtendedMantissa.shiftRightOne em).mantissa = _
  induction n with
  | zero => simp [Nat.repeat]
  | succ n ih =>
    rw [Nat.repeat]
    simp only [ExtendedMantissa.shiftRightOne, ih, Nat.div_div_eq_div_mul, Nat.pow_succ]

theorem roundedMantissa_le (em : ExtendedMantissa) : em.roundedMantissa ≤ em.mantissa + 1 := by
  unfold ExtendedMantissa.roundedMantissa Accuracy.roundToNearestEven
  split <;> omega

theorem mantissa_ofMantissaAndAccuracy (m : Nat) (accuracy : Accuracy) :
    (ExtendedMantissa.ofMantissaAndAccuracy m accuracy).mantissa = m := by
  unfold ExtendedMantissa.ofMantissaAndAccuracy
  split <;> rfl

theorem targetExponent_eq (total : Int) :
    Format.binary64.targetExponent total = max (total - 53) (-1074) := rfl

/--
A number less than `2 ^ k` in size. Its mantissa is no longer than the format has room for, and its
exponent no lower; so much is kept when the number is packed.
-/
def Below (k : Int) : UnpackedFloat → Prop
  | .zero _ => True
  | .finite _ m e _ => totalExponent m e ≤ k ∧ m.log2 ≤ 52 ∧ -1074 ≤ e
  | .infinity _ => False
  | .notANumber => False

theorem Below.mono {f : UnpackedFloat} {k l : Int} (h : Below k f) (hkl : k ≤ l) : Below l f := by
  cases f with
  | infinity => exact h
  | notANumber => exact h
  | zero => trivial
  | finite => exact ⟨h.1.trans hkl, h.2⟩

theorem mantissa_shiftToTargetExponent (m : Nat) (e : Int) (accuracy : Accuracy) :
    (shiftToTargetExponent Format.binary64 m e accuracy).1.mantissa =
      m / 2 ^ (max (totalExponent m e - 53) (-1074) - e).toNat := by
  rw [shiftToTargetExponent, shiftToExponent, mantissa_shiftRight, mantissa_ofMantissaAndAccuracy,
    targetExponent_eq]

theorem exponent_shiftToTargetExponent (m : Nat) (e : Int) (accuracy : Accuracy) :
    (shiftToTargetExponent Format.binary64 m e accuracy).2 =
      e + (max (totalExponent m e - 53) (-1074) - e).toNat := by
  rw [shiftToTargetExponent, shiftToExponent, targetExponent_eq]

/-- The end of a rounding, where a mantissa that the carry made too long is shifted once more. -/
def settled (sign : Sign) (m : Nat) (e : Int) : UnpackedFloat :=
  let (em, e) := shiftToTargetExponent Format.binary64 m e .exact
  if h : em.mantissa = 0 then .zero sign else .finite sign em.mantissa e (Nat.pos_of_ne_zero h)

theorem below_settled (sign : Sign) {m : Nat} {e k : Int} (h : totalExponent m e ≤ k) :
    Below k (settled sign m e) := by
  unfold settled
  split
  rename_i em e' hshift
  have hm := mantissa_shiftToTargetExponent m e .exact
  have he := exponent_shiftToTargetExponent m e .exact
  rw [hshift] at hm he
  generalize ht : (max (totalExponent m e - 53) (-1074) - e).toNat = t at hm he
  split
  · trivial
  · rename_i hne
    dsimp only at hm he
    have htm : t ≤ m.log2 := by
      by_contra hlt
      exact hne (hm.trans (div_two_pow_eq_zero (by omega)))
    simp only [Below, totalExponent, hm, he, log2_div_two_pow] at h ht ⊢
    omega

theorem roundWithAccuracy_eq (sign : Sign) (m : Nat) (e : Int) (accuracy : Accuracy) :
    roundWithAccuracy Format.binary64 sign m e accuracy =
      settled sign (shiftToTargetExponent Format.binary64 m e accuracy).1.roundedMantissa
        (shiftToTargetExponent Format.binary64 m e accuracy).2 := rfl

/-- Rounding up carries to the next power of two at most. -/
theorem below_roundWithAccuracy (sign : Sign) {m : Nat} {e k : Int} (accuracy : Accuracy)
    (h : totalExponent m e + 1 ≤ k) (hk : -1073 ≤ k) :
    Below k (roundWithAccuracy Format.binary64 sign m e accuracy) := by
  rw [roundWithAccuracy_eq]
  apply below_settled
  have hrounded := roundedMantissa_le (shiftToTargetExponent Format.binary64 m e accuracy).1
  rw [mantissa_shiftToTargetExponent] at hrounded
  rw [exponent_shiftToTargetExponent]
  generalize (shiftToTargetExponent Format.binary64 m e accuracy).1.roundedMantissa = r
    at hrounded ⊢
  generalize hs : (max (totalExponent m e - 53) (-1074) - e).toNat = s at hrounded ⊢
  have hlog : r.log2 ≤ (m / 2 ^ s).log2 + 1 := (log2_mono hrounded).trans (log2_succ_le _)
  rw [log2_div_two_pow] at hlog
  simp only [totalExponent] at h hs ⊢
  by_cases hsm : s ≤ m.log2
  · omega
  · rw [div_two_pow_eq_zero (by omega)] at hrounded
    have hone : r.log2 = 0 := Nat.le_zero.mp (log2_mono hrounded)
    omega

/-- A mantissa of full length is kept as it is. -/
theorem roundWithAccuracy_of_full (sign : Sign) {m : Nat} {e : Int} (hm : m.log2 = 52)
    (he : -1074 ≤ e) (hpos : 0 < m) :
    roundWithAccuracy Format.binary64 sign m e .exact = .finite sign m e hpos := by
  have hkept : shiftToTargetExponent Format.binary64 m e .exact =
      (ExtendedMantissa.ofMantissaAndAccuracy m .exact, e) := by
    have hzero : (max (totalExponent m e - 53) (-1074) - e).toNat = 0 := by
      simp only [totalExponent, hm]
      omega
    rw [shiftToTargetExponent, shiftToExponent, targetExponent_eq, hzero]
    exact Prod.ext rfl (by simp)
  have hrounded : (ExtendedMantissa.ofMantissaAndAccuracy m .exact).roundedMantissa = m := rfl
  rw [roundWithAccuracy_eq, hkept]
  dsimp only
  rw [hrounded, settled, hkept]
  exact dif_neg (Nat.ne_of_gt hpos)

/-! ## Packed numbers -/

theorem log2_implicit (v : BitVec 52) : (1#1 ++ v).toNat.log2 = 52 := by
  have hv := v.isLt
  have hvalue : (1#1 ++ v).toNat = 2 ^ 52 + v.toNat := by
    rw [BitVec.toNat_append, ← Nat.shiftLeft_add_eq_or_of_lt hv, Nat.shiftLeft_eq]
    simp
  rw [Nat.log2_eq_iff (by omega), hvalue]
  omega

/-- A number from `2 ^ (k - 1)` up to `2 ^ k` in size, with a mantissa of full length. -/
def Full (k : Int) : UnpackedFloat → Prop
  | .finite _ m e _ => m.log2 = 52 ∧ e + 53 = k
  | _ => False

theorem full_unpack (sign : Sign) (exponent : BitVec 11) (mantissa : BitVec 52)
    (hfinite : exponent ≠ -1#11) (hnormal : exponent ≠ 0#11) :
    Full (exponent.toNat - 1022)
      (UnpackedFloat.unpack Format.binary64
        (packComponents Format.binary64 sign exponent mantissa)) := by
  unfold UnpackedFloat.unpack
  simp only [unpackExponent_packComponents, unpackMantissa_packComponents]
  rw [if_neg hfinite, if_neg hnormal]
  refine ⟨log2_implicit mantissa, ?_⟩
  have hbias : (Format.binary64.exponentBias + Format.binary64.mantissaBitsWithoutImplicit : Int) =
    1075 := by decide
  rw [hbias]
  omega

theorem below_unpack_subnormal (sign : Sign) {mantissa : BitVec 52} {k : Int}
    (h : mantissa ≠ 0#52 → mantissa.toNat.log2 + 1 - 1074 ≤ k) :
    Below k (UnpackedFloat.unpack Format.binary64
      (packComponents Format.binary64 sign 0#11 mantissa)) := by
  unfold UnpackedFloat.unpack
  simp only [unpackExponent_packComponents, unpackMantissa_packComponents]
  rw [if_neg (by decide), if_pos trivial]
  split
  · trivial
  · rename_i hne
    have hlog : mantissa.toNat.log2 < 52 :=
      (Nat.log2_lt (by simpa [BitVec.toNat_eq] using hne)).mpr mantissa.isLt
    have htotal := h hne
    have hexponent : ((0#11).toNat : Int) -
        (Format.binary64.exponentBias + Format.binary64.mantissaBitsWithoutImplicit : Int) + 1 =
      -1074 := by decide
    simp only [Below, totalExponent]
    rw [hexponent]
    omega

theorem pack_finite (sign : Sign) {m : Nat} {e : Int} (hm : 0 < m) (he : e ≤ 971) :
    UnpackedFloat.pack Format.binary64 (.finite sign m e hm) =
      packComponents Format.binary64 sign
        (if m.log2 = 52 then BitVec.ofNat 11 (e + 1075).toNat else 0#11) (BitVec.ofNat 52 m) := by
  have hbiased : (e + (Format.binary64.exponentBias : Int) +
      (Format.binary64.mantissaBitsWithoutImplicit : Int)).toNat = (e + 1075).toNat := by
    have hbias : (Format.binary64.exponentBias : Int) = 1023 := by decide
    have hbits : (Format.binary64.mantissaBitsWithoutImplicit : Int) = 52 := by decide
    rw [hbias, hbits]
    omega
  have hroom : ¬ 2 ^ Format.binary64.exponentBits ≤ (e + 1075).toNat + 1 := by
    have hbits : 2 ^ Format.binary64.exponentBits = 2048 := by decide
    omega
  have hfull : (m.log2 + 1 = Format.binary64.mantissaBits) = (m.log2 = 52) := by
    have hbits : Format.binary64.mantissaBits = 53 := by decide
    rw [hbits]
    exact propext (by omega)
  unfold UnpackedFloat.pack
  simp only [hbiased, hfull]
  rw [if_neg hroom]
  split <;> rfl

theorem full_unpack_pack (sign : Sign) {m : Nat} {e : Int} (hm : 0 < m) (hlog : m.log2 = 52)
    (hlow : -1074 ≤ e) (hhigh : e ≤ 971) :
    Full (e + 53)
      (UnpackedFloat.unpack Format.binary64
        (UnpackedFloat.pack Format.binary64 (.finite sign m e hm))) := by
  have hexponent : (BitVec.ofNat 11 (e + 1075).toNat).toNat = (e + 1075).toNat := by
    rw [BitVec.toNat_ofNat]
    exact Nat.mod_eq_of_lt (by omega)
  rw [pack_finite sign hm hhigh, if_pos hlog]
  have hfull := full_unpack sign (BitVec.ofNat 11 (e + 1075).toNat) (BitVec.ofNat 52 m)
    (by rw [← BitVec.toNat_inj.ne, hexponent]; simp; omega)
    (by rw [← BitVec.toNat_inj.ne, hexponent]; simp; omega)
  rw [hexponent] at hfull
  have htotal : ((e + 1075).toNat : Int) - 1022 = e + 53 := by omega
  rwa [htotal] at hfull

theorem below_of_full {f : UnpackedFloat} {k : Int} (h : Full k f) (hk : -1021 ≤ k) : Below k f := by
  cases f with
  | finite sign m e hm =>
    obtain ⟨hlog, rfl⟩ := h
    simp only [Below, totalExponent, hlog]
    omega
  | _ => exact h.elim

/-- What is below a bound is below it still when it is packed into bits. -/
theorem below_unpack_pack {f : UnpackedFloat} {k : Int} (h : Below k f) (hk : k ≤ 971) :
    Below k (UnpackedFloat.unpack Format.binary64 (UnpackedFloat.pack Format.binary64 f)) := by
  cases f with
  | infinity => exact h.elim
  | notANumber => exact h.elim
  | zero sign => exact below_unpack_subnormal sign fun hne => absurd rfl hne
  | finite sign m e hm =>
    obtain ⟨htotal, hlog, he⟩ := h
    simp only [totalExponent] at htotal
    by_cases hfull : m.log2 = 52
    · have hbelow := below_of_full (full_unpack_pack sign hm hfull he (by omega)) (by omega)
      exact hbelow.mono (by omega)
    · rw [pack_finite sign hm (by omega), if_neg hfull]
      refine below_unpack_subnormal sign fun _ => ?_
      have hmod : (BitVec.ofNat 52 m).toNat.log2 ≤ m.log2 := by
        rw [BitVec.toNat_ofNat]
        exact log2_mono (Nat.mod_le _ _)
      omega

/-! ## Products and quotients -/

theorem below_mul {f g : UnpackedFloat} {k l : Int} (hf : Below k f) (hg : Below l g)
    (hkl : -1073 ≤ k + l + 1) :
    Below (k + l + 1) (UnpackedFloat.mul Format.binary64 f g) := by
  cases f with
  | infinity => exact hf.elim
  | notANumber => exact hf.elim
  | zero =>
    cases g with
    | infinity => exact hg.elim
    | notANumber => exact hg.elim
    | zero => trivial
    | finite => trivial
  | finite s₁ m₁ e₁ h₁ =>
    cases g with
    | infinity => exact hg.elim
    | notANumber => exact hg.elim
    | zero => trivial
    | finite s₂ m₂ e₂ h₂ =>
      refine below_roundWithAccuracy _ _ ?_ hkl
      have hlog := log2_mul_le m₁ m₂
      have hm₁ := hf.1
      have hm₂ := hg.1
      simp only [totalExponent] at hm₁ hm₂ ⊢
      omega

/-- The quotient by a number that is not small. -/
theorem below_div {f : UnpackedFloat} {k l : Int} (hf : Below k f) {s : Sign} {m : Nat} {e : Int}
    {hm : 0 < m} (hl : l ≤ totalExponent m e) (hkl : -1073 ≤ k - l) :
    Below (k - l + 2) (UnpackedFloat.div Format.binary64 f (.finite s m e hm)) := by
  cases f with
  | infinity => exact hf.elim
  | notANumber => exact hf.elim
  | zero => trivial
  | finite s₁ m₁ e₁ h₁ =>
    refine below_roundWithAccuracy _ _ ?_ (by omega)
    have hm₁ := hf.1
    simp only [targetExponent_eq]
    generalize ht : min (e₁ - e) (max (totalExponent m₁ e₁ - totalExponent m e - 53) (-1074)) = t
    have hquotient := log2_div_le (m₁ <<< (e₁ - e - t).toNat) (Nat.ne_of_gt hm)
    rw [log2_shiftLeft (Nat.ne_of_gt h₁)] at hquotient
    simp only [totalExponent] at hm₁ hl ht ⊢
    omega

/-! ## Whole numbers -/

theorem ofNat_of_ne_zero {n : Nat} (hn : n ≠ 0) :
    UnpackedFloat.ofNat Format.binary64 n =
      roundWithAccuracy Format.binary64 .positive
        (n <<< (0 - Format.binary64.targetExponent (totalExponent n 0)).toNat)
        (0 - (0 - Format.binary64.targetExponent (totalExponent n 0)).toNat) .exact := by
  have hpos : compare (n : Int) 0 = .gt := by
    rw [Int.compare_eq_gt]
    omega
  unfold UnpackedFloat.ofNat UnpackedFloat.ofInt UnpackedFloat.normalize
  rw [hpos]
  rfl

theorem below_ofNat (n : Nat) : Below (n.log2 + 2) (UnpackedFloat.ofNat Format.binary64 n) := by
  rcases Nat.eq_zero_or_pos n with rfl | hpos
  · trivial
  · have hn := Nat.ne_of_gt hpos
    rw [ofNat_of_ne_zero hn]
    refine below_roundWithAccuracy _ _ ?_ (by omega)
    simp only [totalExponent, log2_shiftLeft hn]
    omega

/-- Numbers of up to 53 bits are kept as they are. -/
theorem full_ofNat {n : Nat} (hn : n ≠ 0) (hlog : n.log2 ≤ 52) :
    Full (n.log2 + 1)
      (UnpackedFloat.unpack Format.binary64
        (UnpackedFloat.pack Format.binary64 (UnpackedFloat.ofNat Format.binary64 n))) := by
  have hshift : (0 - Format.binary64.targetExponent (totalExponent n 0)).toNat = 52 - n.log2 := by
    rw [targetExponent_eq, totalExponent]
    omega
  have hfull : (n <<< (52 - n.log2)).log2 = 52 := by
    rw [log2_shiftLeft hn]
    omega
  have hpos : 0 < n <<< (52 - n.log2) := by
    by_contra hzero
    rw [Nat.eq_zero_of_not_pos hzero] at hfull
    exact absurd hfull (by decide)
  rw [ofNat_of_ne_zero hn, hshift, roundWithAccuracy_of_full _ hfull (by omega) hpos]
  have hpacked := full_unpack_pack .positive hpos hfull (e := 0 - (52 - n.log2 : Nat)) (by omega)
    (by omega)
  have htotal : (0 - (52 - n.log2 : Nat) : Int) + 53 = n.log2 + 1 := by omega
  rwa [htotal] at hpacked

/-! ## Words -/

theorem toNat_toUInt64_lt {f : UnpackedFloat} {k : Nat} (hf : Below k f) :
    f.toUInt64.toNat < 2 ^ k := by
  have hclamp : ∀ n : Nat, n < 2 ^ k → (UInt64.ofNatClamp n).toNat < 2 ^ k := by
    intro n hn
    unfold UInt64.ofNatClamp
    split
    · exact hn
    · rename_i hlarge
      have hle : UInt64.size ≤ n := Nat.le_of_not_lt hlarge
      exact Nat.lt_of_le_of_lt ((Nat.sub_le _ 1).trans hle) hn
  refine hclamp _ ?_
  cases f with
  | infinity => exact hf.elim
  | notANumber => exact hf.elim
  | zero => exact Nat.two_pow_pos k
  | finite sign m e hm =>
    have htotal := hf.1
    simp only [totalExponent] at htotal
    simp only [toInt, roundToInt, shiftToExponent, mantissa_shiftRight,
      mantissa_ofMantissaAndAccuracy, decreaseExponent]
    generalize ha : (e - 0).toNat = a
    generalize hb : (0 - (e - (a : Int))).toNat = b
    have hwhole : m <<< a / 2 ^ b < 2 ^ k := by
      by_cases hab : (m <<< a).log2 < b
      · rw [div_two_pow_eq_zero hab]
        exact Nat.two_pow_pos k
      · rw [log2_shiftLeft (Nat.ne_of_gt hm)] at hab
        refine Nat.lt_of_lt_of_le Nat.lt_log2_self (Nat.pow_le_pow_right (by decide) ?_)
        rw [log2_div_two_pow, log2_shiftLeft (Nat.ne_of_gt hm)]
        omega
    generalize m <<< a / 2 ^ b = whole at hwhole
    cases sign with
    | positive => exact hwhole
    | negative =>
      have hzero : (Sign.negative.apply (whole : Int)).toNat = 0 := by
        rw [Sign.apply]
        omega
      rw [hzero]
      exact Nat.two_pow_pos k

/-! ## Numbers -/

variable {x y : Float} {k l : Int}

theorem below_float_mul (hx : Below k x.toModel.unpack) (hy : Below l y.toModel.unpack)
    (hlow : -1073 ≤ k + l + 1) (hhigh : k + l + 1 ≤ 971) :
    Below (k + l + 1) (x * y).toModel.unpack :=
  below_unpack_pack (below_mul hx hy hlow) hhigh

theorem below_float_div (hx : Below k x.toModel.unpack) (hy : Full l y.toModel.unpack)
    (hlow : -1073 ≤ k - l) (hhigh : k - l + 2 ≤ 971) :
    Below (k - l + 2) (x / y).toModel.unpack := by
  refine below_unpack_pack ?_ hhigh
  generalize y.toModel.unpack = g at hy
  cases g with
  | finite s m e hm =>
    obtain ⟨hlog, rfl⟩ := hy
    refine below_div hx ?_ hlow
    rw [totalExponent, hlog]
    omega
  | _ => exact hy.elim

theorem full_toFloat {n : UInt32} (hn : n ≠ 0) :
    Full (n.toNat.log2 + 1) n.toFloat.toModel.unpack := by
  have hne : n.toNat ≠ 0 := fun h => hn (UInt32.toNat_inj.mp h)
  have hlog : n.toNat.log2 < 32 := (Nat.log2_lt hne).mpr n.toNat_lt
  exact full_ofNat hne (by omega)

theorem below_toFloat (n : UInt64) : Below (n.toNat.log2 + 2) n.toFloat.toModel.unpack := by
  have hlog : n.toNat.log2 ≤ 64 := by
    calc n.toNat.log2
        ≤ (2 ^ 64).log2 := log2_mono n.toNat_lt.le
      _ = 64 := Nat.log2_two_pow
  exact below_unpack_pack (below_ofNat n.toNat) (by omega)

end Magnitude
end MediaSession
