/-!
# MediaSession.Decimal

Decimal text of a fraction with a fixed number of places, and of a whole number of parts with the
trailing zeros left out.

* `roundEven`: a quotient rounded to a whole number, a half going to the even neighbour
* `fixed`: a fraction with exactly the given places
* `trimmed`: a whole number with the shortest decimal part that says the rest exactly
-/

namespace MediaSession
namespace Decimal

/-- The nearest whole number to `num / den`; of two equally near, the even one. -/
def roundEven (num den : Nat) : Nat :=
  let q := num / den
  let r := num % den
  if den < 2 * r ∨ (2 * r = den ∧ q % 2 = 1) then q + 1 else q

/-- The last `places` digits of `n`, zeros in front. -/
def padded (places n : Nat) : List Char :=
  let ds := Nat.toDigits 10 n
  List.replicate (places - ds.length) '0' ++ ds

/-- `num / den` with exactly `places` decimal places, at least one. -/
def fixed (places : Nat) (num : Int) (den : Nat) : String :=
  let unit := Nat.pow 10 places
  let n := roundEven (num.natAbs * unit) den
  let digits := Nat.toDigits 10 (n / unit) ++ '.' :: padded places (n % unit)
  String.ofList (if num < 0 then '-' :: digits else digits)

/-- `whole` and `part` parts of `10 ^ places`, without trailing zeros and without a bare point. -/
def trimmed (places whole part : Nat) : String :=
  let decimals := ((padded places part).reverse.dropWhile (· == '0')).reverse
  String.ofList (Nat.toDigits 10 whole ++ if decimals.isEmpty then [] else '.' :: decimals)

end Decimal
end MediaSession
