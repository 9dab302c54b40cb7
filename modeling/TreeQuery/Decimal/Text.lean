set_option autoImplicit false

/-! # Texts of decimals

The decimal `digits * 10 ^ k` as text, with a point inside or around its digits, or with one digit
before the point and an exponent behind. -/

namespace TreeQuery.Decimal

/-- The exponent of the first digit. -/
def leadingExponent (digits : Nat) (k : Int) : Int := (Nat.toDigits 10 digits).length + k - 1

/-- The decimal without an exponent, with at least one digit on either side of the point. -/
def positional (digits : Nat) (k : Int) : String :=
  let cs := Nat.toDigits 10 digits
  if 0 ≤ k then String.ofList (cs ++ List.replicate k.toNat '0' ++ ['.', '0'])
  else
    let places := (-k).toNat
    let padded := List.replicate (places + 1 - cs.length) '0' ++ cs
    let whole := padded.length - places
    String.ofList (padded.take whole ++ '.' :: padded.drop whole)

/-- The decimal with the exponent of its first digit, which always has a sign. There is no point
behind a single digit. -/
def scientific (digits : Nat) (k : Int) : String :=
  let exponent := leadingExponent digits k
  let significand : List Char :=
    match Nat.toDigits 10 digits with
    | c :: d :: cs => c :: '.' :: d :: cs
    | cs => cs
  String.ofList significand ++ (if 0 ≤ exponent then "e+" else "e-") ++ toString exponent.natAbs

end TreeQuery.Decimal
