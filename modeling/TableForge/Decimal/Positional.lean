import TableForge.Decimal.Shortest
import TableForge.Text.Search

/-!
# Numbers written in positional notation

Numbers in generated files are never written with an exponent. A whole number shows its exact value
and one decimal place, any other finite number its shortest digits.
-/
namespace TableForge

/-- `digits · 10 ^ exponent` in positional notation, without zeros at the end of the fraction. -/
def positional (digits : Nat) (exponent : Int) : List Char :=
  let written := Nat.toDigits 10 digits
  if 0 ≤ exponent then written ++ List.replicate exponent.toNat '0'
  else
    let places := (-exponent).toNat
    let padded := List.replicate (places + 1 - written.length) '0' ++ written
    let whole := padded.take (padded.length - places)
    let fraction := Text.trimRight (· = '0') (padded.drop (padded.length - places))
    if fraction = [] then whole else whole ++ '.' :: fraction

/-- The text of a number. -/
def Binary64.text : Binary64 → String
  | nan => "NaN"
  | infinite negative => if negative then "-inf" else "inf"
  | finite negative mantissa exponent =>
    let sign := if negative then "-" else ""
    match wholePart? mantissa exponent with
    | some whole => sign ++ toString whole ++ ".0"
    | none =>
      let (digits, place) := shortest mantissa exponent
      sign ++ String.ofList (positional digits place)

end TableForge
