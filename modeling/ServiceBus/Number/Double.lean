import ServiceBus.Text.Digits

/-! # Numbers of double precision

A `Double` is a whole multiple of a power of two with 53 bits, an infinity, or no number at all.

* `Double.ofDecimal`: the nearest one to a decimal number; a tie goes to the even neighbour.
* `Double.parse?`: reads a decimal number, an infinity, or `nan`.
* `Double.text`: the fewest digits that read back, without an exponent.
* `Double.key`: a whole number that is ordered as doubles are. -/

namespace ServiceBus.Number

/-- A number of double precision. -/
inductive Double where
  /-- The number `significand * 2 ^ exponent`, or its opposite. -/
  | finite (negative : Bool) (significand : Nat) (exponent : Int)
  | infinite (negative : Bool)
  | nan
deriving DecidableEq, Repr

/-! ### Quotients -/

/-- The ratio of two whole numbers times `base ^ exponent`, as a ratio. -/
def scaled (base : Nat) (exponent : Int) (ratio : Nat × Nat) : Nat × Nat :=
  (ratio.1 * Nat.pow base exponent.toNat, ratio.2 * Nat.pow base (-exponent).toNat)

/-- The whole number nearest to a ratio, of two the even one. -/
def nearest (ratio : Nat × Nat) : Nat :=
  let floor := ratio.1 / ratio.2
  let rest := 2 * (ratio.1 % ratio.2)
  if ratio.2 < rest || (rest == ratio.2 && floor % 2 == 1) then floor + 1 else floor

/-- The number of decimal digits, none for zero. -/
def digitCount (n : Nat) : Nat := if n = 0 then 0 else (Nat.toDigits 10 n).length

namespace Double

/-! ### Reading -/

/-- The least exponent. -/
def minExponent : Int := -1074

/-- The greatest exponent. -/
def maxExponent : Int := 971

/-- The nearest double to a positive ratio, or its opposite. -/
def ofRatio (negative : Bool) (ratio : Nat × Nat) : Double :=
  let least : Int := Int.ofNat ratio.1.log2 - Int.ofNat ratio.2.log2 - 53
  let (n, d) := scaled 2 (-least) ratio
  let exponent := max minExponent (if n < d * Nat.pow 2 53 then least else least + 1)
  let significand := nearest (scaled 2 (-exponent) ratio)
  let (significand, exponent) :=
    if significand = Nat.pow 2 53 then (Nat.pow 2 52, exponent + 1) else (significand, exponent)
  if maxExponent < exponent then .infinite negative else .finite negative significand exponent

/-- The nearest double to `digits * 10 ^ exponent`, or its opposite. Far beyond the greatest and
below the least double nothing has to be worked out. -/
def ofDecimal (negative : Bool) (digits : Nat) (exponent : Int) : Double :=
  let magnitude := Int.ofNat (digitCount digits) + exponent
  if digits = 0 || magnitude < -400 then .finite negative 0 minExponent
  else if 400 < magnitude then .infinite negative
  else ofRatio negative (scaled 10 exponent (digits, 1))

/-- The sign in front, and what follows it. -/
def splitSign : List Char → Bool × List Char
  | '-' :: rest => (true, rest)
  | '+' :: rest => (false, rest)
  | cs => (false, cs)

/-- Reads the exponent of a decimal number, which may be missing. -/
def parseExponent? : List Char → Option Int
  | [] => some 0
  | e :: rest =>
    let (negative, digits) := splitSign rest
    if e == 'e' || e == 'E' then
      (Text.decimal? digits).map fun n => if negative then -(Int.ofNat n) else Int.ofNat n
    else none

/-- Reads a decimal number without its sign. -/
def parseDecimal? (negative : Bool) (cs : List Char) : Option Double := do
  let (whole, rest) := cs.span Char.isDigit
  let (part, rest) := match rest with
    | '.' :: rest => rest.span Char.isDigit
    | _ => ([], rest)
  let digits ← Text.decimal? (whole ++ part)
  return ofDecimal negative digits ((← parseExponent? rest) - Int.ofNat part.length)

/-- Reads a number. -/
def parse? (s : String) : Option Double :=
  let (negative, cs) := splitSign s.toList
  match String.ofList (cs.map Char.toLower) with
  | "inf" | "infinity" => some (.infinite negative)
  | "nan" => some .nan
  | _ => parseDecimal? negative cs

/-! ### Writing -/

/-- The number of digits before the point of a positive ratio; a negative one counts the zeros
behind the point. -/
def magnitude (ratio : Nat × Nat) : Int :=
  if ratio.2 ≤ ratio.1 then Int.ofNat (digitCount (ratio.1 / ratio.2))
  else
    let zeros := Int.ofNat (digitCount (ratio.2 / ratio.1))
    if ratio.1 * Nat.pow 10 (zeros - 1).toNat = ratio.2 then 2 - zeros else 1 - zeros

/-- Whether a ratio lies between two others; `closed` says whether it may be one of them. -/
def between (closed : Bool) (low high ratio : Nat × Nat) : Bool :=
  let a := low.1 * ratio.2
  let b := ratio.1 * low.2
  let c := ratio.1 * high.2
  let d := high.1 * ratio.2
  if closed then decide (a ≤ b) && decide (c ≤ d) else decide (a < b) && decide (c < d)

/-- The multiple of `10 ^ exponent` nearest to a ratio among those that are accepted; of two the
greater one. -/
def onGrid? (accepts : Nat × Nat → Bool) (ratio : Nat × Nat) (exponent : Int) : Option Nat :=
  let (n, d) := scaled 10 (-exponent) ratio
  let floor := n / d
  let isBelow := accepts (scaled 10 exponent (floor, 1))
  let isAbove := accepts (scaled 10 exponent (floor + 1, 1))
  if isBelow && (!isAbove || 2 * (n % d) < d) then some floor
  else if isAbove then some (floor + 1)
  else none

/-- The fewest digits, with their exponent, that read back as a positive double. -/
def shortest (significand : Nat) (exponent : Int) : Nat × Int :=
  let ratio := scaled 2 exponent (significand, 1)
  let gap := if significand = Nat.pow 2 52 && minExponent < exponent then 1 else 2
  let low := scaled 2 (exponent - 2) (4 * significand - gap, 1)
  let high := scaled 2 (exponent - 2) (4 * significand + 2, 1)
  let accepts := between (significand % 2 == 0) low high
  let grid (count : Nat) : Option (Nat × Int) :=
    let e := magnitude ratio - Int.ofNat (count + 1)
    (onGrid? accepts ratio e).map (·, e)
  match (List.range 17).findSome? grid with
  | some (digits, e) => if digits % 10 = 0 then (digits / 10, e + 1) else (digits, e)
  | none => (0, 0)

/-- Writes `digits * 10 ^ exponent` without an exponent. -/
def positional (digits : Nat) (exponent : Int) : String :=
  let shown := Nat.toDigits 10 digits
  let behind := (-exponent).toNat
  if behind = 0 then String.ofList (shown ++ List.replicate exponent.toNat '0')
  else
    let filled := List.replicate (behind + 1 - shown.length) '0' ++ shown
    String.ofList (filled.take (filled.length - behind) ++ '.' :: filled.drop (filled.length - behind))

/-- The written form of a double. -/
def text : Double → String
  | .nan => "NaN"
  | .infinite negative => (if negative then "-" else "") ++ "inf"
  | .finite negative significand exponent =>
    let (digits, e) := if significand = 0 then (0, 0) else shortest significand exponent
    (if negative then "-" else "") ++ positional digits e

/-! ### Order -/

/-- A whole number in the place of a double: what is no number comes last. -/
def key : Double → Int
  | .nan => Int.ofNat (Nat.pow 2 2300)
  | .infinite negative => (if negative then -1 else 1) * Int.ofNat (Nat.pow 2 2200)
  | .finite negative significand exponent =>
    (if negative then -1 else 1) *
      Int.ofNat (significand * Nat.pow 2 (exponent - minExponent).toNat)

end Double

end ServiceBus.Number
