import ClusterDiscovery.Number.Decimal

/-! # Numbers with a chosen number of digits

Fixed places, a chosen number of significant digits, integers in other bases, digit groups. The
exact binary value is rounded, and ties go to even. -/

namespace ClusterDiscovery.Number

/-- Digits with a point before the last `places` of them. -/
def pointBefore (places : Nat) (digits : List Char) : List Char :=
  let padded := zeros (places + 1 - digits.length) ++ digits
  if places == 0 then padded
  else padded.take (padded.length - places) ++ '.' :: padded.drop (padded.length - places)

/-- A number that is not negative with `places` digits after the point. -/
def fixedChars (x : Binary64) (places : Nat) : List Char :=
  pointBefore places (natDigits (x.scaledRound places))

/-- `count` significant digits and the exponent of the first; zero has exponent zero. -/
def significant (x : Binary64) (count : Nat) : List Char × Int :=
  if x.m == 0 then (zeros count, 0)
  else
    let e := x.scale - 1
    let digits := natDigits (x.scaledRound (count - 1 - e))
    if digits.length > count then (digits.take count, e + 1) else (digits, e)

def dropTrailingZeros (digits : List Char) : List Char :=
  (digits.reverse.dropWhile (· == '0')).reverse

def exponentMark (upper : Bool) : Char := if upper then 'E' else 'e'

/-- A number with one digit before the point and `places` after it. `keepPoint` writes the point
even where nothing follows. -/
def exponentChars (x : Binary64) (places : Nat) (upper keepPoint : Bool) : List Char :=
  let (digits, e) := significant x (places + 1)
  let point := if places == 0 && !keepPoint then [] else ['.']
  digits.take 1 ++ point ++ digits.drop 1 ++ exponentMark upper :: exponentText e

/-- A number with `precision` significant digits, positional where the exponent is small.
`keepZeros` keeps trailing zeros, `wholePoint` writes at least one digit after the point. -/
def generalChars (x : Binary64) (precision : Nat) (upper keepZeros wholePoint : Bool) :
    List Char :=
  let precision := max precision 1
  let (digits, e) := significant x precision
  let digits := if keepZeros then digits else
    let kept := dropTrailingZeros digits
    if kept.isEmpty then ['0'] else kept
  let limit : Int := if wholePoint then precision - 1 else precision
  if -4 ≤ e && e < limit then
    if e < 0 then '0' :: '.' :: zeros ((-e).toNat - 1) ++ digits
    else
      let whole := e.toNat + 1
      let padded := digits ++ zeros (whole - digits.length)
      let fraction := padded.drop whole
      let fraction := if fraction.isEmpty && wholePoint then ['0'] else fraction
      if fraction.isEmpty && !keepZeros then padded.take whole
      else padded.take whole ++ '.' :: fraction
  else
    let point := if digits.length ≤ 1 && !keepZeros then [] else ['.']
    digits.take 1 ++ point ++ digits.drop 1 ++ exponentMark upper :: exponentText e

/-- The digits of a number in a base up to 36, in lower case. -/
def digitsInBase (base n : Nat) : List Char :=
  let rec go : Nat → Nat → List Char → List Char
    | 0, _, acc => acc
    | fuel + 1, n, acc =>
      let d := n % base
      let c := if d < 10 then Char.ofNat (48 + d) else Char.ofNat (87 + d)
      if n < base then c :: acc else go fuel (n / base) (c :: acc)
  go (n.log2 + 1) n []

/-- A separator before every full group of digits, counted from the right. -/
def groupDigits (size : Nat) (separator : Char) (digits : List Char) : List Char :=
  let rec go : Nat → List Char → List Char
    | _, [] => []
    | k, c :: rest =>
      if k == size then separator :: c :: go 1 rest else c :: go (k + 1) rest
  (go 0 digits.reverse).reverse

end ClusterDiscovery.Number
