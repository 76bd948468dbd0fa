import ClusterDiscovery.Number.Binary64

/-! # Decimal texts of numbers

The fewest decimal digits that read back to a given double, and how such digits are laid out:
positionally below `10 ^ 16` and down to `10 ^ -4`, otherwise with a signed exponent of at least
two digits. -/

namespace ClusterDiscovery.Number

/-- `digits * 10 ^ exponent`. -/
structure Decimal where
  digits : Nat
  exponent : Int
deriving Repr, DecidableEq

/-- The order of `a * 10 ^ i` and `n * 2 ^ j`. -/
def compareScaled (a : Nat) (i : Int) (n : Nat) (j : Int) : Ordering :=
  compare (a * Nat.pow 10 i.toNat * Nat.pow 2 (-j).toNat)
    (n * Nat.pow 2 j.toNat * Nat.pow 10 (-i).toNat)

/-- Below a power of two the next double is half as far away as above it. -/
def Binary64.narrowBelow (x : Binary64) : Bool := x.m == Nat.pow 2 52 && x.q > -1074

/-- The decimal lies among the reals that round to the double. -/
def Binary64.readsBack (x : Binary64) (d : Decimal) : Bool :=
  let low := if x.narrowBelow then 4 * x.m - 1 else 4 * x.m - 2
  let inclusive := x.m % 2 == 0
  let atLow := compareScaled d.digits d.exponent low (x.q - 2)
  let atHigh := compareScaled d.digits d.exponent (4 * x.m + 2) (x.q - 2)
  (atLow == .gt || (inclusive && atLow == .eq)) && (atHigh == .lt || (inclusive && atHigh == .eq))

/-- The least `k` with `m * 2 ^ q < 10 ^ k`. -/
def Binary64.scale (x : Binary64) : Int :=
  let bits : Int := (x.m.log2 : Int) + x.q
  let guess := bits * 30103 / 100000
  let below (k : Int) : Bool := compareScaled 1 k x.m x.q == .gt
  if below (guess - 1) then guess - 1
  else if below guess then guess
  else if below (guess + 1) then guess + 1
  else guess + 2

/-- Of the two neighbours on the grid `10 ^ exponent`, the nearer one that reads back. -/
def Binary64.onGrid? (x : Binary64) (exponent : Int) : Option Decimal :=
  let num := x.m * Nat.pow 2 x.q.toNat * Nat.pow 10 (-exponent).toNat
  let den := Nat.pow 2 (-x.q).toNat * Nat.pow 10 exponent.toNat
  let lower : Decimal := ⟨num / den, exponent⟩
  let upper : Decimal := ⟨num / den + 1, exponent⟩
  match x.readsBack lower, x.readsBack upper with
  | true, true => some ⟨roundDiv num den, exponent⟩
  | true, false => some lower
  | false, true => some upper
  | false, false => none

def stripZeros : Nat → Decimal → Decimal
  | 0, d => d
  | fuel + 1, d =>
    if d.digits != 0 && d.digits % 10 == 0 then stripZeros fuel ⟨d.digits / 10, d.exponent + 1⟩
    else d

/-- The shortest decimal that reads back, and the exact value if seventeen digits were not
enough. -/
def Binary64.shortest (x : Binary64) : Decimal :=
  let scale := x.scale
  let found := (List.range 17).findSome? fun n => x.onGrid? (scale - (n + 1 : Nat))
  match found with
  | some d => stripZeros 17 d
  | none => ⟨x.m * Nat.pow 2 x.q.toNat * Nat.pow 5 (-x.q).toNat, min x.q 0⟩

def natDigits (n : Nat) : List Char := Nat.toDigits 10 n

def zeros (n : Nat) : List Char := List.replicate n '0'

def exponentText (e : Int) : List Char :=
  let digits := natDigits e.natAbs
  (if e < 0 then '-' else '+') :: zeros (2 - digits.length) ++ digits

/-- Digits with the point after the first of them, and the exponent of the first. -/
def scientific (digits : List Char) (e : Int) : List Char :=
  match digits with
  | [] => []
  | [d] => d :: 'e' :: exponentText e
  | d :: rest => d :: '.' :: rest ++ 'e' :: exponentText e

/-- Digits whose first has the place value `10 ^ e`, without exponent and with a point. -/
def positional (digits : List Char) (e : Int) : List Char :=
  if e < 0 then '0' :: '.' :: zeros ((-e).toNat - 1) ++ digits
  else
    let whole := e.toNat + 1
    if digits.length ≤ whole then digits ++ zeros (whole - digits.length) ++ ['.', '0']
    else digits.take whole ++ '.' :: digits.drop whole

def finiteChars (x : Binary64) : List Char :=
  if x.m == 0 then ['0', '.', '0']
  else
    let d := x.shortest
    let digits := natDigits d.digits
    let e : Int := d.exponent + digits.length - 1
    if -4 ≤ e && e < 16 then positional digits e else scientific digits e

/-- The text of a double: the fewest digits that identify it, or the name of a special value. -/
def floatText (x : Float) : String :=
  if x.isNaN then "nan"
  else
    let sign := if isNegative x then ['-'] else []
    let body := if isFinite x then finiteChars (Binary64.ofFloat x) else ['i', 'n', 'f']
    String.ofList (sign ++ body)

def intText (i : Int) : String :=
  String.ofList ((if i < 0 then ['-'] else []) ++ natDigits i.natAbs)

end ClusterDiscovery.Number
