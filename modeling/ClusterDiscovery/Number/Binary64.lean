/-! # Binary floating-point numbers as exact rationals

A finite double is `± m * 2 ^ q`. Everything that has to be exact is computed on `m` and `q` and
rounded once, to nearest with ties to even. -/

namespace ClusterDiscovery.Number

/-- A finite double: `m * 2 ^ q`, negated when `negative`. -/
structure Binary64 where
  negative : Bool
  m : Nat
  q : Int
deriving Repr, DecidableEq

namespace Binary64

/-- The parts of a double that is neither infinite nor a NaN. -/
def ofFloat (x : Float) : Binary64 :=
  let bits := x.toBits
  let exponent := ((bits >>> 52) &&& 0x7FF).toNat
  let fraction := (bits &&& 0xFFFFFFFFFFFFF).toNat
  let negative := (bits >>> 63) == 1
  if exponent == 0 then ⟨negative, fraction, -1074⟩
  else ⟨negative, Nat.pow 2 52 + fraction, (exponent : Int) - 1075⟩

end Binary64

/-- A quotient rounded to nearest, ties to even. -/
def roundDiv (num den : Nat) : Nat :=
  let quotient := num / den
  match compare (2 * (num % den)) den with
  | .lt => quotient
  | .gt => quotient + 1
  | .eq => if quotient % 2 == 0 then quotient else quotient + 1

def infinity : Float := Float.ofBits 0x7FF0000000000000

def notANumber : Float := Float.ofBits 0x7FF8000000000000

def isNegative (x : Float) : Bool := (x.toBits >>> 63) == 1

def isFinite (x : Float) : Bool := ((x.toBits >>> 52) &&& 0x7FF) != 0x7FF

def withSign (negative : Bool) (x : Float) : Float :=
  if negative then Float.ofBits (x.toBits ||| 0x8000000000000000) else x

/-- The double nearest to `num / den`; infinite when the quotient is too large. -/
def ofRatio (negative : Bool) (num den : Nat) : Float :=
  if num == 0 then withSign negative 0.0
  else
    let guess : Int := (num.log2 : Int) - (den.log2 : Int) - 53
    let mantissaAt (e : Int) : Nat :=
      roundDiv (num * Nat.pow 2 (-e).toNat) (den * Nat.pow 2 e.toNat)
    let floorAt (e : Int) : Nat := num * Nat.pow 2 (-e).toNat / (den * Nat.pow 2 e.toNat)
    let e := if floorAt guess < Nat.pow 2 53 then guess else guess + 1
    let e := if floorAt e < Nat.pow 2 52 then e - 1 else e
    let e := max e (-1074)
    let m := mantissaAt e
    let (m, e) := if m == Nat.pow 2 53 then (Nat.pow 2 52, e + 1) else (m, e)
    if e > 971 then withSign negative infinity
    else if m < Nat.pow 2 52 then withSign negative (Float.ofBits m.toUInt64)
    else
      withSign negative
        (Float.ofBits (((e + 1075).toNat.toUInt64 <<< 52) ||| (m - Nat.pow 2 52).toUInt64))

def ofInt (i : Int) : Float := ofRatio (i < 0) i.natAbs 1

/-- A finite double times a power of ten, rounded to an integer with ties to even. -/
def Binary64.scaledRound (x : Binary64) (places : Int) : Nat :=
  roundDiv (x.m * Nat.pow 2 x.q.toNat * Nat.pow 10 places.toNat)
    (Nat.pow 2 (-x.q).toNat * Nat.pow 10 (-places).toNat)

def truncate (x : Float) : Int :=
  let b := Binary64.ofFloat x
  let n := b.m * Nat.pow 2 b.q.toNat / Nat.pow 2 (-b.q).toNat
  if b.negative then -(n : Int) else n

def isIntegral (x : Float) : Bool :=
  let b := Binary64.ofFloat x
  isFinite x && b.m * Nat.pow 2 b.q.toNat % Nat.pow 2 (-b.q).toNat == 0

def floorInt (x : Float) : Int :=
  if isIntegral x || !isNegative x then truncate x else truncate x - 1

def ceilInt (x : Float) : Int :=
  if isIntegral x || isNegative x then truncate x else truncate x + 1

def roundInt (x : Float) : Int :=
  let b := Binary64.ofFloat x
  let n := b.scaledRound 0
  if b.negative then -(n : Int) else n

/-- The order of an integer and a finite double, exactly. -/
def compareIntFinite (i : Int) (x : Float) : Ordering :=
  let b := Binary64.ofFloat x
  let m : Int := if b.negative then -(b.m : Int) else b.m
  compare (i * (Nat.pow 2 (-b.q).toNat : Nat)) (m * (Nat.pow 2 b.q.toNat : Nat))

/-- The order of two numbers; nothing when one is undetermined. -/
def compareNumbers (a b : Int ⊕ Float) : Option Ordering :=
  match a, b with
  | .inl i, .inl j => some (compare i j)
  | .inr x, .inr y => if x < y then some .lt else if x == y then some .eq
      else if x > y then some .gt else none
  | .inl i, .inr y => if y.isNaN then none else if !isFinite y then
      some (if isNegative y then .gt else .lt) else some (compareIntFinite i y)
  | .inr x, .inl j => if x.isNaN then none else if !isFinite x then
      some (if isNegative x then .lt else .gt) else some (compareIntFinite j x).swap

/-! ## Floored division and rounding -/

/-- The exact remainder of truncated division; it takes the sign of `x`. -/
def truncatedRemainder (x y : Float) : Float :=
  if x.isNaN || y.isNaN || !isFinite x || y == 0.0 then notANumber
  else if !isFinite y then x
  else
    let a := Binary64.ofFloat x
    let b := Binary64.ofFloat y
    let q := min a.q b.q
    let r := a.m * Nat.pow 2 (a.q - q).toNat % (b.m * Nat.pow 2 (b.q - q).toNat)
    ofRatio a.negative (r * Nat.pow 2 q.toNat) (Nat.pow 2 (-q).toNat)

/-- The remainder of floored division; it takes the sign of `y`. -/
def flooredRemainder (x y : Float) : Float :=
  let r := truncatedRemainder x y
  if r == 0.0 then withSign (isNegative y) 0.0
  else if (y < 0.0) != (r < 0.0) then r + y
  else r

/-- The quotient rounded toward minus infinity. -/
def flooredQuotient (x y : Float) : Float :=
  let r := truncatedRemainder x y
  let d := (x - r) / y
  let d := if r != 0.0 && (y < 0.0) != (r < 0.0) then d - 1.0 else d
  if d == 0.0 then withSign (isNegative (x / y)) 0.0
  else
    let f := d.floor
    if d - f > 0.5 then f + 1.0 else f

/-- The value rounded to a number of decimal places, ties to even on the exact value. -/
def roundPlaces (x : Float) (places : Int) : Float :=
  if !isFinite x || places > 323 then x
  else if places < -308 then withSign (isNegative x) 0.0
  else
    let b := Binary64.ofFloat x
    ofRatio b.negative (b.scaledRound places * Nat.pow 10 (-places).toNat) (Nat.pow 10 places.toNat)

/-- An integer rounded to a multiple of `10 ^ places`, ties to even. -/
def roundToTens (i : Int) (places : Nat) : Int :=
  let unit := Nat.pow 10 places
  let n := roundDiv i.natAbs unit * unit
  if i < 0 then -(n : Int) else n

end ClusterDiscovery.Number
