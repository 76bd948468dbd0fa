import ClusterDiscovery.Number.Binary64
import ClusterDiscovery.Text.Class

/-! # Reading numbers

The texts that read as an integer or as a double. Blanks around the number are skipped, digits
may be those of any script, and single underscores may stand between digits. -/

namespace ClusterDiscovery.Number

open ClusterDiscovery.Text

def trimBlanks (s : List Char) : List Char :=
  ((s.dropWhile isBlank).reverse.dropWhile isBlank).reverse

def digitValue? (c : Char) : Option Nat :=
  if '0' ≤ c && c ≤ '9' then some (c.toNat - '0'.toNat)
  else if 'a' ≤ c && c ≤ 'z' then some (c.toNat - 'a'.toNat + 10)
  else if 'A' ≤ c && c ≤ 'Z' then some (c.toNat - 'A'.toNat + 10)
  else none

/-- Digits of any script as those of base ten; other characters are kept. -/
def plainDigits (s : List Char) : List Char :=
  s.map fun c => match decimalValue? c with
    | some d => Char.ofNat ('0'.toNat + d)
    | none => c

/-- Digits in a base with single underscores between them. `afterDigit` tells whether an
underscore may come next. -/
def digitsValue? (base : Nat) (afterDigit : Bool) (value : Nat) : List Char → Option Nat
  | [] => if afterDigit then some value else none
  | '_' :: rest => if afterDigit then digitsValue? base false value rest else none
  | c :: rest =>
    match digitValue? c with
    | some d => if d < base then digitsValue? base true (value * base + d) rest else none
    | none => none

def takeSign : List Char → Bool × List Char
  | '-' :: rest => (true, rest)
  | '+' :: rest => (false, rest)
  | s => (false, s)

/-- The base that a mark such as `0x` announces, and the text after the mark. -/
def takeBaseMark : List Char → Option (Nat × List Char)
  | '0' :: c :: rest =>
    if c == 'x' || c == 'X' then some (16, rest)
    else if c == 'o' || c == 'O' then some (8, rest)
    else if c == 'b' || c == 'B' then some (2, rest)
    else none
  | _ => none

/-- An underscore is allowed between a base mark and the first digit. -/
def skipUnderscore : List Char → List Char
  | '_' :: rest => rest
  | s => s

/-- Unsigned digits in `base`, where base 0 takes the base from the mark and refuses leading
zeros on numbers other than zero. -/
def unsigned? (base : Nat) (s : List Char) : Option Nat :=
  match takeBaseMark s with
  | some (marked, rest) =>
    if base == 0 || base == marked then digitsValue? marked false 0 (skipUnderscore rest)
    else digitsValue? base false 0 s
  | none =>
    if base == 0 then
      match digitsValue? 10 false 0 s with
      | some value => if s.head? == some '0' && value != 0 then none else some value
      | none => none
    else digitsValue? base false 0 s

def readInt? (base : Nat) (s : List Char) : Option Int :=
  let (negative, rest) := takeSign (trimBlanks (plainDigits s))
  (unsigned? base rest).map fun n => if negative then -(n : Int) else n

/-- The longest run of digits with single underscores between them, and the rest. -/
def takeDigits : List Char → List Char × List Char
  | [] => ([], [])
  | c :: rest =>
    if c.isDigit then
      let (digits, rest') := takeDigits rest
      (c :: digits, rest')
    else ([], c :: rest)

/-- Underscores are dropped where digits stand on both sides; any other one stays and spoils the
number. -/
def dropUnderscores (afterDigit : Bool) : List Char → List Char
  | [] => []
  | '_' :: c :: rest =>
    if afterDigit && c.isDigit then c :: dropUnderscores true rest
    else '_' :: c :: dropUnderscores c.isDigit rest
  | c :: rest => c :: dropUnderscores c.isDigit rest

def digitsNat (digits : List Char) : Nat :=
  digits.foldl (fun n c => n * 10 + (c.toNat - '0'.toNat)) 0

/-- An exponent part, or none at all. -/
def readExponent? : List Char → Option Int
  | [] => some 0
  | c :: rest =>
    if c == 'e' || c == 'E' then
      let (negative, digits) := takeSign rest
      if !digits.isEmpty && digits.all Char.isDigit then
        some (if negative then -(digitsNat digits : Int) else digitsNat digits)
      else none
    else none

/-- The double nearest to `digits * 10 ^ exponent`. Exponents far outside the range of a double
are cut off before any power is computed. -/
def ofDecimal (negative : Bool) (digits : Nat) (exponent : Int) : Float :=
  if digits == 0 then withSign negative 0.0
  else
    let width : Int := (Nat.toDigits 10 digits).length
    if exponent + width > 400 then withSign negative infinity
    else if exponent + width < -400 then withSign negative 0.0
    else ofRatio negative (digits * Nat.pow 10 exponent.toNat) (Nat.pow 10 (-exponent).toNat)

def readUnsignedFloat? (negative : Bool) (s : List Char) : Option Float :=
  let (whole, rest) := takeDigits s
  let (fraction, rest) := match rest with
    | '.' :: after => takeDigits after
    | _ => ([], rest)
  if whole.isEmpty && fraction.isEmpty then none
  else
    (readExponent? rest).map fun e =>
      ofDecimal negative (digitsNat (whole ++ fraction)) (e - fraction.length)

def readFloat? (s : List Char) : Option Float :=
  let (negative, rest) := takeSign (dropUnderscores false (trimBlanks (plainDigits s)))
  let name := String.ofList (rest.map Char.toLower)
  if name == "inf" || name == "infinity" then some (withSign negative infinity)
  else if name == "nan" then some notANumber
  else readUnsignedFloat? negative rest

end ClusterDiscovery.Number
