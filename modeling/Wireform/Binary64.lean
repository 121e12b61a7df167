/-!
# Double-precision numbers

Numbers of the 64-bit binary format, with exact integer arithmetic: every
operation computes the exact rational result and rounds it to the nearest
representable number, ties to even.  Numbers print with the fewest decimal
digits that read back as the same number.
-/

namespace Wireform

/-- A double-precision number: its sign and the other 63 bits of its pattern,
an 11-bit exponent field above a 52-bit fraction.  Magnitudes are ordered like
the numbers they stand for. -/
structure Binary64 where
  negative : Bool
  magnitude : Nat
deriving DecidableEq, Repr

namespace Binary64

/-- The magnitude of infinity. -/
def infinite : Nat := 0x7FF <<< 52

def isFinite (x : Binary64) : Bool := x.magnitude < infinite

def zero : Binary64 := ⟨false, 0⟩

instance : Inhabited Binary64 := ⟨zero⟩

/-- The integer factor of a finite magnitude. -/
def significand (magnitude : Nat) : Nat :=
  if magnitude < 1 <<< 52 then magnitude
  else (1 <<< 52) + magnitude % (1 <<< 52)

/-- The number of binary places to the left of a finite magnitude's integer
factor, counted from the smallest unit `2 ^ -1074`. -/
def scale (magnitude : Nat) : Nat :=
  magnitude / (1 <<< 52) - 1

/-- `numerator / denominator` rounded to the nearest integer, ties to even. -/
def roundDiv (numerator denominator : Nat) : Nat :=
  let quotient := numerator / denominator
  let twice := 2 * (numerator % denominator)
  if twice < denominator then quotient
  else if denominator < twice then quotient + 1
  else quotient + quotient % 2

/-- The magnitude nearest to `numerator / denominator`. -/
def nearest (numerator denominator : Nat) : Nat :=
  if numerator = 0 then 0 else
  -- Counted in units of `2 ^ -1074`, so that no exponent is negative.
  let units := numerator <<< 1074
  let guess := units.log2 - denominator.log2
  let exponent := if denominator <<< guess ≤ units then guess else guess - 1
  let shift := exponent - 52
  min infinite ((shift <<< 52) + roundDiv units (denominator <<< shift))

def ofNat (n : Nat) : Binary64 := ⟨false, nearest n 1⟩

/-- The product of two finite magnitudes. -/
def mulMagnitude (x y : Nat) : Nat :=
  nearest ((significand x * significand y) <<< (scale x + scale y)) (1 <<< 2148)

/-- The quotient of two finite magnitudes, the second not zero. -/
def divMagnitude (x y : Nat) : Nat :=
  nearest (significand x <<< scale x) (significand y <<< scale y)

/-- The magnitude nearest to a power of ten. -/
def powerOfTen (exponent : Nat) : Nat := nearest (Nat.pow 10 exponent) 1

/-! ## Reading -/

/-- Divide a magnitude by a power of ten, at most `10 ^ 308` at a time. -/
def scaleDown (magnitude exponent : Nat) : Nat :=
  if exponent ≤ 308 then divMagnitude magnitude (powerOfTen exponent)
  else if magnitude = 0 then 0
  else scaleDown (divMagnitude magnitude (powerOfTen 308)) (exponent - 308)
termination_by exponent

/-- The number written as `significand * 10 ^ exponent`, or nothing when it is
too large.  The significand is rounded first and the scaling rounds again. -/
def ofDecimal (negative : Bool) (significand : Nat) (exponent : Int) :
    Option Binary64 :=
  let rounded := nearest significand 1
  match exponent with
  | .ofNat up =>
    if up ≤ 308 then
      let scaled := mulMagnitude rounded (powerOfTen up)
      if scaled < infinite then some ⟨negative, scaled⟩ else none
    else if rounded = 0 then some ⟨negative, 0⟩
    else none
  | .negSucc down => some ⟨negative, scaleDown rounded (down + 1)⟩

/-! ## Printing -/

/-- The decimal `digits * 10 ^ exponent`. -/
structure Decimal where
  digits : Nat
  exponent : Int
deriving DecidableEq, Repr

/-- Whether `digits * 10 ^ exponent` rounds to the given magnitude. -/
def readsAs (magnitude digits : Nat) (exponent : Int) : Bool :=
  let read := match exponent with
    | .ofNat up => nearest (digits * Nat.pow 10 up) 1
    | .negSucc down => nearest digits (Nat.pow 10 (down + 1))
  read == magnitude

def digitCount (n : Nat) : Nat := (Nat.toDigits 10 n).length

/-- The value of a magnitude in units of `10 ^ exponent`, as a fraction. -/
def inUnits (magnitude : Nat) (exponent : Int) : Nat × Nat :=
  let value := significand magnitude <<< scale magnitude
  match exponent with
  | .ofNat up => (value, Nat.pow 10 up <<< 1074)
  | .negSucc down => (value * Nat.pow 10 (down + 1), 1 <<< 1074)

/-- The integer of the requested precision closest to a magnitude, if one of
the two neighbouring integers reads back as the magnitude. -/
def closest (magnitude : Nat) (exponent : Int) : Option Decimal :=
  let (numerator, denominator) := inUnits magnitude exponent
  let near := roundDiv numerator denominator
  let other := if near * denominator ≤ numerator then near + 1 else near - 1
  if readsAs magnitude near exponent then some ⟨near, exponent⟩
  else if readsAs magnitude other exponent then some ⟨other, exponent⟩
  else none

/-- Remove the trailing zeros of the digits. -/
def Decimal.strip (d : Decimal) : Decimal :=
  if d.digits % 10 = 0 ∧ d.digits ≠ 0 then
    strip ⟨d.digits / 10, d.exponent + 1⟩
  else d
termination_by d.digits

/-- The decimal exponent of the leading digit of a magnitude. -/
def leading (magnitude : Nat) : Int :=
  let value := significand magnitude <<< scale magnitude
  if 1 <<< 1074 ≤ value then
    (digitCount (value >>> 1074) : Int) - 1
  else
    -- `10 ^ 400` times the value is at least one for every magnitude.
    (digitCount ((value * Nat.pow 10 400) >>> 1074) : Int) - 401

/-- The shortest decimal that reads back as a positive finite magnitude. -/
def shortest (magnitude : Nat) : Decimal :=
  let top := leading magnitude
  let found := (List.range 17).findSome? fun (more : Nat) =>
    closest magnitude (top - (more : Nat))
  (found.getD ⟨0, 0⟩).strip

def zeros (count : Nat) : String := String.ofList (List.replicate count '0')

/-- Write a positive decimal: in full with at least one fraction digit while
it is neither tiny nor huge, in scientific form otherwise. -/
def Decimal.write (d : Decimal) : String :=
  let digits := toString d.digits
  let count := digits.length
  -- The decimal point stands this many digits after the first digit.
  let point := d.exponent + count
  if -5 < point ∧ point ≤ 16 then
    if d.exponent ≥ 0 then digits ++ zeros d.exponent.toNat ++ ".0"
    else if point ≤ 0 then "0." ++ zeros (-point).toNat ++ digits
    else
      let chars := digits.toList
      String.ofList (chars.take point.toNat) ++ "."
        ++ String.ofList (chars.drop point.toNat)
  else
    let chars := digits.toList
    let fraction := chars.drop 1
    let power := point - 1
    String.ofList (chars.take 1)
      ++ (if fraction.isEmpty then "" else "." ++ String.ofList fraction)
      ++ (if power < 0 then "e-" else "e+") ++ toString power.natAbs

def write (x : Binary64) : String :=
  (if x.negative then "-" else "")
    ++ (if x.magnitude = 0 then "0.0" else (shortest x.magnitude).write)

end Binary64

end Wireform
