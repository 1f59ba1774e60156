import DigestProvider.Decimal.Shortest

/-!
The text of a double: its shortest decimal, positional near one and scientific far from it, and always recognisable
as no integer.
-/

namespace DigestProvider.Decimal

/-- Where a layout puts the decimal point and when it gives that up. -/
structure Layout where
  /-- The least position of the point that is written out. -/
  leastPoint : Int
  /-- The greatest position of the point that is written out. -/
  greatestPoint : Int
  deriving DecidableEq, Repr

/-- Numbers are written out from a hundred-thousandth up to sixteen digits in front of the point. -/
def Layout.float : Layout := ⟨-4, 16⟩

/-- The digits with the point at its position, zeros filling any gap. -/
def Layout.positional (digits : List Char) (point : Int) : List Char :=
  if point ≤ 0 then ['0', '.'] ++ List.replicate (-point).toNat '0' ++ digits
  else if digits.length ≤ point.toNat then
    digits ++ List.replicate (point.toNat - digits.length) '0' ++ ['.', '0']
  else digits.take point.toNat ++ ['.'] ++ digits.drop point.toNat

/-- A power of ten is written with its sign, a plus sign too, and without leading zeros. -/
def Layout.exponent (power : Int) : List Char :=
  (if power < 0 then '-' else '+') :: Nat.toDigits 10 power.natAbs

/-- The point behind the first of several digits, then the power of ten. -/
def Layout.scientific (digits : List Char) (point : Int) : List Char :=
  let fraction := digits.drop 1
  digits.take 1 ++ (if fraction.isEmpty then [] else '.' :: fraction) ++
    'e' :: exponent (point - 1)

/-- A decimal in a layout. -/
def Layout.write (layout : Layout) (decimal : Scaled) : List Char :=
  let digits := Nat.toDigits 10 decimal.digits
  let point := digits.length + decimal.power
  if decimal.digits = 0 then ['0', '.', '0']
  else if layout.leastPoint ≤ point && point ≤ layout.greatestPoint then positional digits point
  else scientific digits point

/-- The text of a finite double; a minus sign is kept on zero. -/
def floatText (value : Float) : String :=
  let bits := value.toBits
  let negative := bits >>> 63 = 1
  let number := Binary.ofBits bits
  let decimal := if number.mantissa = 0 then ⟨0, 0⟩ else number.shortest
  String.ofList ((if negative then ['-'] else []) ++ Layout.float.write decimal)

end DigestProvider.Decimal
