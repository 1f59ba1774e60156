/-!
The shortest decimal that reads back as a given binary floating-point number: the fewest digits with a decimal in the
interval of numbers that round to it, and of two such decimals the nearer.
-/

namespace DigestProvider.Decimal

/-- A positive number as a floating-point format holds it: a mantissa times a power of two. -/
structure Binary where
  /-- The mantissa. -/
  mantissa : Nat
  /-- The power of two. -/
  power : Int
  /-- Whether the next smaller number is only half as far away as the next larger one. -/
  narrowBelow : Bool
  deriving DecidableEq, Repr

/-- The number that the bits of a double denote, without its sign. -/
def Binary.ofBits (bits : UInt64) : Binary :=
  let fraction := (bits &&& 0xFFFFFFFFFFFFF).toNat
  let field := (bits >>> 52 &&& 0x7FF).toNat
  if field = 0 then ⟨fraction, -1074, false⟩
  else ⟨0x10000000000000 + fraction, (field : Int) - 1075, fraction = 0 && 1 < field⟩

/-- A decimal number: an integer times a power of ten. -/
structure Scaled where
  /-- The digits as a number. -/
  digits : Nat
  /-- The power of ten. -/
  power : Int
  deriving DecidableEq, Repr

namespace Binary

/-- A quarter of the mantissa's unit counted `quarters` times, in the common measure of both scales. -/
def measure (number : Binary) (tenPower : Int) (quarters : Nat) : Nat :=
  quarters * Nat.pow 2 (number.power - 2).toNat * Nat.pow 10 (-tenPower).toNat

/-- A step of the decimal grid counted `digits` times, in the common measure of both scales. -/
def gridMeasure (number : Binary) (tenPower : Int) (digits : Nat) : Nat :=
  digits * Nat.pow 10 tenPower.toNat * Nat.pow 2 (2 - number.power).toNat

/-- Whether a decimal rounds to the number; the ends of the interval do so exactly for an even mantissa. -/
def admits (number : Binary) (decimal : Scaled) : Bool :=
  let low := number.measure decimal.power (4 * number.mantissa - if number.narrowBelow then 1 else 2)
  let high := number.measure decimal.power (4 * number.mantissa + 2)
  let point := number.gridMeasure decimal.power decimal.digits
  if number.mantissa % 2 = 0 then low ≤ point && point ≤ high else low < point && point < high

/-- The decimal on a grid that is nearest to the number among its neighbours there that round to it. -/
def onGrid? (number : Binary) (tenPower : Int) : Option Scaled :=
  let value := number.measure tenPower (4 * number.mantissa)
  let step := number.gridMeasure tenPower 1
  let below := value / step
  let lower : Scaled := ⟨below, tenPower⟩
  let upper : Scaled := ⟨below + 1, tenPower⟩
  let distance := compare (2 * value) ((2 * below + 1) * step)
  match number.admits lower, number.admits upper with
  | false, false => none
  | true, false => some lower
  | false, true => some upper
  | true, true =>
    -- Of two neighbours the nearer is taken, and at the middle the even one.
    if distance = .lt || (distance = .eq && below % 2 = 0) then some lower else some upper

/-- The count of digits in front of the point; for a small number, less the zeros behind it. -/
def pointPosition (number : Binary) : Int :=
  let positions := (List.range 634).map fun i : Nat => (i : Int) - 323
  (positions.find? fun position =>
    number.measure position (4 * number.mantissa) < number.gridMeasure position 1).getD 310

/-- Moves zeros from the end of the digits into the power of ten. -/
def stripZeros (decimal : Scaled) : Scaled :=
  if _ : decimal.digits ≠ 0 ∧ decimal.digits % 10 = 0 then
    stripZeros ⟨decimal.digits / 10, decimal.power + 1⟩
  else decimal
termination_by decimal.digits
decreasing_by
  -- A tenth of a nonzero number is smaller.
  omega

/-- The shortest decimal that reads back; seventeen digits always do. -/
def shortest (number : Binary) : Scaled :=
  let position := number.pointPosition
  let found := (List.range 17).findSome? fun count : Nat => number.onGrid? (position - (count + 1 : Nat))
  stripZeros (found.getD ⟨number.mantissa, number.power⟩)

end Binary

end DigestProvider.Decimal
