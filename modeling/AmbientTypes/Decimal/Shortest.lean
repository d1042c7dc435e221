namespace AmbientTypes.Decimal

/-- A positive binary number with the step to its lower neighbour halved where `narrow` is set. -/
structure Binary where
  mantissa : Nat
  exponent : Int
  narrow : Bool
  deriving DecidableEq, Repr

/-- A decimal `digits * 10 ^ exponent`. -/
structure Scaled where
  digits : Nat
  exponent : Int
  deriving DecidableEq, Repr

/-- The interval of a binary number in units of a quarter of its step: numerators over one
denominator. -/
structure Interval where
  low : Nat
  value : Nat
  high : Nat
  denominator : Nat
  closed : Bool

def Binary.interval (b : Binary) : Interval :=
  let scale := b.exponent - 2
  let up := Nat.pow 2 scale.toNat
  { low := (4 * b.mantissa - if b.narrow then 1 else 2) * up
    value := 4 * b.mantissa * up
    high := (4 * b.mantissa + 2) * up
    denominator := Nat.pow 2 (-scale).toNat
    closed := b.mantissa % 2 == 0 }

def Interval.contains (i : Interval) (d : Scaled) : Bool :=
  let up := Nat.pow 10 d.exponent.toNat
  let down := Nat.pow 10 (-d.exponent).toNat
  let x := d.digits * up * i.denominator
  if i.closed then i.low * down ≤ x && x ≤ i.high * down
  else i.low * down < x && x < i.high * down

/-- The two points of the grid `10 ^ exponent` next to the value, the lower one first. -/
def Interval.neighbours (i : Interval) (exponent : Int) : Scaled × Scaled :=
  let up := Nat.pow 10 exponent.toNat
  let down := Nat.pow 10 (-exponent).toNat
  let floor := i.value * down / (i.denominator * up)
  (⟨floor, exponent⟩, ⟨floor + 1, exponent⟩)

/-- Whether the value is nearer to the upper neighbour on a grid; halfway, the even one wins. -/
def Interval.prefersUpper (i : Interval) (lower : Scaled) : Bool :=
  let up := Nat.pow 10 lower.exponent.toNat
  let down := Nat.pow 10 (-lower.exponent).toNat
  let twice := 2 * i.value * down
  let middle := (2 * lower.digits + 1) * up * i.denominator
  middle < twice || (middle == twice && lower.digits % 2 == 1)

/-- The decimal in an interval on the grid `10 ^ exponent` that is nearest to the value. -/
def Interval.onGrid? (i : Interval) (exponent : Int) : Option Scaled :=
  let (lower, upper) := i.neighbours exponent
  match i.contains lower && 0 < lower.digits, i.contains upper with
  | true, true => some (if i.prefersUpper lower then upper else lower)
  | true, false => some lower
  | false, true => some upper
  | false, false => none

/-- Tries grids from coarse to fine. -/
def Interval.search (i : Interval) (exponent : Int) : Nat → Scaled
  | 0 => (i.neighbours exponent).1
  | tries + 1 =>
    match i.onGrid? exponent with
    | some d => d
    | none => i.search (exponent - 1) tries

def Scaled.trim (d : Scaled) : Nat → Scaled
  | 0 => d
  | steps + 1 =>
    if d.digits ≠ 0 && d.digits % 10 = 0 then trim ⟨d.digits / 10, d.exponent + 1⟩ steps else d

def digitCount (n : Nat) : Nat := (Nat.toDigits 10 n).length

/-- An exponent whose power of ten is above the value. -/
def Interval.magnitude (i : Interval) : Int :=
  digitCount i.value - digitCount i.denominator + 1

/-- The shortest decimal that reads back as `b`. -/
def Binary.shortest (b : Binary) : Scaled :=
  (b.interval.search b.interval.magnitude 25).trim 25

def Binary.ofFloat (x : Float) : Binary :=
  let bits := x.toBits.toNat
  let field : Nat := bits / Nat.pow 2 52 % Nat.pow 2 11
  let fraction : Nat := bits % Nat.pow 2 52
  if field = 0 then ⟨fraction, -1074, false⟩
  else ⟨Nat.pow 2 52 + fraction, (field : Int) - 1075, fraction == 0 && decide (1 < field)⟩

end AmbientTypes.Decimal
