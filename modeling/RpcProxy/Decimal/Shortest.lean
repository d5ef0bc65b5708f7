namespace RpcProxy

-- The number `coefficient * 10 ^ exponent`.
structure Decimal where
  coefficient : Nat
  exponent    : Int
  deriving DecidableEq, Repr

-- The magnitude `mantissa * 2 ^ exponent` of a finite binary64 number.
structure Magnitude where
  mantissa : Nat
  exponent : Int
  deriving DecidableEq, Repr

namespace Magnitude

-- The least mantissa that uses all 53 bits.
def leastNormal : Nat :=
  4503599627370496

def ofFloat (x : Float) : Magnitude :=
  let bits := x.toBits.toNat
  let biased : Nat := bits / leastNormal % 2048
  let fraction : Nat := bits % leastNormal
  if biased = 0 then ⟨fraction, -1074⟩ else ⟨leastNormal + fraction, (biased : Int) - 1075⟩

-- The fraction `quarters * 2 ^ (exponent - 2)` over one common denominator, for each of the lower end
-- of the interval of reals that round to the number, the number itself, and the upper end.
structure Interval where
  lower       : Nat
  value       : Nat
  upper       : Nat
  denominator : Nat
  -- The ends round to the number as well when its mantissa is even.
  closed      : Bool

def interval (x : Magnitude) : Interval :=
  -- Below a power of two the neighbour is only half as far away.
  let below := if x.mantissa = leastNormal && x.exponent != -1074 then 1 else 2
  let scale := Nat.pow 2 (x.exponent - 2).toNat
  { lower       := (4 * x.mantissa - below) * scale
    value       := 4 * x.mantissa * scale
    upper       := (4 * x.mantissa + 2) * scale
    denominator := Nat.pow 2 (2 - x.exponent).toNat
    closed      := x.mantissa % 2 == 0 }

namespace Interval

-- The numerator and the denominator of `c * 10 ^ k`.
def fraction (c : Nat) (k : Int) : Nat × Nat :=
  (c * Nat.pow 10 k.toNat, Nat.pow 10 (-k).toNat)

def contains (i : Interval) (c : Nat) (k : Int) : Bool :=
  let (n, d) := fraction c k
  let value := n * i.denominator
  if i.closed then i.lower * d ≤ value && value ≤ i.upper * d
  else i.lower * d < value && value < i.upper * d

-- The greatest grid point `c * 10 ^ k` that is not above the number.
def floor (i : Interval) (k : Int) : Nat :=
  i.value * Nat.pow 10 (-k).toNat / (i.denominator * Nat.pow 10 k.toNat)

-- The distance of the number to a grid point, over a denominator that depends on `k` only.
def distance (i : Interval) (c : Nat) (k : Int) : Nat :=
  let (n, d) := fraction c k
  let a := n * i.denominator
  let b := i.value * d
  (a - b) + (b - a)

-- The grid point that reads back and is nearest to the number; of two equally near the even one.
def nearest? (i : Interval) (k : Int) : Option Decimal :=
  let c := i.floor k
  match i.contains c k, i.contains (c + 1) k with
  | false, false => none
  | true, false  => some ⟨c, k⟩
  | false, true  => some ⟨c + 1, k⟩
  | true, true   =>
    let a := i.distance c k
    let b := i.distance (c + 1) k
    if a < b || (a == b && c % 2 == 0) then some ⟨c, k⟩ else some ⟨c + 1, k⟩

end Interval

-- The exponent of the leading decimal digit of `n / d`.
def leading (n d : Nat) : Int :=
  let guess : Int := ((Nat.repr n).length : Int) - (Nat.repr d).length
  if n * Nat.pow 10 (-guess).toNat < d * Nat.pow 10 guess.toNat then guess - 1 else guess

end Magnitude

namespace Decimal

-- Moves trailing zeros of the coefficient into the exponent.
def trim (fuel : Nat) (d : Decimal) : Decimal :=
  match fuel with
  | 0        => d
  | fuel + 1 =>
    if d.coefficient % 10 = 0 then trim fuel ⟨d.coefficient / 10, d.exponent + 1⟩ else d

-- The shortest decimal that reads back as the magnitude of `x`: grids are tried from one digit on, and
-- seventeen digits always suffice.
def shortest (x : Float) : Decimal :=
  let m := Magnitude.ofFloat x
  if m.mantissa = 0 then ⟨0, 0⟩
  else
    let i := m.interval
    let lead := Magnitude.leading i.value i.denominator
    let grids := (List.range 17).map fun (n : Nat) => lead - (n : Int)
    trim 17 ((grids.findSome? i.nearest?).getD ⟨0, 0⟩)

end Decimal

end RpcProxy
