import RpcProxy.Json.Value

namespace RpcProxy.Json

-- A well-formed literal: digits before the point, digits after it, and an exponent.
structure Literal where
  negative : Bool
  whole    : List Nat
  fraction : Option (List Nat) := none
  exponent : Option Int := none
  deriving DecidableEq, Repr

namespace Literal

def digit (c : Char) : Nat :=
  c.toNat - '0'.toNat

-- The digits at the front of a text, and what follows them.
def digits (cs : List Char) : List Nat × List Char :=
  ((cs.takeWhile Char.isDigit).map digit, cs.dropWhile Char.isDigit)

def valueOf (ds : List Nat) : Nat :=
  ds.foldl (fun n d => 10 * n + d) 0

-- A leading zero stands alone.
def readWhole (cs : List Char) : Option (List Nat × List Char) :=
  match digits cs with
  | ([], _)          => none
  | (0 :: _ :: _, _) => none
  | (ds, rest)       => some (ds, rest)

def readFraction : List Char → Option (Option (List Nat) × List Char)
  | '.' :: cs =>
    match digits cs with
    | ([], _)    => none
    | (ds, rest) => some (some ds, rest)
  | cs        => some (none, cs)

def readUnsignedExponent (sign : Int) (cs : List Char) : Option (Option Int × List Char) :=
  match digits cs with
  | ([], _)    => none
  | (ds, rest) => some (some (sign * valueOf ds), rest)

def readExponent : List Char → Option (Option Int × List Char)
  | c :: cs =>
    if c = 'e' || c = 'E' then
      match cs with
      | '+' :: cs => readUnsignedExponent 1 cs
      | '-' :: cs => readUnsignedExponent (-1) cs
      | cs        => readUnsignedExponent 1 cs
    else some (none, c :: cs)
  | []      => some (none, [])

def readUnsigned (negative : Bool) (cs : List Char) : Option (Literal × List Char) := do
  let (whole, cs) ← readWhole cs
  let (fraction, cs) ← readFraction cs
  let (exponent, cs) ← readExponent cs
  return (⟨negative, whole, fraction, exponent⟩, cs)

-- Reads the literal at the front of a text.
def read? : List Char → Option (Literal × List Char)
  | '-' :: cs => readUnsigned true cs
  | cs        => readUnsigned false cs

-- The greatest integer that is kept as an integer.
def greatest : Nat :=
  18446744073709551615

-- The greatest integer whose opposite is kept as an integer.
def greatestNegated : Nat :=
  9223372036854775808

-- Digits taken as long as the number they make fits 64 bits, and the digits after those.
def significand (n : Nat) : List Nat → Nat × List Nat
  | []      => (n, [])
  | d :: ds => if greatest < 10 * n + d then (n, d :: ds) else significand (10 * n + d) ds

-- Applies a negative power of ten in steps that a float can hold, until nothing is left to divide.
def divide (x : Float) (power : Nat) : Float :=
  if power ≤ 308 then x / Float.ofScientific 1 false power
  else if x == 0.0 then x
  else divide (x / Float.ofScientific 1 false 308) (power - 308)
termination_by power

-- Applies a positive power of ten. There is no result beyond the greatest float.
def multiply? (x : Float) (power : Nat) : Option Float :=
  if power ≤ 308 then
    let y := x * Float.ofScientific 1 false power
    if y.isInf then none else some y
  else if x == 0.0 then some x
  else none

-- The float for `n * 10 ^ power`.
def scale? (n : Nat) (power : Int) : Option Float :=
  let x := n.toUInt64.toFloat
  if power < 0 then some (divide x power.natAbs) else multiply? x power.natAbs

def signed (negative : Bool) (x : Float) : Float :=
  if negative then -x else x

-- The magnitude of a floating-point literal. Digits of the whole part that are not kept count as powers
-- of ten; digits of the fraction that are not kept do not count.
def magnitude? (l : Literal) : Option Float :=
  let (whole, dropped) := significand 0 l.whole
  let (kept, left) := significand whole (l.fraction.getD [])
  let used := (l.fraction.getD []).length - left.length
  scale? kept (dropped.length - used + l.exponent.getD 0)

def float? (l : Literal) : Option Number :=
  l.magnitude?.map fun x => .float (signed l.negative x)

-- The number for a literal; there is none when it is greater than every float.
def value? (l : Literal) : Option Number :=
  match l.fraction, l.exponent with
  | none, none =>
    let n := valueOf l.whole
    if l.negative then
      if n ≠ 0 && n ≤ greatestNegated then some (.integer (-n)) else l.float?
    else if n ≤ greatest then some (.integer n)
    else l.float?
  | _, _ => l.float?

end Literal

end RpcProxy.Json
