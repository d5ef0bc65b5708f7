import RpcProxy.Decimal.Shortest

namespace RpcProxy.Decimal

-- Where positional digits end and an exponent begins.
structure Layout where
  -- Whether a number whose leading digit stands for this power of ten is written positionally.
  positional : Int → Bool

namespace Layout

-- JSON text is positional from `1e-5` up to `1e16`, exclusive.
def json : Layout :=
  ⟨fun lead => -5 ≤ lead && lead < 16⟩

-- Messages never use an exponent.
def plain : Layout :=
  ⟨fun _ => true⟩

-- Digits with the point set before position `point`.
def positionalText (digits : String) (point : Int) : String :=
  let n := digits.length
  if point ≤ 0 then "0." ++ "".pushn '0' (-point).toNat ++ digits
  else if point < n then
    String.ofList (digits.toList.take point.toNat) ++ "." ++
      String.ofList (digits.toList.drop point.toNat)
  else digits ++ "".pushn '0' (point - n).toNat ++ ".0"

def exponentText (digits : String) (lead : Int) : String :=
  let fraction := digits.toList.drop 1
  let point := if fraction.isEmpty then "" else "." ++ String.ofList fraction
  let sign := if lead < 0 then "-" else "+"
  String.ofList (digits.toList.take 1) ++ point ++ "e" ++ sign ++ Nat.repr lead.natAbs

def magnitudeText (layout : Layout) (d : Decimal) : String :=
  if d.coefficient = 0 then "0.0"
  else
    let digits := Nat.repr d.coefficient
    let point := (digits.length : Int) + d.exponent
    if layout.positional (point - 1) then positionalText digits point
    else exponentText digits (point - 1)

-- The text of a finite number; a zero keeps its sign.
def text (layout : Layout) (x : Float) : String :=
  let sign := if x.toBits < 0x8000000000000000 then "" else "-"
  sign ++ layout.magnitudeText (shortest x)

end Layout

end RpcProxy.Decimal
