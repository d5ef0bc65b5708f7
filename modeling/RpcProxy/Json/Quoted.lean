namespace RpcProxy.Json

-- A text is read into pieces first, each a character or a 16-bit unit given by its number. Then the units are paired
-- up into characters.
inductive Piece
  | char (c : Char)
  | unit (n : Nat)
  deriving DecidableEq, Repr

namespace Piece

def hexValue? (c : Char) : Option Nat :=
  if '0' ≤ c && c ≤ '9' then some (c.toNat - '0'.toNat)
  else if 'a' ≤ c && c ≤ 'f' then some (c.toNat - 'a'.toNat + 10)
  else if 'A' ≤ c && c ≤ 'F' then some (c.toNat - 'A'.toNat + 10)
  else none

def unit? (a b c d : Char) : Option Piece := do
  let a ← hexValue? a
  let b ← hexValue? b
  let c ← hexValue? c
  let d ← hexValue? d
  return .unit (16 * (16 * (16 * a + b) + c) + d)

-- The character that a one-letter escape stands for.
def escape? : Char → Option Char
  | '"'  => some '"'
  | '\\' => some '\\'
  | '/'  => some '/'
  | 'b'  => some '\x08'
  | 'f'  => some '\x0c'
  | 'n'  => some '\n'
  | 'r'  => some '\r'
  | 't'  => some '\t'
  | _    => none

-- The pieces up to the closing quote, and what follows it. There is none when the quote is missing, an
-- escape is unknown or cut short, or a control character stands unescaped.
def read? : List Char → Option (List Piece × List Char)
  | []                                 => none
  | '"' :: cs                          => some ([], cs)
  | '\\' :: 'u' :: a :: b :: c :: d :: cs =>
    match unit? a b c d with
    | some piece => (read? cs).map fun (pieces, rest) => (piece :: pieces, rest)
    | none       => none
  | '\\' :: e :: cs                    =>
    match escape? e with
    | some c => (read? cs).map fun (pieces, rest) => (.char c :: pieces, rest)
    | none   => none
  | c :: cs                            =>
    if c = '\\' || c.toNat < 0x20 then none
    else (read? cs).map fun (pieces, rest) => (.char c :: pieces, rest)

def isHigh (n : Nat) : Bool :=
  0xD800 ≤ n && n < 0xDC00

def isLow (n : Nat) : Bool :=
  0xDC00 ≤ n && n < 0xE000

-- The characters that pieces stand for. There is none when a unit that is half of a pair stands without
-- its other half.
def chars? : List Piece → Option (List Char)
  | []                           => some []
  | .char c :: rest              => (chars? rest).map (c :: ·)
  | .unit m :: .unit n :: rest   =>
    if isHigh m then
      if isLow n then
        (chars? rest).map (Char.ofNat (0x10000 + (m - 0xD800) * 0x400 + (n - 0xDC00)) :: ·)
      else none
    else if isLow m then none
    else (chars? (.unit n :: rest)).map (Char.ofNat m :: ·)
  | .unit m :: rest              =>
    if isHigh m || isLow m then none else (chars? rest).map (Char.ofNat m :: ·)

end Piece

end RpcProxy.Json
