namespace RpcProxy.Unicode

structure CodeSet where
  ranges : List (Nat × Nat)

namespace CodeSet

def contains (s : CodeSet) (c : Char) : Bool :=
  s.ranges.any fun r => r.1 ≤ c.toNat && c.toNat ≤ r.2

def none : CodeSet :=
  ⟨[]⟩

def hexValue (c : Char) : Nat :=
  if c.isDigit then c.toNat - '0'.toNat else c.toNat - 'A'.toNat + 10

-- The parts of a text between separators, without the empty ones; `part` is what was read of the part that
-- is being read, last character first.
def parts (isSeparator : Char → Bool) (part : List Char) : List Char → List (List Char)
  | []      => if part.isEmpty then [] else [part.reverse]
  | c :: cs =>
    if !isSeparator c then parts isSeparator (c :: part) cs
    else if part.isEmpty then parts isSeparator [] cs
    else part.reverse :: parts isSeparator [] cs

def number (digits : List Char) : Nat :=
  digits.foldl (fun n c => 16 * n + hexValue c) 0

-- The groups of hyphen-separated numbers of a table.
def groups (text : String) : List (List Nat) :=
  (parts (fun c => c == ' ' || c == '\n') [] text.toList).map fun group =>
    (parts (· == '-') [] group).map number

-- Ranges are separated by blanks, and the ends of a range by a hyphen.
def ofText (text : String) : CodeSet :=
  ⟨(groups text).filterMap fun
    | [n]         => some (n, n)
    | [low, high] => some (low, high)
    | _           => .none⟩

end CodeSet

end RpcProxy.Unicode
