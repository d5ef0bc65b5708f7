import RpcProxy.Unicode.Property

namespace RpcProxy.Text

def hexadecimal (n : Nat) : List Char :=
  Nat.toDigits 16 n

-- Characters that print nothing, or print over the one before them, are shown by their number.
def isShown (c : Char) : Bool :=
  Unicode.Property.printable c && !Unicode.Property.graphemeExtend c

def escaped (c : Char) : List Char :=
  match c with
  | '\x00' => ['\\', '0']
  | '\t'   => ['\\', 't']
  | '\n'   => ['\\', 'n']
  | '\r'   => ['\\', 'r']
  | '"'    => ['\\', '"']
  | '\\'   => ['\\', '\\']
  | c      =>
    if 0x20 ≤ c.toNat && c.toNat < 0x7F then [c]
    else if isShown c then [c]
    else ['\\', 'u', '\x7b'] ++ hexadecimal c.toNat ++ ['\x7d']

-- The text as messages show it: in quotes, with escapes for characters that would not be seen as themselves.
def quoted (s : String) : String :=
  String.ofList ('"' :: s.toList.flatMap escaped ++ ['"'])

end RpcProxy.Text
