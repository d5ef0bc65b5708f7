import RpcProxy.Decimal.Layout
import RpcProxy.Json.Value

namespace RpcProxy.Json

def hexDigit (n : Nat) : Char :=
  (Nat.digitChar n)

-- The form of one character inside a text. Control characters that have a short escape use it, and the
-- others are written with their number.
def escaped (c : Char) : List Char :=
  match c with
  | '"'    => ['\\', '"']
  | '\\'   => ['\\', '\\']
  | '\x08' => ['\\', 'b']
  | '\t'   => ['\\', 't']
  | '\n'   => ['\\', 'n']
  | '\x0c' => ['\\', 'f']
  | '\r'   => ['\\', 'r']
  | c      =>
    if c.toNat < 0x20 then
      ['\\', 'u', '0', '0', hexDigit (c.toNat / 16), hexDigit (c.toNat % 16)]
    else [c]

def quoted (s : String) : List Char :=
  '"' :: s.toList.flatMap escaped ++ ['"']

def Number.text : Number → String
  | .integer n => toString n
  | .float x   => Decimal.Layout.json.text x

mutual

def print : Json → List Char
  | .null           => ['n', 'u', 'l', 'l']
  | .bool true      => ['t', 'r', 'u', 'e']
  | .bool false     => ['f', 'a', 'l', 's', 'e']
  | .number n       => n.text.toList
  | .text s         => quoted s
  | .array items    => '[' :: printItems items
  | .object members => '\x7b' :: printMembers members

-- The items of an array with commas between them, and the bracket that closes it.
def printItems : List Json → List Char
  | []        => [']']
  | x :: rest => print x ++ printMoreItems rest

def printMoreItems : List Json → List Char
  | []        => [']']
  | x :: rest => ',' :: print x ++ printMoreItems rest

def printMembers : List (String × Json) → List Char
  | []             => ['\x7d']
  | (k, x) :: rest => quoted k ++ ':' :: print x ++ printMoreMembers rest

def printMoreMembers : List (String × Json) → List Char
  | []             => ['\x7d']
  | (k, x) :: rest => ',' :: quoted k ++ ':' :: print x ++ printMoreMembers rest

end

def render (v : Json) : String :=
  String.ofList v.print

end RpcProxy.Json
