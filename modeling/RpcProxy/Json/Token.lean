import RpcProxy.Json.Literal
import RpcProxy.Json.Quoted

namespace RpcProxy.Json

-- A text that is not JSON has tokens as well, up to the point where no token begins.
inductive Token
  | openArray
  | closeArray
  | openObject
  | closeObject
  | comma
  | colon
  | null
  | bool (b : Bool)
  | number (n : Number)
  -- A well-formed literal greater than every float.
  | hugeNumber
  | text (s : String)
  -- A well-formed text with half of a surrogate pair in it.
  | unpairedText
  -- The point where no token begins; no token follows.
  | broken
  deriving BEq, Repr, Inhabited

namespace Token

def isBlank (c : Char) : Bool :=
  c == ' ' || c == '\n' || c == '\t' || c == '\r'

def ofPieces (pieces : List Piece) : Token :=
  match Piece.chars? pieces with
  | some cs => .text (String.ofList cs)
  | none    => .unpairedText

def ofLiteral (l : Literal) : Token :=
  match l.value? with
  | some n => .number n
  | none   => .hugeNumber

-- The token at the front of a text that begins with no blank, and the text after it.
def next? : List Char → Option (Token × List Char)
  | '[' :: cs                         => some (.openArray, cs)
  | ']' :: cs                         => some (.closeArray, cs)
  | '\x7b' :: cs                      => some (.openObject, cs)
  | '\x7d' :: cs                      => some (.closeObject, cs)
  | ',' :: cs                         => some (.comma, cs)
  | ':' :: cs                         => some (.colon, cs)
  | 'n' :: 'u' :: 'l' :: 'l' :: cs    => some (.null, cs)
  | 't' :: 'r' :: 'u' :: 'e' :: cs    => some (.bool true, cs)
  | 'f' :: 'a' :: 'l' :: 's' :: 'e' :: cs => some (.bool false, cs)
  | '"' :: cs                         => (Piece.read? cs).map fun (pieces, rest) => (ofPieces pieces, rest)
  | cs                                => (Literal.read? cs).map fun (l, rest) => (ofLiteral l, rest)

-- All tokens of a text. A token takes at least one character, so the length of the text bounds their
-- number.
def scanWithin : Nat → List Char → List Token
  | 0,        _       => []
  | _,        []      => []
  | fuel + 1, c :: cs =>
    if isBlank c then scanWithin fuel cs
    else
      match next? (c :: cs) with
      | some (token, rest) => token :: scanWithin fuel rest
      | none               => [.broken]

def scan (text : String) : List Token :=
  scanWithin text.toList.length text.toList

end Token

end RpcProxy.Json
