import RpcProxy.Regex.CharClass

namespace RpcProxy.Regex

-- An assertion about a position between two characters. Those on words take the word characters of
-- ASCII or of all of Unicode.
inductive Look
  | textStart
  | textEnd
  | lineStart
  | lineEnd
  -- Lines that end in a carriage return, a line feed, or both in this order.
  | crlfLineStart
  | crlfLineEnd
  | wordBoundary (unicode : Bool)
  | notWordBoundary (unicode : Bool)
  | wordStart (unicode : Bool)
  | wordEnd (unicode : Bool)
  | wordStartHalf (unicode : Bool)
  | wordEndHalf (unicode : Bool)
  deriving DecidableEq, Repr

namespace Look

def isWord (unicode : Bool) (c? : Option Char) : Bool :=
  c?.any (CharClass.word unicode).contains

-- Whether the assertion holds between two characters, either of which is missing at an end of the
-- text.
def holds (look : Look) (before after : Option Char) : Bool :=
  match look with
  | textStart         => before.isNone
  | textEnd           => after.isNone
  | lineStart         => before.isNone || before == some '\n'
  | lineEnd           => after.isNone || after == some '\n'
  | crlfLineStart     => before.isNone || before == some '\n' || (before == some '\r' && after != some '\n')
  | crlfLineEnd       => after.isNone || after == some '\r' || (after == some '\n' && before != some '\r')
  | wordBoundary u    => isWord u before != isWord u after
  | notWordBoundary u => isWord u before == isWord u after
  | wordStart u       => !isWord u before && isWord u after
  | wordEnd u         => isWord u before && !isWord u after
  | wordStartHalf u   => !isWord u before
  | wordEndHalf u     => !isWord u after

end Look

end Regex

inductive Regex
  | empty
  | never
  | chars (set : Regex.CharClass)
  | look (l : Regex.Look)
  | cat (r s : Regex)
  | alt (r s : Regex)
  -- At least `min` times, and at most `max` times if there is a maximum.
  | times (r : Regex) (min : Nat) (max : Option Nat)
  deriving Inhabited

namespace Regex

def sequence : List Regex → Regex
  | []        => empty
  | [r]       => r
  | r :: rest => cat r (sequence rest)

def choice : List Regex → Regex
  | []        => never
  | [r]       => r
  | r :: rest => alt r (choice rest)

end Regex

end RpcProxy
