import RpcProxy.Regex.Basic

namespace RpcProxy.Regex

-- The bits `i` below `n` for which `p` holds. Sets of positions are numbers, with a bit for each position.
def bits (p : Nat → Bool) : Nat → Nat
  | 0     => 0
  | n + 1 => bits p n ||| (if p n then 1 <<< n else 0)

-- A text with its characters at hand by position.
structure Subject where
  chars : Array Char

namespace Subject

def ofString (s : String) : Subject :=
  ⟨s.toList.toArray⟩

def size (t : Subject) : Nat :=
  t.chars.size

-- The positions that are followed by a character of a class.
def followedBy (t : Subject) (set : CharClass) : Nat :=
  bits (fun i => t.chars[i]?.any set.contains) t.size

def before (t : Subject) : Nat → Option Char
  | 0     => none
  | i + 1 => t.chars[i]?

-- The positions where an assertion holds.
def holding (t : Subject) (l : Look) : Nat :=
  bits (fun i => l.holds (t.before i) t.chars[i]?) (t.size + 1)

-- All positions, from before the first character to after the last one.
def positions (t : Subject) : Nat :=
  bits (fun _ => true) (t.size + 1)

end Subject

-- A regular expression with each class and assertion replaced by the positions of one text where it
-- holds.
inductive Located
  | never
  | across (followed : Nat)
  | here (holding : Nat)
  | cat (r s : Located)
  | alt (r s : Located)
  | times (r : Located) (min : Nat) (max : Option Nat)

def locate (t : Subject) : Regex → Located
  | empty           => .here t.positions
  | never           => .never
  | chars set       => .across (t.followedBy set)
  | look l          => .here (t.holding l)
  | cat r s         => .cat (locate t r) (locate t s)
  | alt r s         => .alt (locate t r) (locate t s)
  | times r min max => .times (locate t r) min max

-- Applies `f` exactly `n` times, but stops where it changes nothing any more.
def iterate (f : Nat → Nat) : Nat → Nat → Nat
  | 0,     s => s
  | n + 1, s => if f s = s then s else iterate f n (f s)

-- Applies `f` at most `n` times and collects all results on the way.
def gather (f : Nat → Nat) (n : Nat) (s : Nat) : Nat :=
  iterate (fun s => s ||| f s) n s

namespace Located

-- The positions where a match ends that begins at a position of `s`, in a text of `size` characters. A
-- repetition without a maximum reaches no new position after `size` rounds.
def ends (size : Nat) : Located → Nat → Nat
  | never,            _ => 0
  | across followed,  s => (s &&& followed) <<< 1
  | here holding,     s => s &&& holding
  | cat r₁ r₂,        s => ends size r₂ (ends size r₁ s)
  | alt r₁ r₂,        s => ends size r₁ s ||| ends size r₂ s
  | times r min max?, s =>
    let rounds := match max? with
      | some max => max - min
      | none     => size + 1
    gather (ends size r) rounds (iterate (ends size r) min s)

end Located

-- Whether there is a match anywhere in a text.
def isMatch (r : Regex) (s : String) : Bool :=
  let t := Subject.ofString s
  (r.locate t).ends t.size t.positions != 0

end RpcProxy.Regex
