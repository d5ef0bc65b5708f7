import RpcProxy.Regex.Basic

namespace RpcProxy.Regex

-- The tree of a written regular expression. Flags are settled already; what is left of the writing is what its limits
-- depend on, that is groups, nesting and repetitions.
inductive Pattern
  -- Nothing, as between two bars.
  | blank
  -- Flags for what follows. They match the empty text.
  | directive
  -- `depth` counts the brackets inside each other.
  | chars (set : CharClass) (depth : Nat)
  | look (l : Look)
  | group (p : Pattern)
  | times (p : Pattern) (min : Nat) (max : Option Nat)
  | sequence (ps : List Pattern)
  | choice (ps : List Pattern)
  deriving Inhabited

namespace Pattern

-- One pattern after the other; a single one stands for itself.
def ofItems : List Pattern → Pattern
  | []  => blank
  | [p] => p
  | ps  => sequence ps

-- One pattern or the other; a single one stands for itself.
def ofBranches : List Pattern → Pattern
  | []  => blank
  | [p] => p
  | ps  => choice ps

mutual

def toRegex : Pattern → Regex
  | blank           => .empty
  | directive       => .empty
  | chars set _     => .chars set
  | look l          => .look l
  | group p         => p.toRegex
  | times p min max => .times p.toRegex min max
  | sequence ps     => .sequence (toRegexes ps)
  | choice ps       => .choice (toRegexes ps)

def toRegexes : List Pattern → List Regex
  | []      => []
  | p :: ps => p.toRegex :: toRegexes ps

end

mutual

-- How deep groups, brackets, repetitions, sequences and choices are nested.
def depth : Pattern → Nat
  | blank         => 0
  | directive     => 0
  | chars _ depth => depth
  | look _        => 0
  | group p       => p.depth + 1
  | times p _ _   => p.depth + 1
  | sequence ps   => depths ps + 1
  | choice ps     => depths ps + 1

def depths : List Pattern → Nat
  | []      => 0
  | p :: ps => max p.depth (depths ps)

end

mutual

-- About how many bytes a pattern takes in compiled form. Repetitions are unrolled there.
def cost : Pattern → Nat
  | blank                => 32
  | directive            => 32
  | chars set _          => 32 + set.cost
  | look _               => 32
  | group p              => p.cost + 64
  | times p min none     => max min 1 * p.cost + 72
  | times p _ (some max) => max * (p.cost + 40) + 32
  | sequence ps          => costs ps
  | choice ps            => costs ps + 32

def costs : List Pattern → Nat
  | []      => 0
  | p :: ps => p.cost + costs ps

end

def maxDepth : Nat :=
  250

-- Ten mebibytes.
def maxCost : Nat :=
  10 * 1024 * 1024

-- Whether a pattern is small enough to be compiled.
def isSmall (p : Pattern) : Bool :=
  p.depth ≤ maxDepth && p.cost ≤ maxCost

end Pattern

end RpcProxy.Regex
