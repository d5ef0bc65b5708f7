namespace RpcProxy

structure ConnectionId where
  number : Nat
  deriving DecidableEq, Repr

structure ConnectionState where
  nextSequence : Nat := 0
  upgraded     : Bool := false
  deriving DecidableEq, Repr, Inhabited

namespace ConnectionState

def maxSequence : Nat :=
  2147483647

-- After the greatest sequence id comes zero again.
def advance (s : ConnectionState) : ConnectionState :=
  { s with nextSequence := if s.nextSequence = maxSequence then 0 else s.nextSequence + 1 }

def upgrade (s : ConnectionState) : ConnectionState :=
  { s with upgraded := true }

end ConnectionState

-- A reference to one of the states that were made so far.
structure StateRef where
  index : Nat
  deriving DecidableEq, Repr

-- A state stays in reach of the call that refers to it when the table forgets its connection. A connection of the same
-- id that comes later starts with a new state.
structure ConnectionTable where
  entries : List (ConnectionId × StateRef) := []
  -- All states that were made so far, the oldest one first.
  states  : List ConnectionState := []
  deriving DecidableEq, Repr, Inhabited

namespace ConnectionTable

def find? (table : ConnectionTable) (id : ConnectionId) : Option StateRef :=
  table.entries.lookup id

def state (table : ConnectionTable) (ref : StateRef) : ConnectionState :=
  table.states[ref.index]?.getD default

def modify (table : ConnectionTable) (ref : StateRef) (f : ConnectionState → ConnectionState) :
    ConnectionTable :=
  { table with states := table.states.modify ref.index f }

-- Enters a connection with a new state.
def create (table : ConnectionTable) (id : ConnectionId) : StateRef × ConnectionTable :=
  let ref := ⟨table.states.length⟩
  (ref, ⟨table.entries ++ [(id, ref)], table.states ++ [default]⟩)

def getOrCreate (table : ConnectionTable) (id : ConnectionId) : StateRef × ConnectionTable :=
  match table.find? id with
  | some ref => (ref, table)
  | none     => table.create id

def remove (table : ConnectionTable) (id : ConnectionId) : ConnectionTable :=
  { table with entries := table.entries.filter (·.1 != id) }

-- Takes the next sequence id.
def takeSequence (table : ConnectionTable) (ref : StateRef) : Nat × ConnectionTable :=
  ((table.state ref).nextSequence, table.modify ref .advance)

def size (table : ConnectionTable) : Nat :=
  table.entries.length

def isEmpty (table : ConnectionTable) : Bool :=
  table.entries.isEmpty

end ConnectionTable

end RpcProxy
