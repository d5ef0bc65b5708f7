import RpcProxy.Header.Map
import RpcProxy.Leg

namespace RpcProxy

inductive MessageKind
  | call
  | reply
  | exception
  | oneway
  deriving DecidableEq, Repr

namespace MessageKind

def ofWire? (value : Int) : Option MessageKind :=
  if value = 1 then some call
  else if value = 2 then some reply
  else if value = 3 then some exception
  else if value = 4 then some oneway
  else none

def toWire : MessageKind → Nat
  | call      => 1
  | reply     => 2
  | exception => 3
  | oneway    => 4

end MessageKind

-- What a reply reports about its call.
inductive ReplyOutcome
  | success
  | error
  deriving DecidableEq, Repr

-- A method name is split at its first colon into a service and a method.
structure Message where
  method?    : Option String := none
  -- There is no kind when the decoder saw an invalid one.
  kind?      : Option MessageKind := none
  sequenceId : Int := 0
  headers    : HeaderMap := {}
  encoding?  : Option Encoding := none
  outcome?   : Option ReplyOutcome := none
  deriving DecidableEq, Repr, Inhabited

namespace Message

def call (method : String) : Message :=
  { method? := some method, kind? := some .call }

def oneway (method : String) : Message :=
  { method? := some method, kind? := some .oneway }

def withHeader (m : Message) (name value : String) : Message :=
  { m with headers := m.headers.add name value }

-- The method name, which reads as empty where there is none.
def method (m : Message) : String :=
  m.method?.getD ""

-- The part of a name before its first colon, and the part after it.
def splitService? (name : String) : Option (String × String) :=
  match name.toList.span (· != ':') with
  | (_, [])                => none
  | (service, _ :: method) => some (String.ofList service, String.ofList method)

def service? (m : Message) : Option String :=
  (m.method?.bind splitService?).map (·.1)

-- Drops the service from the method name, and tells whether there was one.
def stripService (m : Message) : Message × Bool :=
  match m.method?.bind splitService? with
  | some (_, method) => ({ m with method? := some method }, true)
  | none             => (m, false)

def isOneway (m : Message) : Bool :=
  m.kind? == some .oneway

end Message

end RpcProxy
