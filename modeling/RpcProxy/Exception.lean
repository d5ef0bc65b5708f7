namespace RpcProxy

-- What the proxy itself answers a call with.
inductive ExceptionKind
  | unknown
  | unknownMethod
  | invalidMessageType
  | wrongMethodName
  | badSequenceId
  | missingResult
  | internalError
  | protocolError
  | invalidTransform
  | invalidProtocol
  | unsupportedClientType
  deriving DecidableEq, Repr

namespace ExceptionKind

-- The number that stands for the kind on the wire.
def number : ExceptionKind → Nat
  | unknown               => 0
  | unknownMethod         => 1
  | invalidMessageType    => 2
  | wrongMethodName       => 3
  | badSequenceId         => 4
  | missingResult         => 5
  | internalError         => 6
  | protocolError         => 7
  | invalidTransform      => 8
  | invalidProtocol       => 9
  | unsupportedClientType => 10

def name : ExceptionKind → String
  | unknown               => "Unknown"
  | unknownMethod         => "UnknownMethod"
  | invalidMessageType    => "InvalidMessageType"
  | wrongMethodName       => "WrongMethodName"
  | badSequenceId         => "BadSequenceId"
  | missingResult         => "MissingResult"
  | internalError         => "InternalError"
  | protocolError         => "ProtocolError"
  | invalidTransform      => "InvalidTransform"
  | invalidProtocol       => "InvalidProtocol"
  | unsupportedClientType => "UnsupportedClientType"

def all : List ExceptionKind :=
  [unknown, unknownMethod, invalidMessageType, wrongMethodName, badSequenceId, missingResult,
    internalError, protocolError, invalidTransform, invalidProtocol, unsupportedClientType]

def ofName? (name : String) : Option ExceptionKind :=
  all.find? (·.name == name)

end ExceptionKind

structure Exception where
  kind    : ExceptionKind
  message : String
  deriving DecidableEq, Repr

namespace Exception

def unknownMethod (message : String) : Exception :=
  ⟨.unknownMethod, message⟩

def internalError (message : String) : Exception :=
  ⟨.internalError, message⟩

def text (e : Exception) : String :=
  e.kind.name ++ ": " ++ e.message

end Exception

end RpcProxy
