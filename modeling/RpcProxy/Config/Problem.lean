import RpcProxy.Json.Document
import RpcProxy.Decimal.Layout
import RpcProxy.Text.Quoted

namespace RpcProxy.Config

-- What was found where something else was expected.
inductive Found
  | null
  | bool (b : Bool)
  | integer (n : Int)
  | float (x : Float)
  | text (s : String)
  | sequence
  | map
  -- A bare name where a name with fields is needed.
  | unitVariant
  deriving Repr

def ticked (s : String) : String :=
  "`" ++ s ++ "`"

namespace Found

def describe : Found → String
  | null        => "null"
  | bool b      => "boolean " ++ ticked (toString b)
  | integer n   => "integer " ++ ticked (toString n)
  | float x     => "floating point " ++ ticked (Decimal.Layout.plain.text x)
  | text s      => "string " ++ Text.quoted s
  | sequence    => "sequence"
  | map         => "map"
  | unitVariant => "unit variant"

end Found

inductive Cause
  | invalidType (found : Found) (expected : String)
  -- An integer outside of the range of its field.
  | invalidValue (n : Int) (expected : String)
  | invalidLength (n : Nat) (expected : String)
  | unknownField (name : String) (known : List String)
  | unknownVariant (name : String) (known : List String)
  | duplicateField (name : String)
  | missingField (name : String)
  -- A leg of a cluster cannot be detected from the first bytes that it sends.
  | automaticTransport
  | automaticEncoding
  deriving Repr

namespace Cause

-- Names to choose from: one alone, two with "or", more of them as a list.
def choice : List String → String
  | []     => "there are no fields"
  | [a]    => "expected " ++ ticked a
  | [a, b] => "expected " ++ ticked a ++ " or " ++ ticked b
  | names  => "expected one of " ++ ", ".intercalate (names.map ticked)

def message : Cause → String
  | invalidType found expected => "invalid type: " ++ found.describe ++ ", expected " ++ expected
  | invalidValue n expected    =>
    "invalid value: integer " ++ ticked (toString n) ++ ", expected " ++ expected
  | invalidLength n expected   => "invalid length " ++ toString n ++ ", expected " ++ expected
  | unknownField name known    => "unknown field " ++ ticked name ++ ", " ++ choice known
  | unknownVariant name known  => "unknown variant " ++ ticked name ++ ", " ++ choice known
  | duplicateField name        => "duplicate field " ++ ticked name
  | missingField name          => "missing field " ++ ticked name
  | automaticTransport         => "upstream transport cannot be auto"
  | automaticEncoding          => "upstream protocol cannot be auto"

end Cause

inductive Problem
  | malformed
  | content (cause : Cause)
  deriving Repr

end RpcProxy.Config
