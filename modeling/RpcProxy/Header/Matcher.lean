import RpcProxy.Config.Basic
import RpcProxy.Header.Map
import RpcProxy.Regex.Match
import RpcProxy.Regex.Reading

namespace RpcProxy

-- What a header value is tested for.
inductive HeaderTest
  | exact (text : String)
  | regex (r : Regex)
  -- An integer from `start` up to `stop`, exclusive.
  | range (start stop : Int)
  -- Every value passes, or none.
  | present (passes : Bool)
  | startsWith (text : String)
  | endsWith (text : String)
  | contains (text : String)

namespace HeaderTest

def readDigits? (cs : List Char) : Option Nat :=
  if cs.isEmpty || !cs.all Char.isDigit then none
  else some (cs.foldl (fun n c => 10 * n + (c.toNat - '0'.toNat)) 0)

-- An optional sign and digits.
def readInteger? (s : String) : Option Int :=
  match s.toList with
  | '+' :: cs => (readDigits? cs).map fun n => (n : Int)
  | '-' :: cs => (readDigits? cs).map fun n => -(n : Int)
  | cs        => (readDigits? cs).map fun n => (n : Int)

-- Whether an integer fits 64 bits. One that does not is in no range.
def fits (n : Int) : Bool :=
  -9223372036854775808 ≤ n && n ≤ 9223372036854775807

-- Whether one text stands somewhere inside another.
def occurs (part : List Char) : List Char → Bool
  | []      => part.isEmpty
  | c :: cs => part.isPrefixOf (c :: cs) || occurs part cs

def passes (test : HeaderTest) (value : String) : Bool :=
  match test with
  | exact text       => value == text
  | regex r          => r.isMatch value
  | range start stop =>
    match readInteger? value with
    | some n => fits n && start ≤ n && n < stop
    | none   => false
  | present passes   => passes
  | startsWith text  => text.toList.isPrefixOf value.toList
  | endsWith text    => text.toList.isSuffixOf value.toList
  | contains text    => occurs text.toList value.toList

end HeaderTest

-- Why a header matcher cannot be built.
inductive HeaderMatcherError
  | emptyName
  | missingSpecifier (name : String)
  | conflictingSpecifiers (name : String)
  | invalidRegex (name : String)
  | emptyRange (name : String) (start stop : Int)
  deriving DecidableEq, Repr

namespace HeaderMatcherError

def message : HeaderMatcherError → String
  | emptyName                  => "header matcher has an empty header name"
  | missingSpecifier name      => s!"header matcher for '{name}' sets no match specifier"
  | conflictingSpecifiers name => s!"header matcher for '{name}' sets more than one match specifier"
  | invalidRegex name          => s!"header matcher for '{name}' has an invalid regex"
  | emptyRange name start stop => s!"header matcher for '{name}' has an empty range [{start}, {stop})"

end HeaderMatcherError

structure HeaderMatcher where
  name   : String
  test   : HeaderTest
  invert : Bool

namespace HeaderMatcher

def new (name : String) (test : HeaderTest) (invert : Bool) : HeaderMatcher :=
  ⟨HeaderMap.normalize name, test, invert⟩

-- A pattern that is matched against whole values.
def anchored (pattern : String) : String :=
  "^(?:" ++ pattern ++ ")$"

def regexTest (name pattern : String) : Except HeaderMatcherError HeaderTest :=
  match Regex.ofText? (anchored pattern) with
  | some r => .ok (.regex r)
  | none   => .error (.invalidRegex name)

def rangeTest (name : String) (r : Config.Range) : Except HeaderMatcherError HeaderTest :=
  if r.start < r.stop then .ok (.range r.start r.stop) else .error (.emptyRange name r.start r.stop)

-- The tests that a configuration asks for.
def tests (config : Config.HeaderMatcher) : Except HeaderMatcherError (List HeaderTest) := do
  let regex ← config.regex.toList.mapM (regexTest config.name)
  let range ← config.range.toList.mapM (rangeTest config.name)
  return config.exact.toList.map .exact ++ regex ++ range ++
    config.present.toList.map .present ++
    config.start.toList.map .startsWith ++
    config.suffix.toList.map .endsWith ++
    config.contains.toList.map .contains

-- A test that cannot be built is reported before a wrong number of tests.
def ofConfig (config : Config.HeaderMatcher) : Except HeaderMatcherError HeaderMatcher := do
  if config.name = "" then .error .emptyName
  else
    match ← tests config with
    | []     => .error (.missingSpecifier config.name)
    | [test] => .ok (new config.name test config.invert)
    | _      => .error (.conflictingSpecifiers config.name)

-- Several values of a header are tested as one text, joined by commas. A header that is missing fails every test.
def accepts (m : HeaderMatcher) (headers : HeaderMap) : Bool :=
  match headers.joined? m.name with
  | none       => m.invert
  | some value => m.test.passes value != m.invert

def allAccept (ms : List HeaderMatcher) (headers : HeaderMap) : Bool :=
  ms.all (·.accepts headers)

end HeaderMatcher

end RpcProxy
