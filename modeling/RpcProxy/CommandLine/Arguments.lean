import RpcProxy.Unicode.Property

namespace RpcProxy.CommandLine

inductive LogFormat
  | pretty
  | json
  deriving DecidableEq, Repr

def LogFormat.ofName? : String → Option LogFormat
  | "pretty" => some .pretty
  | "json"   => some .json
  | _        => none

-- The call that is to be routed.
structure Query where
  method  : String
  headers : List (String × String) := []
  random  : Nat := 0
  deriving DecidableEq, Repr

-- To look over the configuration in a file, or to tell where one call would go.
inductive Command
  | check (path : String)
  | route (path : String) (query : Query)
  deriving DecidableEq, Repr

structure Invocation where
  logFormat : LogFormat
  command   : Command
  deriving DecidableEq, Repr

-- Why arguments give no command.
inductive Stop
  -- Help was asked for.
  | help
  | unexpected (argument : String)
  | missingValue (option : String)
  | invalidValue (name value : String)
  | repeated (option : String)
  | missing (name : String)
  deriving DecidableEq, Repr

namespace Stop

def message : Stop → String
  | help                    => "help was asked for"
  | unexpected argument     => s!"unexpected argument '{argument}'"
  | missingValue option     => s!"a value is required for '{option}'"
  | invalidValue name value => s!"invalid value '{value}' for '{name}'"
  | repeated option         => s!"'{option}' cannot be used more than once"
  | missing name            => s!"{name} is required"

end Stop

-- What an argument looks like.
inductive Form
  | plain
  -- All arguments after it are plain.
  | separator
  | help
  -- An option by its name with the hyphens, and the value that is attached to it.
  | option (name : String) (value? : Option String)
  deriving DecidableEq, Repr

namespace Form

def ofLong (cs : List Char) : Form :=
  match cs.span (· != '=') with
  | (name, [])         =>
    if name = "help".toList then .help else .option (String.ofList ('-' :: '-' :: name)) none
  | (name, _ :: value) => .option (String.ofList ('-' :: '-' :: name)) (some (String.ofList value))

def ofShort (c : Char) (cs : List Char) : Form :=
  let name := String.ofList ['-', c]
  if c = 'h' then .help
  else
    match cs with
    | []           => .option name none
    | '=' :: value => .option name (some (String.ofList value))
    | value        => .option name (some (String.ofList value))

-- A hyphen alone is plain.
def ofArgument (s : String) : Form :=
  match s.toList with
  | ['-', '-']       => .separator
  | '-' :: '-' :: cs => ofLong cs
  | '-' :: c :: cs   => ofShort c cs
  | _                => .plain

end Form

-- An argument together with its value.
inductive Item
  | plain (text : String)
  | separator
  | help
  | option (name value : String)
  -- An option without a value.
  | bare (name : String)
  deriving DecidableEq, Repr

namespace Item

-- The argument as it is shown.
def text : Item → String
  | plain text    => text
  | separator     => "--"
  | help          => "--help"
  | option name _ => name
  | bare name     => name

-- Every option takes a value. One that has none attached takes the next argument, if that is plain.
def scan : List String → List Item
  | []          => []
  | arg :: rest =>
    match Form.ofArgument arg with
    | .plain                    => plain arg :: scan rest
    | .separator                => separator :: rest.map plain
    | .help                     => help :: scan rest
    | .option name (some value) => option name value :: scan rest
    | .option name none         =>
      match rest with
      | []           => [bare name]
      | value :: rest =>
        if Form.ofArgument value = .plain then option name value :: scan rest
        else bare name :: scan (value :: rest)

end Item

-- Drops the blanks at both ends.
def trimmed (cs : List Char) : List Char :=
  let blank := Unicode.Property.whiteSpace
  ((cs.dropWhile blank).reverse.dropWhile blank).reverse

-- A header is given as `name=value`. Blanks around the name are dropped, and it must not be empty then.
def header? (s : String) : Option (String × String) :=
  match s.toList.span (· != '=') with
  | (_, [])            => none
  | (name, _ :: value) =>
    let name := trimmed name
    if name.isEmpty then none else some (String.ofList name, String.ofList value)

-- Digits, maybe after a plus sign, for a number of at most 64 bits.
def number? (s : String) : Option Nat :=
  let cs := s.toList
  let digits := if cs.head? = some '+' then cs.drop 1 else cs
  if digits.isEmpty || !digits.all Char.isDigit then none
  else
    let n := digits.foldl (fun n c => 10 * n + (c.toNat - '0'.toNat)) 0
    if n < UInt64.size then some n else none

-- What the arguments of a command have given so far.
structure Draft where
  path?   : Option String := none
  method? : Option String := none
  headers : List (String × String) := []
  random? : Option Nat := none
  deriving DecidableEq, Repr

namespace Draft

-- The name of a value for `Stop`.
def pathName : String :=
  "<CONFIG>"

def methodName : String :=
  "--method <METHOD>"

def addPath (d : Draft) (path : String) : Except Stop Draft :=
  if d.path?.isSome then .error (.unexpected path)
  else if path = "" then .error (.missingValue pathName)
  else .ok { d with path? := some path }

def addOption (d : Draft) (name value : String) : Except Stop Draft :=
  if name = "-m" || name = "--method" then
    if d.method?.isSome then .error (.repeated name) else .ok { d with method? := some value }
  else if name = "-H" || name = "--header" then
    match header? value with
    | some header => .ok { d with headers := d.headers ++ [header] }
    | none        => .error (.invalidValue name value)
  else if name = "--random" then
    match d.random?, number? value with
    | some _, _      => .error (.repeated name)
    | none,   some n => .ok { d with random? := some n }
    | none,   none   => .error (.invalidValue name value)
  else .error (.unexpected name)

def isOption (name : String) : Bool :=
  ["-m", "--method", "-H", "--header", "--random"].contains name

-- The arguments of `route`.
def addRouteItem (d : Draft) : Item → Except Stop Draft
  | .plain text        => d.addPath text
  | .separator         => .ok d
  | .help              => .error .help
  | .option name value => d.addOption name value
  | .bare name         =>
    if isOption name then .error (.missingValue name) else .error (.unexpected name)

-- The arguments of `check`, which has no options.
def addCheckItem (d : Draft) : Item → Except Stop Draft
  | .plain text => d.addPath text
  | .separator  => .ok d
  | .help       => .error .help
  | item        => .error (.unexpected item.text)

def need (name : String) : Option α → Except Stop α
  | some x => .ok x
  | none   => .error (.missing name)

end Draft

namespace Command

def names : List String :=
  ["check", "route", "help"]

def path : Command → String
  | check path   => path
  | route path _ => path

def ofCheckItems (items : List Item) : Except Stop Command := do
  let d ← items.foldlM Draft.addCheckItem {}
  return check (← Draft.need Draft.pathName d.path?)

def ofRouteItems (items : List Item) : Except Stop Command := do
  let d ← items.foldlM Draft.addRouteItem {}
  let path ← Draft.need Draft.pathName d.path?
  let method ← Draft.need Draft.methodName d.method?
  return route path ⟨method, d.headers, d.random?.getD 0⟩

-- The command of this name with its arguments.
def ofItems (name : String) (items : List Item) : Except Stop Command :=
  match name, items with
  | "check", items        => ofCheckItems items
  | "route", items        => ofRouteItems items
  | "help",  []           => .error .help
  | "help",  [.plain of]  => if names.contains of then .error .help else .error (.unexpected of)
  | "help",  item :: _    => .error (.unexpected item.text)
  | name,    _            => .error (.unexpected name)

end Command

namespace Invocation

def logOption : String :=
  "--log-format"

-- The option for the log may stand before the command.
def ofItems (format? : Option LogFormat) : List Item → Except Stop Invocation
  | []                          => .error (.missing "a command")
  | .plain name :: items        =>
    (Command.ofItems name items).map (⟨format?.getD .pretty, ·⟩)
  | .option name value :: items =>
    if name ≠ logOption then .error (.unexpected name)
    else
      match format?, LogFormat.ofName? value with
      | some _, _           => .error (.repeated name)
      | none,   some format => ofItems (some format) items
      | none,   none        => .error (.invalidValue name value)
  | .bare name :: _             =>
    if name = logOption then .error (.missingValue name) else .error (.unexpected name)
  | .help :: _                  => .error .help
  | .separator :: _             => .error (.unexpected "--")

def ofArguments (args : List String) : Except Stop Invocation :=
  ofItems none (Item.scan args)

end Invocation

end RpcProxy.CommandLine
