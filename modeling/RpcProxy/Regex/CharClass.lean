import RpcProxy.Unicode.Age
import RpcProxy.Unicode.CaseOrbit
import RpcProxy.Unicode.Script
import RpcProxy.Unicode.Segmentation

namespace RpcProxy.Regex

-- The ways in which two classes are joined by an operator inside brackets.
inductive ClassOperator
  | inter
  | diff
  | symDiff
  deriving DecidableEq, Repr

inductive CharClass
  | none
  | range (low high : Char)
  -- The characters with some property. `cost` is the size of the property in compiled form.
  | property (holds : Char → Bool) (cost : Nat)
  | union (a b : CharClass)
  | combine (op : ClassOperator) (a b : CharClass)
  | negate (a : CharClass)
  -- All forms of the characters in a class, upper and lower case, over all characters or ASCII only.
  | fold (unicode : Bool) (a : CharClass)
  deriving Inhabited

namespace CharClass

def single (c : Char) : CharClass :=
  range c c

-- The forms of a character, those outside of ASCII included or not.
def forms (unicode : Bool) (c : Char) : List Char :=
  if unicode then Unicode.CaseOrbit.forms c else [c, c.toLower, c.toUpper]

def contains : CharClass → Char → Bool
  | none,               _ => false
  | range low high,     c => low ≤ c && c ≤ high
  | property holds _,   c => holds c
  | union a b,          c => a.contains c || b.contains c
  | combine .inter a b, c => a.contains c && b.contains c
  | combine .diff a b,  c => a.contains c && !b.contains c
  | combine .symDiff a b, c => a.contains c != b.contains c
  | negate a,           c => !a.contains c
  | fold unicode a,     c => (forms unicode c).any a.contains

-- About how many bytes a class takes in compiled form, as it is written.
def writtenCost : CharClass → Nat
  | none            => 32
  | range low high  =>
    if high.toNat < 0x80 then 8
    else if low.toNat < 0x800 && high.toNat < 0x800 then 100
    else if low = high then 130
    else 300
  | property _ cost => cost
  | union a b       => a.writtenCost + b.writtenCost
  | combine _ a b   => max a.writtenCost b.writtenCost
  | negate a        => a.writtenCost + 1000
  | fold _ a        => 2 * a.writtenCost

-- However a class is written, it is not larger than the most fragmented set of characters.
def cost (a : CharClass) : Nat :=
  min a.writtenCost 60000

def ofCodes (s : Unicode.CodeSet) : CharClass :=
  property s.contains (45 * s.ranges.length)

def ofCategories (cs : List Unicode.Category) : CharClass :=
  property (fun c => cs.any (·.contains c)) (45 * (cs.flatMap (·.codes.ranges)).length)

def any : CharClass :=
  range '\x00' (Char.ofNat 0x10FFFF)

def digit (unicode : Bool) : CharClass :=
  if unicode then property Unicode.Category.decimalDigit.contains 4640 else range '0' '9'

def space (unicode : Bool) : CharClass :=
  if unicode then property Unicode.Property.whiteSpace 680
  else union (range '\t' '\r') (single ' ')

def isAsciiWord (c : Char) : Bool :=
  c.isAlphanum || c = '_'

def word (unicode : Bool) : CharClass :=
  if unicode then property Unicode.Property.word 48168 else property isAsciiWord 32

def posix? : String → Option CharClass
  | "alnum"  => some (property Char.isAlphanum 24)
  | "alpha"  => some (property Char.isAlpha 16)
  | "ascii"  => some (range '\x00' '\x7f')
  | "blank"  => some (union (single '\t') (single ' '))
  | "cntrl"  => some (union (range '\x00' '\x1f') (single '\x7f'))
  | "digit"  => some (range '0' '9')
  | "graph"  => some (range '!' '~')
  | "lower"  => some (range 'a' 'z')
  | "print"  => some (range ' ' '~')
  | "punct"  => some (combine .diff (range '!' '~') (property Char.isAlphanum 24))
  | "space"  => some (union (range '\t' '\r') (single ' '))
  | "upper"  => some (range 'A' 'Z')
  | "word"   => some (property isAsciiWord 32)
  | "xdigit" => some (union (range '0' '9') (union (range 'A' 'F') (range 'a' 'f')))
  | _        => .none

-- Names are compared without regard to case, blanks, hyphens, underscores and a leading "is".
def normalize (name : String) : String :=
  let cs := name.toList
  let (is, body) := match cs with
    | i :: s :: rest => if (i = 'i' || i = 'I') && (s = 's' || s = 'S') then (true, rest) else (false, cs)
    | _              => (false, cs)
  let kept := (body.filter fun c => c.toNat < 0x80 && c != ' ' && c != '-' && c != '_').map Char.toLower
  if is && kept = ['c'] then "isc" else String.ofList kept

open Unicode in
def categories : List (List String × List Category) :=
  [(["lu", "uppercaseletter"], [.upperLetter]),
   (["ll", "lowercaseletter"], [.lowerLetter]),
   (["lt", "titlecaseletter"], [.titleLetter]),
   (["lc", "casedletter"], [.upperLetter, .lowerLetter, .titleLetter]),
   (["lm", "modifierletter"], [.modifierLetter]),
   (["lo", "otherletter"], [.otherLetter]),
   (["l", "letter"], Category.letter),
   (["mn", "nonspacingmark"], [.nonspacingMark]),
   (["mc", "spacingmark"], [.spacingMark]),
   (["me", "enclosingmark"], [.enclosingMark]),
   (["m", "mark", "combiningmark"], Category.mark),
   (["nd", "decimalnumber", "digit"], [.decimalDigit]),
   (["nl", "letternumber"], [.letterNumber]),
   (["no", "othernumber"], [.otherNumber]),
   (["n", "number"], [.decimalDigit, .letterNumber, .otherNumber]),
   (["pc", "connectorpunctuation"], [.connector]),
   (["pd", "dashpunctuation"], [.dash]),
   (["ps", "openpunctuation"], [.openPunctuation]),
   (["pe", "closepunctuation"], [.closePunctuation]),
   (["pi", "initialpunctuation"], [.initialQuote]),
   (["pf", "finalpunctuation"], [.finalQuote]),
   (["po", "otherpunctuation"], [.otherPunctuation]),
   (["p", "punctuation", "punct"],
    [.connector, .dash, .openPunctuation, .closePunctuation, .initialQuote, .finalQuote,
     .otherPunctuation]),
   (["sm", "mathsymbol"], [.mathSymbol]),
   (["sc", "currencysymbol"], [.currency]),
   (["sk", "modifiersymbol"], [.modifierSymbol]),
   (["so", "othersymbol"], [.otherSymbol]),
   (["s", "symbol"], [.mathSymbol, .currency, .modifierSymbol, .otherSymbol]),
   (["zs", "spaceseparator"], [.space]),
   (["zl", "lineseparator"], [.lineSeparator]),
   (["zp", "paragraphseparator"], [.paragraphSeparator]),
   (["z", "separator"], [.space, .lineSeparator, .paragraphSeparator]),
   (["cc", "control", "cntrl"], [.control]),
   (["cf", "format"], [.format]),
   (["co", "privateuse"], [.privateUse]),
   (["cn", "unassigned"], [.unassigned]),
   (["c", "other"], [.control, .format, .privateUse, .unassigned])]

def category? (name : String) : Option CharClass :=
  match name with
  | "any"      => some any
  | "assigned" => some (negate (ofCategories [.unassigned]))
  | "ascii"    => some (range '\x00' '\x7f')
  | _          => (categories.find? (·.1.contains name)).map fun entry => ofCategories entry.2

def script? (name : String) : Option CharClass :=
  (Unicode.Script.ofName? name).map ofCodes

-- A property, a category or a script, whichever has the name.
def named? (name : String) : Option CharClass :=
  let name := normalize name
  let property? := if name = "cf" || name = "sc" || name = "lc" then .none
    else Unicode.Property.ofName? name
  match property? with
  | some holds => some (property holds 20000)
  | .none      => (category? name).or (script? name)

def extended? (name : String) : Option CharClass :=
  (Unicode.Script.extended? name).map fun x => property x.1 (45 * x.2)

def segment? (values : List Unicode.Segmentation.Value) (name : String) : Option CharClass :=
  (Unicode.Segmentation.ofName? values name).map fun value => property value.contains (45 * value.size)

-- The characters whose property has a value.
def valued? (name value : String) : Option CharClass :=
  let value := normalize value
  match normalize name with
  | "gc" | "generalcategory"        => category? value
  | "sc" | "script"                 => script? value
  | "scx" | "scriptextensions"      => extended? value
  | "age"                           => (Unicode.Age.ofName? value).map ofCodes
  | "gcb" | "graphemeclusterbreak"  => segment? Unicode.Segmentation.grapheme value
  | "wb" | "wordbreak"              => segment? Unicode.Segmentation.word value
  | "sb" | "sentencebreak"          => segment? Unicode.Segmentation.sentence value
  | _                               => .none

end CharClass

end RpcProxy.Regex
