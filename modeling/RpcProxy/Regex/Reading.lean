import RpcProxy.Regex.Pattern

namespace RpcProxy.Regex

structure Flags where
  caseless  : Bool := false
  multiLine : Bool := false
  dotAll    : Bool := false
  -- Which of a lazy and a greedy repetition is written shorter. It does not matter for whether there is a
  -- match.
  swapGreed : Bool := false
  unicode   : Bool := true
  crlf      : Bool := false
  -- Whether blanks and comments are passed over.
  verbose   : Bool := false
  deriving DecidableEq, Repr, Inhabited

namespace Flags

def set? (flags : Flags) (on : Bool) : Char → Option Flags
  | 'i' => some { flags with caseless := on }
  | 'm' => some { flags with multiLine := on }
  | 's' => some { flags with dotAll := on }
  | 'U' => some { flags with swapGreed := on }
  | 'u' => some { flags with unicode := on }
  | 'R' => some { flags with crlf := on }
  | 'x' => some { flags with verbose := on }
  | _   => none

-- Applies letters of flags to the flags in force, up to a colon or a closing parenthesis, which is
-- returned with what follows it. No letter stands twice, and a hyphen is followed by a letter.
def read? (flags : Flags) (seen : List Char) (on : Bool) : List Char → Option (Flags × Char × List Char)
  | []      => none
  | c :: cs =>
    if c = ':' || c = ')' then
      if seen.head? = some '-' then none else some (flags, c, cs)
    else if seen.contains c then none
    else if c = '-' then read? flags (c :: seen) false cs
    else
      match flags.set? on c with
      | some flags => read? flags (c :: seen) on cs
      | none       => none

end Flags

-- Drops blanks, and comments from a hash to the end of the line.
def dropBlanks (comment : Bool) : List Char → List Char
  | []      => []
  | c :: cs =>
    if comment then dropBlanks (c != '\n') cs
    else if Unicode.Property.whiteSpace c then dropBlanks false cs
    else if c = '#' then dropBlanks true cs
    else c :: cs

-- What follows the blanks at this place, if they do not count.
def Flags.next (flags : Flags) (cs : List Char) : List Char :=
  if flags.verbose then dropBlanks false cs else cs

-- What stands in braces, after the opening one, and what follows them. Blanks and comments may not count.
def braced? (verbose comment : Bool) : List Char → Option (List Char × List Char)
  | []      => none
  | c :: cs =>
    if comment then braced? verbose (c != '\n') cs
    else if verbose && Unicode.Property.whiteSpace c then braced? verbose false cs
    else if verbose && c = '#' then braced? verbose true cs
    else if c = '\x7d' then some ([], cs)
    else (braced? verbose false cs).map fun (text, rest) => (c :: text, rest)

def hexValue? (c : Char) : Option Nat :=
  if '0' ≤ c && c ≤ '9' then some (c.toNat - '0'.toNat)
  else if 'a' ≤ c && c ≤ 'f' then some (c.toNat - 'a'.toNat + 10)
  else if 'A' ≤ c && c ≤ 'F' then some (c.toNat - 'A'.toNat + 10)
  else none

def char? (n : Nat) : Option Char :=
  if n < 0xD800 || (0xE000 ≤ n && n ≤ 0x10FFFF) then some (Char.ofNat n) else none

-- Exactly `count` hexadecimal digits.
def hexDigits? (flags : Flags) : Nat → Nat → List Char → Option (Nat × List Char)
  | 0,         n, cs      => some (n, cs)
  | _ + 1,     _, []      => none
  | count + 1, n, c :: cs => do
    let d ← hexValue? c
    hexDigits? flags count (16 * n + d) (if count = 0 then cs else flags.next cs)

-- The number that is written by hexadecimal digits, if there are any.
def hexNumber? (text : List Char) : Option Nat := do
  let digits ← text.mapM hexValue?
  if digits.isEmpty then none else return digits.foldl (fun n d => 16 * n + d) 0

-- Hexadecimal digits in braces, after the opening one.
def hexBraces? (flags : Flags) (cs : List Char) : Option (Nat × List Char) := do
  let (text, rest) ← braced? flags.verbose false cs
  (hexNumber? text).map (·, rest)

-- Digits, and what follows them. Between them stands only what does not count.
def digits (flags : Flags) : Nat → List Char → List Char × List Char
  | fuel + 1, c :: cs =>
    if c.isDigit then
      let (ds, rest) := digits flags fuel (flags.next cs)
      (c :: ds, rest)
    else ([], c :: cs)
  | _,        cs      => ([], cs)

-- A decimal number with blanks around it.
def decimal? (flags : Flags) (cs : List Char) : Option Nat × List Char :=
  let blank := Unicode.Property.whiteSpace
  let cs := cs.dropWhile blank
  let (ds, rest) := digits flags cs.length cs
  let n := ds.foldl (fun n d => 10 * n + (d.toNat - '0'.toNat)) 0
  (if ds.isEmpty || UInt32.size ≤ n then none else some n, rest.dropWhile blank)

-- What stands for one character or one position.
inductive Primitive
  -- `isByte` marks a number of two digits, which is a byte where Unicode is off.
  | char (c : Char) (isByte : Bool)
  | chars (set : CharClass)
  | look (l : Look)

namespace Primitive

-- Where Unicode is off, a class may not reach beyond ASCII, as a negated one does.
def negated? (flags : Flags) (negate : Bool) (set : CharClass) : Option Primitive :=
  if !negate then some (.chars set)
  else if flags.unicode then some (.chars (.negate set))
  else none

def foldIf (flags : Flags) (set : CharClass) : CharClass :=
  if flags.caseless then .fold flags.unicode set else set

-- The class that a name stands for, with an equals sign, a colon or an inequality sign between the name
-- of a property and its value.
def unicodeClass? (flags : Flags) (negate : Bool) (name : String) : Option Primitive :=
  if !flags.unicode then none
  else
    let cs := name.toList
    let named (set? : Option CharClass) (negate : Bool) :=
      set?.bind fun set => negated? flags negate (foldIf flags set)
    let split (separator : Char → Bool) :=
      (String.ofList (cs.takeWhile (!separator ·)), String.ofList ((cs.dropWhile (!separator ·)).drop 1))
    match name.splitOn "!=" with
    | first :: rest@(_ :: _) => named (CharClass.valued? first ("!=".intercalate rest)) (!negate)
    | _ =>
      if cs.contains ':' then
        let (first, second) := split (· = ':')
        named (CharClass.valued? first second) negate
      else if cs.contains '=' then
        let (first, second) := split (· = '=')
        named (CharClass.valued? first second) negate
      else named (CharClass.named? name) negate

-- The name of a class in braces, or its one letter.
def readUnicode? (flags : Flags) (negate : Bool) (cs : List Char) : Option (Primitive × List Char) :=
  match flags.next cs with
  | '\x7b' :: cs => do
    let (name, rest) ← braced? flags.verbose false cs
    (unicodeClass? flags negate (String.ofList name)).map (·, rest)
  | '\\' :: _   => none
  | c :: cs     => (unicodeClass? flags negate (String.singleton c)).map (·, flags.next cs)
  | []          => none

-- A character by its number: some digits, as many as the letter before them says, or any digits in
-- braces.
def readHex? (flags : Flags) (count : Nat) (cs : List Char) : Option (Primitive × List Char) :=
  match flags.next cs with
  | '\x7b' :: cs => do
    let (n, rest) ← hexBraces? flags cs
    let c ← char? n
    return (.char c false, flags.next rest)
  | cs => do
    let (n, rest) ← hexDigits? flags count 0 cs
    let c ← char? n
    return (.char c (count == 2), flags.next rest)

-- The letters and hyphens in braces after a word boundary, or nothing where the braces hold something
-- else and so are a repetition.
def boundaryName? (flags : Flags) (cs : List Char) : Option (Option (String × List Char)) :=
  let isName (c : Char) := c.isAlpha || c = '-'
  match flags.next cs with
  | []      => none
  | c :: cs =>
    if !isName c then some none
    else do
      let (name, rest) ← braced? flags.verbose false (c :: cs)
      if name.all isName then return some (String.ofList name, rest) else none

def boundary? (flags : Flags) (cs : List Char) : Option (Primitive × List Char) :=
  let plain := (Primitive.look (.wordBoundary flags.unicode), cs)
  match cs with
  | '\x7b' :: inner =>
    match boundaryName? flags inner with
    | none                     => none
    | some none                => some plain
    | some (some (name, rest)) =>
      match name with
      | "start"      => some (.look (.wordStart flags.unicode), rest)
      | "end"        => some (.look (.wordEnd flags.unicode), rest)
      | "start-half" => some (.look (.wordStartHalf flags.unicode), rest)
      | "end-half"   => some (.look (.wordEndHalf flags.unicode), rest)
      | _            => none
  | _               => some plain

-- Marks may be escaped, and blanks as well, but not letters, digits, angles or anything beyond
-- ASCII.
def isEscapable (c : Char) : Bool :=
  c.toNat < 0x80 && !c.isAlphanum && c != '<' && c != '>'

-- What follows a backslash.
def readEscape? (flags : Flags) : List Char → Option (Primitive × List Char)
  | []      => none
  | c :: cs =>
    let named (negate : Bool) (set : CharClass) := (negated? flags negate set).map (·, cs)
    let char (c : Char) := some (Primitive.char c false, cs)
    match c with
    | 'x' => readHex? flags 2 cs
    | 'u' => readHex? flags 4 cs
    | 'U' => readHex? flags 8 cs
    | 'p' => readUnicode? flags false cs
    | 'P' => readUnicode? flags true cs
    | 'd' => named false (.digit flags.unicode)
    | 'D' => named true (.digit flags.unicode)
    | 's' => named false (.space flags.unicode)
    | 'S' => named true (.space flags.unicode)
    | 'w' => named false (.word flags.unicode)
    | 'W' => named true (.word flags.unicode)
    | 'a' => char '\x07'
    | 'f' => char '\x0c'
    | 't' => char '\t'
    | 'n' => char '\n'
    | 'r' => char '\r'
    | 'v' => char '\x0b'
    | 'A' => some (.look .textStart, cs)
    | 'z' => some (.look .textEnd, cs)
    | 'b' => boundary? flags cs
    | 'B' => some (.look (.notWordBoundary flags.unicode), cs)
    | '<' => some (.look (.wordStart flags.unicode), cs)
    | '>' => some (.look (.wordEnd flags.unicode), cs)
    | c   => if isEscapable c then char c else none

-- The pattern for a primitive outside of brackets.
def pattern? (flags : Flags) : Primitive → Option Pattern
  | char c isByte =>
    if isByte && !flags.unicode && 0x80 ≤ c.toNat then none
    else some (.chars (foldIf flags (.single c)) 0)
  | chars set     => some (.chars set 0)
  | look l        => some (.look l)

end Primitive

namespace Brackets

-- A class with the nesting of its writing.
structure Item where
  set   : CharClass
  depth : Nat

def Item.ofItems : List Item → Item
  | []     => ⟨.none, 0⟩
  | [item] => item
  | items  => ⟨(items.map (·.set)).foldr .union .none, (items.map (·.depth)).foldl max 0 + 1⟩

-- An open bracket: the items since the last operator, the last one first, and what stands before that
-- operator.
structure Level where
  negate : Bool
  before : Option (ClassOperator × Item)
  items  : List Item

namespace Level

-- The class up to this place. Operators are applied from left to right.
def value (flags : Flags) (level : Level) : Item :=
  let right := Item.ofItems level.items.reverse
  match level.before with
  | none            => right
  | some (op, left) =>
    ⟨.combine op (Primitive.foldIf flags left.set) (Primitive.foldIf flags right.set),
      max left.depth right.depth + 1⟩

def add (level : Level) (item : Item) : Level :=
  { level with items := item :: level.items }

def operate (flags : Flags) (level : Level) (op : ClassOperator) : Level :=
  { level with before := some (op, level.value flags), items := [] }

-- The class of the whole bracket. Forms of letters are added before it is negated.
def close? (flags : Flags) (level : Level) : Option Item :=
  let ⟨set, depth⟩ := level.value flags
  match Primitive.negated? flags level.negate (Primitive.foldIf flags set) with
  | some (.chars set) => some ⟨set, depth + 1⟩
  | _                 => none

end Level

-- Hyphens at the front of a bracket stand for themselves.
def readHyphens (flags : Flags) (fuel : Nat) (items : List Item) (cs : List Char) :
    List Item × List Char :=
  match fuel, cs with
  | fuel + 1, '-' :: cs => readHyphens flags fuel (Item.mk (.single '-') 0 :: items) (flags.next cs)
  | _,        cs        => (items, cs)

-- What follows an opening bracket: a sign of negation, hyphens, and a closing bracket that stands for
-- itself where nothing else stands before it.
def open? (flags : Flags) (cs : List Char) : Option (Level × List Char) :=
  let cs := flags.next cs
  let (negate, cs) := match cs with
    | '^' :: cs => (true, flags.next cs)
    | cs        => (false, cs)
  let (items, cs) := readHyphens flags cs.length [] cs
  let (items, cs) := match items, cs with
    | [], ']' :: cs => ([Item.mk (.single ']') 0], flags.next cs)
    | items, cs     => (items, cs)
  if cs.isEmpty then none else some (⟨negate, none, items⟩, cs)

-- A class with a name between colons, after the opening bracket.
def posix? (flags : Flags) (cs : List Char) : Option (Option Item × List Char) :=
  match cs with
  | ':' :: cs =>
    let (negate, cs) := match cs with
      | '^' :: cs => (true, cs)
      | cs        => (false, cs)
    match cs.dropWhile (· != ':') with
    | ':' :: ']' :: rest =>
      (CharClass.posix? (String.ofList (cs.takeWhile (· != ':')))).map fun set =>
        match Primitive.negated? flags negate (Primitive.foldIf flags set) with
        | some (.chars set) => (some (Item.mk set 0), rest)
        | _                 => (none, rest)
    | _                  => none
  | _         => none

-- An item of a bracket or an end of a range.
def readItem? (flags : Flags) : List Char → Option (Primitive × List Char)
  | []         => none
  | '\\' :: cs => Primitive.readEscape? flags cs
  | c :: cs    => some (.char c false, cs)

-- Where Unicode is off, brackets hold ASCII only.
def item? (flags : Flags) : Primitive → Option Item
  | .char c _  => if flags.unicode || c.toNat < 0x80 then some ⟨.single c, 0⟩ else none
  | .chars set => some ⟨set, 0⟩
  | .look _    => none

def range? (flags : Flags) : Primitive → Primitive → Option Item
  | .char low _, .char high _ =>
    if low ≤ high && (flags.unicode || high.toNat < 0x80) then some ⟨.range low high, 0⟩ else none
  | _,           _            => none

-- The next character that counts, given what follows a hyphen.
def peek? (flags : Flags) (cs : List Char) : Option Char :=
  if !flags.verbose then cs.head?
  else
    let blank := Unicode.Property.whiteSpace
    let found := match cs.dropWhile blank with
      | '#' :: rest => rest.dropWhile blank
      | rest        => rest
    if found.isEmpty then cs.head? else found.head?

-- A single item, or a range of characters.
def readRange? (flags : Flags) (cs : List Char) : Option (Item × List Char) := do
  let (first, cs) ← readItem? flags cs
  match flags.next cs with
  | []             => none
  | '-' :: rest    =>
    if peek? flags rest = some ']' || peek? flags rest = some '-' then
      let item ← item? flags first
      return (item, '-' :: rest)
    else
      let (second, rest) ← readItem? flags (flags.next rest)
      let item ← range? flags first second
      return (item, rest)
  | cs             =>
    let item ← item? flags first
    return (item, cs)

-- Reads on in the innermost open bracket up to the end of the outermost one.
def read? (flags : Flags) : Nat → Level → List Level → List Char → Option (Item × List Char)
  | 0,        _,     _,      _  => none
  | fuel + 1, level, outer, cs =>
    match flags.next cs with
    | []               => none
    | '[' :: cs        =>
      match posix? flags cs with
      | some (some item, rest) => read? flags fuel (level.add item) outer rest
      | some (none, _)         => none
      | none                   => do
        let (inner, rest) ← open? flags cs
        read? flags fuel inner (level :: outer) rest
    | ']' :: cs        => do
      let item ← level.close? flags
      match outer with
      | []             => return (item, cs)
      | level :: outer => read? flags fuel (level.add item) outer cs
    | '&' :: '&' :: cs => read? flags fuel (level.operate flags .inter) outer cs
    | '-' :: '-' :: cs => read? flags fuel (level.operate flags .diff) outer cs
    | '~' :: '~' :: cs => read? flags fuel (level.operate flags .symDiff) outer cs
    | cs               => do
      let (item, rest) ← readRange? flags cs
      read? flags fuel (level.add item) outer rest

end Brackets

-- The part of a group or of the whole pattern that is being read: the branches that are complete, and
-- the items of the one that is not, each with the last one first.
structure Branches where
  done  : List Pattern := []
  items : List Pattern := []

namespace Branches

def add (b : Branches) (p : Pattern) : Branches :=
  { b with items := p :: b.items }

-- Ends the current branch at a bar.
def bar (b : Branches) : Branches :=
  ⟨Pattern.ofItems b.items.reverse :: b.done, []⟩

def pattern (b : Branches) : Pattern :=
  Pattern.ofBranches b.bar.done.reverse

-- Repeats the last item. There must be one, and it must not be a setting of flags.
def repeat? (b : Branches) (min : Nat) (max : Option Nat) : Option Branches :=
  match b.items with
  | []                 => none
  | .directive :: _    => none
  | p :: items         => some { b with items := .times p min max :: items }

end Branches

-- A state of reading. `outer` are the open groups around the current one, with their flags. Flags hold up to the end of
-- the group in which they are set, across its bars.
structure Progress where
  flags : Flags := {}
  names : List String := []
  inner : Branches := {}
  outer : List (Flags × Branches) := []

namespace Progress

def isNameStart (c : Char) : Bool :=
  c = '_' || Unicode.Property.alphabetic c

def isNamePart (c : Char) : Bool :=
  c = '_' || c = '.' || c = '[' || c = ']' || Unicode.Property.alphabetic c ||
    Unicode.Property.anyOf [.decimalDigit, .letterNumber, .otherNumber] c

-- The name of a group, up to the closing angle.
def groupName? (cs : List Char) : Option (String × List Char) :=
  let name := cs.takeWhile (· != '>')
  match cs.dropWhile (· != '>') with
  | _ :: rest =>
    if name.head?.any isNameStart && name.all isNamePart then some (String.ofList name, rest) else none
  | []        => none

def enter (s : Progress) (flags : Flags) : Progress :=
  { s with flags := flags, inner := {}, outer := (s.flags, s.inner) :: s.outer }

def enterNamed? (s : Progress) (cs : List Char) : Option (Progress × List Char) := do
  let (name, rest) ← groupName? cs
  if s.names.contains name then none
  else return ({ s.enter s.flags with names := name :: s.names }, rest)

-- What follows an opening parenthesis.
def open? (s : Progress) (cs : List Char) : Option (Progress × List Char) :=
  match s.flags.next cs with
  | '?' :: '=' :: _          => none
  | '?' :: '!' :: _          => none
  | '?' :: '<' :: '=' :: _   => none
  | '?' :: '<' :: '!' :: _   => none
  | '?' :: 'P' :: '<' :: cs  => s.enterNamed? cs
  | '?' :: '<' :: cs         => s.enterNamed? cs
  | '?' :: cs                =>
    match s.flags.read? [] true cs with
    | some (flags, ')', rest) =>
      -- Without any flag this would be a repetition of nothing.
      if cs.head? = some ')' then none
      else some ({ s with flags := flags, inner := s.inner.add .directive }, rest)
    | some (flags, _, rest)   => some (s.enter flags, rest)
    | none                    => none
  | cs                       => some (s.enter s.flags, cs)

def close? (s : Progress) : Option Progress :=
  match s.outer with
  | []                      => none
  | (flags, inner) :: outer =>
    some { s with flags := flags, inner := inner.add (.group s.inner.pattern), outer := outer }

def add (s : Progress) (p : Pattern) : Progress :=
  { s with inner := s.inner.add p }

def repeat? (s : Progress) (min : Nat) (max : Option Nat) : Option Progress :=
  (s.inner.repeat? min max).map fun inner => { s with inner := inner }

-- A question mark after a repetition makes it lazy.
def dropLazy : List Char → List Char
  | '?' :: cs => cs
  | cs        => cs

-- The counts of a repetition in braces, after the opening one.
def counts? (flags : Flags) (cs : List Char) : Option (Nat × Option Nat × List Char) :=
  match decimal? flags (flags.next cs) with
  | (min, ',' :: cs)    =>
    match flags.next cs with
    | '\x7d' :: rest => min.map (·, none, rest)
    | cs             =>
      match min, decimal? flags cs with
      | some min, (some max, '\x7d' :: rest) => if min ≤ max then some (min, some max, rest) else none
      | _,        _                          => none
  | (min, '\x7d' :: rest) => min.map fun n => (n, some n, rest)
  | _                     => none

-- Any character, or any but those that end a line. Where Unicode is off it would match single bytes.
def dot? (flags : Flags) : Option Pattern :=
  if !flags.unicode then none
  else if flags.dotAll then some (.chars .any 0)
  else if flags.crlf then some (.chars (.negate (.union (.single '\r') (.single '\n'))) 0)
  else some (.chars (.negate (.single '\n')) 0)

def caret (flags : Flags) : Look :=
  if !flags.multiLine then .textStart else if flags.crlf then .crlfLineStart else .lineStart

def dollar (flags : Flags) : Look :=
  if !flags.multiLine then .textEnd else if flags.crlf then .crlfLineEnd else .lineEnd

-- Reads the next part of a pattern, which begins with the character `c`.
def step? (s : Progress) (c : Char) (cs : List Char) : Option (Progress × List Char) :=
  match c with
  | '('    => s.open? cs
  | ')'    => s.close?.map (·, cs)
  | '|'    => some ({ s with inner := s.inner.bar }, cs)
  | '['    => do
    let (level, cs) ← Brackets.open? s.flags cs
    let (item, rest) ← Brackets.read? s.flags (cs.length + 1) level [] cs
    return (s.add (.chars item.set item.depth), rest)
  | '?'    => (s.repeat? 0 (some 1)).map (·, dropLazy cs)
  | '*'    => (s.repeat? 0 none).map (·, dropLazy cs)
  | '+'    => (s.repeat? 1 none).map (·, dropLazy cs)
  | '\x7b' => do
    let (min, max, rest) ← counts? s.flags cs
    let s' ← s.repeat? min max
    return (s', dropLazy (s.flags.next rest))
  | '\\'   => do
    let (primitive, rest) ← Primitive.readEscape? s.flags cs
    let p ← primitive.pattern? s.flags
    return (s.add p, rest)
  | '.'    => (dot? s.flags).map fun p => (s.add p, cs)
  | '^'    => some (s.add (.look (caret s.flags)), cs)
  | '$'    => some (s.add (.look (dollar s.flags)), cs)
  | c      => ((Primitive.char c false).pattern? s.flags).map fun p => (s.add p, cs)

-- Every step takes at least one character, so the length of the text bounds their number.
def run : Nat → Progress → List Char → Option Progress
  | 0,        _, _  => none
  | fuel + 1, s, cs =>
    match s.flags.next cs with
    | []      => some s
    | c :: cs =>
      match s.step? c cs with
      | some (s, rest) => run fuel s rest
      | none           => none

end Progress

namespace Pattern

-- The pattern that a text stands for. All groups have to be closed.
def ofText? (text : String) : Option Pattern := do
  let s ← Progress.run (text.toList.length + 1) {} text.toList
  if s.outer.isEmpty && s.inner.pattern.isSmall then return s.inner.pattern else none

end Pattern

-- The regular expression that a text stands for.
def ofText? (text : String) : Option Regex :=
  (Pattern.ofText? text).map (·.toRegex)

end RpcProxy.Regex
