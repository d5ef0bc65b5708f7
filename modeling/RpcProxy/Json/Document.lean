import RpcProxy.Json.Token

namespace RpcProxy.Json

-- Whether an array or object was closed, or broke off after its last item.
inductive Ending
  | closed
  | broken
  deriving DecidableEq, Repr, Inhabited

-- The tree of a text that is read as JSON. Where the text stops being JSON, the tree has a broken end, and what was
-- read before that point is all there.
inductive Document
  | null
  | bool (b : Bool)
  | number (n : Number)
  | text (s : String)
  | array (items : List Document) (ending : Ending)
  -- A key with half of a surrogate pair in it is no text.
  | object (members : List (Option String × Document)) (ending : Ending)
  -- An object with a value in the place of its first key.
  | keyless (first : Document)
  -- A text with half of a surrogate pair in it, or a number greater than every float.
  | valueless
  | broken
  deriving Inhabited

namespace Document

-- What may stand next.
inductive Place
  | value
  | itemOrEnd
  | keyOrEnd
  | key
  | colon
  -- A value has just been read.
  | after (v : Document)

-- An array or object that is still open, its last item first.
inductive Frame
  | items (read : List Document)
  | members (read : List (Option String × Document)) (key : Option String)

-- A tree, and whether any token follows it.
structure Reading where
  document : Document
  trailing : Bool

-- Ends every open array and object as broken, the innermost one with one more broken item.
def abandon (innermost : Document) : List Frame → Document
  | []                         => innermost
  | .items read :: frames      => abandon (.array (innermost :: read).reverse .broken) frames
  | .members read key :: frames =>
    abandon (.object ((key, innermost) :: read).reverse .broken) frames

-- Ends the innermost array or object as broken after its last item, and then the others.
def breakOff : List Frame → Document
  | []                            => .broken
  | .items read :: frames         => abandon (.array read.reverse .broken) frames
  | .members read _ :: frames     => abandon (.object read.reverse .broken) frames

-- The value that a token is on its own.
def ofToken? : Token → Option Document
  | .null         => some .null
  | .bool b       => some (.bool b)
  | .number n     => some (.number n)
  | .hugeNumber   => some .valueless
  | .text s       => some (.text s)
  | .unpairedText => some .valueless
  | _             => none

-- What a token in the place of a first key is taken for. Nothing after it is read.
def ofStrayKey : Token → Document
  | .openArray  => .array [] .broken
  | .openObject => .object [] .broken
  | token       => (ofToken? token).getD .broken

def build : List Token → Place → List Frame → Reading
  | [], .after v, []     => ⟨v, false⟩
  | _ :: _, .after v, [] => ⟨v, true⟩
  | .comma :: ts, .after v, .items read :: frames => build ts .value (.items (v :: read) :: frames)
  | .closeArray :: ts, .after v, .items read :: frames =>
    build ts (.after (.array (v :: read).reverse .closed)) frames
  | _, .after v, .items read :: frames =>
    ⟨breakOff (.items (v :: read) :: frames), true⟩
  | .comma :: ts, .after v, .members read key :: frames =>
    build ts .key (.members ((key, v) :: read) none :: frames)
  | .closeObject :: ts, .after v, .members read key :: frames =>
    build ts (.after (.object ((key, v) :: read).reverse .closed)) frames
  | _, .after v, .members read key :: frames =>
    ⟨breakOff (.members ((key, v) :: read) none :: frames), true⟩
  | .closeArray :: ts, .itemOrEnd, .items _ :: frames =>
    build ts (.after (.array [] .closed)) frames
  | .closeObject :: ts, .keyOrEnd, .members _ _ :: frames =>
    build ts (.after (.object [] .closed)) frames
  | .text s :: ts, .keyOrEnd, .members read _ :: frames =>
    build ts .colon (.members read (some s) :: frames)
  | .unpairedText :: ts, .keyOrEnd, .members read _ :: frames =>
    build ts .colon (.members read none :: frames)
  | token :: _, .keyOrEnd, _ :: frames => ⟨abandon (.keyless (ofStrayKey token)) frames, true⟩
  | .text s :: ts, .key, .members read _ :: frames => build ts .colon (.members read (some s) :: frames)
  | .unpairedText :: ts, .key, .members read _ :: frames =>
    build ts .colon (.members read none :: frames)
  | .colon :: ts, .colon, frames => build ts .value frames
  | _, .colon, frames => ⟨abandon .broken frames, true⟩
  | .openArray :: ts, .value, frames => build ts .itemOrEnd (.items [] :: frames)
  | .openArray :: ts, .itemOrEnd, frames => build ts .itemOrEnd (.items [] :: frames)
  | .openObject :: ts, .value, frames => build ts .keyOrEnd (.members [] none :: frames)
  | .openObject :: ts, .itemOrEnd, frames => build ts .keyOrEnd (.members [] none :: frames)
  | token :: ts, .value, frames =>
    match ofToken? token with
    | some v => build ts (.after v) frames
    | none   => ⟨abandon .broken frames, true⟩
  | token :: ts, .itemOrEnd, frames =>
    match ofToken? token with
    | some v => build ts (.after v) frames
    | none   => ⟨abandon .broken frames, true⟩
  | [], .value, frames => ⟨abandon .broken frames, true⟩
  | _, _, frames => ⟨breakOff frames, true⟩

-- The tree of a text, and whether anything follows it.
def read (text : String) : Reading :=
  build (Token.scan text) .value []

mutual

-- Whether the text of a document is JSON, as far as the document goes.
def wellFormed : Document → Bool
  | .array items ending    => wellFormedItems items && ending == .closed
  | .object members ending => wellFormedMembers members && ending == .closed
  | .keyless _             => false
  | .broken                => false
  | _                      => true

def wellFormedItems : List Document → Bool
  | []        => true
  | d :: rest => wellFormed d && wellFormedItems rest

def wellFormedMembers : List (Option String × Document) → Bool
  | []             => true
  | (_, d) :: rest => wellFormed d && wellFormedMembers rest

end

end Document

end RpcProxy.Json
