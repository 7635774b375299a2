import Sluice.Document.Token

/-!
# Values of a JSON document

The tokens of a document are put together with a stack of the arrays and objects that are still
open, so the depth of a document is bounded by its length alone. Members of an object keep their
order, and a repeated key keeps all its values: what repetition means is for the reader of the
object to say.
-/
namespace Sluice.Document

inductive Value where
  | null
  | bool (b : Bool)
  | number (n : Number)
  | text (content : Option String)
  | array (items : List Value)
  | object (members : List (Option String × Value))
deriving Inhabited

/-- An array or object that is still open, with what it holds so far, last first. -/
inductive Frame where
  | array (items : List Value)
  | object (members : List (Option String × Value))
  /-- An object that waits for the value of a key. -/
  | member (members : List (Option String × Value)) (key : Option String)
deriving Inhabited

/-- What may come next. -/
inductive Expected where
  | value
  /-- A value, or the end of the array that was just opened. -/
  | valueOrClose
  | key
  /-- A key, or the end of the object that was just opened. -/
  | keyOrClose
  | colon
  | commaOrClose
deriving DecidableEq, Inhabited

/-- How far a document has been put together. -/
inductive Assembly where
  | busy (frames : List Frame) (expected : Expected)
  | finished (value : Value)
deriving Inhabited

/-- Puts a finished value into the innermost open frame. -/
def place (value : Value) : List Frame → Option Assembly
  | [] => some (.finished value)
  | .array items :: rest => some (.busy (.array (value :: items) :: rest) .commaOrClose)
  | .member members key :: rest =>
    some (.busy (.object ((key, value) :: members) :: rest) .commaOrClose)
  | .object _ :: _ => none

/-- A token where a value may stand. -/
def begin (frames : List Frame) : Token → Option Assembly
  | .null => place .null frames
  | .bool b => place (.bool b) frames
  | .number n => place (.number n) frames
  | .text content => place (.text content) frames
  | .openArray => some (.busy (.array [] :: frames) .valueOrClose)
  | .openObject => some (.busy (.object [] :: frames) .keyOrClose)
  | _ => none

/-- A closing bracket. -/
def close : Token → List Frame → Option Assembly
  | .closeArray, .array items :: rest => place (.array items.reverse) rest
  | .closeObject, .object members :: rest => place (.object members.reverse) rest
  | _, _ => none

/-- One token. Nothing may follow a finished document. -/
def Assembly.step : Assembly → Token → Option Assembly
  | .finished _, _ => none
  | .busy frames .value, token => begin frames token
  | .busy frames .valueOrClose, token =>
    if token = .closeArray then close token frames else begin frames token
  | .busy (.object members :: rest) .key, .text key =>
    some (.busy (.member members key :: rest) .colon)
  | .busy (.object members :: rest) .keyOrClose, .text key =>
    some (.busy (.member members key :: rest) .colon)
  | .busy frames .keyOrClose, token => close token frames
  | .busy frames .colon, .colon => some (.busy frames .value)
  | .busy (.array items :: rest) .commaOrClose, .comma =>
    some (.busy (.array items :: rest) .value)
  | .busy (.object members :: rest) .commaOrClose, .comma =>
    some (.busy (.object members :: rest) .key)
  | .busy frames .commaOrClose, token => close token frames
  | _, _ => none

/-- The value that the tokens make up. -/
def Value.ofTokens? (tokens : List Token) : Option Value :=
  match tokens.foldlM Assembly.step (.busy [] .value) with
  | some (.finished value) => some value
  | _ => none

/-- The value that a text spells. -/
def Value.ofText? (text : String) : Option Value := tokens? text >>= Value.ofTokens?

end Sluice.Document
