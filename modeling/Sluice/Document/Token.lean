/-!
# Tokens of a JSON document

A document is first cut into punctuation, words and strings. The cutter is a machine that sees
one character at a time. A word is a longest run of letters, digits, signs and points; it has to
be one of the three names or a number.

A string may hold escaped surrogates that form no pair. Such a string is well formed but has no
text, so its token carries none.
-/
namespace Sluice.Document

/-- A number as it is written. Only the plain digits of a natural number are given a value. -/
inductive Number where
  | natural (n : Nat)
  | other
deriving DecidableEq, Inhabited

inductive Token where
  | openArray
  | closeArray
  | openObject
  | closeObject
  | comma
  | colon
  | null
  | bool (b : Bool)
  | number (n : Number)
  /-- A string, without a text if it holds half a surrogate pair. -/
  | text (content : Option String)
deriving DecidableEq, Inhabited

/-- A part of a string: a character, or the 16-bit unit of a `\u` escape. -/
inductive Piece where
  | char (c : Char)
  | unit (n : Nat)
deriving DecidableEq, Inhabited

/-- The characters of a string. A unit from D800 on needs its other half right after it. -/
def join : List Piece → Option (List Char)
  | [] => some []
  | .char c :: rest => (join rest).map (c :: ·)
  | .unit high :: .unit low :: rest =>
    if 0xD800 ≤ high ∧ high ≤ 0xDBFF then
      if 0xDC00 ≤ low ∧ low ≤ 0xDFFF then
        (join rest).map (Char.ofNat (0x10000 + (high - 0xD800) * 0x400 + (low - 0xDC00)) :: ·)
      else none
    else if 0xDC00 ≤ high ∧ high ≤ 0xDFFF then none
    else (join (.unit low :: rest)).map (Char.ofNat high :: ·)
  | .unit n :: rest =>
    if 0xD800 ≤ n ∧ n ≤ 0xDFFF then none else (join rest).map (Char.ofNat n :: ·)

/-! ## Words -/

def isDigit (c : Char) : Bool := '0' ≤ c && c ≤ '9'

def isWordChar (c : Char) : Bool :=
  isDigit c || ('a' ≤ c && c ≤ 'z') || ('A' ≤ c && c ≤ 'Z') || c == '+' || c == '-' || c == '.'

/-- The value of a run of digits. -/
def digitsValue (digits : List Char) : Nat :=
  digits.foldl (fun n c => n * 10 + (c.toNat - '0'.toNat)) 0

/-- One or more digits. -/
def isDigits (cs : List Char) : Bool := !cs.isEmpty && cs.all isDigit

/-- Digits that do not start with a zero, or the zero alone. -/
def isNatural (cs : List Char) : Bool := isDigits cs && (cs.length == 1 || cs.head? != some '0')

/-- The part after `e`: digits, which a sign may precede. -/
def isExponent (cs : List Char) : Bool :=
  match cs with
  | '+' :: rest => isDigits rest
  | '-' :: rest => isDigits rest
  | _ => isDigits cs

/-- The part after the whole digits: nothing, a fraction, an exponent, or both. -/
def isTail (cs : List Char) : Bool :=
  let exponent (cs : List Char) : Bool :=
    match cs with
    | [] => true
    | c :: rest => (c == 'e' || c == 'E') && isExponent rest
  match cs with
  | '.' :: rest => isDigits (rest.takeWhile isDigit) && exponent (rest.dropWhile isDigit)
  | _ => exponent cs

def number? (cs : List Char) : Option Number :=
  if isNatural cs then some (.natural (digitsValue cs))
  else
    let body := match cs with
      | '-' :: rest => rest
      | _ => cs
    if isNatural (body.takeWhile isDigit) && isTail (body.dropWhile isDigit) then some .other
    else none

def word? (cs : List Char) : Option Token :=
  if cs = ['n', 'u', 'l', 'l'] then some .null
  else if cs = ['t', 'r', 'u', 'e'] then some (.bool true)
  else if cs = ['f', 'a', 'l', 's', 'e'] then some (.bool false)
  else (number? cs).map .number

/-! ## The cutter -/

/-- Where the cutter stands. What it has read of a word or a string is kept last first. -/
inductive Mode where
  | between
  | word (read : List Char)
  | text (read : List Piece)
  | escape (read : List Piece)
  | unicode (read : List Piece) (missing value : Nat)
deriving DecidableEq, Inhabited

def punctuation? : Char → Option Token
  | '[' => some .openArray
  | ']' => some .closeArray
  | '\x7b' => some .openObject
  | '\x7d' => some .closeObject
  | ',' => some .comma
  | ':' => some .colon
  | _ => none

def isBlank (c : Char) : Bool := c == ' ' || c == '\n' || c == '\t' || c == '\r'

/-- The character a one-letter escape stands for. -/
def escaped? : Char → Option Char
  | '"' => some '"'
  | '\\' => some '\\'
  | '/' => some '/'
  | 'b' => some '\x08'
  | 'f' => some '\x0c'
  | 'n' => some '\n'
  | 'r' => some '\r'
  | 't' => some '\t'
  | _ => none

def hexDigit? (c : Char) : Option Nat :=
  if isDigit c then some (c.toNat - '0'.toNat)
  else if 'a' ≤ c && c ≤ 'f' then some (c.toNat - 'a'.toNat + 10)
  else if 'A' ≤ c && c ≤ 'F' then some (c.toNat - 'A'.toNat + 10)
  else none

/-- A character outside words and strings. -/
def start (c : Char) : Option (List Token × Mode) :=
  if isBlank c then some ([], .between)
  else if c = '"' then some ([], .text [])
  else if isWordChar c then some ([], .word [c])
  else (punctuation? c).map fun t => ([t], .between)

/-- One character: the tokens it completes, and where the cutter stands then. -/
def Mode.step : Mode → Char → Option (List Token × Mode)
  | .between, c => start c
  | .word read, c =>
    if isWordChar c then some ([], .word (c :: read))
    else do
      let token ← word? read.reverse
      let (more, mode) ← start c
      return (token :: more, mode)
  | .text read, c =>
    if c = '"' then some ([.text ((join read.reverse).map String.ofList)], .between)
    else if c = '\\' then some ([], .escape read)
    else if c.toNat < 0x20 then none
    else some ([], .text (.char c :: read))
  | .escape read, c =>
    if c = 'u' then some ([], .unicode read 3 0)
    else (escaped? c).map fun e => ([], .text (.char e :: read))
  | .unicode read missing value, c =>
    (hexDigit? c).map fun d =>
      match missing with
      | 0 => ([], .text (.unit (value * 16 + d) :: read))
      | n + 1 => ([], .unicode read n (value * 16 + d))

/-- The tokens completed by the end of the document. -/
def Mode.finish : Mode → Option (List Token)
  | .between => some []
  | .word read => (word? read.reverse).map fun t => [t]
  | _ => none

/-- The tokens of a document, last first, from those already cut. -/
def cut (done : List Token) (mode : Mode) : List Char → Option (List Token)
  | [] => mode.finish.map fun last => last.reverse ++ done
  | c :: rest =>
    match mode.step c with
    | none => none
    | some (tokens, mode) => cut (tokens.reverse ++ done) mode rest

/-- The tokens of a document. -/
def tokens? (text : String) : Option (List Token) := (cut [] .between text.toList).map List.reverse

end Sluice.Document
