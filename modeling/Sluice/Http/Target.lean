import Sluice.Http.Token

/-!
# Request targets

A target is read only for its path. Three forms have one: the origin form (`/path?query`), the
asterisk, and the absolute form (`scheme://authority/path`). The fourth, an authority alone,
has the empty path. Nothing is decoded or normalised, and whatever follows `#` is dropped
unread.
-/
namespace Sluice.Http.Target

/-- A target has at most this many bytes. -/
def maxBytes : Nat := 65534

/-- What may stand in a path unescaped. Quotes and braces are let through for clients that put
documents into the path, and so is everything outside ASCII. -/
def isPathChar (c : Nat) : Bool :=
  c == 0x21 || c == 0x22 || (0x24 ≤ c && c ≤ 0x3B) || c == 0x3D || (0x40 ≤ c && c ≤ 0x5F)
    || (0x61 ≤ c && c ≤ 0x7E) || 0x80 ≤ c

/-- What may stand in a query unescaped. -/
def isQueryChar (c : Nat) : Bool :=
  c == 0x21 || (0x24 ≤ c && c ≤ 0x3B) || c == 0x3D || (0x3F ≤ c && c ≤ 0x7E) || 0x80 ≤ c

/-- The marks that may stand in an authority beside letters and digits. -/
def authorityMarks : List Nat :=
  [0x21, 0x24, 0x26, 0x27, 0x28, 0x29, 0x2A, 0x2B, 0x2C, 0x2D, 0x2E, 0x3B, 0x3D, 0x5F, 0x7E]

/-- What may stand in the name of a scheme. -/
def isSchemeChar (c : Nat) : Bool :=
  isAlphanumeric c || c == 0x2B || c == 0x2D || c == 0x2E || c == 0x7E

/-- The longest name of a scheme other than the two known ones. -/
def maxScheme : Nat := 64

/-- The path of `path?query#fragment`. -/
def originPath? (text : List Char) : Option String :=
  let path := text.takeWhile fun c => c != '?' && c != '#'
  let query := match text.dropWhile fun c => c != '?' && c != '#' with
    | '?' :: rest => rest.takeWhile (· != '#')
    | _ => []
  if path.all (fun c => isPathChar c.toNat) && query.all (fun c => isQueryChar c.toNat) then
    some (if path.isEmpty then "/" else String.ofList path)
  else
    none

/-- What has been seen of an authority. -/
structure Seen where
  /-- Colons since the user part or the bracketed host ended. -/
  colons : Nat := 0
  opened : Bool := false
  closed : Bool := false
  /-- A `%` since the user part or the bracketed host ended. -/
  percent : Bool := false
  /-- The last character was `@`. -/
  atEnd : Bool := false

namespace Seen

/-- Brackets stand once and in order, and no `%` before the opening one; a ninth colon in a row
is refused at once. -/
def next? (s : Seen) (c : Char) : Option Seen :=
  match c with
  | ':' => if 8 ≤ s.colons then none else some { s with colons := s.colons + 1, atEnd := false }
  | '[' => if s.percent || s.opened then none else some { s with opened := true, atEnd := false }
  | ']' =>
    if !s.opened || s.closed then none
    else some { s with closed := true, colons := 0, percent := false, atEnd := false }
  | '@' => some { s with colons := 0, percent := false, atEnd := true }
  | '%' => some { s with percent := true, atEnd := false }
  | c =>
    if isAlphanumeric c.toNat || authorityMarks.contains c.toNat then
      some { s with atEnd := false }
    else
      none

/-- Brackets balance, at most one colon stands in or after the host, a host follows the user
part, and `%` stood in the user part or between brackets only. -/
def complete (s : Seen) : Bool :=
  s.opened == s.closed && s.colons ≤ 1 && !s.atEnd && !s.percent

end Seen

/-- The characters are an authority. It may be empty. -/
def isAuthority (text : List Char) : Bool :=
  match text.foldlM Seen.next? {} with
  | some seen => seen.complete
  | none => false

/-- A scheme before `://`: none at all, too long a name, or one and what follows it. -/
inductive SchemeSplit where
  | absent
  | tooLong
  | scheme (rest : List Char)

def hasScheme (name : String) (text : List Char) : Bool :=
  (text.take name.length).map (fun c => lower c.toNat) == name.toList.map Char.toNat

def splitScheme (text : List Char) : SchemeSplit :=
  if hasScheme "http://" text then .scheme (text.drop 7)
  else if hasScheme "https://" text then .scheme (text.drop 8)
  else
    let name := text.takeWhile fun c => isSchemeChar c.toNat
    match text.drop name.length with
    | ':' :: '/' :: '/' :: rest => if maxScheme < name.length then .tooLong else .scheme rest
    | _ => .absent

/-- Ends an authority. -/
def isDelimiter (c : Char) : Bool := c == '/' || c == '?' || c == '#'

/-- The path of a target, where the target is well formed. -/
def path? (target : String) : Option String :=
  let text := target.toList
  if maxBytes < target.utf8ByteSize then none
  else match text with
  | [] => none
  | ['*'] => some "*"
  | '/' :: _ => originPath? text
  | _ =>
    match splitScheme text with
    | .tooLong => none
    | .absent => if isAuthority text then some "" else none
    | .scheme rest =>
      let authority := rest.takeWhile fun c => !isDelimiter c
      if authority.isEmpty || !isAuthority authority then none
      else originPath? (rest.drop authority.length)

/-! ## Some targets -/

example : path? "/a/b?q#f" = some "/a/b" := by decide +kernel

example : path? "*" = some "*" := by decide +kernel

example : path? "HTTP://user@[::1]:80?q" = some "/" := by decide +kernel

example : path? "host:80" = some "" := by decide +kernel

example : path? "host/a" = none := by decide +kernel

example : path? "/a b" = none := by decide +kernel

end Sluice.Http.Target
