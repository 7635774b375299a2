/-!
# Text from any bytes

Reads bytes as UTF-8 where they are, and puts one replacement character for each longest run
of bytes that starts a character and cannot go on. The reader is a machine that sees one byte
at a time, so no byte is looked at twice and none is skipped.
-/
namespace Sluice.Text

/-- A character that has been started: the range its next byte must lie in, how many more
bytes follow that one, and the bits read so far. -/
structure Started where
  low : Nat
  high : Nat
  more : Nat
  bits : Nat
deriving DecidableEq

/-- Stands for a run of bytes that is no character. -/
def replacement : Char := '\uFFFD'

/-- What the first byte of a character gives: a finished character, or a started one. The
ranges leave out overlong forms, surrogates and everything past the last code point. -/
def first (b : Nat) : List Char × Option Started :=
  if b < 0x80 then ([Char.ofNat b], none)
  else if 0xC2 ≤ b ∧ b ≤ 0xDF then ([], some ⟨0x80, 0xBF, 0, b - 0xC0⟩)
  else if b = 0xE0 then ([], some ⟨0xA0, 0xBF, 1, 0⟩)
  else if b = 0xED then ([], some ⟨0x80, 0x9F, 1, 0x0D⟩)
  else if 0xE1 ≤ b ∧ b ≤ 0xEF then ([], some ⟨0x80, 0xBF, 1, b - 0xE0⟩)
  else if b = 0xF0 then ([], some ⟨0x90, 0xBF, 2, 0⟩)
  else if 0xF1 ≤ b ∧ b ≤ 0xF3 then ([], some ⟨0x80, 0xBF, 2, b - 0xF0⟩)
  else if b = 0xF4 then ([], some ⟨0x80, 0x8F, 2, 4⟩)
  else ([replacement], none)

/-- One byte. A byte that cannot continue the started character ends it as a replacement and
is then read as a first byte. -/
def step : Option Started → Nat → List Char × Option Started
  | none, b => first b
  | some s, b =>
    if s.low ≤ b ∧ b ≤ s.high then
      let bits := s.bits * 64 + (b - 0x80)
      match s.more with
      | 0 => ([Char.ofNat bits], none)
      | more + 1 => ([], some ⟨0x80, 0xBF, more, bits⟩)
    else
      let (out, next) := first b
      (replacement :: out, next)

/-- All bytes in turn; a character still open at the end is a replacement too. -/
def readLossy : Option Started → List UInt8 → List Char
  | none, [] => []
  | some _, [] => [replacement]
  | s, b :: rest =>
    let (out, next) := step s b.toNat
    out ++ readLossy next rest

/-- The text of the bytes, with replacements where they are not UTF-8. -/
def ofBytes (bytes : ByteArray) : String :=
  match String.fromUTF8? bytes with
  | some text => text
  | none => String.ofList (readLossy none bytes.toList)

/-! ## Some bytes -/

example : readLossy none [0x61, 0xC3, 0xA9, 0xF0, 0x9F, 0x98, 0x80] = ['a', 'é', '😀'] := by
  decide +kernel

/-- Three bytes of an unfinished character are one replacement. -/
example : readLossy none [0xF0, 0x9F, 0x98, 0x61] = [replacement, 'a'] := by decide +kernel

/-- No byte of a surrogate starts or goes on with a character. -/
example : readLossy none [0xED, 0xA0, 0x80] = [replacement, replacement, replacement] := by
  decide +kernel

example : readLossy none [0x61, 0xC3] = ['a', replacement] := by decide +kernel

end Sluice.Text
