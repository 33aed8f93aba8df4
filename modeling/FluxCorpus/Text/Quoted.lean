import FluxCorpus.Text.Extending
import FluxCorpus.Text.Hexadecimal
import FluxCorpus.Text.Ranges
import FluxCorpus.Text.Unprintable

/-!
# Quoted text for messages

A value inside a message stands between double quotes, and everything in it that a reader could not
see or could misread is escaped: the quote and the backslash, the usual control letters, and any
code point that does not print or has no place of its own.
-/

namespace FluxCorpus.Text.Quoted

/-- Letters that only fill the place of one, and are blank. -/
def fillerRanges : Array (Nat × Nat) := #[(0x115f, 0x1160), (0x3164, 0x3164), (0xffa0, 0xffa0)]

/-- The sound marks of half width: they attach to the character before them and yet have a place of
their own. -/
def soundMarkRanges : Array (Nat × Nat) := #[(0xff9e, 0xff9f)]

/-- A character that is written as its code point rather than as itself. -/
def isHidden (c : Char) : Bool :=
  (inRanges extendingRanges c.toNat && !inRanges soundMarkRanges c.toNat)
    || inRanges unprintableRanges c.toNat || inRanges fillerRanges c.toNat

/-- The written form of one character. -/
def escape (c : Char) : List Char :=
  if c = '\x00' then ['\\', '0']
  else if c = '\t' then ['\\', 't']
  else if c = '\r' then ['\\', 'r']
  else if c = '\n' then ['\\', 'n']
  else if c = '"' ∨ c = '\\' then ['\\', c]
  else if ' ' ≤ c ∧ c ≤ '~' then [c]
  else if isHidden c then ['\\', 'u', '\x7b'] ++ Hexadecimal.digits c.toNat ++ ['\x7d']
  else [c]

/-- The text between double quotes, with every character in its written form. -/
def quote (s : String) : String :=
  String.ofList ('"' :: s.toList.flatMap escape ++ ['"'])

end FluxCorpus.Text.Quoted
