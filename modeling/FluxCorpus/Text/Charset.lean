import FluxCorpus.Text.Pieces
import FluxCorpus.Text.Utf8

/-!
# Character sets

Bytes as text, in one of the character sets that servers use for messages.  A mark at the beginning
of the bytes tells the character set whatever their label says, and is no part of the text.
-/

namespace FluxCorpus.Text

/-- A way of writing text as bytes. -/
inductive Charset
  | utf8
  | western
  | utf16 (bigEndian : Bool)
deriving DecidableEq, Repr

namespace Charset

/-- The labels of the western character set. -/
def westernLabels : List String :=
  ["ansi_x3.4-1968", "ascii", "cp1252", "cp819", "csisolatin1", "ibm819", "iso-8859-1",
    "iso-ir-100", "iso8859-1", "iso88591", "iso_8859-1", "iso_8859-1:1987", "l1", "latin1",
    "us-ascii", "windows-1252", "x-cp1252"]

/-- The labels of the character set of 16-bit units, least significant byte first. -/
def utf16Labels : List String :=
  ["csunicode", "iso-10646-ucs-2", "ucs-2", "unicode", "unicodefeff", "utf-16", "utf-16le"]

/-- The character set of a label; for an unknown label the usual one. -/
def ofLabel (label : String) : Charset :=
  let label := String.ofList ((trim (fun c => c.isWhitespace) label.toList).map Char.toLower)
  if westernLabels.contains label then western
  else if utf16Labels.contains label then utf16 false
  else if ["unicodefffe", "utf-16be"].contains label then utf16 true
  else utf8

/-- The characters of the western character set from 0x80 to 0x9F. -/
def westernBlock : List Nat :=
  [0x20AC, 0x81, 0x201A, 0x192, 0x201E, 0x2026, 0x2020, 0x2021, 0x2C6, 0x2030, 0x160, 0x2039, 0x152,
    0x8D, 0x17D, 0x8F, 0x90, 0x2018, 0x2019, 0x201C, 0x201D, 0x2022, 0x2013, 0x2014, 0x2DC, 0x2122,
    0x161, 0x203A, 0x153, 0x9D, 0x17E, 0x178]

/-- A byte in the western character set. -/
def westernChar (b : UInt8) : Char :=
  Char.ofNat (if 0x80 ≤ b.toNat then (westernBlock[b.toNat - 0x80]?).getD b.toNat else b.toNat)

/-- The 16-bit units of a list of bytes; half a unit at the end counts as broken. -/
def units16 (bigEndian : Bool) : List UInt8 → List (Option Nat)
  | a :: b :: rest =>
    some (if bigEndian then a.toNat * 256 + b.toNat else b.toNat * 256 + a.toNat)
      :: units16 bigEndian rest
  | [_] => [none]
  | [] => []

/-- The characters of a list of 16-bit units, with a replacement for whatever is broken. -/
def join16 : List (Option Nat) → List Char
  | [] => []
  | none :: us => '\uFFFD' :: join16 us
  | some u :: us =>
    if 0xD800 ≤ u ∧ u ≤ 0xDBFF then
      match us with
      | some v :: rest =>
        if 0xDC00 ≤ v ∧ v ≤ 0xDFFF then
          Char.ofNat (0x10000 + (u - 0xD800) * 1024 + (v - 0xDC00)) :: join16 rest
        else '\uFFFD' :: join16 (some v :: rest)
      | rest => '\uFFFD' :: join16 rest
    else if 0xDC00 ≤ u ∧ u ≤ 0xDFFF then '\uFFFD' :: join16 us
    else Char.ofNat u :: join16 us

/-- The text of bytes without a mark. -/
def decodePlain : Charset → List UInt8 → List Char
  | utf8, bs => Utf8.decodeLossy bs
  | western, bs => bs.map westernChar
  | utf16 bigEndian, bs => join16 (units16 bigEndian bs)

/-- The text of bytes. -/
def decode (c : Charset) (bs : List UInt8) : String :=
  String.ofList <| match bs with
    | 0xEF :: 0xBB :: 0xBF :: bs => utf8.decodePlain bs
    | 0xFF :: 0xFE :: bs => (utf16 false).decodePlain bs
    | 0xFE :: 0xFF :: bs => (utf16 true).decodePlain bs
    | bs => c.decodePlain bs

end Charset

end FluxCorpus.Text
