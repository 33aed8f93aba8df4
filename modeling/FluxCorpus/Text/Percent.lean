import FluxCorpus.Text.Hexadecimal
import FluxCorpus.Text.Utf8

/-!
# Percent-encoding

A byte is written as a percent sign and two hexadecimal digits.  `encode` writes the bytes of all
characters that may not stand for themselves; `decode` reads such bytes back and takes any other
character as it is.
-/

namespace FluxCorpus.Text.Percent

/-- The written form of one byte. -/
def encodeByte (b : UInt8) : List Char :=
  ['%', Hexadecimal.upperDigit (b.toNat / 16), Hexadecimal.upperDigit (b.toNat % 16)]

/-- A text in which only characters of a given class stand for themselves. -/
def encode (plain : Char → Bool) (cs : List Char) : List Char :=
  cs.flatMap fun c => if plain c then [c] else (String.utf8EncodeChar c).flatMap encodeByte

/-- The bytes that a text stands for.  A percent sign without two digits stands for itself. -/
def decode : List Char → List UInt8
  | '%' :: a :: b :: cs =>
    match Hexadecimal.value? a, Hexadecimal.value? b with
    | some high, some low => (high * 16 + low).toUInt8 :: decode cs
    | _, _ => '%'.toUInt8 :: decode (a :: b :: cs)
  | c :: cs => String.utf8EncodeChar c ++ decode cs
  | [] => []

end FluxCorpus.Text.Percent
