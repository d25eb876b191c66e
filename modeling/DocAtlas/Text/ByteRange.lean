/-! # Ranges of characters in bytes

* `ByteRange` — the bytes between two others
* `byteSequences` — the texts of one character between two others, as sequences of byte ranges
-/

set_option autoImplicit false

namespace DocAtlas.Text

/-- The bytes from `first` to `last`. -/
structure ByteRange where
  first : Nat
  last : Nat
  deriving DecidableEq, Repr, Hashable

/-- The bytes of a code point. -/
def bytesOf (n : Nat) : List Nat :=
  let more (shift : Nat) : Nat := 0x80 + n / shift % 64
  if n < 0x80 then [n]
  else if n < 0x800 then [0xC0 + n / 64, more 1]
  else if n < 0x10000 then [0xE0 + n / 4096, more 64, more 1]
  else [0xF0 + n / 262144, more 4096, more 64, more 1]

/-- Where a range of code points has to be cut so that all its characters have the same number of
bytes, and each byte runs through a range of its own: the first code point behind the cut. -/
def cut? (first last : Nat) : Option Nat :=
  let byLength := [0x80, 0x800, 0x10000].find? fun limit => first < limit && limit ≤ last
  let byBlock := [64, 4096, 262144].findSome? fun size =>
    if first / size = last / size then none
    else if first % size ≠ 0 then some ((first / size + 1) * size)
    else if last % size ≠ size - 1 then some (last / size * size)
    else none
  byLength <|> if last < 0x80 then none else byBlock

/-- The texts of one character from `first` to `last` as sequences of byte ranges, the surrogates
left out. -/
def byteSequences (first last : Nat) : List (List ByteRange) :=
  if first < 0xD800 ∧ 0xDFFF < last then
    byteSequences first 0xD7FF ++ byteSequences 0xE000 last
  else if last < first then []
  else
    match cut? first last with
    | some behind =>
      if first < behind ∧ behind ≤ last then
        byteSequences first (behind - 1) ++ byteSequences behind last
      else [(bytesOf first).zipWith ByteRange.mk (bytesOf last)]
    | none => [(bytesOf first).zipWith ByteRange.mk (bytesOf last)]
termination_by last - first

end DocAtlas.Text
