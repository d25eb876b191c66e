/-! # Bytes that are no text

* `Utf8Fault` — where a byte string stops being UTF-8
* `utf8Fault?` — the first fault of a byte string
-/

set_option autoImplicit false

namespace DocAtlas.Text

/-- Where a byte string stops being UTF-8. -/
structure Utf8Fault where
  /-- The number of bytes up to the faulty sequence. -/
  start : Nat
  /-- The number of bytes in the faulty sequence, none if the string ends within it. -/
  length : Option Nat
  deriving DecidableEq, Repr

def Utf8Fault.message (fault : Utf8Fault) : String :=
  match fault.length with
  | some n => s!"invalid utf-8 sequence of {n} bytes from index {fault.start}"
  | none => s!"incomplete utf-8 byte sequence from index {fault.start}"

/-- What a first byte announces: how many bytes are to follow, and the least and greatest value of
the next one. -/
def announced (b : UInt8) : Option (Nat × UInt8 × UInt8) :=
  if b ≤ 0x7F then some (0, 0, 0)
  else if 0xC2 ≤ b ∧ b ≤ 0xDF then some (1, 0x80, 0xBF)
  else if b = 0xE0 then some (2, 0xA0, 0xBF)
  else if b = 0xED then some (2, 0x80, 0x9F)
  else if 0xE1 ≤ b ∧ b ≤ 0xEF then some (2, 0x80, 0xBF)
  else if b = 0xF0 then some (3, 0x90, 0xBF)
  else if 0xF1 ≤ b ∧ b ≤ 0xF3 then some (3, 0x80, 0xBF)
  else if b = 0xF4 then some (3, 0x80, 0x8F)
  else none

/-- The first fault of the bytes behind `taken` bytes of a sequence that began at `start`, when
`owed` bytes of it are still to come and the next one lies between `low` and `high`. -/
def utf8FaultFrom (start taken owed : Nat) (low high : UInt8) : List UInt8 → Option Utf8Fault
  | [] => if owed = 0 then none else some ⟨start, none⟩
  | b :: rest =>
    if owed = 0 then
      match announced b with
      | none => some ⟨start, some 1⟩
      | some (0, _, _) => utf8FaultFrom (start + 1) 0 0 0 0 rest
      | some (n + 1, least, greatest) => utf8FaultFrom start 1 (n + 1) least greatest rest
    else if low ≤ b ∧ b ≤ high then
      if owed = 1 then utf8FaultFrom (start + taken + 1) 0 0 0 0 rest
      else utf8FaultFrom start (taken + 1) (owed - 1) 0x80 0xBF rest
    else
      some ⟨start, some taken⟩

/-- The first fault of a byte string. -/
def utf8Fault? (bytes : List UInt8) : Option Utf8Fault := utf8FaultFrom 0 0 0 0 0 bytes

end DocAtlas.Text
