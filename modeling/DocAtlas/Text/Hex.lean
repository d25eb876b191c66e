/-! # Characters by their hexadecimal code

* `hexValue` — the value of a hexadecimal digit
* `coded` — the character with a code
-/

set_option autoImplicit false

namespace DocAtlas.Text

def hexValue (c : Char) : Option Nat :=
  if '0' ≤ c ∧ c ≤ '9' then some (c.toNat - '0'.toNat)
  else if 'a' ≤ c ∧ c ≤ 'f' then some (c.toNat - 'a'.toNat + 10)
  else if 'A' ≤ c ∧ c ≤ 'F' then some (c.toNat - 'A'.toNat + 10)
  else none

/-- The character with the given hexadecimal code, none if there is no such character. -/
def coded (digits : List Char) : Option Char := do
  let code ← digits.foldlM (fun n c => (hexValue c).map (n * 16 + ·)) 0
  if h : code.isValidChar then some (Char.ofNatAux code h) else none

end DocAtlas.Text
