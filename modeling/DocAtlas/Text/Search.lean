/-! # Searching in a text

* `contains` — whether a text occurs in another
* `before?` — what stands before the first occurrence
* `occurrences` — where a text occurs, from left to right and without overlap
* `splitAtLast`, `afterLast?` — a text cut at the last place of a character
-/

set_option autoImplicit false

namespace DocAtlas.Text

/-- Whether `word` occurs in the text. -/
def contains (word : List Char) : List Char → Bool
  | [] => word.isEmpty
  | c :: rest => word.isPrefixOf (c :: rest) || contains word rest

/-- What stands before the first occurrence of `word`. -/
def before? (word : List Char) : List Char → Option (List Char)
  | [] => if word.isEmpty then some [] else none
  | c :: rest =>
    if word.isPrefixOf (c :: rest) then some [] else (before? word rest).map (c :: ·)

/-- The places of `word` in a text that starts at `place`: each occurrence is looked for behind the
one before it. The next `skip` characters belong to an occurrence already counted. -/
def occurrencesFrom (word : List Char) : (place skip : Nat) → List Char → List Nat
  | _, _, [] => []
  | place, skip + 1, _ :: rest => occurrencesFrom word (place + 1) skip rest
  | place, 0, c :: rest =>
    if word.isPrefixOf (c :: rest) then
      place :: occurrencesFrom word (place + 1) (word.length - 1) rest
    else
      occurrencesFrom word (place + 1) 0 rest

/-- The places at which a non-empty `word` occurs, from left to right and without overlap. -/
def occurrences (word s : List Char) : List Nat := occurrencesFrom word 0 0 s

/-- What stands before and behind the last `c`. -/
def splitAtLast (c : Char) : List Char → Option (List Char × List Char)
  | [] => none
  | d :: rest =>
    match splitAtLast c rest with
    | some (before, behind) => some (d :: before, behind)
    | none => if d = c then some ([], rest) else none

/-- What stands behind the last `c`. -/
def afterLast? (c : Char) (s : List Char) : Option (List Char) := (splitAtLast c s).map (·.2)

end DocAtlas.Text
