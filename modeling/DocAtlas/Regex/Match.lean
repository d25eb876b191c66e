import DocAtlas.Regex.Places

/-! # Matches in a text

* `Regex.Move` — what a part of an expression does to a set of places of a given text
* `Regex.moves` — the moves of an expression in a text; by `moves_cat` and `applyAll_append` those of
  two expressions follow each other
* `Regex.occursIn` — whether an expression matches some part of a text

Moves take the places at which a match may start to those at which it may end, all of them at once.
What is repeated is resolved from the inside, so that nothing has to be tried again.
-/

set_option autoImplicit false

namespace DocAtlas

namespace Regex

/-- What a part of an expression does to a set of places. -/
inductive Move where
  /-- From some places on over `length` characters. -/
  | pass (places length : Nat)
  /-- On at some places. -/
  | keep (places : Nat)
  | choose (moves others : List Move)
  | leap (leaps : Leaps)

mutual

/-- The places behind a move from a set of places. -/
def Move.apply : Move → Nat → Nat
  | .pass starts length, places => (places &&& starts) <<< length
  | .keep kept, places => places &&& kept
  | .choose moves others, places => applyAll moves places ||| applyAll others places
  | .leap leaps, places => leaps.follow places

/-- The places behind some moves from a set of places. -/
def applyAll : List Move → Nat → Nat
  | [], places => places
  | move :: moves, places => applyAll moves (move.apply places)

end

theorem applyAll_append (moves others : List Move) (places : Nat) :
    applyAll (moves ++ others) places = applyAll others (applyAll moves places) := by
  induction moves generalizing places with
  | nil => rfl
  | cons move moves ih => exact ih (move.apply places)

/-- The places behind which a text starts with some characters. -/
def placesBefore (chars : List Char) : List Char → Nat
  | [] => chars.isEmpty.toNat
  | c :: rest => 2 * placesBefore chars rest + (chars.isPrefixOf (c :: rest)).toNat

/-- The leaps that some moves make up in a text with `count` places. -/
def leapsOf (count : Nat) (moves : List Move) : Leaps :=
  (Array.range count).map fun place => applyAll moves (1 <<< place)

/-- The moves of an expression in a text, last first, in front of those before it. -/
def movesOnto (text : List Char) : Regex → List Move → List Move
  | .text chars, before => .pass (placesBefore chars text) chars.length :: before
  | one set, before => .pass (placesWhere set.contains text) 1 :: before
  | look anchor, before =>
    .keep (placesWhere (fun (c, d) => anchor.holds c d) (surroundings text)) :: before
  | cat r s, before => movesOnto text s (movesOnto text r before)
  | either r s, before =>
    .choose (movesOnto text r []).reverse (movesOnto text s []).reverse :: before
  | repeated r least most _, before =>
    let leaps := leapsOf (text.length + 1) (movesOnto text r []).reverse
    .leap (leaps.between least most) :: before
  | group _ r, before => movesOnto text r before

/-- The moves of an expression in a text. -/
def moves (r : Regex) (text : List Char) : List Move := (movesOnto text r []).reverse

theorem movesOnto_eq (text : List Char) (r : Regex) (before : List Move) :
    movesOnto text r before = movesOnto text r [] ++ before := by
  induction r generalizing before with
  | cat r s ihr ihs =>
    rw [movesOnto, ihs, ihr before, movesOnto, ihs (movesOnto text r []), List.append_assoc]
  | group index r ih => rw [movesOnto, ih, movesOnto]
  | _ => rfl

/-- The moves of two expressions, one behind the other. -/
theorem moves_cat (r s : Regex) (text : List Char) :
    (cat r s).moves text = r.moves text ++ s.moves text := by
  rw [moves, movesOnto, movesOnto_eq, List.reverse_append]
  rfl

/-- Whether an expression matches some part of a text. -/
def occursIn (r : Regex) (text : String) : Bool :=
  let everywhere := 1 <<< (text.toList.length + 1) - 1
  applyAll (r.moves text.toList) everywhere != 0

end Regex

end DocAtlas
