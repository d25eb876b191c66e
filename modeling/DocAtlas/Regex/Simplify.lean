import DocAtlas.Regex.Basic

/-! # Making regular expressions

Expressions are made in a simple form: a set of one character is a text, texts that follow each
other are one, nothing is repeated that need not be, and alternatives that start in the same way
share their start.

* `Regex.ofSet`, `Regex.times`, `Regex.concat`, `Regex.alternation` — how expressions are made
-/

set_option autoImplicit false

namespace DocAtlas

open Text (CharSet)

namespace Regex

/-- One character of a set. -/
def ofSet (set : CharSet) : Regex := set.only?.elim (one set) fun c => text [c]

/-- A repetition. Where nothing but the empty text can be repeated, once is enough. -/
def times (r : Regex) (least : Nat) (most : Option Nat) (greedy : Bool) : Regex :=
  let isBare := r.maxLength = some 0
  let least := if isBare then min least 1 else least
  let most := if isBare then some (min (most.getD 1) 1) else most
  if most = some 0 then empty
  else if least = 1 ∧ most = some 1 then r
  else repeated r least most greedy

/-! ## Concatenation -/

/-- A part in front of others; a text becomes one with the text behind it. -/
def consItem : Regex → List Regex → List Regex
  | text chars, text more :: rest => text (chars ++ more) :: rest
  | r, rest => r :: rest

/-- The parts one behind the other. -/
def ofItems (items : List Regex) : Regex :=
  match items.reverse with
  | [] => empty
  | last :: before => before.foldl (fun s r => cat r s) last

/-- Expressions one behind the other. -/
def concat (rs : List Regex) : Regex := ofItems ((rs.flatMap items).foldr consItem [])

/-! ## Alternatives -/

/-- The character that an expression stands for, if it is a text of one. -/
def onlyChar? : Regex → Option Char
  | text [c] => some c
  | _ => none

/-- The set of which an expression matches one character. -/
def set? : Regex → Option CharSet
  | one set => some set
  | _ => none

/-- How many parts two lists have in common at their starts. -/
def sharedLength : List Regex → List Regex → Nat
  | r :: rs, s :: ss => if r = s then sharedLength rs ss + 1 else 0
  | _, _ => 0

/-- The parts of an expression that has several of them. -/
def severalItems? (r : Regex) : Option (List Regex) :=
  match r with
  | cat _ _ => some r.items
  | _ => none

/-- How many parts all of some lists have in common at their starts. -/
def sharedByAll (lists : List (List Regex)) : Nat :=
  match lists with
  | [] => 0
  | first :: others =>
    others.foldl (fun n list => if n = 0 then 0 else min n (sharedLength first list)) first.length

/-- The expressions of which any can match, one in front of the other. -/
def ofAlternatives (alternatives : List Regex) : Regex :=
  match alternatives.reverse with
  | [] => one .none
  | last :: before => before.foldl (fun s r => either r s) last

/-- The number of nodes of an expression, added to `n`. -/
def nodesOnto : Regex → Nat → Nat
  | cat r s, n | either r s, n => nodesOnto s (nodesOnto r (n + 1))
  | repeated r _ _ _, n | group _ r, n => nodesOnto r (n + 1)
  | text _, n | one _, n | look _, n => n + 1

/-- Any of some expressions. What all of them start with is put in front, as often as `fuel`
says. -/
def alternationWith : (fuel : Nat) → List Regex → Regex
  | fuel, rs =>
    let all := rs.flatMap alternatives
    match all with
    | [r] => r
    | _ =>
      match all.mapM onlyChar?, all.mapM set? with
      | some chars, _ => ofSet (.ofChars chars)
      | _, some sets => ofSet (.unions sets)
      | _, _ =>
        match fuel, all.mapM severalItems? with
        | fuel + 1, some lists =>
          let n := sharedByAll lists
          if n = 0 then ofAlternatives all
          else
            let rest := alternationWith fuel (lists.map fun list => concat (list.drop n))
            concat ((lists.headD []).take n ++ [rest])
        | _, _ => ofAlternatives all

/-- Any of some expressions. -/
def alternation (rs : List Regex) : Regex :=
  alternationWith (rs.foldl (fun n r => nodesOnto r n) 0) rs

end Regex

end DocAtlas
