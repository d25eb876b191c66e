import DocAtlas.Regex.Basic
import DocAtlas.Text.ByteRange
import Std.Data.HashMap

/-! # The size of automata

An expression is recognised by an automaton that reads bytes, and by one that reads them from the
end. An expression is refused if one of the two takes up too much room, so how much it takes up is
counted here, without making it.

* `Regex.Automaton` — how many states there are so far, and how much room they take up
* `Automaton.addSet`, `addSetBackward`, `addTrie` — the states for a set and for some texts
* `Regex.build` — the states for an expression
* `Regex.isTooLarge` — whether an expression is refused
-/

set_option autoImplicit false

namespace DocAtlas

open Text (ByteRange CharSet byteSequences bytesOf)

namespace Regex

/-- The states of an automaton so far, numbered from zero. -/
structure Automaton where
  states : Nat := 0
  /-- The room that they take up. -/
  bytes : Nat := 0
  deriving DecidableEq, Repr

namespace Automaton

/-- The room of a state, of a transition on a range of bytes, and of a transition on nothing. -/
def stateBytes : Nat := 32

def rangeBytes : Nat := 8

def linkBytes : Nat := 4

/-- The room that there is for an automaton. -/
def room : Nat := 10485760

def isFull (a : Automaton) : Bool := room < a.bytes

/-- Some more states. -/
def addMany (a : Automaton) (count : Nat) : Automaton :=
  ⟨a.states + count, a.bytes + count * stateBytes⟩

/-- One more state. -/
def add (a : Automaton) : Automaton := a.addMany 1

/-- Some more transitions on nothing. -/
def link (a : Automaton) (count : Nat) : Automaton := { a with bytes := a.bytes + count * linkBytes }

/-- A state with transitions on ranges of bytes. -/
def addRanges (a : Automaton) (count : Nat) : Automaton :=
  { a.add with bytes := a.add.bytes + count * rangeBytes }

/-- The same step many times, as long as there is room. -/
def iterate (step : Automaton → Automaton) : Nat → Automaton → Automaton
  | 0, a => a
  | n + 1, a => if a.isFull then a else iterate step n (step a)

/-! ## Sets -/

/-- A number that depends on all the given ones, below `slots`: where a state is remembered. What
was remembered there before is forgotten. -/
def slotOf (numbers : List Nat) (slots : UInt64) : UInt64 :=
  numbers.foldl (fun h n => (h ^^^ UInt64.ofNat n) * 1099511628211) 14695981039346656037 % slots

/-- A transition on a range of bytes to a state. -/
structure Transition where
  range : ByteRange
  next : Nat
  deriving DecidableEq, Repr

/-- The states for a set, and those of them that are remembered. -/
structure Sharing (α : Type) where
  automaton : Automaton
  known : Std.HashMap UInt64 (α × Nat) := {}

/-- The state for `key`: a remembered one, or else a new one that is added by `add`. -/
def Sharing.stateFor {α : Type} [DecidableEq α] (sharing : Sharing α) (key : α) (slot : UInt64)
    (add : Automaton → Automaton) : Nat × Sharing α :=
  match sharing.known[slot]?.filter (·.1 = key) with
  | some (_, state) => (state, sharing)
  | none =>
    let state := sharing.automaton.states
    (state, { automaton := add sharing.automaton, known := sharing.known.insert slot (key, state) })

/-- A state that is not added yet: its transitions, latest first, and the range of one more whose
target is still open. -/
structure Pending where
  closed : List Transition := []
  last : Option ByteRange := none

/-- The transitions of a state, latest first, when the target of the last one is known. -/
def Pending.transitions (pending : Pending) (next : Nat) : List Transition :=
  match pending.last with
  | some range => ⟨range, next⟩ :: pending.closed
  | none => pending.closed

/-- The state for some transitions. -/
def Sharing.stateForTransitions (sharing : Sharing (List Transition)) (key : List Transition) :
    Nat × Sharing (List Transition) :=
  let slot := slotOf (key.flatMap fun t => [t.range.first, t.range.last, t.next]) 10000
  sharing.stateFor key slot (·.addRanges key.length)

/-- Adds pending states, each the open target of the one before, the last one leading to `target`.
Gives the first of them. -/
def Sharing.settle (sharing : Sharing (List Transition)) (target : Nat) :
    List Pending → Nat × Sharing (List Transition)
  | [] => (target, sharing)
  | pending :: deeper =>
    let (next, sharing) := sharing.settle target deeper
    sharing.stateForTransitions (pending.transitions next).reverse

/-- The pending states with one more sequence of byte ranges; what differs from it is added. -/
def Sharing.insert (sharing : Sharing (List Transition)) (target : Nat) :
    List Pending → List ByteRange → List Pending × Sharing (List Transition)
  | pending :: deeper, range :: ranges =>
    if pending.last = some range then
      let (deeper, sharing) := sharing.insert target deeper ranges
      (pending :: deeper, sharing)
    else
      let (next, sharing) := sharing.settle target deeper
      let pending : Pending := { closed := pending.transitions next, last := some range }
      (pending :: ranges.map fun range => { last := some range }, sharing)
  | _, ranges => (ranges.map fun range => { last := some range }, sharing)

/-- The sequences of byte ranges of a set. -/
def sequences (set : CharSet) : List (List ByteRange) :=
  set.runs.flatMap fun run => byteSequences run.1 run.2

def isAscii (set : CharSet) : Bool := set.runs.all (·.2 < 0x80)

/-- The states for one character of a set. Sequences with the same start share its states, and so
do those with the same end as far as it is remembered. -/
def addSet (a : Automaton) (set : CharSet) : Automaton :=
  if isAscii set then a.add.addRanges set.runs.length
  else
    let target := a.states
    let (pending, sharing) := (sequences set).foldl
      (fun (pending, sharing) ranges => Sharing.insert sharing target pending ranges)
      ([{}], { automaton := a.add })
    (sharing.settle target pending).2.automaton

/-- The states for one character of a set whose bytes are read from the end. Sequences share the
states for the same start as far as it is remembered. -/
def addSetBackward (a : Automaton) (set : CharSet) : Automaton :=
  if isAscii set then a.add.addRanges set.runs.length
  else
    let target := a.states + 1
    let sharing := (sequences set).foldl (fun sharing ranges =>
      let (_, sharing) := ranges.foldl (fun (next, sharing) range =>
          let slot := slotOf [next, range.first, range.last] 1000
          Sharing.stateFor sharing (next, range) slot add)
        (target, sharing)
      { sharing with automaton := sharing.automaton.link 1 })
      ({ automaton := a.addMany 2 } : Sharing (Nat × ByteRange))
    sharing.automaton

/-! ## Texts -/

/-- The states for any of some words, those with the same start sharing its states. Where a word
ends, what follows in the list shares nothing with what comes before. The end is not counted. -/
def addTrie : (depth : Nat) → List (List Nat) → Automaton → Automaton
  | 0, _, a => a
  | depth + 1, words, a =>
    let later := words.dropWhile List.isEmpty
    let parts := (if later.length < words.length then [] :: later else later).splitOn []
    let filled := parts.filter (!·.isEmpty)
    let a := filled.foldl (fun a part =>
      let heads := (part.filterMap List.head?).eraseDups
      let a := heads.foldl (fun a head =>
        let tails := (part.filter (·.head? == some head)).map List.tail
        if tails.all List.isEmpty then a else addTrie depth tails a) a
      if heads.length = 1 then a.add else a.addRanges heads.length) a
    a.add.link (filled.length + parts.length - 1)

/-- The characters of an expression that is a text, and not the empty one. -/
def text? : Regex → Option (List Char)
  | text (c :: chars) => some (c :: chars)
  | _ => none

/-- The states for any of some texts. -/
def addTexts (a : Automaton) (backward : Bool) (texts : List (List Char)) : Automaton :=
  let words := texts.map fun chars =>
    let bytes := chars.flatMap fun c => bytesOf c.toNat
    if backward then bytes.reverse else bytes
  addTrie (words.foldl (fun n word => max n word.length) 0) words a.add

end Automaton

/-! ## Expressions -/

/-- Where an expression stands among alternatives. -/
inductive Turn where
  /-- It is no alternative, or the first one. -/
  | first
  | second
  | later

/-- What comes behind the states of an alternative: the states in which all of them start and end
behind the second one, and a way to each. -/
def Turn.finish (turn : Turn) (a : Automaton) : Automaton :=
  match turn with
  | first => a
  | second => (a.addMany 2).link 2
  | later => a.link 1

/-- The states for an expression behind those that there are. -/
def build (backward : Bool) (r : Regex) (turn : Turn) (a : Automaton) : Automaton :=
  if a.isFull then a
  else
    match r with
    | text chars => turn.finish (a.addMany (max 1 (byteLength chars)))
    | one set => turn.finish (if backward then a.addSetBackward set else a.addSet set)
    | look _ => turn.finish a.add
    | cat r s =>
      match turn with
      | .first => build backward s .first (build backward r .first a)
      | _ => turn.finish (build backward s .first (build backward r .first a))
    | either r s =>
      match turn with
      | .first =>
        match (either r s).alternatives.mapM Automaton.text? with
        | some texts => a.addTexts backward texts
        | none => build backward s .second (build backward r .first a)
      | _ => build backward s .later (turn.finish (build backward r .first a))
    | group _ r =>
      turn.finish
        (if backward then build backward r .first a else (build backward r .first a.add).add)
    | repeated r least most _ =>
      let copy := build backward r .first
      turn.finish (match most with
        | none =>
          if 0 < least then ((Automaton.iterate copy least a).add).link 2
          else if 0 < r.minLength.getD 0 then (copy a.add).link 2
          else ((copy a).addMany 3).link 4
        | some most =>
          if least = 0 ∧ most = 1 then (copy (a.add.link 2)).add
          else
            let start := if least = 0 then a.add else Automaton.iterate copy least a
            if least = most then start
            else Automaton.iterate (fun a => copy (a.add.link 2)) (most - least) start.add)

/-- Whether each match of an expression starts where an anchor holds. -/
def startsAt (anchor : Anchor) : Regex → Bool
  | look other => other = anchor
  | cat r s => startsAt anchor r || r.maxLength = some 0 && startsAt anchor s
  | either r s => startsAt anchor r && startsAt anchor s
  | repeated r least _ _ => 0 < least && startsAt anchor r
  | group _ r => startsAt anchor r
  | text _ | one _ => false

/-- The automaton for an expression: what passes over the text in front of a match, unless matches
start at its end, then the expression, and the state in which it has matched. -/
def automaton (backward : Bool) (r : Regex) : Automaton :=
  let anchor := if backward then Anchor.textEnd else .textStart
  let start : Automaton := {}
  let start := if r.startsAt anchor then start.add else ((start.addMany 2).addRanges 1).link 2
  (build backward (group 0 r) .first start).add

/-- Whether an expression is refused. -/
def isTooLarge (r : Regex) : Bool :=
  (automaton false r).isFull || (automaton true r.reversed).isFull

end Regex

end DocAtlas
