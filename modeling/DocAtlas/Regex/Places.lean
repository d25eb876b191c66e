import DocAtlas.Regex.Basic
import DocAtlas.Text.Property

/-! # Sets of places in a text

The places of a text are the ones between its characters and its two ends, counted from zero. A set
of places is a number whose bits say which ones belong to it.

* `Regex.bits` — the places of a set; `mem_bits` says which ones they are
* `Regex.Anchor.holds` — whether an anchor holds at a place
* `Regex.Leaps` — the places that are reached from each place; `testBit_follow` says what is reached
  from a set
* `Regex.Leaps.power`, `Regex.Leaps.closure` — the places reached by some leaps, or by any number
-/

set_option autoImplicit false

namespace DocAtlas

open Text (CharSet)

namespace Regex

/-- The places of a set, last first. -/
def bits (places : Nat) : List Nat :=
  if h : places = 0 then []
  else
    have : places - 1 <<< places.log2 < places := by
      have : 0 < 1 <<< places.log2 := by
        rw [Nat.shiftLeft_eq, Nat.one_mul]
        exact Nat.two_pow_pos _
      omega
    places.log2 :: bits (places - 1 <<< places.log2)

/-- The places of a set are its bits. -/
theorem mem_bits (places n : Nat) : n ∈ bits places ↔ places.testBit n = true := by
  fun_induction bits places with
  | case1 => simp
  | case2 places h _ ih =>
    have hle : 2 ^ places.log2 ≤ places := Nat.log2_self_le h
    have hlt : places < 2 ^ (places.log2 + 1) := Nat.lt_log2_self
    rw [Nat.shiftLeft_eq, Nat.one_mul] at ih
    rw [Nat.shiftLeft_eq, Nat.one_mul, List.mem_cons, ih]
    have hrest : places - 2 ^ places.log2 < 2 ^ places.log2 := by rw [Nat.pow_succ] at hlt; omega
    conv => rhs; rw [show places = 2 ^ places.log2 + (places - 2 ^ places.log2) by omega]
    rcases Nat.lt_trichotomy n places.log2 with hn | rfl | hn
    · rw [Nat.testBit_two_pow_add_gt hn]
      simp [Nat.ne_of_lt hn]
    · rw [Nat.testBit_two_pow_add_eq, Nat.testBit_lt_two_pow hrest]
      simp
    · have hpow : 2 ^ places.log2 * 2 ≤ 2 ^ n := by
        rw [← Nat.pow_succ]
        exact Nat.pow_le_pow_right (by decide) hn
      rw [Nat.testBit_lt_two_pow (by omega), Nat.testBit_lt_two_pow (by omega)]
      simp [Nat.ne_of_gt hn]

/-- The set of the places in a list at which something is true. -/
def placesWhere {α : Type} (p : α → Bool) (list : List α) : Nat :=
  list.foldr (fun a places => 2 * places + (p a).toNat) 0

/-! ## Anchors -/

def WordEdge.holds (edge : WordEdge) (before behind : Bool) : Bool :=
  match edge with
  | either => before != behind
  | neither => before == behind
  | start => !before && behind
  | finish => before && !behind
  | startHalf => !before
  | endHalf => !behind

/-- The characters of which words consist. -/
def wordSet (unicode : Bool) : CharSet := if unicode then Text.wordSet else .wordChar

/-- Whether an anchor holds between two characters, of which the ends of the text lack one. Between
a carriage return and a line feed no line ends and none starts. -/
def Anchor.holds (anchor : Anchor) (before behind : Option Char) : Bool :=
  match anchor with
  | textStart => before.isNone
  | textEnd => behind.isNone
  | lineStart returns =>
    before.isNone || before == some '\n' ||
      (returns && before == some '\r' && behind != some '\n')
  | lineEnd returns =>
    behind.isNone || behind == some '\n' && !(returns && before == some '\r') ||
      (returns && behind == some '\r')
  | word edge unicode =>
    edge.holds (before.any (wordSet unicode).contains) (behind.any (wordSet unicode).contains)

/-- The places of a text: what stands before each and behind it. -/
def surroundings (text : List Char) : List (Option Char × Option Char) :=
  (none :: text.map some).zip (text.map some ++ [none])

/-! ## Leaps -/

/-- For each place the places that are reached from it, none of which comes before it. -/
abbrev Leaps := Array Nat

namespace Leaps

/-- The places that are reached from a set of them. -/
def follow (leaps : Leaps) (places : Nat) : Nat :=
  (bits places).foldl (fun reached place => reached ||| leaps.getD place 0) 0

theorem testBit_foldl_or (leaps : Leaps) (list : List Nat) (start n : Nat) :
    (list.foldl (fun reached place => reached ||| leaps.getD place 0) start).testBit n = true ↔
      start.testBit n = true ∨ ∃ place ∈ list, (leaps.getD place 0).testBit n = true := by
  induction list generalizing start with
  | nil => simp
  | cons place list ih =>
    rw [List.foldl_cons, ih, Nat.testBit_or]
    simp [or_assoc]

/-- A place is reached from a set if it is reached from a place of the set. -/
theorem testBit_follow (leaps : Leaps) (places n : Nat) :
    (leaps.follow places).testBit n = true ↔
      ∃ place, places.testBit place = true ∧ (leaps.getD place 0).testBit n = true := by
  rw [follow, testBit_foldl_or]
  simp [mem_bits]

/-- One leap and another one behind it. -/
def comp (leaps further : Leaps) : Leaps := leaps.map further.follow

/-- Places that reach themselves and no others. -/
def stay (count : Nat) : Leaps := (Array.range count).map (1 <<< ·)

/-- Either a leap or none. -/
def orStay (leaps : Leaps) : Leaps := leaps.zipWith (· ||| ·) (stay leaps.size)

/-- The places that are reached by `n` leaps. -/
def power (leaps : Leaps) (n : Nat) : Leaps :=
  if h : n = 0 then stay leaps.size
  else
    let half := power (leaps.comp leaps) (n / 2)
    if n % 2 = 0 then half else leaps.comp half
termination_by n

/-- The places that are reached by any number of leaps, found from the last place on. -/
def closure (leaps : Leaps) : Leaps :=
  let last := leaps.size - 1
  let closed := (List.range leaps.size).foldl (fun closed back =>
    let place := last - back
    let others := (bits (leaps.getD place 0)).filter (place < ·)
    closed.push (others.foldl (fun reached other => reached ||| closed.getD (last - other) 0)
      (1 <<< place))) #[]
  closed.reverse

/-- The places that are reached by at least `least` and at most `most` leaps. Of more leaps than
there are places some stay where they are, and it makes no difference how many do. -/
def between (leaps : Leaps) (least : Nat) (most : Option Nat) : Leaps :=
  let further := match most with
    | none => leaps.closure
    | some most => leaps.orStay.power (min (most - least) leaps.size)
  if least = 0 then further else (leaps.power (min least leaps.size)).comp further

end Leaps

end Regex

end DocAtlas
