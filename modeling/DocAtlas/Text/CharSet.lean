/-! # Sets of characters

* `CharSet` — a set of code points as the runs of which it consists
* `CharSet.ofRuns`, `union`, `compl`, `inter`, `diff`, `symmDiff` — how sets are made
* `CharSet.contains` — whether a character belongs to one; `contains_union` says what it does with
  a union
* `CharSet.posix?` — the sets of ASCII characters that have a name
-/

set_option autoImplicit false

namespace DocAtlas.Text

/-- A set of code points: its runs in order, each from its first code point to its last, with a gap
between any two of them. -/
structure CharSet where
  runs : List (Nat × Nat)
  deriving DecidableEq, Repr

namespace CharSet

/-- Whether a code point lies in one of the runs. -/
def inRuns (runs : List (Nat × Nat)) (n : Nat) : Bool :=
  runs.any fun run => run.1 ≤ n && n ≤ run.2

def contains (s : CharSet) (c : Char) : Bool := inRuns s.runs c.toNat

/-! ## Making sets -/

/-- The run that starts a list with those of the list joined to it that it touches. -/
def joinFrom (run : Nat × Nat) : List (Nat × Nat) → List (Nat × Nat)
  | [] => [run]
  | next :: rest =>
    if next.1 ≤ run.2 + 1 then joinFrom (run.1, max run.2 next.2) rest
    else run :: joinFrom next rest

/-- The runs of a list that is ordered by their starts, joined where they touch. -/
def joined : List (Nat × Nat) → List (Nat × Nat)
  | [] => []
  | run :: rest => joinFrom run rest

/-- The set of all code points in some runs. -/
def ofRuns (runs : List (Nat × Nat)) : CharSet :=
  ⟨joined (runs.mergeSort fun a b => a.1 ≤ b.1)⟩

def none : CharSet := ⟨[]⟩

def between (first last : Nat) : CharSet := ⟨[(first, last)]⟩

def single (c : Char) : CharSet := between c.toNat c.toNat

def ofChars (chars : List Char) : CharSet := ofRuns (chars.map fun c => (c.toNat, c.toNat))

def unions (sets : List CharSet) : CharSet := ofRuns (sets.flatMap (·.runs))

def union (s t : CharSet) : CharSet := ofRuns (s.runs ++ t.runs)

/-- The last code point. -/
def lastCode : Nat := 0x10FFFF

/-- What follows a code point. The surrogates are passed over, which stand for no character. -/
def after (n : Nat) : Nat := if n = 0xD7FF then 0xE000 else n + 1

/-- What comes before a code point. -/
def before (n : Nat) : Nat := if n = 0xE000 then 0xD7FF else n - 1

/-- The gaps in front of, between and behind some runs, of which the first can start at `start`. -/
def gaps (start : Nat) : List (Nat × Nat) → List (Nat × Nat)
  | [] => if start ≤ lastCode then [(start, lastCode)] else []
  | (first, last) :: rest =>
    if start < first then (start, before first) :: gaps (after last) rest
    else gaps (after last) rest

def compl (s : CharSet) : CharSet := ⟨gaps 0 s.runs⟩

def inter (s t : CharSet) : CharSet := compl (union (compl s) (compl t))

def diff (s t : CharSet) : CharSet := inter s (compl t)

def symmDiff (s t : CharSet) : CharSet := diff (union s t) (inter s t)

def all : CharSet := compl none

instance : Union CharSet := ⟨union⟩

instance : Inter CharSet := ⟨inter⟩

instance : SDiff CharSet := ⟨diff⟩

/-- How many code points belong to a set. -/
def size (s : CharSet) : Nat := s.runs.foldl (fun n run => n + (run.2 + 1 - run.1)) 0

/-- The characters of a set in order. -/
def members (s : CharSet) : List Char :=
  s.runs.flatMap fun run => (List.range' run.1 (run.2 + 1 - run.1)).map Char.ofNat

/-- The only character of a set that has just one. -/
def only? (s : CharSet) : Option Char :=
  match s.runs with
  | [(first, last)] => if first = last then some (Char.ofNat first) else Option.none
  | _ => Option.none

/-! ## Members -/

theorem inRuns_perm {runs others : List (Nat × Nat)} (h : runs.Perm others) (n : Nat) :
    inRuns runs n = inRuns others n := by
  rw [Bool.eq_iff_iff, inRuns, inRuns, List.any_eq_true, List.any_eq_true]
  exact ⟨fun ⟨run, hrun, hn⟩ => ⟨run, h.mem_iff.mp hrun, hn⟩,
    fun ⟨run, hrun, hn⟩ => ⟨run, h.mem_iff.mpr hrun, hn⟩⟩

theorem inRuns_joinFrom (run : Nat × Nat) (rest : List (Nat × Nat)) (n : Nat)
    (h : (run :: rest).Pairwise fun a b => a.1 ≤ b.1) :
    inRuns (joinFrom run rest) n = inRuns (run :: rest) n := by
  induction rest generalizing run with
  | nil => rfl
  | cons next rest ih =>
    rw [List.pairwise_cons] at h
    have hnext := h.1 next List.mem_cons_self
    rw [joinFrom]
    split
    · next touching =>
      rw [ih (run.1, max run.2 next.2) (List.pairwise_cons.mpr
        ⟨fun other hother => h.1 other (List.mem_cons_of_mem _ hother), (List.pairwise_cons.mp h.2).2⟩)]
      simp only [inRuns, List.any_cons, ← Bool.or_assoc]
      congr 1
      rw [Bool.eq_iff_iff]
      simp only [Bool.or_eq_true, Bool.and_eq_true, decide_eq_true_eq]
      omega
    · have := ih next h.2
      simp only [inRuns, List.any_cons] at this ⊢
      rw [this]

theorem inRuns_joined (runs : List (Nat × Nat)) (n : Nat)
    (h : runs.Pairwise fun a b => a.1 ≤ b.1) : inRuns (joined runs) n = inRuns runs n := by
  cases runs with
  | nil => rfl
  | cons run rest => exact inRuns_joinFrom run rest n h

/-- A character belongs to the set of some runs if it lies in one of them. -/
theorem contains_ofRuns (runs : List (Nat × Nat)) (c : Char) :
    (ofRuns runs).contains c = inRuns runs c.toNat := by
  have hsorted : (runs.mergeSort fun a b => a.1 ≤ b.1).Pairwise fun a b => decide (a.1 ≤ b.1) :=
    List.pairwise_mergeSort
    (fun a b d hab hbd => by simp only [decide_eq_true_eq] at *; omega)
    (fun a b => by simp only [Bool.or_eq_true, decide_eq_true_eq]; omega) runs
  rw [contains, ofRuns, inRuns_joined _ _ (hsorted.imp fun h => by simpa using h)]
  exact inRuns_perm (List.mergeSort_perm runs _) _

theorem contains_union (s t : CharSet) (c : Char) :
    (union s t).contains c = (s.contains c || t.contains c) := by
  rw [union, contains_ofRuns, inRuns, List.any_append]
  rfl

theorem contains_between (first last : Nat) (c : Char) :
    (between first last).contains c = (first ≤ c.toNat && c.toNat ≤ last) := by
  simp [contains, between, inRuns]

/-! ## Sets with a name -/

/-- The characters between two others. -/
def span (first last : Char) : CharSet := between first.toNat last.toNat

def upper : CharSet := span 'A' 'Z'

def lower : CharSet := span 'a' 'z'

def digit : CharSet := span '0' '9'

def alnum : CharSet := unions [digit, upper, lower]

def space : CharSet := unions [single ' ', span '\t' '\r']

def wordChar : CharSet := union alnum (single '_')

def ascii : CharSet := span '\x00' '\x7f'

def hex : CharSet := unions [digit, span 'A' 'F', span 'a' 'f']

/-- The sets of ASCII characters that have a name. -/
def posix? : String → Option CharSet
  | "alnum" => some alnum
  | "alpha" => some (union upper lower)
  | "ascii" => some ascii
  | "blank" => some (ofChars ['\t', ' '])
  | "cntrl" => some (union (span '\x00' '\x1f') (single '\x7f'))
  | "digit" => some digit
  | "graph" => some (span '!' '~')
  | "lower" => some lower
  | "print" => some (span ' ' '~')
  | "punct" => some (unions [span '!' '/', span ':' '@', span '[' '\x60', span '\x7b' '~'])
  | "space" => some space
  | "upper" => some upper
  | "word" => some wordChar
  | "xdigit" => some hex
  | _ => Option.none

end CharSet

end DocAtlas.Text
