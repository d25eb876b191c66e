/-! # Categories of documents

* `Category` — where a document comes from
* `Category.label`, `Category.basePriority` — its name in output and its place in the order
-/

set_option autoImplicit false

namespace DocAtlas

/-- Where a document comes from. -/
inductive Category where
  /-- Hand-written. -/
  | user
  /-- Generated from code. -/
  | auto
  /-- Machine-written prose. -/
  | ai
  /-- Outside every declared directory. -/
  | orphan
  deriving DecidableEq, Repr, Inhabited

namespace Category

/-- Every category, in the order of reports. -/
def all : List Category := [user, auto, ai, orphan]

def label : Category → String
  | user => "user"
  | auto => "auto"
  | ai => "ai"
  | orphan => "orphan"

/-- The priority of every orphan. -/
def orphanPriority : Nat := 90

/-- The priority of a document before its section, name and depth count. -/
def basePriority : Category → Nat
  | user => 50
  | auto => 70
  | ai => 60
  | orphan => orphanPriority

end Category

end DocAtlas
