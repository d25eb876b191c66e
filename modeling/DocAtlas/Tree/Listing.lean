/-! # Directory listings

* `Listing` — the entries of a directory, with all that lies below them
* `Listing.wellFormed` — names are possible names and stand in ascending order
* `Listing.find?`, `Listing.entryAt?` — one entry by name, or by the names that lead to it
* `Listing.put`, `Listing.erase`, `Listing.plantAt`, `Listing.eraseAt` — changes
-/

set_option autoImplicit false

namespace DocAtlas

/-- The entries of a directory in order. -/
inductive Listing where
  | nil
  | file (name : String) (bytes : ByteArray) (rest : Listing)
  | link (name : String) (target : String) (rest : Listing)
  | dir (name : String) (inside : Listing) (rest : Listing)
  deriving DecidableEq, Inhabited

/-- What a name stands for. -/
inductive Entry where
  | file (bytes : ByteArray)
  | link (target : String)
  | dir (inside : Listing)

/-- The number of bytes the name of an entry may have. -/
def maxNameBytes : Nat := 255

/-- Whether a text can name an entry of a directory. -/
def isEntryName (name : String) : Bool :=
  name != "" && name != "." && name != ".." && !name.toList.contains '/'
    && !name.toList.contains '\x00' && decide (name.utf8ByteSize ≤ maxNameBytes)

namespace Listing

def names : Listing → List String
  | nil => []
  | file name _ rest => name :: rest.names
  | link name _ rest => name :: rest.names
  | dir name _ rest => name :: rest.names

/-- Whether `name` comes before every name of the listing. -/
def isAbove (name : String) (listing : Listing) : Bool := listing.names.all fun n => name < n

/-- Whether every name is a possible one and the names of each directory ascend. -/
def wellFormed : Listing → Bool
  | nil => true
  | file name _ rest => isEntryName name && rest.isAbove name && rest.wellFormed
  | link name _ rest => isEntryName name && rest.isAbove name && rest.wellFormed
  | dir name inside rest =>
    isEntryName name && rest.isAbove name && inside.wellFormed && rest.wellFormed

end Listing

/-- Whether a directory among the entries is well-formed. -/
def Entry.wellFormed : Entry → Bool
  | .dir inside => inside.wellFormed
  | _ => true

namespace Listing

/-! ## Looking up -/

def find? (name : String) : Listing → Option Entry
  | nil => none
  | file n bytes rest => if n = name then some (.file bytes) else rest.find? name
  | link n target rest => if n = name then some (.link target) else rest.find? name
  | dir n inside rest => if n = name then some (.dir inside) else rest.find? name

/-- The entry to which a list of names leads from directory to directory. -/
def entryAt? : List String → Listing → Option Entry
  | [], listing => some (.dir listing)
  | [name], listing => listing.find? name
  | name :: next :: rest, listing =>
    match listing.find? name with
    | some (.dir inside) => inside.entryAt? (next :: rest)
    | _ => none

/-! ## Changes -/

/-- A listing that starts with the given entry. -/
def cons (name : String) (entry : Entry) (rest : Listing) : Listing :=
  match entry with
  | .file bytes => file name bytes rest
  | .link target => link name target rest
  | .dir inside => dir name inside rest

/-- The listing with `entry` under `name`, in place of what the name stood for. -/
def put (name : String) (entry : Entry) : Listing → Listing
  | nil => cons name entry nil
  | file n bytes rest =>
    if name < n then cons name entry (file n bytes rest)
    else if name = n then cons name entry rest
    else file n bytes (rest.put name entry)
  | link n target rest =>
    if name < n then cons name entry (link n target rest)
    else if name = n then cons name entry rest
    else link n target (rest.put name entry)
  | dir n inside rest =>
    if name < n then cons name entry (dir n inside rest)
    else if name = n then cons name entry rest
    else dir n inside (rest.put name entry)

/-- The listing without `name`. -/
def erase (name : String) : Listing → Listing
  | nil => nil
  | file n bytes rest => if n = name then rest else file n bytes (rest.erase name)
  | link n target rest => if n = name then rest else link n target (rest.erase name)
  | dir n inside rest => if n = name then rest else dir n inside (rest.erase name)

/-- The directory called `name`, an empty one if there is none. -/
def inside (name : String) (listing : Listing) : Listing :=
  match listing.find? name with
  | some (.dir inside) => inside
  | _ => nil

/-- The listing with `entry` at the end of a list of names, directories made on the way where they
are missing. Impossible names change nothing. -/
def plantAt : List String → Entry → Listing → Listing
  | [], _, listing => listing
  | [name], entry, listing => if isEntryName name then listing.put name entry else listing
  | name :: next :: rest, entry, listing =>
    if isEntryName name then
      listing.put name (.dir ((listing.inside name).plantAt (next :: rest) entry))
    else
      listing

/-- The listing without the entry at the end of a list of names. -/
def eraseAt : List String → Listing → Listing
  | [], listing => listing
  | [name], listing => listing.erase name
  | name :: next :: rest, listing =>
    match listing.find? name with
    | some (.dir inside) => listing.put name (.dir (inside.eraseAt (next :: rest)))
    | _ => listing

end Listing

end DocAtlas
