import DocAtlas.Corpus.Basic
import DocAtlas.Digest.Sha256
import DocAtlas.Layout
import DocAtlas.Ordering.Stable
import DocAtlas.Path.Order

/-! # Fingerprint of a corpus

* `Fingerprint.encode` — a corpus written as one byte string, in an order of its own
* `Corpus.fingerprint` — the digest of that byte string
-/

set_option autoImplicit false

namespace DocAtlas

namespace Fingerprint

/-- The byte behind each field of a record. -/
def fieldEnd : UInt8 := 0x1f

/-- The byte behind each record. -/
def recordEnd : UInt8 := 0x1e

def utf8 (s : String) : List UInt8 := s.toUTF8.data.toList

/-- The fields of a record in the order they are written. -/
def fields (layout : Layout) (record : Record) : List String :=
  [(layout.relative record.path).text, record.url, record.title, record.folder,
    toString record.priority, if record.isIndex then "index" else ""]
    ++ record.references.toList

def encodeRecord (layout : Layout) (record : Record) : List UInt8 :=
  (fields layout record).flatMap (fun field => utf8 field ++ [fieldEnd]) ++ [recordEnd]

/-- Whether one record is written before another: by address, then by path. -/
def comesBefore (r s : Record) : Bool :=
  if r.url = s.url then r.path.le s.path else r.url < s.url

/-- The records of one category behind its name. -/
def encodeGroup (layout : Layout) (category : Category) (records : List Record) : List UInt8 :=
  utf8 category.label ++ [recordEnd]
    ++ (sortBy comesBefore records).flatMap (encodeRecord layout)

/-- A corpus as one byte string. -/
def encode (layout : Layout) (corpus : Corpus) : List UInt8 :=
  corpus.groups.flatMap fun (category, records) => encodeGroup layout category records

end Fingerprint

/-- The digest of a corpus in hexadecimal digits. -/
def Corpus.fingerprint (corpus : Corpus) (layout : Layout) : String :=
  hexDigits (sha256 (Fingerprint.encode layout corpus))

end DocAtlas
