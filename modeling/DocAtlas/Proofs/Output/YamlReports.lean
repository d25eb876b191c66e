import DocAtlas.Proofs.Output.JsonReports
import DocAtlas.Proofs.Output.YamlReading

/-! # Reports in YAML

A document in YAML tells what one in JSON does: its texts are the same texts, and its numbers the same
numbers as long as 128 bits hold them. So a report is found again in it.

* `Yaml.Data.json?` — a document in YAML as one in JSON
* `Yaml.resolve_toDigits` — digits are read as the integer they write
* `Value.json?_toYaml` — a value is told alike in both
* `Yaml.texts_read_back` — a report is read back, and its texts are texts
-/

set_option autoImplicit false

namespace DocAtlas

/-! ## Documents in YAML and in JSON -/

mutual

/-- The document in JSON. There is none if a key is no text or a number no integer. -/
def Yaml.Data.json? : Yaml.Data → Option Json.Data
  | .null => some .null
  | .flag b => some (.flag b)
  | .integer n => some (.number { negative := decide (n < 0), digits := n.natAbs })
  | .float _ => none
  | .text s => some (.text s)
  | .list items => (Yaml.Data.itemsJson? items).map .list
  | .object fields => (Yaml.Data.fieldsJson? fields).map .object

def Yaml.Data.itemsJson? : List Yaml.Data → Option (List Json.Data)
  | [] => some []
  | item :: rest => do
    let item ← item.json?
    let rest ← Yaml.Data.itemsJson? rest
    return item :: rest

def Yaml.Data.fieldsJson? : List (Yaml.Data × Yaml.Data) → Option (List (String × Json.Data))
  | [] => some []
  | (.text key, value) :: rest => do
    let value ← value.json?
    let rest ← Yaml.Data.fieldsJson? rest
    return (key, value) :: rest
  | _ :: _ => none

end

/-! ## Numbers -/

namespace Yaml

open Reader

theorem digitValue?_of_isDigit {c : Char} (h : c.isDigit = true) :
    digitValue? 10 c = some (c.toNat - '0'.toNat) := by
  have hrange : '0' ≤ c ∧ c ≤ '9' := by
    simpa [Char.isDigit, Char.le_def] using h
  have hle : c.toNat ≤ '9'.toNat := hrange.2
  have hnine : '9'.toNat = '0'.toNat + 9 := rfl
  rw [digitValue?, if_pos hrange]
  exact if_pos (by omega)

theorem digitsValue?_toDigits (n : Nat) : digitsValue? 10 (Nat.toDigits 10 n) = some n := by
  have hfold : ∀ (s : List Char) (n : Nat), (∀ c ∈ s, c.isDigit = true) →
      s.foldlM (fun n c => (digitValue? 10 c).map (n * 10 + ·)) n = some (Nat.ofDigitChars 10 s n) := by
    intro s
    induction s with
    | nil => exact fun n _ => rfl
    | cons c s ih =>
      intro n hdigits
      obtain ⟨hc, hs⟩ := List.forall_mem_cons.1 hdigits
      rw [List.foldlM_cons, digitValue?_of_isDigit hc, Nat.ofDigitChars_cons, Nat.mul_comm 10 n]
      exact ih _ hs
  have hdigits : ∀ c ∈ Nat.toDigits 10 n, c.isDigit = true :=
    fun c hc => Nat.isDigit_of_mem_toDigits (by decide) (by decide) hc
  rw [digitsValue?, if_neg Nat.toDigits_ne_nil, hfold _ 0 hdigits, Nat.ofDigitChars_ten_toDigits]

theorem toDigits_ne_zero_cons (n : Nat) (d : Char) (rest : List Char) :
    Nat.toDigits 10 n ≠ '0' :: d :: rest := by
  intro h
  have halone := Json.head?_toDigits n (by rw [h, List.head?_cons])
  rw [h] at halone
  cases halone

theorem natural?_toDigits (n : Nat) : natural? (Nat.toDigits 10 n) = some n := by
  have hzero := toDigits_ne_zero_cons n
  have hpadded : isPadded (Nat.toDigits 10 n) = false := by
    rw [isPadded.eq_def]
    split
    · exact absurd ‹_› (hzero _ _)
    · rfl
  rw [natural?.eq_def]
  split
  · exact absurd ‹_› (hzero _ _)
  · exact absurd ‹_› (hzero _ _)
  · exact absurd ‹_› (hzero _ _)
  · rw [hpadded]
    exact digitsValue?_toDigits n

theorem integer?_toDigits {n : Nat} (h : n < Nat.pow 2 128) :
    integer? (Nat.toDigits 10 n) = some (n : Int) := by
  obtain ⟨c, more, hcons, hc⟩ := Json.exists_cons_toDigits n
  -- no sign stands in front of digits
  have hsigned : signed (Nat.toDigits 10 n) = (false, Nat.toDigits 10 n) := by
    rw [hcons, signed.eq_def]
    split
    · rename_i heq
      cases heq
      cases hc
    · rename_i heq
      cases heq
      cases hc
    · rfl
  simp only [integer?, hsigned, natural?_toDigits]
  exact if_pos h

theorem resolve_toDigits {n : Nat} (h : n < Nat.pow 2 128) :
    resolve (Nat.toDigits 10 n) = .integer n := by
  obtain ⟨c, more, hcons, hc⟩ := Json.exists_cons_toDigits n
  have hwords : ∀ words : List String,
      (∀ word ∈ words, (word.toList.head?.any Char.isDigit) = false) →
        words.contains (String.ofList (Nat.toDigits 10 n)) = false := by
    intro words hnone
    rw [List.contains_eq_mem, decide_eq_false_iff_not]
    intro hmem
    have hdigit := hnone _ hmem
    rw [hcons, String.toList_ofList, List.head?_cons, Option.any_some, hc] at hdigit
    cases hdigit
  have hnull := hwords nullWords (by decide)
  have htrue := hwords trueWords (by decide)
  have hfalse := hwords falseWords (by decide)
  simp only [resolve, hnull, htrue, hfalse, integer?_toDigits h, Bool.false_eq_true, if_false]

end Yaml

mutual

/-- The numbers in a value. -/
def Value.numbers : Value → List Nat
  | .text _ => []
  | .number n => [n]
  | .flag _ => []
  | .list items => Value.itemsNumbers items
  | .object fields => Value.fieldsNumbers fields

def Value.itemsNumbers : List Value → List Nat
  | [] => []
  | item :: rest => item.numbers ++ Value.itemsNumbers rest

def Value.fieldsNumbers : List (String × Value) → List Nat
  | [] => []
  | (_, value) :: rest => value.numbers ++ Value.fieldsNumbers rest

end

namespace Value

theorem itemsNumbers_eq (items : List Value) : itemsNumbers items = items.flatMap numbers := by
  induction items with
  | nil => rfl
  | cons item rest ih => rw [itemsNumbers, ih, List.flatMap_cons]

theorem fieldsNumbers_eq (fields : List (String × Value)) :
    fieldsNumbers fields = fields.flatMap fun field => field.2.numbers := by
  induction fields with
  | nil => rfl
  | cons field rest ih =>
    obtain ⟨key, value⟩ := field
    rw [fieldsNumbers, ih, List.flatMap_cons]

theorem itemsJson?_itemsYaml {items : List Value}
    (h : ∀ item ∈ items, item.toYaml.json? = some item.toData) :
    Yaml.Data.itemsJson? (itemsYaml items) = some (itemsData items) := by
  induction items with
  | nil => rfl
  | cons item rest ih =>
    obtain ⟨hitem, hrest⟩ := List.forall_mem_cons.1 h
    simp [itemsYaml, Yaml.Data.itemsJson?, itemsData, hitem, ih hrest]

theorem fieldsJson?_fieldsYaml {fields : List (String × Value)}
    (h : ∀ field ∈ fields, field.2.toYaml.json? = some field.2.toData) :
    Yaml.Data.fieldsJson? (fieldsYaml fields) = some (fieldsData fields) := by
  induction fields with
  | nil => rfl
  | cons field rest ih =>
    obtain ⟨key, value⟩ := field
    obtain ⟨hvalue, hrest⟩ := List.forall_mem_cons.1 h
    simp [fieldsYaml, Yaml.Data.fieldsJson?, fieldsData, hvalue, ih hrest]

theorem json?_toYaml (v : Value) (h : ∀ n ∈ v.numbers, n < Nat.pow 2 128) :
    v.toYaml.json? = some v.toData := by
  induction v using Value.induct with
  | text s => rfl
  | number n =>
    rw [toYaml, Yaml.resolve_toDigits (h n (by simp [numbers]))]
    simp [Yaml.Data.json?, toData]
  | flag b => rfl
  | list items ih =>
    rw [numbers, itemsNumbers_eq] at h
    have hitems := itemsJson?_itemsYaml fun item hitem =>
      ih item hitem fun n hn => h n (List.mem_flatMap.2 ⟨item, hitem, hn⟩)
    rw [toYaml, Yaml.Data.json?, hitems, toData, Option.map_some]
  | object fields ih =>
    rw [numbers, fieldsNumbers_eq] at h
    have hfields := fieldsJson?_fieldsYaml fun field hfield =>
      ih field hfield fun n hn => h n (List.mem_flatMap.2 ⟨field, hfield, hn⟩)
    rw [toYaml, Yaml.Data.json?, hfields, toData, Option.map_some]

end Value

/-! ## Reports -/

theorem Value.numbers_text (s : String) : (Value.text s).numbers = [] := rfl

theorem Value.numbers_list {α : Type} (write : α → Value) (xs : List α) :
    (Value.list (xs.map write)).numbers = xs.flatMap fun x => (write x).numbers := by
  rw [numbers, itemsNumbers_eq, List.flatMap_map]

theorem Value.numbers_object (fields : List (String × Value)) :
    (Value.object fields).numbers = fields.flatMap fun field => field.2.numbers :=
  fieldsNumbers_eq fields

theorem Value.numbers_texts (items : List String) : (Value.texts items).numbers = [] := by
  simp [Value.texts, Value.numbers_list, Value.numbers_text]

theorem Issue.numbers_toValue (issue : Issue) : issue.toValue.numbers = [] := by
  cases issue <;> rfl

theorem Item.numbers_toValue (item : Item) : item.toValue.numbers = [item.priority] := rfl

theorem Section.numbers_toValue (s : Section) : s.toValue.numbers = s.items.map (·.priority) := by
  have hitems : (Value.list (s.items.map Item.toValue)).numbers = s.items.map (·.priority) := by
    simp only [Value.numbers_list, Item.numbers_toValue, ← List.map_eq_flatMap]
  rw [toValue, Value.numbers_object]
  simp [hitems, Value.numbers_text]

theorem ContentsReport.numbers_toValue (report : ContentsReport) :
    report.toValue.numbers = report.contents.sections.flatMap fun s => s.items.map (·.priority) := by
  have hissues : (Value.list (report.issues.map Issue.toValue)).numbers = [] := by
    simp [Value.numbers_list, Issue.numbers_toValue]
  have hsections : report.contents.toValue.numbers =
      report.contents.sections.flatMap fun s => s.items.map (·.priority) := by
    simp [Contents.toValue, Value.numbers_object, List.flatMap_map, Section.numbers_toValue]
  rw [toValue, Value.numbers_object]
  simp [hissues, hsections, Value.numbers_texts]

theorem Record.numbers_toValue (r : Record) : r.toValue.numbers = [r.priority] := by
  simp [Record.toValue, Value.numbers_object, Value.numbers_texts, Value.numbers]

theorem CorpusReport.numbers_toValue (report : CorpusReport) :
    report.toValue.numbers = report.corpus.records.map (·.priority) := by
  have hlinks : (Value.object (report.links.map fun l =>
      (l.source.text, .texts l.urls.toList))).numbers = [] := by
    simp [Value.numbers_object, Value.numbers_texts]
  have hdocuments : report.corpus.toValue.numbers = report.corpus.records.map (·.priority) := by
    simp [Corpus.toValue, Corpus.records, Value.numbers_object, Value.numbers_list, List.flatMap_map,
      Record.numbers_toValue, List.map_flatMap, ← List.map_eq_flatMap]
  rw [toValue, Value.numbers_object]
  simp [hlinks, hdocuments, Value.numbers_text]

/-- In YAML a text stays a text: what stands without quotes is read as nothing else. A report is read
back with every key and every text of its value, and what is read tells of the report: of a table of
contents whole, of a corpus the records by category, the fingerprint and the links. Its priorities are
numbers that 128 bits hold. -/
theorem Yaml.texts_read_back (layout : Layout) :
    (∀ s : String, Yaml.styleOf s.toList = .plain → Yaml.Reader.resolve s.toList = .text s) ∧
    (∀ report : ContentsReport,
      Yaml.read (report.render layout .yaml) = some report.toValue.toYaml ∧
      ((∀ s ∈ report.contents.sections, ∀ item ∈ s.items, item.priority < Nat.pow 2 128) →
        report.toValue.toYaml.json?.bind ContentsReport.ofData? = some report)) ∧
    ∀ report : CorpusReport,
      Yaml.read (report.render layout .yaml) = some report.toValue.toYaml ∧
      ((∀ r ∈ report.corpus.records, r.priority < Nat.pow 2 128) →
        report.toValue.toYaml.json?.bind CorpusReading.ofData? =
          some ⟨report.corpus.groups, report.fingerprint, report.links⟩) := by
  refine ⟨fun s hstyle => ?_, fun report => ⟨Yaml.read_document _ _, fun hpriorities => ?_⟩,
    fun report => ⟨Yaml.read_document _ _, fun hpriorities => ?_⟩⟩
  · have htext := ((Yaml.styleOf_spec s.toList).1 hstyle).1
    rw [Yaml.resolve_of_readsAsOther htext, String.ofList_toList]
  · have hnumbers : ∀ n ∈ report.toValue.numbers, n < Nat.pow 2 128 := by
      simpa only [report.numbers_toValue, List.forall_mem_flatMap, List.forall_mem_map]
        using hpriorities
    rw [Value.json?_toYaml _ hnumbers]
    exact ContentsReport.ofData?_toValue report
  · have hnumbers : ∀ n ∈ report.toValue.numbers, n < Nat.pow 2 128 := by
      simpa only [report.numbers_toValue, List.forall_mem_map] using hpriorities
    rw [Value.json?_toYaml _ hnumbers]
    exact CorpusReading.ofData?_toValue report

/-- A table of contents whose keys and texts read as something else without quotes, or need escapes. -/
def wordyContents : ContentsReport where
  issues := [.unresolvedReference ⟨"/docs/index.rst"⟩ "0x1F"]
  orphans := [⟨"- a.md"⟩]
  contents := ⟨[⟨"null", "true\n", [⟨.orphan, 90, "1e3", "\u2028: #"⟩]⟩, ⟨"a\nb", "", []⟩]⟩

theorem texts_read_back_wordy :
    Yaml.Reader.resolve "1e999".toList = .text "1e999" ∧
      Yaml.read (wordyContents.render (Layout.ofRoot ⟨"/docs"⟩ {}) .yaml) =
        some wordyContents.toValue.toYaml ∧
      wordyContents.toValue.toYaml.json?.bind ContentsReport.ofData? = some wordyContents := by
  obtain ⟨hplain, hcontents, -⟩ := Yaml.texts_read_back (Layout.ofRoot ⟨"/docs"⟩ {})
  obtain ⟨hread, htells⟩ := hcontents wordyContents
  exact ⟨hplain "1e999" (by decide), hread, htells (by decide)⟩

end DocAtlas
