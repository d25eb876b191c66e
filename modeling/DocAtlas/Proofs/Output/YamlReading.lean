import DocAtlas.Proofs.Output.YamlWritten
import DocAtlas.Proofs.Output.YamlWords

/-! # Reading back what is written as YAML

* `Value.toYaml` — what a document says that writes a value
* `Yaml.inline?_scalar`, `Yaml.node_scalarLine` — a text is read back in the style it is written in
* `Yaml.ReadsBack`, `Yaml.readsBack` — a value is read back as a block and as the value of a field
* `Yaml.read_document` — and so is a document
-/

set_option autoImplicit false

namespace DocAtlas

mutual

/-- What a document says that writes the value. Numbers say what their digits do. -/
def Value.toYaml : Value → Yaml.Data
  | .text s => .text s
  | .number n => Yaml.Reader.resolve (Nat.toDigits 10 n)
  | .flag b => .flag b
  | .list items => .list (Value.itemsYaml items)
  | .object fields => .object (Value.fieldsYaml fields)

def Value.itemsYaml : List Value → List Yaml.Data
  | [] => []
  | item :: rest => item.toYaml :: Value.itemsYaml rest

def Value.fieldsYaml : List (String × Value) → List (Yaml.Data × Yaml.Data)
  | [] => []
  | (key, value) :: rest => (.text key, value.toYaml) :: Value.fieldsYaml rest

end

namespace Yaml

open Reader

/-! ## Scalars -/

theorem ends_newline (text : List Char) : Ends ('\n' :: text) := ⟨'\n', text, rfl, Or.inl rfl⟩

theorem ends_colon {text : List Char} (h : endsOrGaps text = true) : Ends (':' :: text) :=
  ⟨':', text, rfl, Or.inr ⟨rfl, h⟩⟩

theorem inline?_scalar {indent : Nat} (hindent : 0 < indent) {s : String}
    (hstyle : styleOf s.toList ≠ .literal) {behind : List Char} (hends : Ends behind) :
    OpensScalar (scalar indent s ++ behind) ∧
      inline? (scalar indent s ++ behind) = some (.text s, behind) := by
  obtain ⟨hplain, hsingle, -⟩ := styleOf_spec s.toList
  rw [scalar]
  cases h : styleOf s.toList with
  | plain =>
    obtain ⟨htext, hallows⟩ := hplain h
    have hne : s.toList ≠ [] := by
      rintro hnil
      rw [hnil] at htext
      cases htext
    refine ⟨opensScalar_plain hne hallows hends, ?_⟩
    rw [inline?_plain hne hallows hends, resolve_of_readsAsOther htext, String.ofList_toList]
  | single =>
    obtain ⟨hallows, hline⟩ := hsingle h
    refine ⟨.of_head (by decide) (by decide), ?_⟩
    rw [inline?_singleQuoted hindent hallows hline (hends.head_ne (by decide) (by decide)),
      String.ofList_toList]
  | double =>
    refine ⟨.of_head (by decide) (by decide), ?_⟩
    rw [inline?_doubleQuoted, String.ofList_toList]
  | literal => exact absurd h hstyle

theorem skipSpaces_of_head {c : Char} (h : c ≠ ' ') (text : List Char) :
    skipSpaces (c :: text) = c :: text := by
  rw [skipSpaces, List.dropWhile_cons_of_neg (by simpa using h)]

/-- A scalar on one line is a node. -/
theorem node_inline {steps base column : Nat} {compact : Bool} {text behind : List Char} {data : Data}
    (hopen : OpensScalar text) (hread : inline? text = some (data, '\n' :: behind)) :
    node (steps + 1) base column compact text = some (data, behind) := by
  have hcolon : opens ':' (skipSpaces ('\n' :: behind)) = false := by
    rw [skipSpaces_of_head (by decide)]
    rfl
  have hline : endLine? ('\n' :: behind) = some behind := by
    rw [endLine?, skipSpaces_of_head (by decide)]
    rfl
  rw [node, if_neg (by simp [hopen.marker]), if_neg (by simp [hopen.dash]),
    if_neg (by simp [hopen.question]), if_neg hopen.bar, hread]
  simp [hcolon, hline]

theorem node_literal {steps base column : Nat} {compact : Bool} {text behind s : List Char}
    (hread : literal? base text = some (s, behind)) :
    node (steps + 1) base column compact ('|' :: text) = some (.text (String.ofList s), behind) := by
  have hmarker : isMarker ('|' :: text) = false := isMarker_of_head (by decide) (by decide)
  rw [node, if_neg (by simp [hmarker]), if_neg (by simp [opens]), if_neg (by simp [opens]),
    if_pos (List.head?_cons ..), List.tail_cons, hread]
  rfl

/-- A text with the end of its last line is a node, if what stands behind it starts further left. -/
theorem node_scalarLine (steps column : Nat) (compact : Bool) {base : Nat} (hbase : 0 < base)
    (s : String) {rest : List Char} (hrest : Below (base + 1) rest) :
    node (steps + 1) base column compact (scalarLine (base + 1) s ++ rest) = some (.text s, rest) := by
  by_cases hstyle : styleOf s.toList = .literal
  · have hline := ((styleOf_spec s.toList).2.2 hstyle).2
    have hne : s.toList ≠ [] := List.ne_nil_of_mem hline
    obtain ⟨text, hwritten, hread⟩ := literal?_literal hbase hne hrest
    have hfeed : scalarLine (base + 1) s ++ rest =
        literal (base + 1) s.toList ++ (lastFeed true s.toList ++ rest) := by
      have hlast := lastFeed_of_ne_nil true hne
      cases hend : endsWith isBreak s.toList <;> simp [scalarLine, scalar, hstyle, hend, hlast]
    rw [hfeed, hwritten, node_literal hread, String.ofList_toList]
  · have hscalar : scalarLine (base + 1) s ++ rest = scalar (base + 1) s ++ '\n' :: rest := by
      rw [scalarLine, if_neg (fun h => hstyle h.1), List.append_assoc]
      rfl
    obtain ⟨hopen, hread⟩ := inline?_scalar (Nat.succ_pos base) hstyle (ends_newline rest)
    rw [hscalar]
    exact node_inline hopen hread

/-! ## Digits and flags -/

theorem hasPair_of_forall {p q : Char → Bool} {s : List Char} (h : ∀ c ∈ s, p c = false) :
    hasPair p q s = false := by
  induction s with
  | nil => rfl
  | cons c s ih =>
    rw [hasPair_cons, h c List.mem_cons_self, ih fun d hd => h d (List.mem_cons_of_mem _ hd)]
    rfl

theorem hasInnerMark_of_forall {s : List Char} (h : ∀ c ∈ s, c ≠ ':' ∧ c ≠ '#') (before : Char) :
    hasInnerMark before s = false := by
  induction s generalizing before with
  | nil => rfl
  | cons c s ih =>
    obtain ⟨hcolon, hcomment⟩ := h c List.mem_cons_self
    rw [hasInnerMark, beq_false_of_ne hcolon, beq_false_of_ne hcomment,
      ih fun d hd => h d (List.mem_cons_of_mem _ hd)]
    rfl

/-- The characters that are judged alike where digits stand. -/
theorem ne_of_isDigit {c : Char} (h : c.isDigit = true) :
    ∀ d ∈ ['\n', '\r', '\u0085', '\u2028', '\u2029', ' ', '.', '-', '?', ':'] ++ indicators, c ≠ d := by
  rintro d hd rfl
  have hall : (['\n', '\r', '\u0085', '\u2028', '\u2029', ' ', '.', '-', '?', ':'] ++ indicators).all
      (!Char.isDigit ·) = true := by decide
  have hdigit := List.all_eq_true.1 hall c hd
  rw [h] at hdigit
  cases hdigit

theorem hasMark_of_isDigit {s : List Char} (h : ∀ c ∈ s, c.isDigit = true) : hasMark s = false := by
  cases s with
  | nil => rfl
  | cons c s =>
    have hne := ne_of_isDigit (h c List.mem_cons_self)
    have hindicator : indicators.contains c = false := by
      rw [List.contains_eq_mem, decide_eq_false_iff_not]
      exact fun hmem => hne c (List.mem_append_right _ hmem) rfl
    have hinner : hasInnerMark c s = false := by
      refine hasInnerMark_of_forall (fun d hd => ?_) c
      have hd := ne_of_isDigit (h d (List.mem_cons_of_mem _ hd))
      exact ⟨hd ':' (by decide), hd '#' (by decide)⟩
    rw [hasMark, hindicator, hinner]
    simp [List.isPrefixOf, (hne '-' (by decide)).symm, (hne '.' (by decide)).symm, hne '?', hne ':',
      hne '-']

theorem allowsPlain_of_isDigit {s : List Char} (h : ∀ c ∈ s, c.isDigit = true) :
    allowsPlain s = true := by
  have hspace : ∀ c ∈ s, isSpace c = false :=
    fun c hc => beq_false_of_ne (ne_of_isDigit (h c hc) ' ' (by decide))
  have hescapes : needsEscapes s = false := by
    rw [needsEscapes, hasPair_of_forall hspace, Bool.or_false, List.any_eq_false]
    intro c hc
    simp [isPrintable_of_isDigit (h c hc)]
  have hlines : s.any isBreak = false := by
    rw [List.any_eq_false]
    intro c hc
    have hne := ne_of_isDigit (h c hc)
    simp [isBreak, hne '\n', hne '\r', hne '\u0085', hne '\u2028', hne '\u2029']
  rw [allowsPlain, hescapes, hlines, startsWith_of_forall hspace, endsWith_of_forall hspace,
    hasMark_of_isDigit h]
  rfl

theorem allowsPlain_toDigits (n : Nat) : allowsPlain (Nat.toDigits 10 n) = true :=
  allowsPlain_of_isDigit fun _ hc => Nat.isDigit_of_mem_toDigits (by decide) (by decide) hc

/-! ## Lines -/

/-- What stands behind an entry in a column: nothing, or a line that starts no item there and nothing
further right. -/
def Follows (column : Nat) (rest : List Char) : Prop :=
  rest = [] ∨ ∃ k c more, rest = margin k ++ c :: more ∧ c ≠ ' ' ∧ isBreak c = false ∧
    (k < column ∨ k = column ∧ opens '-' (c :: more) = false)

theorem Below.follows {column : Nat} {rest : List Char} (h : Below column rest) :
    Follows column rest := by
  obtain h | ⟨k, c, more, hrest, hk, hspace, hbreak⟩ := h
  · exact Or.inl h
  · exact Or.inr ⟨k, c, more, hrest, hspace, hbreak, Or.inl hk⟩

theorem Follows.below {column : Nat} {rest : List Char} (h : Follows column rest) :
    Below (column + 2) rest := by
  obtain h | ⟨k, c, more, hrest, hspace, hbreak, hk⟩ := h
  · exact Or.inl h
  · exact Or.inr ⟨k, c, more, hrest, by omega, hspace, hbreak⟩

theorem takeWhile_margin {c : Char} (hspace : c ≠ ' ') (k : Nat) (more : List Char) :
    indentOf (margin k ++ c :: more) = k ∧ skipSpaces (margin k ++ c :: more) = c :: more := by
  have hall : ∀ d ∈ margin k, (d == ' ') = true := by
    intro d hd
    simpa using List.eq_of_mem_replicate hd
  have hhead : ∀ d ∈ (c :: more).head?, (d == ' ') = false := by simpa using hspace
  constructor
  · rw [indentOf, takeWhile_append_of_head hall hhead, margin, List.length_replicate]
  · exact dropWhile_append_of_head hall hhead

/-! ## Keys -/

theorem endsOrGaps_behindColon (indent : Nat) (v : Value) (rest : List Char) :
    endsOrGaps (behindColon indent v ++ rest) = true := by
  unfold behindColon
  split <;> rfl

theorem opensEntry_entry (indent : Nat) (entry : String × Value) (rest : List Char) :
    OpensEntry (Yaml.entry indent entry ++ rest) := by
  obtain ⟨key, v⟩ := entry
  cases hkey : isSimpleKey key with
  | true =>
    have hends := ends_colon (endsOrGaps_behindColon indent v rest)
    rw [entry_eq, if_pos hkey, List.append_assoc, List.cons_append]
    exact (inline?_scalar (Nat.succ_pos _) (styleOf_of_isSimpleKey hkey) hends).1.toOpensEntry
  | false =>
    rw [entry_eq, if_neg (Bool.eq_false_iff.1 hkey)]
    exact ⟨isMarker_of_head (by decide) (by decide), rfl, '?', _, rfl, by decide, rfl⟩

theorem exists_head_scalarLine {indent : Nat} (hindent : 0 < indent) (s : String) :
    ∃ c more, scalarLine indent s = c :: more ∧ c ≠ ' ' ∧ isBreak c = false := by
  by_cases hstyle : styleOf s.toList = .literal
  · rw [scalarLine, scalar, hstyle]
    split
    · exact ⟨'|', _, rfl, by decide, rfl⟩
    · exact ⟨'|', _, rfl, by decide, rfl⟩
  · rw [scalarLine, if_neg (fun h => hstyle h.1)]
    exact (inline?_scalar hindent hstyle (ends_newline [])).1.head

/-- A block starts with a character that is no space. -/
theorem exists_head_block {indent : Nat} (hindent : 0 < indent) (v : Value) :
    ∃ c more, block indent v = c :: more ∧ c ≠ ' ' ∧ isBreak c = false := by
  cases v with
  | text s =>
    rw [block_text]
    exact exists_head_scalarLine hindent s
  | number n =>
    rw [block_number]
    exact (opensScalar_plain Nat.toDigits_ne_nil (allowsPlain_toDigits n) (ends_newline [])).head
  | flag b =>
    cases b with
    | true => exact ⟨'t', _, rfl, by decide, rfl⟩
    | false => exact ⟨'f', _, rfl, by decide, rfl⟩
  | list items =>
    cases items with
    | nil => exact ⟨'[', _, rfl, by decide, rfl⟩
    | cons item rest => exact ⟨'-', _, rfl, by decide, rfl⟩
  | object fields =>
    cases fields with
    | nil => exact ⟨'\x7b', _, rfl, by decide, rfl⟩
    | cons field rest =>
      rw [block_object]
      exact (opensEntry_entry indent field _).head

theorem length_block_pos (indent : Nat) (v : Value) : 0 < (block (indent + 2) v).length := by
  obtain ⟨c, more, hcons, -⟩ := exists_head_block (Nat.succ_pos (indent + 1)) v
  rw [hcons, List.length_cons]
  exact Nat.succ_pos _

theorem skipSpaces_block (indent : Nat) (v : Value) (text : List Char) :
    skipSpaces (' ' :: (block (indent + 2) v ++ text)) = block (indent + 2) v ++ text := by
  obtain ⟨c, more, hcons, hspace, -⟩ := exists_head_block (Nat.succ_pos (indent + 1)) v
  rw [hcons]
  exact (takeWhile_margin hspace 1 (more ++ text)).2

/-! ## Items -/

/-- A value is read back from the place on where it starts, and as the value of a field. -/
structure ReadsBack (v : Value) : Prop where
  block : ∀ {column steps : Nat} {rest : List Char}, Below (column + 2) rest →
    (block (column + 2) v).length ≤ steps →
    node steps (column + 1) (column + 2) true (block (column + 2) v ++ rest) = some (v.toYaml, rest)
  entry : ∀ {key : String} {column steps : Nat} {rest : List Char}, Follows column rest →
    (entry column (key, v)).length ≤ steps + 2 →
    field steps column (entry column (key, v) ++ rest) = some ((.text key, v.toYaml), rest)

/-- The first item of a list, and what its reader does next. -/
theorem items_item {item : Value} (hitem : ReadsBack item) {column steps : Nat} {behind : List Char}
    (hbehind : Below (column + 2) behind) (hsteps : (block (column + 2) item).length ≤ steps) :
    Reader.items (steps + 1) column ('-' :: ' ' :: (block (column + 2) item ++ behind)) =
      if behind = [] then some ([item.toYaml], behind)
      else if indentOf behind = column ∧ opens '-' (skipSpaces behind) = true then
        (Reader.items steps column (skipSpaces behind)).map fun p => (item.toYaml :: p.1, p.2)
      else if indentOf behind ≤ column then some ([item.toYaml], behind)
      else none := by
  have hwidth : ('-' :: ' ' :: (block (column + 2) item ++ behind)).length -
      (block (column + 2) item ++ behind).length = 2 := by
    simp only [List.length_cons]
    omega
  rw [Reader.items, List.tail_cons, skipSpaces_block]
  simp only [hwidth, hitem.block hbehind hsteps, Option.bind_eq_bind, Option.bind_some]
  split
  · rfl
  split
  · cases Reader.items steps column (skipSpaces behind) <;> rfl
  · rfl

theorem items_block {item : Value} {more : List Value} (h : ∀ v ∈ item :: more, ReadsBack v)
    {column steps : Nat} {rest : List Char} (hrest : Follows column rest)
    (hsteps : ('-' :: ' ' :: block (column + 2) item ++ items column more).length ≤ steps + 1) :
    Reader.items steps column
        ('-' :: ' ' :: (block (column + 2) item ++ (items column more ++ rest))) =
      some (Value.itemsYaml (item :: more), rest) := by
  induction more generalizing item steps with
  | nil =>
    have hpositive := length_block_pos column item
    simp only [items, List.append_nil, List.length_cons] at hsteps
    obtain ⟨steps, rfl⟩ : ∃ left, steps = left + 1 := ⟨steps - 1, by omega⟩
    rw [items, List.nil_append, items_item (h item List.mem_cons_self) hrest.below (by omega)]
    obtain rfl | ⟨k, c, behind, rfl, hspace, -, hk⟩ := hrest
    · rfl
    · obtain ⟨hindent, hskip⟩ := takeWhile_margin hspace k behind
      have hne : margin k ++ c :: behind ≠ [] := by simp
      rw [hindent, hskip, if_neg hne, if_neg, if_pos]
      · rfl
      · omega
      · rintro ⟨rfl, hdash⟩
        obtain hk | ⟨-, hk⟩ := hk
        · exact Nat.lt_irrefl k hk
        · rw [hk] at hdash
          cases hdash
  | cons next more ih =>
    have hpositive := length_block_pos column item
    have hnext : items column (next :: more) ++ rest =
        margin column ++ '-' :: ' ' :: (block (column + 2) next ++ (items column more ++ rest)) := by
      simp [items]
    simp only [items, List.length_cons, List.length_append, List.cons_append] at hsteps ih
    obtain ⟨steps, rfl⟩ : ∃ left, steps = left + 1 := ⟨steps - 1, by omega⟩
    have hrec : Reader.items steps column _ = some (Value.itemsYaml (next :: more), rest) :=
      ih (fun v hv => h v (List.mem_cons_of_mem _ hv)) (by omega)
    have hbelow : Below (column + 2) (items column (next :: more) ++ rest) :=
      Or.inr ⟨column, '-', _, hnext, by omega, by decide, rfl⟩
    rw [items_item (h item List.mem_cons_self) hbelow (by omega), hnext]
    obtain ⟨hindent, hskip⟩ := takeWhile_margin (c := '-') (by decide) column
      (' ' :: (block (column + 2) next ++ (items column more ++ rest)))
    rw [hindent, hskip, if_neg (by simp), if_pos ⟨rfl, rfl⟩, hrec]
    rfl

/-! ## Fields -/

/-- What a reader does behind the colon of a key that stands on its line. -/
theorem field_simple {key : String} (hkey : isSimpleKey key = true) {behind : List Char}
    (hbehind : endsOrGaps behind = true) (steps column : Nat) :
    field (steps + 1) column (scalar (column + 2) key ++ ':' :: behind) =
      match skipSpaces behind with
      | [] => none
      | c :: below =>
        if isBreak c then
          if column < indentOf below then
            (node steps (column + 1) (indentOf below) true (skipSpaces below)).bind fun p =>
              some ((.text key, p.1), p.2)
          else if indentOf below = column ∧ opens '-' (skipSpaces below) = true then
            (Reader.items steps column (skipSpaces below)).bind fun p =>
              some ((.text key, .list p.1), p.2)
          else none
        else
          (node steps (column + 1) (column + 1) false (c :: below)).bind fun p =>
            some ((.text key, p.1), p.2) := by
  obtain ⟨hopen, hread⟩ :=
    inline?_scalar (Nat.succ_pos (column + 1)) (styleOf_of_isSimpleKey hkey) (ends_colon hbehind)
  have hmark : skipSpaces (':' :: behind) = ':' :: behind := skipSpaces_of_head (by decide) behind
  have hcolon : opens ':' (':' :: behind) = true := hbehind
  have htake : (scalar (column + 2) key ++ ':' :: behind).take
      ((scalar (column + 2) key ++ ':' :: behind).length - (':' :: behind).length) =
        scalar (column + 2) key := by
    rw [List.length_append, Nat.add_sub_cancel, List.take_left]
  rw [field, if_neg (by simp [hopen.marker]), if_neg (by simp [hopen.question]), hread]
  simp only [Option.bind_eq_bind, Option.bind_some, hmark, htake, hcolon, fitsKey_scalar _ hkey,
    and_self, if_true, List.tail_cons]
  rfl

/-- A key behind a question mark is read back, and the value below it. -/
theorem field_explicit {key : String} (hkey : isSimpleKey key = false) {v : Value} {column steps : Nat}
    {rest : List Char}
    (hread : node (steps + 1) (column + 1) (column + 2) true (block (column + 2) v ++ rest) =
      some (v.toYaml, rest)) :
    field (steps + 2) column (entry column (key, v) ++ rest) = some ((.text key, v.toYaml), rest) := by
  have hskip := skipSpaces_block column v rest
  have hwritten : entry column (key, v) ++ rest = '?' :: ' ' :: (scalarLine (column + 2) key ++
      (margin column ++ ':' :: ' ' :: (block (column + 2) v ++ rest))) := by
    rw [entry_eq, if_neg (Bool.eq_false_iff.1 hkey)]
    simp
  rw [hwritten]
  generalize block (column + 2) v ++ rest = value at hskip hread ⊢
  obtain ⟨hindent, hmark⟩ := takeWhile_margin (c := ':') (by decide) column (' ' :: value)
  have hbelow : Below (column + 2) (margin column ++ ':' :: ' ' :: value) :=
    Or.inr ⟨column, ':', _, rfl, by omega, by decide, rfl⟩
  have hkeyread := node_scalarLine steps (column + 2) true (Nat.succ_pos column) key hbelow
  have hkeyskip : skipSpaces (' ' :: (scalarLine (column + 2) key ++
      (margin column ++ ':' :: ' ' :: value))) =
        scalarLine (column + 2) key ++ (margin column ++ ':' :: ' ' :: value) := by
    obtain ⟨c, more, hcons, hspace, -⟩ := exists_head_scalarLine (Nat.succ_pos (column + 1)) key
    rw [hcons]
    exact (takeWhile_margin hspace 1 _).2
  generalize margin column ++ ':' :: ' ' :: value = below at hindent hmark hkeyread hkeyskip ⊢
  have hwidth : ∀ (c d : Char) (text : List Char), (c :: d :: text).length - text.length = 2 := by
    intro c d text
    simp only [List.length_cons]
    omega
  have hmarker : isMarker ('?' :: ' ' :: (scalarLine (column + 2) key ++ below)) = false :=
    isMarker_of_head (by decide) (by decide)
  have hopens : ∀ (mark : Char) (text : List Char), opens mark (mark :: ' ' :: text) = true := by
    intro mark text
    simp [opens, endsOrGaps, isGap]
  rw [field, if_neg (by simp [hmarker]), if_pos (hopens _ _)]
  simp only [List.tail_cons, hkeyskip, hwidth, hkeyread, hindent, hmark, hopens, hskip, hread,
    Option.bind_eq_bind, Option.bind_some, and_self, if_true]
  rfl

theorem scalar_ne_nil {indent : Nat} (hindent : 0 < indent) {s : String}
    (hstyle : styleOf s.toList ≠ .literal) : scalar indent s ≠ [] := by
  intro hnil
  obtain ⟨c, more, hcons, -, hbreak⟩ := (inline?_scalar hindent hstyle (ends_newline [])).1.head
  rw [hnil, List.nil_append] at hcons
  rw [← (List.cons.inj hcons).1] at hbreak
  cases hbreak

/-- A value that is read back as a block and behind the colon of a key is read back as any field. -/
theorem ReadsBack.of_block {v : Value}
    (hblock : ∀ {column steps : Nat} {rest : List Char}, Below (column + 2) rest →
      (Yaml.block (column + 2) v).length ≤ steps →
      node steps (column + 1) (column + 2) true (Yaml.block (column + 2) v ++ rest) =
        some (v.toYaml, rest))
    (hcolon : ∀ {key : String} {column steps : Nat} {rest : List Char}, isSimpleKey key = true →
      Follows column rest → (behindColon column v).length ≤ steps + 1 →
      field (steps + 1) column (scalar (column + 2) key ++ ':' :: (behindColon column v ++ rest)) =
        some ((.text key, v.toYaml), rest)) : ReadsBack v := by
  refine ⟨hblock, fun {key column steps rest} hrest hsteps => ?_⟩
  cases hkey : isSimpleKey key with
  | true =>
    have hscalar : 0 < (scalar (column + 2) key).length := List.length_pos_iff.2
      (scalar_ne_nil (Nat.succ_pos (column + 1)) (styleOf_of_isSimpleKey hkey))
    have hpositive : 0 < (behindColon column v).length := by
      unfold behindColon
      split <;> exact Nat.succ_pos _
    rw [entry_eq, if_pos hkey, List.length_append, List.length_cons] at hsteps
    obtain ⟨steps, rfl⟩ : ∃ left, steps = left + 1 := ⟨steps - 1, by omega⟩
    rw [entry_eq, if_pos hkey, List.append_assoc, List.cons_append]
    exact hcolon hkey hrest (by omega)
  | false =>
    have hpositive := length_block_pos column v
    rw [entry_eq, if_neg (Bool.eq_false_iff.1 hkey)] at hsteps
    simp only [List.length_append, List.length_cons] at hsteps
    obtain ⟨steps, rfl⟩ : ∃ left, steps = left + 2 := ⟨steps - 2, by omega⟩
    exact field_explicit hkey (hblock hrest.below (by omega))

/-- A scalar is read back from the place on where it starts, and behind the colon of its key. -/
theorem ReadsBack.of_scalar {v : Value}
    (hcolon : ∀ indent, behindColon indent v = ' ' :: Yaml.block (indent + 2) v)
    (hread : ∀ (steps column : Nat) (compact : Bool) {base : Nat} {rest : List Char}, 0 < base →
      Below (base + 1) rest →
        node (steps + 1) base column compact (Yaml.block (base + 1) v ++ rest) =
          some (v.toYaml, rest)) : ReadsBack v := by
  refine .of_block (fun {column steps rest} hrest hsteps => ?_)
    (fun {key column steps rest} hkey hrest hsteps => ?_)
  · have hpositive := length_block_pos column v
    obtain ⟨steps, rfl⟩ : ∃ left, steps = left + 1 := ⟨steps - 1, by omega⟩
    exact hread steps (column + 2) true (Nat.succ_pos column) hrest
  · have hpositive := length_block_pos column v
    have hgap := endsOrGaps_behindColon column v rest
    obtain ⟨c, more, hcons, hspace, hbreak⟩ := exists_head_block (Nat.succ_pos (column + 1)) v
    rw [hcolon, List.length_cons] at hsteps
    obtain ⟨steps, rfl⟩ : ∃ left, steps = left + 1 := ⟨steps - 1, by omega⟩
    have hvalue := hread steps (column + 1) false (Nat.succ_pos column) hrest.below
    rw [field_simple hkey hgap, hcolon, List.cons_append, skipSpaces_block]
    rw [hcons, List.cons_append] at hvalue ⊢
    dsimp only
    rw [if_neg (Bool.eq_false_iff.1 hbreak), hvalue]
    rfl

/-- The first field of an object, and what its reader does next. -/
theorem fields_field {f : String × Value} (hvalue : ReadsBack f.2) {column steps : Nat}
    {behind : List Char} (hbehind : Follows column behind)
    (hsteps : (entry column f).length ≤ steps + 2) :
    Reader.fields (steps + 1) column (entry column f ++ behind) =
      if behind = [] then some ([(.text f.1, f.2.toYaml)], behind)
      else if indentOf behind = column then
        (Reader.fields steps column (skipSpaces behind)).map fun p =>
          ((.text f.1, f.2.toYaml) :: p.1, p.2)
      else if indentOf behind < column then some ([(.text f.1, f.2.toYaml)], behind)
      else none := by
  obtain ⟨key, v⟩ := f
  rw [Reader.fields, hvalue.entry hbehind hsteps]
  simp only [Option.bind_eq_bind, Option.bind_some]
  split
  · rfl
  split
  · cases Reader.fields steps column (skipSpaces behind) <;> rfl
  · rfl

theorem length_entry_pos (column : Nat) (f : String × Value) : 1 < (entry column f).length := by
  obtain ⟨key, v⟩ := f
  rw [entry_eq]
  split
  · rename_i hkey
    have hscalar : 0 < (scalar (column + 2) key).length := List.length_pos_iff.2
      (scalar_ne_nil (Nat.succ_pos (column + 1)) (styleOf_of_isSimpleKey hkey))
    rw [List.length_append, List.length_cons]
    omega
  · simp only [List.length_append, List.length_cons]
    omega

theorem fields_block {f : String × Value} {more : List (String × Value)}
    (h : ∀ g ∈ f :: more, ReadsBack g.2) {column steps : Nat} {rest : List Char}
    (hrest : Below column rest)
    (hsteps : (entry column f ++ fields column more).length ≤ steps + 1) :
    Reader.fields steps column (entry column f ++ (fields column more ++ rest)) =
      some (Value.fieldsYaml (f :: more), rest) := by
  induction more generalizing f steps with
  | nil =>
    have hpositive := length_entry_pos column f
    rw [fields, List.append_nil] at hsteps
    obtain ⟨steps, rfl⟩ : ∃ left, steps = left + 1 := ⟨steps - 1, by omega⟩
    rw [fields, List.nil_append, fields_field (h f List.mem_cons_self) hrest.follows (by omega)]
    obtain rfl | ⟨k, c, behind, rfl, hk, hspace, -⟩ := hrest
    · rfl
    · obtain ⟨hindent, hskip⟩ := takeWhile_margin hspace k behind
      rw [hindent, if_neg (by simp), if_neg (by omega), if_pos hk]
      rfl
  | cons next more ih =>
    have hpositive := length_entry_pos column f
    have hopen := opensEntry_entry column next (fields column more ++ rest)
    obtain ⟨c, tail, hcons, hspace, hbreak⟩ := hopen.head
    have hnext : fields column (next :: more) ++ rest =
        margin column ++ (entry column next ++ (fields column more ++ rest)) := by
      simp [fields]
    simp only [fields, List.length_append] at hsteps ih
    obtain ⟨steps, rfl⟩ : ∃ left, steps = left + 1 := ⟨steps - 1, by omega⟩
    have hrec : Reader.fields steps column _ = some (Value.fieldsYaml (next :: more), rest) :=
      ih (fun g hg => h g (List.mem_cons_of_mem f hg)) (by omega)
    have hfollows : Follows column (fields column (next :: more) ++ rest) := by
      rw [hnext, hcons]
      exact Or.inr ⟨column, c, tail, rfl, hspace, hbreak, Or.inr ⟨rfl, hcons ▸ hopen.dash⟩⟩
    rw [fields_field (h f List.mem_cons_self) hfollows (by omega), hnext]
    rw [hcons] at hrec ⊢
    obtain ⟨hindent, hskip⟩ := takeWhile_margin hspace column tail
    rw [hindent, hskip, if_neg (by simp), if_pos rfl, hrec]
    rfl

/-- A list below its key, in the column of the key. -/
theorem field_items {key : String} (hkey : isSimpleKey key = true) {column steps : Nat}
    {text rest : List Char} {read : List Data}
    (hread : Reader.items steps column ('-' :: ' ' :: text) = some (read, rest)) :
    field (steps + 1) column
        (scalar (column + 2) key ++ ':' :: '\n' :: (margin column ++ '-' :: ' ' :: text)) =
      some ((.text key, .list read), rest) := by
  have hbreak : isBreak '\n' = true := rfl
  obtain ⟨hindent, hskip⟩ := takeWhile_margin (c := '-') (by decide) column (' ' :: text)
  rw [field_simple hkey rfl, skipSpaces_of_head (by decide)]
  dsimp only
  rw [if_pos hbreak, hindent, if_neg (Nat.lt_irrefl column), hskip, if_pos ⟨rfl, rfl⟩, hread]
  rfl

/-- A value below its key, further right. -/
theorem field_nested {key : String} (hkey : isSimpleKey key = true) {column steps : Nat} {v : Value}
    {rest : List Char} {read : Data}
    (hread : node steps (column + 1) (column + 2) true (block (column + 2) v ++ rest) =
      some (read, rest)) :
    field (steps + 1) column
        (scalar (column + 2) key ++
          ':' :: '\n' :: (margin (column + 2) ++ (block (column + 2) v ++ rest))) =
      some ((.text key, read), rest) := by
  have hbreak : isBreak '\n' = true := rfl
  obtain ⟨c, more, hcons, hspace, -⟩ := exists_head_block (Nat.succ_pos (column + 1)) v
  obtain ⟨hindent, hskip⟩ := takeWhile_margin hspace (column + 2) (more ++ rest)
  rw [← List.cons_append, ← hcons] at hindent hskip
  rw [field_simple hkey rfl, skipSpaces_of_head (by decide)]
  dsimp only
  rw [if_pos hbreak, hindent, if_pos (by omega), hskip, hread]
  rfl

/-! ## Values -/

theorem node_plain {s : List Char} (hne : s ≠ []) (h : allowsPlain s = true) (steps base column : Nat)
    (compact : Bool) (rest : List Char) :
    node (steps + 1) base column compact (s ++ '\n' :: rest) = some (resolve s, rest) :=
  node_inline (opensScalar_plain hne h (ends_newline rest)) (inline?_plain hne h (ends_newline rest))

theorem node_items (steps base column : Nat) (text : List Char) :
    node (steps + 1) base column true ('-' :: ' ' :: text) =
      (Reader.items steps column ('-' :: ' ' :: text)).bind fun p => some (.list p.1, p.2) := by
  have hmarker : isMarker ('-' :: ' ' :: text) = false := by simp [isMarker, List.isPrefixOf]
  have hdash : opens '-' ('-' :: ' ' :: text) = true := by simp [opens, endsOrGaps, isGap]
  rw [node, if_neg (by simp [hmarker]), if_pos hdash]
  rfl

theorem node_fields (steps base column : Nat) (f : String × Value) (text : List Char) :
    node (steps + 1) base column true (entry column f ++ text) =
      (Reader.fields steps column (entry column f ++ text)).bind fun p => some (.object p.1, p.2) := by
  have hentry := opensEntry_entry column f text
  obtain ⟨key, v⟩ := f
  cases hkey : isSimpleKey key with
  | true =>
    have hwritten : entry column (key, v) ++ text =
        scalar (column + 2) key ++ ':' :: (behindColon column v ++ text) := by
      rw [entry_eq, if_pos hkey, List.append_assoc, List.cons_append]
    have hgap := endsOrGaps_behindColon column v text
    have hcolon : opens ':' (skipSpaces (':' :: (behindColon column v ++ text))) = true := by
      rw [skipSpaces_of_head (by decide)]
      exact hgap
    rw [hwritten] at hentry ⊢
    obtain ⟨hopen, hread⟩ :=
      inline?_scalar (Nat.succ_pos (column + 1)) (styleOf_of_isSimpleKey hkey) (ends_colon hgap)
    rw [node, if_neg (by simp [hentry.marker]), if_neg (by simp [hentry.dash]),
      if_neg (by simp [hopen.question]), if_neg hopen.bar, hread]
    simp only [Option.bind_eq_bind, Option.bind_some, hcolon, if_true]
    rfl
  | false =>
    have hquestion : opens '?' (entry column (key, v) ++ text) = true := by
      rw [entry_eq, if_neg (Bool.eq_false_iff.1 hkey)]
      simp [opens, endsOrGaps, isGap]
    rw [node, if_neg (by simp [hentry.marker]), if_neg (by simp [hentry.dash]), if_pos hquestion]
    rfl

theorem readsBack_text (s : String) : ReadsBack (.text s) := by
  refine .of_scalar (fun _ => rfl) fun steps column compact base rest hbase hrest => ?_
  rw [block_text]
  exact node_scalarLine steps column compact hbase s hrest

theorem readsBack_number (n : Nat) : ReadsBack (.number n) := by
  refine .of_scalar (fun _ => rfl) fun steps column compact base rest _ _ => ?_
  rw [block_number, List.append_assoc]
  exact node_plain Nat.toDigits_ne_nil (allowsPlain_toDigits n) steps base column compact rest

theorem readsBack_flag (b : Bool) : ReadsBack (.flag b) := by
  refine .of_scalar (fun _ => by cases b <;> rfl) fun steps column compact base rest _ _ => ?_
  cases b with
  | true =>
    exact node_plain (s := "true".toList) (by decide) (by decide) steps base column compact rest
  | false =>
    exact node_plain (s := "false".toList) (by decide) (by decide) steps base column compact rest

theorem readsBack_nil : ReadsBack (.list []) ∧ ReadsBack (.object []) := by
  constructor
  all_goals
    refine .of_scalar (fun _ => rfl) fun steps column compact base rest _ _ => ?_
    exact node_inline (.of_head (by decide) (by decide)) rfl

theorem readsBack_list {v : Value} {vs : List Value} (h : ∀ w ∈ v :: vs, ReadsBack w) :
    ReadsBack (.list (v :: vs)) := by
  refine .of_block (fun {column steps rest} hrest hsteps => ?_)
    (fun {key column steps rest} hkey hrest hsteps => ?_)
  · rw [block_list] at hsteps ⊢
    have hlength : ('-' :: ' ' :: Yaml.block (column + 2 + 2) v ++ items (column + 2) vs).length =
      (Yaml.block (column + 2 + 2) v ++ items (column + 2) vs).length + 2 := rfl
    obtain ⟨steps, rfl⟩ : ∃ left, steps = left + 1 := ⟨steps - 1, by omega⟩
    simp only [List.cons_append, List.append_assoc]
    rw [node_items, items_block h hrest.follows hsteps]
    rfl
  · -- the items of a field stand in the column of its key
    have hwritten : behindColon column (.list (v :: vs)) ++ rest =
        '\n' :: (margin column ++ '-' :: ' ' :: (Yaml.block (column + 2) v ++
          (items column vs ++ rest))) := by
      simp [behindColon]
    have hlength : (behindColon column (.list (v :: vs))).length =
        column + ('-' :: ' ' :: Yaml.block (column + 2) v ++ items column vs).length + 1 := by
      simp [behindColon, margin]
    rw [hwritten]
    exact field_items hkey (items_block h hrest (by omega))

theorem readsBack_object {f : String × Value} {fs : List (String × Value)}
    (h : ∀ g ∈ f :: fs, ReadsBack g.2) : ReadsBack (.object (f :: fs)) := by
  have hblock : ∀ {column steps : Nat} {rest : List Char}, Below (column + 2) rest →
      (Yaml.block (column + 2) (.object (f :: fs))).length ≤ steps →
      node steps (column + 1) (column + 2) true
          (Yaml.block (column + 2) (.object (f :: fs)) ++ rest) =
        some ((Value.object (f :: fs)).toYaml, rest) := by
    intro column steps rest hrest hsteps
    have hpositive := length_block_pos column (.object (f :: fs))
    obtain ⟨steps, rfl⟩ : ∃ left, steps = left + 1 := ⟨steps - 1, by omega⟩
    rw [block_object] at hsteps ⊢
    rw [List.append_assoc, node_fields, fields_block h hrest hsteps]
    rfl
  refine .of_block hblock (fun {key column steps rest} hkey hrest hsteps => ?_)
  have hwritten : behindColon column (.object (f :: fs)) ++ rest =
      '\n' :: (margin (column + 2) ++ (Yaml.block (column + 2) (.object (f :: fs)) ++ rest)) := by
    simp [behindColon, block_object]
  have hlength : (behindColon column (.object (f :: fs))).length =
      column + 2 + (Yaml.block (column + 2) (.object (f :: fs))).length + 1 := by
    simp [behindColon, block_object, margin]
  rw [hwritten]
  exact field_nested hkey (hblock hrest.below (by omega))

theorem readsBack (v : Value) : ReadsBack v := by
  induction v using Value.induct with
  | text s => exact readsBack_text s
  | number n => exact readsBack_number n
  | flag b => exact readsBack_flag b
  | list vs ih =>
    cases vs with
    | nil => exact readsBack_nil.1
    | cons v vs => exact readsBack_list ih
  | object fs ih =>
    cases fs with
    | nil => exact readsBack_nil.2
    | cons f fs => exact readsBack_object ih

/-- What is written of an object is read back. -/
theorem read_document (f : String × Value) (fs : List (String × Value)) :
    read (document (.object (f :: fs))) = some (Value.object (f :: fs)).toYaml := by
  have hlegible := (legible_block (.object (f :: fs))).1 0
  have hallowed : (Yaml.block 0 (.object (f :: fs))).all isAllowed = true := by
    rw [List.all_eq_true]
    exact fun c hc => isAllowed_of_isPrintable (hlegible c hc)
  have hlength : (document (.object (f :: fs))).length = (Yaml.block 0 (.object (f :: fs))).length :=
    String.length_ofList
  have hnode : node (3 * (Yaml.block 0 (.object (f :: fs))).length + 3) 0 0 true
      (Yaml.block 0 (.object (f :: fs))) = some ((Value.object (f :: fs)).toYaml, []) := by
    have hfields : Reader.fields (3 * (entry 0 f ++ fields 0 fs).length + 2) 0
        (entry 0 f ++ (fields 0 fs ++ [])) = some (Value.fieldsYaml (f :: fs), []) :=
      fields_block (fun g _ => readsBack g.2) (Or.inl rfl) (by omega)
    rw [List.append_nil] at hfields
    rw [block_object, node_fields, hfields]
    rfl
  rw [read, hlength, document, String.toList_ofList, unifyBreaks_of_legible hlegible]
  simp only [hallowed, hnode, if_true, Option.bind_eq_bind, Option.bind_some]

end Yaml

end DocAtlas
