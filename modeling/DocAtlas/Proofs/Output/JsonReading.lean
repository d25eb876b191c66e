import DocAtlas.Output.Json
import DocAtlas.Proofs.Output.JsonReader
import DocAtlas.Proofs.Text.Runs

/-! # Reading back what is written as JSON

* `Value.toData` — what a document says that writes a value
* `Json.textBody_quote`, `Json.number?_toDigits` — texts and numbers are read back
* `Json.value_render` — and so are values within values
* `Json.read_document` — every value is read back from its document
-/

set_option autoImplicit false

namespace DocAtlas

mutual

/-- What a document says that writes the value. -/
def Value.toData : Value → Json.Data
  | .text s => .text s
  | .number n => .number { digits := n }
  | .flag b => .flag b
  | .list items => .list (Value.itemsData items)
  | .object fields => .object (Value.fieldsData fields)

def Value.itemsData : List Value → List Json.Data
  | [] => []
  | item :: rest => item.toData :: Value.itemsData rest

def Value.fieldsData : List (String × Value) → List (String × Json.Data)
  | [] => []
  | (key, value) :: rest => (key, value.toData) :: Value.fieldsData rest

end

theorem Value.itemsData_eq (items : List Value) : Value.itemsData items = items.map Value.toData := by
  induction items with
  | nil => rfl
  | cons item rest ih => rw [Value.itemsData, ih, List.map_cons]

theorem Value.fieldsData_eq (fields : List (String × Value)) :
    Value.fieldsData fields = fields.map fun field => (field.1, field.2.toData) := by
  induction fields with
  | nil => rfl
  | cons field rest ih =>
    obtain ⟨key, value⟩ := field
    rw [Value.fieldsData, ih, List.map_cons]

namespace Json

/-! ## Texts -/

theorem hexDigit?_digitChar : ∀ d < 16, hexDigit? (Nat.digitChar d) = some d := by decide

theorem unit?_control {n : Nat} (h : n < 0x20) :
    unit? '0' '0' (Nat.digitChar (n / 16)) (Nat.digitChar (n % 16)) = some n := by
  have hhigh := hexDigit?_digitChar (n / 16) (by omega)
  have hlow := hexDigit?_digitChar (n % 16) (by omega)
  have hzero : hexDigit? '0' = some 0 := rfl
  have hsum : 0x1000 * 0 + 0x100 * 0 + 0x10 * (n / 16) + n % 16 = n := by omega
  simp only [unit?, hzero, hhigh, hlow]
  exact congrArg some hsum

/-- An escaped character is read back. -/
theorem textBody_escape (c : Char) (rest : List Char) :
    textBody (escape c ++ rest) = (textBody rest).bind fun p => some (c :: p.1, p.2) := by
  unfold escape
  split
  all_goals try rfl
  · split
    · rename_i hcontrol
      have hunit := unit?_control hcontrol
      have hhalf : isHalf c.toNat = false := by
        rw [isHalf, decide_eq_false_iff_not]
        omega
      simp only [List.cons_append, List.nil_append, textBody]
      rw [hunit]
      simp [hhalf, Char.ofNat_toNat]
    · rename_i hquote hbackslash _ _ _ _ _ hcontrol
      simp only [List.cons_append, List.nil_append]
      rw [textBody.eq_def]
      dsimp only
      rw [if_neg hquote, if_neg hbackslash, if_neg hcontrol]
      rfl

theorem textBody_quote (s rest : List Char) :
    textBody (s.flatMap escape ++ '"' :: rest) = some (s, rest) := by
  induction s with
  | nil =>
    rw [List.flatMap_nil, List.nil_append, textBody.eq_def]
    exact if_pos rfl
  | cons c s ih =>
    rw [List.flatMap_cons, List.append_assoc, textBody_escape, ih]
    rfl

/-! ## Numbers -/

/-- What comes behind a value: a comma, or the end of a line. -/
def Ends (rest : List Char) : Prop := ∃ c more, rest = c :: more ∧ (c = ',' ∨ c = '\n')

theorem digitsOf_append {digits rest : List Char} (hdigits : ∀ c ∈ digits, c.isDigit = true)
    (hrest : Ends rest) : digitsOf (digits ++ rest) = digits ∧ behindDigits (digits ++ rest) = rest := by
  obtain ⟨c, more, rfl, hc⟩ := hrest
  have hstop : c.isDigit = false := by rcases hc with rfl | rfl <;> rfl
  have hhead : ∀ d ∈ (c :: more).head?, d.isDigit = false := by simpa using hstop
  exact ⟨takeWhile_append_of_head hdigits hhead, dropWhile_append_of_head hdigits hhead⟩

theorem exists_cons_toDigits (n : Nat) :
    ∃ c more, Nat.toDigits 10 n = c :: more ∧ c.isDigit = true := by
  obtain ⟨c, more, hcons⟩ := List.exists_cons_of_ne_nil (Nat.toDigits_ne_nil (n := n) (b := 10))
  have hmem : c ∈ Nat.toDigits 10 n := by
    rw [hcons]
    exact List.mem_cons_self
  exact ⟨c, more, hcons, Nat.isDigit_of_mem_toDigits (by decide) (by decide) hmem⟩

/-- No zero stands before other digits. -/
theorem head?_toDigits (n : Nat) : (Nat.toDigits 10 n).head? = some '0' → Nat.toDigits 10 n = ['0'] := by
  induction n using Nat.strongRecOn with
  | ind n ih =>
    intro hhead
    by_cases hn : n < 10
    · rw [Nat.toDigits_of_lt_base hn] at hhead ⊢
      rw [List.head?_cons, Option.some.injEq] at hhead
      rw [hhead]
    · have hsplit := Nat.toDigits_of_base_le (by decide : 1 < 10) (Nat.not_lt.1 hn)
      rw [hsplit, List.head?_append, List.head?_eq_some_head Nat.toDigits_ne_nil, Option.some_or,
        ← List.head?_eq_some_head] at hhead
      have hfront := ih (n / 10) (by omega) hhead
      have hvalue := congrArg (Nat.ofDigitChars 10 · 0) hfront
      simp only [Nat.ofDigitChars_ten_toDigits] at hvalue
      have hzero : Nat.ofDigitChars 10 ['0'] 0 = 0 := rfl
      omega

theorem number?_toDigits (n : Nat) {rest : List Char} (hrest : Ends rest) :
    number? (Nat.toDigits 10 n ++ rest) = some ({ digits := n }, rest) := by
  have hdigits : ∀ c ∈ Nat.toDigits 10 n, c.isDigit = true :=
    fun c hc => Nat.isDigit_of_mem_toDigits (by decide) (by decide) hc
  obtain ⟨hwhole, hbehind⟩ := digitsOf_append hdigits hrest
  obtain ⟨c, more, hcons, hc⟩ := exists_cons_toDigits n
  have hsign : number? (Nat.toDigits 10 n ++ rest) = unsigned? false (Nat.toDigits 10 n ++ rest) := by
    rw [hcons, List.cons_append, number?.eq_def]
    split
    · rename_i heq
      cases heq
      cases hc
    · rfl
  have hfraction : fraction? rest = some ([], rest) := by
    obtain ⟨c, more, rfl, rfl | rfl⟩ := hrest <;> rfl
  have hexponent : exponent? rest = some (0, rest) := by
    obtain ⟨c, more, rfl, rfl | rfl⟩ := hrest <;> rfl
  have hzero := head?_toDigits n
  rw [hsign, unsigned?]
  simp only [hwhole, hbehind, hfraction]
  rw [if_neg]
  · simp [hexponent, Nat.ofDigitChars_ten_toDigits]
  · rintro (hnil | ⟨hhead, hne⟩)
    · exact Nat.toDigits_ne_nil hnil
    · exact hne (hzero hhead)

/-! ## Blanks -/

theorem isBlank_of_isDigit {c : Char} (h : c.isDigit = true) : isBlank c = false := by
  rw [Bool.eq_false_iff]
  intro hblank
  simp only [isBlank, Bool.or_eq_true, beq_iff_eq] at hblank
  rcases hblank with ((rfl | rfl) | rfl) | rfl <;> cases h

theorem skipBlank_cons {c : Char} (h : isBlank c = false) (text : List Char) :
    skipBlank (c :: text) = c :: text := by
  rw [skipBlank, List.dropWhile_cons, if_neg (by simp [h])]

theorem length_newline (level : Nat) : (newline level).length = 2 * level + 1 := by simp [newline]

theorem skipBlank_newline (level : Nat) (text : List Char) :
    skipBlank (newline level ++ text) = skipBlank text := by
  have hspaces : ∀ n, skipBlank (List.replicate n ' ' ++ text) = skipBlank text := by
    intro n
    induction n with
    | zero => rfl
    | succ n ih => rw [List.replicate_succ, List.cons_append]; exact ih
  exact hspaces (2 * level)

theorem value_space (steps : Nat) (text : List Char) : value steps (' ' :: text) = value steps text :=
  value_congr (show skipBlank (' ' :: text) = skipBlank text from rfl) steps

theorem fields_newline (level steps : Nat) (text : List Char) :
    fields steps (newline level ++ text) = fields steps text :=
  fields_congr (skipBlank_newline level text) steps

theorem items_newline (level steps : Nat) (text : List Char) :
    items steps (newline level ++ text) = items steps text :=
  items_congr (skipBlank_newline level text) steps

/-! ## Values -/

/-- What a value starts with is no blank and no end of a list or object. -/
theorem exists_head_render (level : Nat) (v : Value) :
    ∃ c more, render level v = c :: more ∧ isBlank c = false ∧ c ≠ ']' := by
  cases v with
  | text s => exact ⟨'"', _, by rw [render, quote]; rfl, rfl, by decide⟩
  | flag b =>
    cases b with
    | true => exact ⟨'t', _, by rw [render]; rfl, rfl, by decide⟩
    | false => exact ⟨'f', _, by rw [render]; rfl, rfl, by decide⟩
  | list items =>
    cases items with
    | nil => exact ⟨'[', _, by rw [render], rfl, by decide⟩
    | cons item rest => exact ⟨'[', _, by rw [render]; rfl, rfl, by decide⟩
  | object fields =>
    cases fields with
    | nil => exact ⟨'\x7b', _, by rw [render], rfl, by decide⟩
    | cons field rest => exact ⟨'\x7b', _, by rw [render]; rfl, rfl, by decide⟩
  | number n =>
    obtain ⟨c, more, hcons, hdigit⟩ := exists_cons_toDigits n
    refine ⟨c, more, by rw [render, hcons], isBlank_of_isDigit hdigit, ?_⟩
    rintro rfl
    cases hdigit

theorem ends_newline (level : Nat) (text : List Char) : Ends (newline level ++ text) :=
  ⟨'\n', _, rfl, Or.inr rfl⟩

theorem ends_comma (text : List Char) : Ends (',' :: text) := ⟨',', text, rfl, Or.inl rfl⟩

theorem exists_step {level steps : Nat} {v : Value} (h : (render level v).length ≤ steps) :
    ∃ left, steps = left + 1 := by
  obtain ⟨c, more, hcons, -⟩ := exists_head_render level v
  rw [hcons, List.length_cons] at h
  exact ⟨steps - 1, by omega⟩

theorem renderItems_cons_cons (level : Nat) (item next : Value) (more : List Value) :
    renderItems level (item :: next :: more) =
      newline level ++ render level item ++ ',' :: renderItems level (next :: more) := by
  rw [renderItems]
  simp

theorem renderFields_cons_cons (level : Nat) (key : String) (v : Value) (next : String × Value)
    (more : List (String × Value)) :
    renderFields level ((key, v) :: next :: more) =
      newline level ++ quote key ++ ':' :: ' ' :: render level v ++
        ',' :: renderFields level (next :: more) := by
  rw [renderFields]
  simp

theorem exists_head_renderItems (level : Nat) (item : Value) (more : List Value) (text : List Char) :
    ∃ c tail, skipBlank (renderItems level (item :: more) ++ text) = c :: tail ∧ c ≠ ']' := by
  obtain ⟨c, tail, hcons, hblank, hc⟩ := exists_head_render level item
  cases more with
  | nil =>
    rw [renderItems, List.append_assoc, skipBlank_newline, hcons, List.cons_append,
      skipBlank_cons hblank]
    exact ⟨c, _, rfl, hc⟩
  | cons next more =>
    rw [renderItems_cons_cons, List.append_assoc, List.append_assoc, skipBlank_newline, hcons,
      List.cons_append, skipBlank_cons hblank]
    exact ⟨c, _, rfl, hc⟩

theorem exists_head_renderFields (level : Nat) (field : String × Value)
    (more : List (String × Value)) (text : List Char) :
    ∃ tail, skipBlank (renderFields level (field :: more) ++ text) = '"' :: tail := by
  obtain ⟨key, v⟩ := field
  cases more with
  | nil =>
    rw [renderFields, quote]
    simp only [List.cons_append, List.append_assoc]
    rw [skipBlank_newline, skipBlank_cons rfl]
    exact ⟨_, rfl⟩
  | cons next more =>
    rw [renderFields_cons_cons, quote]
    simp only [List.cons_append, List.append_assoc]
    rw [skipBlank_newline, skipBlank_cons rfl]
    exact ⟨_, rfl⟩

theorem value_number {steps : Nat} {c : Char} {text : List Char} (hc : c.isDigit = true) :
    value (steps + 1) (c :: text) = (number? (c :: text)).bind fun p => some (.number p.1, p.2) := by
  rw [value, skipBlank_cons (isBlank_of_isDigit hc)]
  split
  all_goals first
    | rfl
    | rename_i heq
      cases heq
      cases hc

theorem value_list {steps : Nat} {text : List Char} (h : ∀ rest, skipBlank text ≠ ']' :: rest) :
    value (steps + 1) ('[' :: text) = (items steps text).bind fun p => some (.list p.1, p.2) := by
  rw [value, skipBlank_cons rfl]
  split
  case h_2 inside heq =>
    obtain rfl := (List.cons.inj heq).2
    split
    · rename_i rest hclose
      exact absurd hclose (h rest)
    · rfl
  case h_7 hlist _ _ _ _ => exact absurd rfl (hlist text)
  all_goals
    rename_i heq
    exact absurd (List.cons.inj heq).1 (by decide)

theorem value_object {steps : Nat} {text : List Char}
    (h : ∀ rest, skipBlank text ≠ '\x7d' :: rest) :
    value (steps + 1) ('\x7b' :: text) =
      (fields steps text).bind fun p => some (.object p.1, p.2) := by
  rw [value, skipBlank_cons rfl]
  split
  case h_3 inside heq =>
    obtain rfl := (List.cons.inj heq).2
    split
    · rename_i rest hclose
      exact absurd hclose (h rest)
    · rfl
  case h_7 hobject _ _ _ => exact absurd rfl (hobject text)
  all_goals
    rename_i heq
    exact absurd (List.cons.inj heq).1 (by decide)

/-- A value is read back from what is written of it, whatever comes behind it. -/
def ReadsBack (v : Value) : Prop :=
  ∀ (level steps : Nat) (rest : List Char), Ends rest → (render level v).length ≤ steps →
    value steps (render level v ++ rest) = some (v.toData, rest)

theorem items_render {item : Value} {more : List Value} (h : ∀ v ∈ item :: more, ReadsBack v)
    {level outer steps : Nat} {rest : List Char}
    (hsteps : (renderItems level (item :: more)).length ≤ steps) :
    items steps (renderItems level (item :: more) ++ (newline outer ++ ']' :: rest)) =
      some (Value.itemsData (item :: more), rest) := by
  have hclose : skipBlank (']' :: rest) = ']' :: rest := skipBlank_cons rfl rest
  have hcomma : ∀ text, skipBlank (',' :: text) = ',' :: text := skipBlank_cons rfl
  induction more generalizing item steps with
  | nil =>
    rw [renderItems] at hsteps ⊢
    rw [List.length_append, length_newline] at hsteps
    obtain ⟨steps, rfl⟩ : ∃ left, steps = left + 1 := ⟨steps - 1, by omega⟩
    have hitem := h item List.mem_cons_self level steps _ (ends_newline outer (']' :: rest)) (by omega)
    rw [List.append_assoc, items_newline, items, hitem]
    simp [skipBlank_newline, hclose, Value.itemsData]
  | cons next more ih =>
    rw [renderItems_cons_cons] at hsteps ⊢
    simp only [List.length_append, List.length_cons, length_newline] at hsteps
    obtain ⟨steps, rfl⟩ : ∃ left, steps = left + 1 := ⟨steps - 1, by omega⟩
    have hitem := h item List.mem_cons_self level steps
      (',' :: (renderItems level (next :: more) ++ (newline outer ++ ']' :: rest))) (ends_comma _)
      (by omega)
    have hmore : items steps (renderItems level (next :: more) ++ (newline outer ++ ']' :: rest)) =
        some (Value.itemsData (next :: more), rest) :=
      ih (fun v hv => h v (List.mem_cons_of_mem item hv)) (by omega)
    rw [List.append_assoc, List.append_assoc, items_newline, items, List.cons_append, hitem]
    simp [hcomma, hmore, Value.itemsData]

theorem fields_render {field : String × Value} {more : List (String × Value)}
    (h : ∀ f ∈ field :: more, ReadsBack f.2) {level outer steps : Nat} {rest : List Char}
    (hsteps : (renderFields level (field :: more)).length ≤ steps) :
    fields steps (renderFields level (field :: more) ++ (newline outer ++ '\x7d' :: rest)) =
      some (Value.fieldsData (field :: more), rest) := by
  have hquote : ∀ text, skipBlank ('"' :: text) = '"' :: text := skipBlank_cons rfl
  have hcolon : ∀ text, skipBlank (':' :: text) = ':' :: text := skipBlank_cons rfl
  have hclose : skipBlank ('\x7d' :: rest) = '\x7d' :: rest := skipBlank_cons rfl rest
  have hcomma : ∀ text, skipBlank (',' :: text) = ',' :: text := skipBlank_cons rfl
  induction more generalizing field steps with
  | nil =>
    obtain ⟨key, v⟩ := field
    have hreads : ReadsBack v := h (key, v) List.mem_cons_self
    rw [renderFields, quote] at hsteps ⊢
    simp only [List.length_append, List.length_cons, length_newline] at hsteps
    obtain ⟨steps, rfl⟩ : ∃ left, steps = left + 1 := ⟨steps - 1, by omega⟩
    have hvalue := hreads level steps _ (ends_newline outer ('\x7d' :: rest))
      (by omega)
    simp only [List.cons_append, List.append_assoc, List.nil_append]
    rw [fields_newline, fields, hquote]
    simp [textBody_quote, hcolon, value_space, hvalue, skipBlank_newline, hclose, Value.fieldsData]
  | cons next more ih =>
    obtain ⟨key, v⟩ := field
    have hreads : ReadsBack v := h (key, v) List.mem_cons_self
    rw [renderFields_cons_cons, quote] at hsteps ⊢
    simp only [List.length_append, List.length_cons, length_newline] at hsteps
    obtain ⟨steps, rfl⟩ : ∃ left, steps = left + 1 := ⟨steps - 1, by omega⟩
    have hvalue := hreads level steps
      (',' :: (renderFields level (next :: more) ++ (newline outer ++ '\x7d' :: rest))) (ends_comma _)
      (by omega)
    have hmore : fields steps (renderFields level (next :: more) ++ (newline outer ++ '\x7d' :: rest)) =
        some (Value.fieldsData (next :: more), rest) :=
      ih (fun f hf => h f (List.mem_cons_of_mem _ hf)) (by omega)
    simp only [List.cons_append, List.append_assoc, List.nil_append]
    rw [fields_newline, fields, hquote]
    simp [textBody_quote, hcolon, value_space, hvalue, hcomma, hmore, Value.fieldsData]

theorem readsBack_text (s : String) : ReadsBack (.text s) := by
  intro level steps rest hrest hsteps
  obtain ⟨steps, rfl⟩ := exists_step hsteps
  rw [render, quote, List.append_assoc, List.singleton_append, List.cons_append, value,
    skipBlank_cons rfl]
  simp [textBody_quote, Value.toData]

theorem readsBack_number (n : Nat) : ReadsBack (.number n) := by
  intro level steps rest hrest hsteps
  obtain ⟨steps, rfl⟩ := exists_step hsteps
  obtain ⟨c, more, hcons, hdigit⟩ := exists_cons_toDigits n
  have hnumber := number?_toDigits n hrest
  rw [render]
  rw [hcons, List.cons_append] at hnumber ⊢
  rw [value_number hdigit, hnumber, Value.toData]
  rfl

theorem readsBack_flag (b : Bool) : ReadsBack (.flag b) := by
  intro level steps rest hrest hsteps
  obtain ⟨steps, rfl⟩ := exists_step hsteps
  cases b with
  | true => rfl
  | false => rfl

theorem readsBack_list {items : List Value} (h : ∀ v ∈ items, ReadsBack v) :
    ReadsBack (.list items) := by
  intro level steps rest hrest hsteps
  obtain ⟨steps, rfl⟩ := exists_step hsteps
  cases items with
  | nil => rfl
  | cons item more =>
    have hlength : (renderItems (level + 1) (item :: more)).length ≤ steps := by
      rw [render] at hsteps
      simp only [List.length_append, List.length_cons] at hsteps
      omega
    obtain ⟨c, tail, hhead, hc⟩ := exists_head_renderItems (level + 1) item more
      (newline level ++ ']' :: rest)
    -- a first item is no end of the list
    have hopen : ∀ behind, skipBlank (renderItems (level + 1) (item :: more) ++
        (newline level ++ ']' :: rest)) ≠ ']' :: behind := by
      intro behind heq
      rw [hhead] at heq
      exact hc (List.cons.inj heq).1
    rw [render]
    simp only [List.cons_append, List.append_assoc, List.nil_append]
    rw [value_list hopen, items_render h hlength, Value.toData]
    rfl

theorem readsBack_object {fields : List (String × Value)} (h : ∀ f ∈ fields, ReadsBack f.2) :
    ReadsBack (.object fields) := by
  intro level steps rest hrest hsteps
  obtain ⟨steps, rfl⟩ := exists_step hsteps
  cases fields with
  | nil => rfl
  | cons field more =>
    have hlength : (renderFields (level + 1) (field :: more)).length ≤ steps := by
      rw [render] at hsteps
      simp only [List.length_append, List.length_cons] at hsteps
      omega
    obtain ⟨tail, hhead⟩ := exists_head_renderFields (level + 1) field more
      (newline level ++ '\x7d' :: rest)
    -- a first key is no end of the object
    have hopen : ∀ behind, skipBlank (renderFields (level + 1) (field :: more) ++
        (newline level ++ '\x7d' :: rest)) ≠ '\x7d' :: behind := by
      intro behind heq
      rw [hhead] at heq
      cases heq
    rw [render]
    simp only [List.cons_append, List.append_assoc, List.nil_append]
    rw [value_object hopen, fields_render h hlength, Value.toData]
    rfl

theorem value_render (v : Value) : ReadsBack v := by
  induction v using Value.induct with
  | text s => exact readsBack_text s
  | number n => exact readsBack_number n
  | flag b => exact readsBack_flag b
  | list items ih => exact readsBack_list ih
  | object fields ih => exact readsBack_object ih

/-- A value is read back from its document. -/
theorem read_document (v : Value) : read (document v) = some v.toData := by
  have hsteps : (render 0 v).length ≤ 2 * (document v).length + 1 := by
    rw [document, String.length_ofList, List.length_append]
    omega
  have hvalue := value_render v 0 _ _ (ends_newline 0 []) hsteps
  have htext : (document v).toList = render 0 v ++ (newline 0 ++ []) := by
    rw [document, String.toList_ofList]
    rfl
  have hblank : skipBlank (newline 0) = [] := rfl
  rw [read, htext, hvalue]
  simp [hblank]

end Json

end DocAtlas
