/-! # Values for structured output

* `Value` — texts, numbers, flags, lists, and objects whose fields have an order
* `Value.induct` — induction over the values within a value
-/

set_option autoImplicit false

namespace DocAtlas

/-- A value for structured output. -/
inductive Value where
  | text (s : String)
  | number (n : Nat)
  | flag (b : Bool)
  | list (items : List Value)
  | object (fields : List (String × Value))
  deriving Repr, Inhabited

namespace Value

/-- A list of texts. -/
def texts (items : List String) : Value := .list (items.map .text)

@[elab_as_elim]
theorem induct {motive : Value → Prop} (text : ∀ s, motive (.text s))
    (number : ∀ n, motive (.number n)) (flag : ∀ b, motive (.flag b))
    (list : ∀ items, (∀ item ∈ items, motive item) → motive (.list items))
    (object : ∀ fields, (∀ field ∈ fields, motive field.2) → motive (.object fields)) (v : Value) :
    motive v :=
  @Value.rec motive (fun items => ∀ item ∈ items, motive item)
    (fun fields => ∀ field ∈ fields, motive field.2) (fun field => motive field.2)
    text number flag list object
    (by simp) (fun _ _ hitem hrest => List.forall_mem_cons.2 ⟨hitem, hrest⟩)
    (by simp) (fun _ _ hfield hrest => List.forall_mem_cons.2 ⟨hfield, hrest⟩)
    (fun _ _ hvalue => hvalue) v

end Value

end DocAtlas
