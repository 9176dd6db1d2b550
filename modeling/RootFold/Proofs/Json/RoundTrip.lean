import RootFold.Proofs.Json.Spelling

/-!
# `RootFold.Proofs.Json.RoundTrip` — the tokens of a value give the value

A reading goes on in the innermost container. Tokens `Delivers` a value if they have the effect of putting it there,
whatever containers are open and whatever follows. Arrays and objects are read in the same way: they wait for an
entry, are filled, and wait for a comma or their end. `Container` is what they have in common, and one induction on
the entries serves both.

## Contents
- **Steps.** `Progress.resume`, `readFrom_cons`, `Delivers`.
- **Containers.** `Container` with `arrays` and `objects`; `Container.readFrom_entries`, `Container.delivers`.
- **Values.** `delivers_tokens`, `read_eq`, and `read_write`.
-/

namespace RootFold.Json

variable {stack : Stack} {value : Json} {block more : List Token}

/-! ## Steps -/

/-- Go on from where reading stands. -/
def Progress.resume (more : List Token) : Progress → Reading
  | .within stack => readFrom stack more
  | .finished value => ⟨value, more.isEmpty⟩

theorem readFrom_cons {token : Token} {progress : Progress} (h : stack.step token = some progress) :
    readFrom stack (token :: more) = progress.resume more := by
  rw [readFrom, h]
  cases progress <;> rfl

theorem Stack.takesValue_of_put {progress : Progress} (h : stack.put value = some progress) :
    stack.takesValue = true := by
  unfold Stack.put at h
  split at h
  · rfl
  · rfl
  · rfl
  · rfl
  · cases h

/-- **Tokens deliver a value** to whatever waits for one. -/
def Delivers (block : List Token) (value : Json) : Prop :=
  ∀ (stack : Stack) (progress : Progress) (more : List Token), stack.put value = some progress →
    readFrom stack (block ++ more) = progress.resume more

theorem delivers_value (value : Json) : Delivers [.value value] value := fun _ _ _ h => readFrom_cons h

/-! ## Containers -/

/-- **A kind of container:** its tokens, its frames, and the value that it becomes. -/
structure Container (β : Type) where
  opening : Token
  closing : Token
  /-- It waits for an entry; the first may be missing. -/
  waiting : List β → Bool → Frame
  /-- It has an entry and waits for a comma or its end. -/
  filled : List β → Frame
  build : List β → Json
  step_opening (stack : Stack) (h : stack.takesValue = true) :
    stack.step opening = some (.within (waiting [] true :: stack))
  step_comma (done : List β) (stack : Stack) :
    Stack.step (filled done :: stack) .comma = some (.within (waiting done false :: stack))
  step_closing (done : List β) (stack : Stack) :
    Stack.step (filled done :: stack) closing = stack.put (build done.reverse)
  step_closing_empty (stack : Stack) : Stack.step (waiting [] true :: stack) closing = stack.put (build [])

/-- Arrays are filled with items. -/
def arrays : Container Json where
  opening := .openArray
  closing := .closeArray
  waiting := .item
  filled := .afterItem
  build := .array
  step_opening _ h := by rw [Stack.step, if_pos h]
  step_comma _ _ := rfl
  step_closing _ _ := rfl
  step_closing_empty _ := rfl

/-- Objects are filled with keys and their values. -/
def objects : Container (Json × Json) where
  opening := .openObject
  closing := .closeObject
  waiting := .key
  filled := .afterContent
  build := .object
  step_opening _ h := by rw [Stack.step, if_pos h]
  step_comma _ _ := rfl
  step_closing _ _ := rfl
  step_closing_empty _ := rfl

namespace Container

variable {β : Type} (k : Container β)

/-- **Tokens fill a container** with an entry. -/
def Fills (block : List Token) (entry : β) : Prop :=
  ∀ (done : List β) (first : Bool) (stack : Stack) (more : List Token),
    readFrom (k.waiting done first :: stack) (block ++ more) = readFrom (k.filled (entry :: done) :: stack) more

/-- **The entries of a container** go into it one after the other, up to its end. -/
theorem readFrom_entries {blocks : β → List Token} {progress : Progress} {entry : β} {rest : List β}
    (h : ∀ x ∈ entry :: rest, k.Fills (blocks x) x) {done : List β} (first : Bool)
    (hput : stack.put (k.build (done.reverse ++ entry :: rest)) = some progress) :
    readFrom (k.waiting done first :: stack)
      ([Token.comma].intercalate ((entry :: rest).map blocks) ++ k.closing :: more) = progress.resume more := by
  induction rest generalizing entry done first with
  | nil =>
    have hentry := h entry (.head _)
    have hclosing : Stack.step (k.filled (entry :: done) :: stack) k.closing = some progress := by
      rw [k.step_closing, List.reverse_cons, hput]
    rw [List.map_singleton, List.intercalate_singleton, hentry, readFrom_cons hclosing]
  | cons second rest ih =>
    obtain ⟨hentry, hrest⟩ := List.forall_mem_cons.1 h
    have hput' : stack.put (k.build ((entry :: done).reverse ++ second :: rest)) = some progress := by
      rw [List.reverse_cons, List.append_assoc]
      exact hput
    rw [List.map_cons, List.map_cons, List.intercalate_cons_cons, ← List.map_cons, List.append_assoc, List.append_assoc,
      hentry, List.singleton_append, readFrom_cons (k.step_comma ..), Progress.resume, ih hrest false hput']

/-- **A container is delivered** by its marks around what fills it. -/
theorem delivers {blocks : β → List Token} {entries : List β} (h : ∀ x ∈ entries, k.Fills (blocks x) x) :
    Delivers (k.opening :: ([Token.comma].intercalate (entries.map blocks) ++ [k.closing])) (k.build entries) := by
  intro stack progress more hput
  rw [List.cons_append, readFrom_cons (k.step_opening stack (Stack.takesValue_of_put hput)), Progress.resume,
    List.append_assoc, List.singleton_append]
  cases entries with
  | nil => exact readFrom_cons ((k.step_closing_empty stack).trans hput)
  | cons entry rest => exact k.readFrom_entries h true hput

end Container

/-- A value that is delivered fills an array. -/
theorem Delivers.fills (h : Delivers block value) : arrays.Fills block value :=
  fun done first stack more => h (.item done first :: stack) (.within (.afterItem (value :: done) :: stack)) more rfl

/-- A key, a colon and a value that is delivered fill an object. -/
theorem Delivers.fills_field (h : Delivers block value) (key : String) :
    objects.Fills (.value (.string key) :: .colon :: block) (.string key, value) := by
  intro done first stack more
  have hkey : Stack.step (.key done first :: stack) (.value (.string key)) =
    some (.within (.colon done (.string key) :: stack)) := rfl
  have hcolon : Stack.step (.colon done (.string key) :: stack) .colon =
    some (.within (.content done (.string key) :: stack)) := rfl
  show readFrom (.key done first :: stack) _ = _
  rw [List.cons_append, readFrom_cons hkey, Progress.resume, List.cons_append, readFrom_cons hcolon, Progress.resume]
  exact h (.content done (.string key) :: stack)
    (.within (.afterContent ((.string key, value) :: done) :: stack)) more rfl

/-! ## Values -/

/-- **A plain value is delivered by its tokens.** -/
theorem delivers_tokens (h : IsPlain value) : Delivers value.tokens value := by
  induction h with
  | null => simpa only [tokens] using delivers_value null
  | boolean b => simpa only [tokens] using delivers_value (boolean b)
  | string s => simpa only [tokens] using delivers_value (string s)
  | array h ih =>
    rw [tokens, tokensOfItems_eq]
    exact arrays.delivers fun item hitem => (ih item hitem).fills
  | record h ih =>
    rw [Json.record, tokens, tokensOfFields_eq]
    refine objects.delivers fun field hfield => ?_
    obtain ⟨⟨name, content⟩, hmem, rfl⟩ := List.mem_map.1 hfield
    rw [tokens_string]
    exact (ih _ hmem).fills_field name

/-- **What is spelled as the tokens of a plain value is read as that value.** -/
theorem read_eq (h : IsPlain value) {text : String} (hspells : Spells text.toList value.tokens) :
    read text = ⟨value, true⟩ := by
  obtain ⟨left, -, htokens⟩ := hspells text.toList.length [] (Nat.le_refl _)
  have hend : tokensOf left [] = [] := by cases left <;> rfl
  rw [List.append_nil, hend] at htokens
  rw [read, Token.ofText, htokens, delivers_tokens h [] (.finished value) [] rfl]
  rfl

/-- **A plain value is read back from what is written,** in any layout and with space after it. -/
theorem read_write (h : IsPlain value) (layout : Option Nat) {space : String} (hspace : IsSpace space) :
    read (write layout value ++ space) = ⟨value, true⟩ := by
  refine read_eq h ?_
  rw [String.toList_append]
  simpa using (spells_write h layout).append (spells_space hspace)

end RootFold.Json
