import RootFold.Json.Reader
import RootFold.Json.Writer

/-!
# `RootFold.Proofs.Json.Spelling` — a written value is cut into its tokens

The two layouts differ in the space between tokens and in nothing else. `Spells` says that a text is cut into given
tokens whatever follows it; texts that are put together spell their tokens together, and space spells none. So a
plain value, in any layout, spells the tokens that belong to it.

## Contents
- **Strings.** `ReadsAs`, one case for each way in which a character is written; `readString?_quoteString`.
- **Texts.** `Spells`, `Spells.append`, `spells_space`, `spells_mark`, `spells_value`.
- **Values.** `Json.tokens`, `Json.IsPlain`, `spells_enclose`, and `spells_write`.
-/

namespace RootFold.Json

variable {c : Char} {part : StringPart} {text other rest : List Char} {block more : List Token}

/-! ## Strings -/

/-- **A part of a string holds a character,** as it is or, if it is a control, by its number. -/
inductive StringPart.Holds : StringPart → Char → Prop where
  | char (c : Char) : Holds (.char c) c
  | unit {c : Char} (h : c < ' ') : Holds (.unit c.toNat) c

/-- A part that holds a character is joined on its own: no control is half of a pair. -/
theorem joinParts?_cons (h : part.Holds c) (parts : List StringPart) :
    joinParts? (part :: parts) = (joinParts? parts).map (c :: ·) := by
  cases h with
  | char => rw [joinParts?]
  | unit h =>
    have hcode : c.toNat < 32 := h
    have hleading : isLeading c.toNat = false := by simp [isLeading]; omega
    have htrailing : isTrailing c.toNat = false := by simp [isTrailing]; omega
    rcases parts with _ | ⟨_ | m, parts⟩ <;> simp [joinParts?, hleading, htrailing]

/-- **A text inside a string reads as one part,** whatever follows it. -/
def ReadsAs (text : List Char) (part : StringPart) : Prop :=
  ∀ rest, stringParts? (text ++ rest) = (stringParts? rest).map fun read => (part :: read.1, read.2)

/-- A character after a backslash. -/
theorem readsAs_escaped {e : Char} (hu : e ≠ 'u') (h : escaped? e = some c) : ReadsAs ['\\', e] (.char c) := by
  intro rest
  rw [List.cons_append, List.cons_append, List.nil_append, 
    stringParts?.eq_4 _ _ fun _ _ _ _ _ heq _ => hu heq, h]
  cases stringParts? rest <;> rfl

/-- A character as it is. -/
theorem readsAs_plain (hquote : c ≠ '\x22') (hslash : c ≠ '\\') (h : ¬ c < ' ') : ReadsAs [c] (.char c) := by
  intro rest
  rw [List.cons_append, List.nil_append,
    stringParts?.eq_5 _ _ hquote (fun _ _ _ _ _ heq _ => hslash heq) fun _ _ heq _ => hslash heq]
  simp only [beq_iff_eq, hslash, h, Bool.or_eq_true, decide_eq_true_eq, or_self, if_false]
  cases stringParts? rest <;> rfl

/-- The four digits of a control. -/
def unitDigits (n : Nat) : List Char := List.replicate (4 - (Text.hexDigits n).length) '0' ++ Text.hexDigits n

theorem hexNumber?_unitDigits : ∀ n < 32, (unitDigits n).length = 4 ∧ Text.hexNumber? (unitDigits n) = some n := by
  decide

/-- A control by its number. -/
theorem readsAs_unit {n : Nat} (h : n < 32) : ReadsAs ('\\' :: 'u' :: unitDigits n) (.unit n) := by
  obtain ⟨hlength, hnumber⟩ := hexNumber?_unitDigits n h
  obtain ⟨x₁, x₂, x₃, x₄, hdigits⟩ : ∃ x₁ x₂ x₃ x₄, unitDigits n = [x₁, x₂, x₃, x₄] := by
    match unitDigits n, hlength with
    | [x₁, x₂, x₃, x₄], _ => exact ⟨x₁, x₂, x₃, x₄, rfl⟩
  intro rest
  rw [hdigits] at hnumber ⊢
  simp only [List.cons_append, List.nil_append]
  rw [stringParts?, hnumber]
  cases stringParts? rest <;> rfl

/-- **Every character is read back.** -/
theorem exists_readsAs_escapeChar (c : Char) : ∃ part : StringPart, part.Holds c ∧ ReadsAs (escapeChar c) part := by
  unfold escapeChar
  split
  -- the quote, the backslash and the controls that have letters
  iterate 7 exact ⟨_, .char _, readsAs_escaped (by decide) rfl⟩
  next hquote hslash _ _ _ _ _ =>
    split
    · next h => exact ⟨_, .unit h, readsAs_unit h⟩
    · next h => exact ⟨_, .char c, readsAs_plain hquote hslash h⟩

/-- The parts of a string that is written hold its characters. -/
theorem exists_stringParts? (chars rest : List Char) : ∃ parts,
    stringParts? (chars.flatMap escapeChar ++ '\x22' :: rest) = some (parts, rest) ∧ joinParts? parts = some chars := by
  induction chars with
  | nil => exact ⟨[], rfl, rfl⟩
  | cons c chars ih =>
    obtain ⟨parts, hread, hjoin⟩ := ih
    obtain ⟨part, hholds, hpart⟩ := exists_readsAs_escapeChar c
    refine ⟨part :: parts, ?_, ?_⟩
    · rw [List.flatMap_cons, List.append_assoc, hpart, hread]
      rfl
    · rw [joinParts?_cons hholds, hjoin]
      rfl

/-- **Every string is read back,** whatever follows it. -/
theorem readString?_quoteString (s : String) (rest : List Char) :
    ∃ body, (quoteString s).toList = '\x22' :: body ∧ readString? (body ++ rest) = some (.string s, rest) := by
  obtain ⟨parts, hread, hjoin⟩ := exists_stringParts? s.toList rest
  refine ⟨s.toList.flatMap escapeChar ++ ['\x22'], by rw [quoteString, String.toList_ofList]; rfl, ?_⟩
  rw [List.append_assoc, readString?]
  show Option.bind (stringParts? (_ ++ '\x22' :: rest)) _ = _
  rw [hread, Option.bind_some]
  simp only [hjoin, String.ofList_toList]
  rfl

/-! ## Texts -/

/-- **A text spells tokens,** whatever follows it, if it is cut into them with no more rounds than it has
    characters. -/
def Spells (text : List Char) (block : List Token) : Prop :=
  ∀ fuel rest, text.length ≤ fuel →
    ∃ left, fuel ≤ left + text.length ∧ tokensOf fuel (text ++ rest) = block ++ tokensOf left rest

theorem spells_nil : Spells [] [] := fun fuel _ _ => ⟨fuel, Nat.le_refl _, rfl⟩

theorem Spells.append (h : Spells text block) (h' : Spells other more) : Spells (text ++ other) (block ++ more) := by
  intro fuel rest hfuel
  rw [List.length_append] at hfuel ⊢
  obtain ⟨left, hleft, hblock⟩ := h fuel (other ++ rest) (by omega)
  obtain ⟨left', hleft', hmore⟩ := h' left rest (by omega)
  exact ⟨left', by omega, by rw [List.append_assoc, hblock, hmore, List.append_assoc]⟩

/-- Space between tokens. -/
theorem spells_space (h : ∀ c ∈ text, isSpace c = true) : Spells text [] := by
  induction text with
  | nil => exact spells_nil
  | cons c text ih =>
    obtain ⟨hc, htext⟩ := List.forall_mem_cons.1 h
    have hfirst : Spells [c] [] := by
      rintro (_ | fuel) rest hfuel
      · simp at hfuel
      · exact ⟨fuel, Nat.le_refl _, by rw [List.cons_append, List.nil_append, tokensOf, if_pos hc, List.nil_append]⟩
    exact hfirst.append (ih htext)

theorem spells_mark {mark : Token} (h : mark? c = some mark) (hspace : isSpace c = false) : Spells [c] [mark] := by
  rintro (_ | fuel) rest hfuel
  · simp at hfuel
  · refine ⟨fuel, Nat.le_refl _, ?_⟩
    rw [List.cons_append, List.nil_append, tokensOf, if_neg (by simp [hspace]), h]
    rfl

/-- A value without structure, if it is read back whatever follows it. -/
theorem spells_value {value : Json} (hspace : isSpace c = false) (hmark : mark? c = none)
    (h : ∀ rest, readValue? (c :: text ++ rest) = some (value, rest)) : Spells (c :: text) [.value value] := by
  rintro (_ | fuel) rest hfuel
  · simp at hfuel
  · refine ⟨fuel, by simp, ?_⟩
    rw [List.cons_append, tokensOf, if_neg (by simp [hspace]), hmark, ← List.cons_append, h rest]
    rfl

theorem spells_string (s : String) : Spells (quoteString s).toList [.value (.string s)] := by
  obtain ⟨body, hbody, -⟩ := readString?_quoteString s []
  rw [hbody]
  refine spells_value rfl rfl fun rest => ?_
  obtain ⟨body', hbody', hread⟩ := readString?_quoteString s rest
  obtain rfl : body = body' := by simpa [hbody] using hbody'
  exact hread

theorem spells_null : Spells "null".toList [.value .null] := spells_value rfl rfl fun _ => rfl

theorem spells_boolean (b : Bool) : Spells (toString b).toList [.value (.boolean b)] := by
  cases b <;> exact spells_value rfl rfl fun _ => rfl

/-! ## Values -/

mutual

/-- **The tokens of a value.** -/
def tokens : Json → List Token
  | array items => .openArray :: ([Token.comma].intercalate (tokensOfItems items) ++ [.closeArray])
  | object fields => .openObject :: ([Token.comma].intercalate (tokensOfFields fields) ++ [.closeObject])
  | value => [.value value]

/-- The tokens of each item of an array. -/
def tokensOfItems : List Json → List (List Token)
  | [] => []
  | item :: rest => tokens item :: tokensOfItems rest

/-- The tokens of each field of an object. -/
def tokensOfFields : List (Json × Json) → List (List Token)
  | [] => []
  | (key, value) :: rest => (tokens key ++ .colon :: tokens value) :: tokensOfFields rest

end

theorem tokens_string (s : String) : tokens (string s) = [.value (.string s)] := by
  simp only [tokens]

theorem tokensOfItems_eq (items : List Json) : tokensOfItems items = items.map tokens := by
  induction items with
  | nil => rfl
  | cons item rest ih => rw [tokensOfItems, ih, List.map_cons]

theorem tokensOfFields_eq (fields : List (Json × Json)) :
    tokensOfFields fields = fields.map fun field => tokens field.1 ++ .colon :: tokens field.2 := by
  induction fields with
  | nil => rfl
  | cons field rest ih => rw [tokensOfFields, ih, List.map_cons]

theorem writeItems_eq (layout : Option Nat) (items : List Json) :
    writeItems layout items = items.map (write layout) := by
  induction items with
  | nil => rfl
  | cons item rest ih => rw [writeItems, ih, List.map_cons]

theorem writeFields_eq (layout : Option Nat) (fields : List (Json × Json)) :
    writeFields layout fields = fields.map fun field =>
      write layout field.1 ++ (if layout.isSome then ": " else ":") ++ write layout field.2 := by
  induction fields with
  | nil => rfl
  | cons field rest ih => rw [writeFields, ih, List.map_cons]

/-- **A plain value:** `null`, truth values and strings, and arrays and records of plain values. -/
inductive IsPlain : Json → Prop where
  | null : IsPlain null
  | boolean (b : Bool) : IsPlain (boolean b)
  | string (s : String) : IsPlain (string s)
  | array {items : List Json} (h : ∀ item ∈ items, IsPlain item) : IsPlain (array items)
  | record {fields : List (String × Json)} (h : ∀ field ∈ fields, IsPlain field.2) : IsPlain (record fields)

/-- A text of nothing but space between tokens. -/
def IsSpace (text : String) : Prop := ∀ c ∈ text.toList, isSpace c = true

/-- Entries with a comma and space between them. -/
theorem spells_intercalate {α : Type} {space : String} (hspace : IsSpace space) {entries : List α}
    {texts : α → String} {blocks : α → List Token} (h : ∀ x ∈ entries, Spells (texts x).toList (blocks x)) :
    Spells (("," ++ space).intercalate (entries.map texts)).toList
      ([Token.comma].intercalate (entries.map blocks)) := by
  have hcomma : Spells ("," ++ space).toList [.comma] := by
    rw [String.toList_append]
    exact (spells_mark (c := ',') rfl rfl).append (spells_space hspace)
  induction entries with
  | nil => exact spells_nil
  | cons first rest ih =>
    obtain ⟨hfirst, hrest⟩ := List.forall_mem_cons.1 h
    cases rest with
    | nil => simpa using hfirst
    | cons second rest =>
      simp only [List.map_cons] at ih ⊢
      rw [String.intercalate_cons_cons, List.intercalate_cons_cons, String.toList_append, String.toList_append]
      exact (hfirst.append hcomma).append (ih hrest)

theorem isSpace_line (n : Nat) : IsSpace ("\n" ++ String.ofList (List.replicate n ' ')) := by
  intro c hc
  rw [String.toList_append, List.mem_append] at hc
  rcases hc with hc | hc
  · obtain rfl : c = '\n' := List.mem_singleton.1 hc
    rfl
  · rw [String.toList_ofList] at hc
    obtain rfl := List.eq_of_mem_replicate hc
    rfl

/-- **The layouts differ in space:** before each entry and before the closing mark. In one line there is none, on
    lines of their own it is the line end and the indentation. -/
theorem exists_enclose_eq (opening closing : String) (layout : Option Nat) {texts : List String} (h : texts ≠ []) :
    ∃ before after, IsSpace before ∧ IsSpace after ∧ enclose opening closing layout texts =
      opening ++ before ++ ("," ++ before).intercalate texts ++ after ++ closing := by
  have hne : texts.isEmpty = false := by simp [h]
  cases layout with
  | none => exact ⟨"", "", by simp [IsSpace], by simp [IsSpace], by simp [enclose, hne]⟩
  | some n => exact ⟨_, _, isSpace_line (n + 2), isSpace_line n, by simp [enclose, hne, String.append_assoc]⟩

/-- **A container in any layout** is spelled as its marks around its entries. -/
theorem spells_enclose {α : Type} {opening closing : String} {first last : Token}
    (hopening : Spells opening.toList [first]) (hclosing : Spells closing.toList [last]) (layout : Option Nat)
    {entries : List α} {texts : α → String} {blocks : α → List Token}
    (h : ∀ x ∈ entries, Spells (texts x).toList (blocks x)) :
    Spells (enclose opening closing layout (entries.map texts)).toList
      (first :: ([Token.comma].intercalate (entries.map blocks) ++ [last])) := by
  by_cases hempty : entries = []
  · subst hempty
    rw [List.map_nil, enclose.eq_def, List.isEmpty_nil, if_pos rfl, String.toList_append]
    exact hopening.append hclosing
  · obtain ⟨before, after, hbefore, hafter, heq⟩ :=
      exists_enclose_eq opening closing layout (mt List.map_eq_nil_iff.1 hempty)
    have hbody := (spells_space hbefore).append (spells_intercalate hbefore h)
    have hend := (spells_space hafter).append hclosing
    rw [heq]
    simp only [String.toList_append]
    simpa using (hopening.append hbody).append hend

/-- **A plain value in any layout** is spelled as its tokens. -/
theorem spells_write {value : Json} (h : IsPlain value) (layout : Option Nat) :
    Spells (write layout value).toList value.tokens := by
  induction h generalizing layout with
  | null => simpa only [write, tokens] using spells_null
  | boolean b => simpa only [write, tokens] using spells_boolean b
  | string s => simpa only [write, tokens] using spells_string s
  | array h ih =>
    have hopening : Spells "[".toList [.openArray] := spells_mark rfl rfl
    have hclosing : Spells "]".toList [.closeArray] := spells_mark rfl rfl
    rw [write, tokens, writeItems_eq, tokensOfItems_eq]
    exact spells_enclose hopening hclosing layout fun item hitem => ih item hitem _
  | record h ih =>
    have hopening : Spells "\x7b".toList [.openObject] := spells_mark rfl rfl
    have hclosing : Spells "\x7d".toList [.closeObject] := spells_mark rfl rfl
    rw [Json.record, write, tokens, writeFields_eq, tokensOfFields_eq, List.map_map, List.map_map]
    refine spells_enclose hopening hclosing layout fun field hfield => ?_
    simp only [Function.comp_apply, write, tokens, String.toList_append]
    have hcolon : Spells (if (layout.map (· + 2)).isSome then ": " else ":").toList [.colon] := by
      cases layout with
      | none => exact spells_mark rfl rfl
      | some n =>
        have hspace : Spells [' '] [] := spells_space (by simp [isSpace])
        simpa using (spells_mark (c := ':') rfl rfl).append hspace
    exact ((spells_string field.1).append hcolon).append (ih field hfield _)

end RootFold.Json
