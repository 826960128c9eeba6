import UiSchema.Prompt.Builder
import UiSchema.Proofs.Digest.Canonical
import UiSchema.Proofs.Json.Numeral
import UiSchema.Proofs.Text.Blank

/-! The key of a prompt. As long as no two texts that are hashed have the same digest, the slot of a
prompt in the cache determines the options, the language and the choice of negative examples. -/

set_option autoImplicit false

namespace UiSchema

namespace PromptOptions

theorem names_normal (ids : Option (List String)) : Json.normal (names ids) = names ids := by
  have items : ∀ ids : List String, Json.normalItems (ids.map .str) = ids.map .str := by
    intro ids
    induction ids with
    | nil => rfl
    | cons id rest ih => rw [List.map_cons, Json.normalItems, ih]; rfl
  cases ids with
  | none => rfl
  | some ids => simp only [names, Json.ofOption, Json.strings, Json.normal, items]

theorem names_injective {ids ids' : Option (List String)}
    (same : Json.normal (names ids) = Json.normal (names ids')) : ids = ids' := by
  rw [names_normal, names_normal] at same
  cases ids with
  | none => cases ids' <;> cases same; rfl
  | some ids =>
    cases ids' with
    | none => cases same
    | some ids' =>
      have items : ids.map Json.str = ids'.map Json.str := by
        simpa [names, Json.ofOption, Json.strings] using same
      rw [List.map_inj_right (fun _ _ equal => Json.str.inj equal)] at items
      rw [items]

theorem ofOption_injective {α : Type} {write : α → Json} {a b : Option α}
    (null : ∀ x, write x ≠ .null) (injective : ∀ x y, write x = write y → x = y)
    (same : Json.ofOption write a = Json.ofOption write b) : a = b := by
  cases a with
  | none =>
    cases b with
    | none => rfl
    | some y => exact absurd same.symm (null y)
  | some x =>
    cases b with
    | none => exact absurd same (null x)
    | some y => rw [injective x y same]

theorem ComponentMode.name_injective {a b : ComponentMode} (same : a.name = b.name) : a = b := by
  cases a <;> cases b <;> first | rfl | exact absurd same (by decide)

theorem ExampleMode.name_injective {a b : ExampleMode} (same : a.name = b.name) : a = b := by
  cases a <;> cases b <;> first | rfl | exact absurd same (by decide)

section Sections

def componentMembers (c : ComponentSelection) : Entries Json :=
  [("mode", .str c.mode.name),
   ("selected_ids", names c.selectedIds),
   ("preset_name", Json.ofOption Json.str c.presetName)]

def exampleMembers (e : ExampleSelection) : Entries Json :=
  [("mode", .str e.mode.name),
   ("selected_ids", names e.selectedIds),
   ("max_count", Json.ofOption (fun n : Nat => Json.int n) e.maxCount)]

def colorMembers (c : ColorSelection) : Entries Json :=
  [("id", .str c.id), ("include_in_prompt", .bool c.included)]

def budgetMembers (b : TokenBudget) : Entries Json :=
  [("max", .int b.most), ("auto_optimize", .bool b.autoOptimize)]

theorem text_injective {a b : Option String}
    (same : Json.normal (Json.ofOption Json.str a) = Json.normal (Json.ofOption Json.str b)) :
    a = b := by
  have leaf (text : Option String) :
      Json.normal (Json.ofOption Json.str text) = Json.ofOption Json.str text := by
    cases text <;> rfl
  rw [leaf, leaf] at same
  exact ofOption_injective (fun _ equal => by cases equal) (fun _ _ => Json.str.inj) same

theorem count_injective {a b : Option Nat}
    (same : Json.normal (Json.ofOption (fun n : Nat => Json.int n) a) =
      Json.normal (Json.ofOption (fun n : Nat => Json.int n) b)) : a = b := by
  have leaf (count : Option Nat) : Json.normal (Json.ofOption (fun n : Nat => Json.int n) count) =
      Json.ofOption (fun n : Nat => Json.int n) count := by
    cases count <;> rfl
  rw [leaf, leaf] at same
  exact ofOption_injective (fun _ equal => by cases equal)
    (fun _ _ equal => Int.ofNat.inj (Json.int.inj equal)) same

theorem componentMembers_injective {c c' : ComponentSelection}
    (same : Json.normal (.object (componentMembers c)) =
      Json.normal (.object (componentMembers c'))) : c = c' := by
  obtain ⟨mode, selectedIds, presetName⟩ := c
  obtain ⟨mode', selectedIds', presetName'⟩ := c'
  have field := Json.get?_of_normal (by simp [Entries.Distinct, componentMembers]) same
  obtain rfl : mode = mode' :=
    ComponentMode.name_injective (Json.str.inj (Option.some.inj (field "mode")))
  obtain rfl : selectedIds = selectedIds' :=
    names_injective (Option.some.inj (field "selected_ids"))
  obtain rfl : presetName = presetName' := text_injective (Option.some.inj (field "preset_name"))
  rfl

theorem exampleMembers_injective {e e' : ExampleSelection}
    (same : Json.normal (.object (exampleMembers e)) = Json.normal (.object (exampleMembers e'))) :
    e = e' := by
  obtain ⟨mode, selectedIds, maxCount⟩ := e
  obtain ⟨mode', selectedIds', maxCount'⟩ := e'
  have field := Json.get?_of_normal (by simp [Entries.Distinct, exampleMembers]) same
  obtain rfl : mode = mode' :=
    ExampleMode.name_injective (Json.str.inj (Option.some.inj (field "mode")))
  obtain rfl : selectedIds = selectedIds' :=
    names_injective (Option.some.inj (field "selected_ids"))
  obtain rfl : maxCount = maxCount' := count_injective (Option.some.inj (field "max_count"))
  rfl

theorem colorMembers_injective {c c' : ColorSelection}
    (same : Json.normal (.object (colorMembers c)) = Json.normal (.object (colorMembers c'))) :
    c = c' := by
  obtain ⟨id, included⟩ := c
  obtain ⟨id', included'⟩ := c'
  have field := Json.get?_of_normal (by simp [Entries.Distinct, colorMembers]) same
  obtain rfl : id = id' := Json.str.inj (Option.some.inj (field "id"))
  obtain rfl : included = included' := Json.bool.inj (Option.some.inj (field "include_in_prompt"))
  rfl

theorem budgetMembers_injective {b b' : TokenBudget}
    (same : Json.normal (.object (budgetMembers b)) = Json.normal (.object (budgetMembers b'))) :
    b = b' := by
  obtain ⟨most, autoOptimize⟩ := b
  obtain ⟨most', autoOptimize'⟩ := b'
  have field := Json.get?_of_normal (by simp [Entries.Distinct, budgetMembers]) same
  obtain rfl : most = most' := Int.ofNat.inj (Json.int.inj (Option.some.inj (field "max")))
  obtain rfl : autoOptimize = autoOptimize' :=
    Json.bool.inj (Option.some.inj (field "auto_optimize"))
  rfl

/-- Options that differ have documents that differ in more than the order of members. -/
theorem toJson_injective {o o' : PromptOptions}
    (same : Json.normal o.toJson = Json.normal o'.toJson) : o = o' := by
  obtain ⟨themeId, components, examples, colors, budget⟩ := o
  obtain ⟨themeId', components', examples', colors', budget'⟩ := o'
  have field := Json.get?_of_normal (by simp [Entries.Distinct]) same
  obtain rfl : themeId = themeId' := Json.str.inj (Option.some.inj (field "theme_id"))
  obtain rfl : components = components' :=
    componentMembers_injective (Option.some.inj (field "components"))
  obtain rfl : examples = examples' := exampleMembers_injective (Option.some.inj (field "examples"))
  obtain rfl : colors = colors' := colorMembers_injective (Option.some.inj (field "color_scheme"))
  obtain rfl : budget = budget' := budgetMembers_injective (Option.some.inj (field "token_budget"))
  rfl

end Sections

theorem bare_names {ids : Option (List String)} {leaf : Json}
    (member : leaf ∈ Json.words (names ids)) : Json.Bare leaf := by
  have items : ∀ ids : List String, Json.itemWords (ids.map .str) = [] := by
    intro ids
    induction ids with
    | nil => rfl
    | cons id rest ih => rw [List.map_cons, Json.itemWords, ih]; rfl
  cases ids with
  | none =>
    obtain rfl := List.mem_singleton.1 member
    exact .null
  | some ids => simp [names, Json.ofOption, Json.strings, Json.words, items] at member

theorem bare_ofOption {α : Type} {write : α → Json} {a : Option α} {leaf : Json}
    (bare : ∀ x, ∀ leaf ∈ Json.words (write x), Json.Bare leaf)
    (member : leaf ∈ Json.words (Json.ofOption write a)) : Json.Bare leaf := by
  cases a with
  | none =>
    obtain rfl := List.mem_singleton.1 member
    exact .null
  | some x => exact bare x leaf member

/-- The words of an options document are not floating-point numbers. -/
theorem bare_words (o : PromptOptions) : ∀ leaf ∈ Json.words o.toJson, Json.Bare leaf := by
  intro leaf member
  simp only [toJson, Json.words, Json.memberWords, List.append_nil, List.nil_append,
    List.mem_append, List.mem_singleton] at member
  rcases member with (ids | preset) | (ids | count) | rfl | rfl | rfl
  · exact bare_names ids
  · exact bare_ofOption (fun _ _ none => by cases none) preset
  · exact bare_names ids
  · exact bare_ofOption (fun n _ single => by rw [List.mem_singleton.1 single]; exact .int n) count
  · exact .bool _
  · exact .int _
  · exact .bool _

/-- The canonical text determines the options. -/
theorem canonical_injective {o o' : PromptOptions}
    (same : PromptBuilder.optionsText o = PromptBuilder.optionsText o') : o = o' :=
  toJson_injective
    (Digest.normal_eq_of_canonicalText (Json.apart_of_bare o.bare_words o'.bare_words) same)

end PromptOptions

namespace Digest

theorem length_hexDigits (width n : Nat) : (Text.hexDigits width n).length = width := by
  induction width generalizing n with
  | zero => rfl
  | succ width ih => simp [Text.hexDigits, ih]

theorem nul_notMem_hexDigits (width n : Nat) : '\x00' ∉ Text.hexDigits width n := by
  have digit : ∀ n < 16, Text.hexDigit n ≠ '\x00' := by decide
  induction width generalizing n with
  | zero => simp [Text.hexDigits]
  | succ width ih =>
    have last := digit (n % 16) (Nat.mod_lt _ (by decide))
    simp [Text.hexDigits, ih, last.symm]

/-- All the digits of a digest of 64 bits are kept in a slot. -/
theorem ofText_sixteen (text : String) :
    ofText .xxh64 text (some 16) = ofText .xxh64 text none := by
  unfold ofText ofBytes
  -- there are just as many digits as the slot keeps
  have whole : ∀ digits : List Char, digits.length = 16 →
      truncate digits (some 16) = truncate digits none := by
    intro digits length
    exact List.take_of_length_le (Nat.le_of_eq length)
  rw [whole]
  exact length_hexDigits 16 _

theorem nul_notMem_ofText (text : String) : '\x00' ∉ (ofText .xxh64 text none).toList := by
  unfold ofText ofBytes
  rw [String.toList_ofList]
  exact nul_notMem_hexDigits 16 _

end Digest

/-- What a prompt is asked for with. -/
structure PromptQuery where
  options : PromptOptions
  language : String
  negative : Bool

namespace PromptQuery

def fields (q : PromptQuery) : List String :=
  [q.options.themeId, q.language, PromptBuilder.flagText q.negative,
    Digest.ofText .xxh64 (PromptBuilder.optionsText q.options) none]

def key (q : PromptQuery) : String := Digest.ofFields .xxh64 q.fields

/-- Different texts among these have different digests. -/
def NoCollision (texts : List String) : Prop :=
  ∀ a ∈ texts, ∀ b ∈ texts, Digest.ofText .xxh64 a none = Digest.ofText .xxh64 b none → a = b

/-- No digest that the keys of these queries are made from, or that the cache makes of the keys,
stands for two texts. -/
structure Separated (queries : List PromptQuery) : Prop where
  options : NoCollision (queries.map fun q => PromptBuilder.optionsText q.options)
  fields : NoCollision (queries.map fun q => Digest.joined q.fields)
  keys : NoCollision (queries.map key)

theorem flagText_injective {a b : Bool}
    (same : PromptBuilder.flagText a = PromptBuilder.flagText b) : a = b := by
  cases a <;> cases b <;> first | rfl | exact absurd same (by decide)

theorem nul_notMem_flagText (flag : Bool) : '\x00' ∉ (PromptBuilder.flagText flag).toList := by
  cases flag <;> decide

theorem toList_joined (q : PromptQuery) :
    (Digest.joined q.fields).toList =
      ((q.options.themeId.toList ++ '\x00' :: q.language.toList) ++
        '\x00' :: (PromptBuilder.flagText q.negative).toList) ++
          '\x00' :: (Digest.ofText .xxh64 (PromptBuilder.optionsText q.options) none).toList := by
  have mark : ("\x00" : String).toList = ['\x00'] := by decide
  simp [Digest.joined, fields, mark]

/-- The theme and the language may hold any character. The fields after them cannot hold the mark
between fields, so they are found from the end; the last one determines the options and with them
the theme, and what is left over is the language. -/
theorem joined_injective {q r : PromptQuery}
    (options : Digest.ofText .xxh64 (PromptBuilder.optionsText q.options) none =
        Digest.ofText .xxh64 (PromptBuilder.optionsText r.options) none →
      q.options = r.options)
    (same : Digest.joined q.fields = Digest.joined r.fields) : q = r := by
  have texts := congrArg String.toList same
  rw [toList_joined, toList_joined] at texts
  obtain ⟨front, digest⟩ := Text.split_last (Digest.nul_notMem_ofText _)
    (Digest.nul_notMem_ofText _) texts
  obtain ⟨front, flag⟩ := Text.split_last (nul_notMem_flagText _) (nul_notMem_flagText _) front
  obtain ⟨o, language, negative⟩ := q
  obtain ⟨o', language', negative'⟩ := r
  obtain rfl : o = o' := options (String.toList_inj.1 digest)
  obtain rfl : negative = negative' := flagText_injective (String.toList_inj.1 flag)
  obtain rfl : language = language' :=
    String.toList_inj.1 (List.cons.inj (List.append_cancel_left front)).2
  rfl

/-- Two queries with one slot are the same query. -/
theorem eq_of_slot {queries : List PromptQuery} (separated : Separated queries)
    {q r : PromptQuery} (left : q ∈ queries) (right : r ∈ queries)
    (same : PromptBuilder.slotOf q.key = PromptBuilder.slotOf r.key) : q = r := by
  -- from the digest of the key to the key, to its fields, to the last of them
  unfold PromptBuilder.slotOf at same
  rw [Digest.ofText_sixteen, Digest.ofText_sixteen] at same
  have keys : q.key = r.key := separated.keys _ (List.mem_map_of_mem left) _
    (List.mem_map_of_mem right) same
  have joined : Digest.joined q.fields = Digest.joined r.fields := separated.fields _
    (List.mem_map_of_mem left) _ (List.mem_map_of_mem right) keys
  refine joined_injective (fun digests => PromptOptions.canonical_injective ?_) joined
  exact separated.options _ (List.mem_map_of_mem left) _ (List.mem_map_of_mem right) digests

end PromptQuery

end UiSchema
