import UiSchema.Settings

/-! What goes into a prompt, and how many tokens it may take. -/

set_option autoImplicit false

namespace UiSchema

inductive ComponentMode where
  | all
  | selected
  | preset
  deriving DecidableEq, Repr

def ComponentMode.name : ComponentMode → String
  | .all => "all"
  | .selected => "selected"
  | .preset => "preset"

inductive ExampleMode where
  | auto
  | selected
  | none
  deriving DecidableEq, Repr

def ExampleMode.name : ExampleMode → String
  | .auto => "auto"
  | .selected => "selected"
  | .none => "none"

structure ComponentSelection where
  mode : ComponentMode := .all
  selectedIds : Option (List String) := .none
  presetName : Option String := .none
  deriving DecidableEq

structure ExampleSelection where
  mode : ExampleMode := .auto
  selectedIds : Option (List String) := .none
  maxCount : Option Nat := .none
  deriving DecidableEq

structure ColorSelection where
  id : String := "light"
  included : Bool := true
  deriving DecidableEq

structure TokenBudget where
  most : Nat
  autoOptimize : Bool := true
  deriving DecidableEq

structure PromptOptions where
  themeId : String
  components : ComponentSelection := {}
  examples : ExampleSelection := {}
  colors : ColorSelection := {}
  budget : TokenBudget
  deriving DecidableEq

namespace PromptOptions

/-- The options used when none are given. -/
def standard : PromptOptions :=
  { themeId := "shadcn-ui"
    examples := { maxCount := some 5 }
    budget := { most := 4000 } }

def names (ids : Option (List String)) : Json := Json.ofOption Json.strings ids

def toJson (o : PromptOptions) : Json :=
  .object
    [("theme_id", .str o.themeId),
     ("components", .object
       [("mode", .str o.components.mode.name),
        ("selected_ids", names o.components.selectedIds),
        ("preset_name", Json.ofOption Json.str o.components.presetName)]),
     ("examples", .object
       [("mode", .str o.examples.mode.name),
        ("selected_ids", names o.examples.selectedIds),
        ("max_count", Json.ofOption (fun n : Nat => Json.int n) o.examples.maxCount)]),
     ("color_scheme", .object
       [("id", .str o.colors.id), ("include_in_prompt", .bool o.colors.included)]),
     ("token_budget", .object
       [("max", .int o.budget.most), ("auto_optimize", .bool o.budget.autoOptimize)])]

/-- Whether there is a text of the options. -/
def writable (o : PromptOptions) : Bool := o.toJson.fitsText

def componentModes : List (String × ComponentMode) :=
  [.all, .selected, .preset].map fun m => (m.name, m)

def exampleModes : List (String × ExampleMode) :=
  [.auto, .selected, .none].map fun m => (m.name, m)

def selectedIds (members : Entries Json) : Decoded (Option (List String)) :=
  Decode.nullableField members ⟨"selectedIds", "selected_ids"⟩ (Decode.tuple Decode.string)

def decodeComponents : Decoder ComponentSelection :=
  Decode.record "ComponentSelection" fun members =>
    ComponentSelection.mk
      <$> Decode.optional members (.same "mode") .all (Decode.choice componentModes)
      <*> selectedIds members
      <*> Decode.nullableField members ⟨"presetName", "preset_name"⟩ Decode.string

def decodeExamples (settings : Settings) : Decoder ExampleSelection :=
  Decode.record "ExampleSelection" fun members =>
    ExampleSelection.mk
      <$> Decode.optional members (.same "mode") .auto (Decode.choice exampleModes)
      <*> selectedIds members
      <*> Decode.optional members ⟨"maxCount", "max_count"⟩ (some settings.maxExamples)
        (Decode.nullable Decode.natural)

def decodeColors : Decoder ColorSelection :=
  Decode.record "ColorSchemeSelection" fun members =>
    ColorSelection.mk
      <$> Decode.optional members (.same "id") "light" Decode.string
      <*> Decode.optional members ⟨"includeInPrompt", "include_in_prompt"⟩ true Decode.boolean

def decodeBudget (settings : Settings) : Decoder TokenBudget :=
  Decode.record "TokenBudget" fun members =>
    TokenBudget.mk
      <$> Decode.optional members (.same "max") settings.tokenBudget Decode.positive
      <*> Decode.optional members ⟨"autoOptimize", "auto_optimize"⟩ true Decode.boolean

/-- What a document leaves out is taken from the settings. -/
def decode (settings : Settings) : Decoder PromptOptions :=
  Decode.record "ContextSettings" fun members =>
    PromptOptions.mk
      <$> Decode.optional members ⟨"themeId", "theme_id"⟩ settings.defaultThemeId Decode.string
      <*> Decode.optional members (.same "components") {} decodeComponents
      <*> Decode.optional members (.same "examples") { maxCount := some settings.maxExamples }
        (decodeExamples settings)
      <*> Decode.optional members ⟨"colorScheme", "color_scheme"⟩ {} decodeColors
      <*> Decode.optional members ⟨"tokenBudget", "token_budget"⟩
        { most := settings.tokenBudget } (decodeBudget settings)

end PromptOptions

end UiSchema
