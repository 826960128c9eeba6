import UiSchema.Decode.Scalar

/-! Settings of the library: limits, defaults and the token ratios of prompts. They are read from
named texts, such as the variables of an environment. -/

set_option autoImplicit false

namespace UiSchema

/-- The languages that prompts are written in. -/
inductive Language where
  | en
  | zh
  deriving DecidableEq, Repr

def Language.code : Language → String
  | .en => "en"
  | .zh => "zh"

def Language.choices : List (String × Language) := [("en", .en), ("zh", .zh)]

structure Settings where
  logLevel : String := "INFO"
  jsonLogs : Bool := false
  schemaVersion : String := "1.0"
  maxSchemaSize : Nat := 512 * 1024
  maxSchemaDepth : Nat := 64
  unknownComponentType : String := "UnknownComponent"
  language : Language := .en
  includeNegativeExamples : Bool := true
  basePromptTokens : Nat := 500
  tokensPerCharEn : Float := 0.25
  tokensPerCharZh : Float := 0.7
  tokenBudget : Nat := 4000
  minExamples : Nat := 1
  maxExamples : Nat := 5
  promptCacheSize : Nat := 50
  defaultThemeId : String := "shadcn-ui"

namespace Settings

/-- A setting that keeps its default when no text is given. -/
def setting {α : Type} (texts : Entries String) (name : String) (default : α)
    (decode : String → Decoded α) : Decoded α :=
  match texts.get? name with
  | some text => (decode text).within name
  | none => .ok default

/-- The settings that the texts give, by name, over the defaults. -/
def read (texts : Entries String) : Decoded Settings :=
  let start : Settings := {}
  let text name default := setting texts name default .ok
  let flag name default := setting texts name default Decode.booleanText
  let whole name default (decode : Decoder Nat) :=
    setting texts name default fun s => decode (.str s)
  Settings.mk
    <$> text "log_level" start.logLevel
    <*> flag "json_logs" start.jsonLogs
    <*> text "schema_version" start.schemaVersion
    <*> whole "max_schema_size" start.maxSchemaSize Decode.positive
    <*> whole "max_schema_depth" start.maxSchemaDepth Decode.positive
    <*> text "unknown_component_type" start.unknownComponentType
    <*> setting texts "language" start.language (fun s => Decode.choice Language.choices (.str s))
    <*> flag "include_negative_examples" start.includeNegativeExamples
    <*> whole "base_prompt_tokens" start.basePromptTokens Decode.natural
    <*> setting texts "tokens_per_char_en" start.tokensPerCharEn Decode.positiveFloatText
    <*> setting texts "tokens_per_char_zh" start.tokensPerCharZh Decode.positiveFloatText
    <*> whole "token_budget" start.tokenBudget Decode.positive
    <*> whole "min_examples" start.minExamples Decode.natural
    <*> whole "max_examples" start.maxExamples Decode.natural
    <*> whole "prompt_cache_size" start.promptCacheSize Decode.positive
    <*> text "default_theme_id" start.defaultThemeId

end Settings

end UiSchema
