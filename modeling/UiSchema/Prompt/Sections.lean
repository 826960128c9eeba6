import UiSchema.Prompt.Meter
import UiSchema.Prompt.Options
import UiSchema.Theme.Pack

/-! The sections of a prompt: component documentation, worked examples and colors. -/

set_option autoImplicit false

namespace UiSchema

namespace Prompt

/-- Named lists of component types. An empty list stands for all. -/
def presets : Entries (List String) :=
  [("layout-only", ["Container", "Card", "CardHeader", "CardContent", "CardFooter"]),
   ("forms-only", ["Input", "Button", "Label", "Textarea", "Select", "Checkbox"]),
   ("display-only", ["Text", "Icon", "Badge", "Table"]),
   ("all", [])]

/-- The components of the given types, in the order of the types; unknown ones are left out. -/
def ofTypes (p : Pack) (types : List String) : List Definition :=
  types.filterMap fun type => p.components.find? fun d => d.type == type

def presetName (selection : ComponentSelection) : String :=
  match selection.presetName with
  | some name => if name.isEmpty then "all" else name
  | none => "all"

def selectComponents (p : Pack) (selection : ComponentSelection) : List Definition :=
  match selection.mode with
  | .all => p.components
  | .selected => ofTypes p (selection.selectedIds.getD [])
  | .preset =>
    match (presets.get? (presetName selection)).getD [] with
    | [] => p.components
    | types => ofTypes p types

/-- Selected examples stand in the order of the pack. `most` bounds their number where the selection
does not. -/
def selectExamples (p : Pack) (most : Nat) (selection : ExampleSelection) : List Example :=
  match selection.mode with
  | .none => []
  | .selected =>
    let wanted := selection.selectedIds.getD []
    p.examples.filter fun e => wanted.contains e.id
  | .auto => p.examples.take (selection.maxCount.getD most)

/-- The ids of some of the examples of a pack, in order, select just these. -/
theorem filter_ids_of_sublist {all chosen : List Example} (distinct : (all.map (·.id)).Nodup)
    (sub : chosen.Sublist all) :
    all.filter (fun e => (chosen.map (·.id)).contains e.id) = chosen := by
  induction sub with
  | slnil => rfl
  | @cons chosen all e sub ih =>
    rw [List.map_cons, List.nodup_cons] at distinct
    have other : ¬ e.id ∈ chosen.map (·.id) :=
      fun member => distinct.1 ((sub.map (·.id)).subset member)
    rw [List.filter_cons_of_neg (by simpa using other), ih distinct.2]
  | @cons_cons chosen all e sub ih =>
    rw [List.map_cons, List.nodup_cons] at distinct
    rw [List.filter_cons_of_pos (by simp)]
    -- the new id is that of no other example, so it selects nothing more
    have same : ∀ d ∈ all, ((e :: chosen).map (·.id)).contains d.id =
        (chosen.map (·.id)).contains d.id := by
      intro d member
      have different : d.id ≠ e.id := fun equal => distinct.1 (equal ▸ List.mem_map_of_mem member)
      simp [different]
    rw [List.filter_congr same, ih distinct.2]

def componentLine (d : Definition) : String :=
  let head := if d.description.isEmpty then s!"- {d.type}" else s!"- {d.type}: {d.description}"
  let choices := d.propsSchema.filterMap fun (prop, schema) =>
    match schema.choices with
    | none | some [] => none
    | some choices =>
      let listed := " | ".intercalate choices
      some s!"{prop}: {listed}"
  let listed := "; ".intercalate choices
  if choices.isEmpty then head else s!"{head} ({listed})"

def componentDocs (components : List Definition) : String :=
  "\n".intercalate (components.map componentLine)

/-- Whether there is a text of the example. -/
def writable (e : Example) : Bool := e.schema.toJson.fitsText

/-- The text of an example that can be written. -/
def exampleText (e : Example) : String :=
  "\n".intercalate
    ["### " ++ e.name, e.description, "```json", e.schema.toJson.written 2, "```"]

def exampleDocs (examples : List Example) : String :=
  "\n\n".intercalate (examples.map exampleText)

def colorLine (entry : String × String) : String := s!"- {entry.1}: {entry.2}"

def colorInfo (p : Pack) (selection : ColorSelection) (heading : String) : String :=
  if selection.included then
    match p.colorScheme? selection.id with
    | none => ""
    | some scheme =>
      s!"{heading}: {scheme.name}\n" ++ "\n".intercalate (scheme.colors.map colorLine)
  else ""

def colorsHeading (prompts : Option PromptTexts) : String :=
  match prompts with
  | some texts => texts.colorsHeading
  | none => "## Color Scheme"

/-- The three sections as text. -/
structure Sections where
  components : String
  examples : String
  colors : String

def sections (p : Pack) (language : String) (most : Nat) (o : PromptOptions) : Sections :=
  { components := componentDocs (selectComponents p o.components)
    examples := exampleDocs (selectExamples p most o.examples)
    colors := colorInfo p o.colors (colorsHeading (p.promptsFor? language)) }

/-- The tokens of each section, and those that every prompt takes. -/
structure Estimate where
  components : Nat := 0
  examples : Nat := 0
  colors : Nat := 0
  base : Nat := 0
  deriving DecidableEq, Repr

def Estimate.total (e : Estimate) : Nat := e.components + e.examples + e.colors + e.base

/-- The sections are measured in their order, up to the first that cannot be. -/
def Sections.estimate (s : Sections) (meter : Meter) (base : Nat) :
    Except RoundingError Estimate := do
  let components ← meter.ofText s.components
  let examples ← meter.ofText s.examples
  let colors ← meter.ofText s.colors
  return { components, examples, colors, base }

/-- A text that is left out together with the empty line after it. -/
def block (lines : List String) (present : Bool) : List String :=
  if present then lines ++ [""] else []

/-- The whole prompt. Empty sections are left out, with their headings. -/
def assemble (texts : PromptTexts) (s : Sections) (negative : Bool) : String :=
  "\n".intercalate
    ([texts.systemIntro, "", texts.componentsHeading, s.components, ""] ++
      block [texts.iconGuidelines] (!texts.iconGuidelines.isEmpty) ++
      block [s.colors] (!s.colors.isEmpty) ++
      block [texts.examplesHeading, s.examples] (!s.examples.isEmpty) ++
      block [texts.negativeHeading, texts.negativeExamples]
        (negative && !texts.negativeExamples.isEmpty) ++
      [texts.closing])

end Prompt

end UiSchema
