import UiSchema.Decode.Scalar

/-! Style of a component: a class name, an inline map, and named shorthands over the map. -/

set_option autoImplicit false

namespace UiSchema

/-- A size: a text with a unit, or a number. -/
inductive Measure where
  | text (value : String)
  | whole (value : Int)
  | real (value : Float)

def Measure.toJson : Measure → Json
  | .text value => .str value
  | .whole value => .int value
  | .real value => .float value

structure Style where
  className : Option String := none
  inlined : Option (Entries Json) := none
  width : Option Measure := none
  height : Option Measure := none
  margin : Option Measure := none
  padding : Option Measure := none
  display : Option String := none
  flexDirection : Option String := none
  justifyContent : Option String := none
  alignItems : Option String := none
  gap : Option Measure := none
  backgroundColor : Option String := none
  color : Option String := none
  fontSize : Option Measure := none
  fontWeight : Option Measure := none
  borderRadius : Option Measure := none
  border : Option String := none

namespace Style

/-- The shorthands in the order in which they are applied, under the names of their properties. -/
def shorthands (s : Style) : List (String × Option Json) :=
  [("width", s.width.map Measure.toJson),
   ("height", s.height.map Measure.toJson),
   ("margin", s.margin.map Measure.toJson),
   ("padding", s.padding.map Measure.toJson),
   ("display", s.display.map Json.str),
   ("flexDirection", s.flexDirection.map Json.str),
   ("justifyContent", s.justifyContent.map Json.str),
   ("alignItems", s.alignItems.map Json.str),
   ("gap", s.gap.map Measure.toJson),
   ("backgroundColor", s.backgroundColor.map Json.str),
   ("color", s.color.map Json.str),
   ("fontSize", s.fontSize.map Measure.toJson),
   ("fontWeight", s.fontWeight.map Measure.toJson),
   ("borderRadius", s.borderRadius.map Measure.toJson),
   ("border", s.border.map Json.str)]

/-- Members with a value. -/
def given (members : List (String × Option Json)) : Entries Json :=
  members.filterMap fun (key, value) => value.map fun v => (key, v)

def toJson (s : Style) : Json :=
  .object (given
    ([("className", s.className.map Json.str), ("style", s.inlined.map Json.object)] ++
      s.shorthands))

/-- A truth value counts as a whole number. A value that is neither text nor number fails as each of
the three kinds. -/
def measure : Decoder Measure
  | .str value => .ok (.text value)
  | .int value => .ok (.whole value)
  | .float value => .ok (.real value)
  | .bool value => .ok (.whole value.toInt)
  | _ => .bad
    [⟨["str"], .not .string⟩, ⟨["int"], .not .integer⟩, ⟨["float"], .not .number⟩]

/-- A weight has no fraction. -/
def weight : Decoder Measure
  | .str value => .ok (.text value)
  | value =>
    match Decode.integer value with
    | .ok whole => .ok (.whole whole)
    | .bad problems =>
      .bad (⟨["str"], .not .string⟩ :: problems.map (Problem.within "int"))

def decodeMembers (members : Entries Json) : Decoded Style :=
  let text wire plain := Decode.nullableField members ⟨wire, plain⟩ Decode.string
  let size wire plain := Decode.nullableField members ⟨wire, plain⟩ measure
  Style.mk
    <$> text "className" "class_name"
    <*> Decode.nullableField members (.same "style") Decode.dictionary
    <*> size "width" "width"
    <*> size "height" "height"
    <*> size "margin" "margin"
    <*> size "padding" "padding"
    <*> text "display" "display"
    <*> text "flexDirection" "flex_direction"
    <*> text "justifyContent" "justify_content"
    <*> text "alignItems" "align_items"
    <*> size "gap" "gap"
    <*> text "backgroundColor" "background_color"
    <*> text "color" "color"
    <*> size "fontSize" "font_size"
    <*> Decode.nullableField members ⟨"fontWeight", "font_weight"⟩ weight
    <*> size "borderRadius" "border_radius"
    <*> text "border" "border"

def decode : Decoder Style := Decode.record "StyleProps" decodeMembers

end Style

end UiSchema
