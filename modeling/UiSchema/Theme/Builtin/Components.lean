import UiSchema.Registry.Definition

/-! Component definitions of the theme that comes with the library. -/

set_option autoImplicit false

namespace UiSchema.Builtin

def webPlatforms : List Platform := [.pcWeb, .mobileWeb, .pcDesktop]

def classNameProp : String × PropSchema :=
  ("className", { type := .string, description := "Tailwind CSS class names" })

/-- A text out of a list; the first one is the default. -/
def choiceProp (name : String) (choices : List String) : String × PropSchema :=
  (name,
    { type := .string
      default := Json.ofOption Json.str choices.head?
      choices := some choices })

def plainProp (name : String) (type : PropType) : String × PropSchema := (name, { type })

/-- A surface that only arranges what it holds. -/
def layout (type description : String) (tags : List String) : Definition :=
  { type, displayName := type, category := "layout", description
    propsSchema := [classNameProp], platforms := webPlatforms, tags := "layout" :: tags }

def input (type description : String) (tags : List String)
    (propsSchema : Entries PropSchema) : Definition :=
  { type, displayName := type, category := "input", description, propsSchema, tags }

def display (category type description : String) (tags : List String)
    (propsSchema : Entries PropSchema) : Definition :=
  { type, displayName := type, category, description, propsSchema, tags }

def components : List Definition :=
  [layout "Container" "Generic container for layout and styling" ["div", "flex", "grid"],
   layout "Card" "Card surface grouping related content" ["panel"],
   layout "CardHeader" "Card header holding title and description" ["card"],
   layout "CardTitle" "Card heading text" ["card", "heading"],
   layout "CardDescription" "Muted text under a card title" ["card"],
   layout "CardContent" "Card body" ["card"],
   layout "CardFooter" "Card footer, usually actions" ["card"],
   { input "Button" "Button with variants: default, destructive, outline, secondary, ghost, link"
       ["action", "form", "click"]
       [choiceProp "variant" ["default", "destructive", "outline", "secondary", "ghost", "link"],
        choiceProp "size" ["default", "sm", "lg", "icon"],
        ("disabled", { type := .boolean, default := .bool false }),
        classNameProp] with
     defaultProps := [("variant", .str "default"), ("size", .str "default")]
     platforms := webPlatforms
     icon := some "mouse-pointer-click" },
   { input "Input" "Single-line text input" ["form", "text field"]
       [choiceProp "type" ["text", "password", "email", "number", "tel", "url", "search"],
        plainProp "placeholder" .string,
        plainProp "value" .string,
        classNameProp] with
     platforms := webPlatforms },
   input "Label" "Form field label" ["form"] [plainProp "htmlFor" .string, classNameProp],
   input "Textarea" "Multi-line text input" ["form", "text field"]
     [plainProp "placeholder" .string, plainProp "rows" .number, classNameProp],
   input "Select" "Dropdown choice from a list of options" ["form", "dropdown"]
     [("options", { type := .array, required := true, description := "[\x7blabel, value\x7d]" }),
      plainProp "value" .string,
      plainProp "placeholder" .string],
   input "Checkbox" "Boolean checkbox" ["form", "toggle"]
     [("checked", { type := .boolean, default := .bool false })],
   input "Switch" "Toggle switch" ["form", "toggle"]
     [("checked", { type := .boolean, default := .bool false })],
   display "display" "Text" "Text display" ["typography"] [classNameProp],
   display "display" "Icon" "Lucide icon by name; use instead of emoji" ["icon", "lucide"]
     [("name", { type := .string, required := true }),
      ("size", { type := .number, default := .int 16 })],
   display "display" "Badge" "Small status label" ["status", "tag"]
     [choiceProp "variant" ["default", "secondary", "destructive", "outline"]],
   display "display" "Table"
     "Data table; compose with TableHeader, TableBody, TableRow, TableHead, TableCell"
     ["data", "grid"] [classNameProp],
   display "feedback" "Alert" "Callout for important messages" ["message", "notice"]
     [choiceProp "variant" ["default", "destructive"]],
   display "feedback" "Progress" "Progress bar from 0 to 100" ["loading"]
     [("value", { type := .number, default := .int 0 })],
   display "navigation" "Tabs" "Tabbed sections" ["navigation"]
     [plainProp "defaultValue" .string]]

end UiSchema.Builtin
