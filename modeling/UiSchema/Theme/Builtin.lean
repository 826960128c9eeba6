import UiSchema.Theme.Builtin.Components
import UiSchema.Theme.Builtin.Examples
import UiSchema.Theme.Builtin.Prompts
import UiSchema.Theme.Manager

/-! The theme that comes with the library. -/

set_option autoImplicit false

namespace UiSchema.Builtin

def themeId : String := "shadcn-ui"

def light : ColorScheme :=
  { id := "light", name := "Light", type := "light"
    colors :=
      [("background", "hsl(0 0% 100%)"),
       ("foreground", "hsl(222.2 84% 4.9%)"),
       ("primary", "hsl(222.2 47.4% 11.2%)"),
       ("secondary", "hsl(210 40% 96.1%)"),
       ("accent", "hsl(210 40% 96.1%)"),
       ("muted", "hsl(210 40% 96.1%)"),
       ("border", "hsl(214.3 31.8% 91.4%)"),
       ("destructive", "hsl(0 84.2% 60.2%)")] }

def dark : ColorScheme :=
  { id := "dark", name := "Dark", type := "dark"
    colors :=
      [("background", "hsl(222.2 84% 4.9%)"),
       ("foreground", "hsl(210 40% 98%)"),
       ("primary", "hsl(210 40% 98%)"),
       ("secondary", "hsl(217.2 32.6% 17.5%)"),
       ("accent", "hsl(217.2 32.6% 17.5%)"),
       ("muted", "hsl(217.2 32.6% 17.5%)"),
       ("border", "hsl(217.2 32.6% 17.5%)"),
       ("destructive", "hsl(0 62.8% 30.6%)")] }

def button (props : Entries Json) (style : Option Style) : Component :=
  .mk { id := "button", type := "Button", props := some props, style } none

/-- A larger touch target on mobile, and the style of the theme on top. -/
def buttonTemplates : List Template :=
  [{ layer := .base
     schema :=
       { version := some "1.0"
         root := button [("variant", .str "default"), ("size", .str "default")] none }
     styles := [("cursor", "pointer")] },
   { layer := .platform
     platform := some .mobileWeb
     schema :=
       { root := button [("size", .str "lg")] (some { inlined := some [("minHeight", .int 44)] }) }
     styles := [("touchAction", "manipulation")] },
   { layer := .theme
     theme := some themeId
     schema := { root := button [("className", .str "rounded-md font-medium")] none }
     styles := [("borderRadius", "0.5rem")] }]

def theme : Pack :=
  { id := themeId
    name := "shadcn/ui"
    description := "Clean, modern components built on Tailwind CSS"
    version := "1.0.0"
    components := components
    examples := examples
    prompts := prompts
    colorSchemes := [light, dark]
    templates := [("Button", buttonTemplates)] }

end UiSchema.Builtin

namespace UiSchema.ThemeManager

variable {Listener : Type}

/-- A manager that knows the theme of the library, active if it is the default one. -/
def withBuiltin (defaultId : String) : ThemeManager Listener :=
  match ThemeManager.register { defaultId } Builtin.theme with
  | .error _ => { defaultId }
  | .ok m => if m.has defaultId then (m.activate defaultId).manager else m

end UiSchema.ThemeManager
