import UiSchema.Theme.Pack

/-! Worked examples of the theme that comes with the library. -/

set_option autoImplicit false

namespace UiSchema.Builtin

/-- One event that is answered with an action. -/
def sending (event action : String) (payload : Json) : Option (List EventBinding) :=
  some [{ event, action, payload }]

def loginFormRoot : Component :=
  .mk { id := "login-card", type := "Card"
        props := some [("className", .str "w-full max-w-sm")] }
    (some
     [.mk { id := "login-header", type := "CardHeader" }
        (some
         [.mk { id := "login-title", type := "CardTitle", text := some "Sign in" } none,
          .mk { id := "login-desc", type := "CardDescription"
                text := some "Enter your email to continue" } none]),
      .mk { id := "login-content", type := "CardContent"
            props := some [("className", .str "grid gap-4")] }
        (some
         [.mk { id := "email-label", type := "Label", props := some [("htmlFor", .str "email")]
                text := some "Email" } none,
          .mk { id := "email", type := "Input"
                props := some [("type", .str "email"),
                  ("placeholder", .str "name@example.com")] } none,
          .mk { id := "password-label", type := "Label"
                props := some [("htmlFor", .str "password")], text := some "Password" } none,
          .mk { id := "password", type := "Input"
                props := some [("type", .str "password")] } none]),
      .mk { id := "login-footer", type := "CardFooter" }
        (some
         [.mk { id := "login-submit", type := "Button"
                props := some [("className", .str "w-full")], text := some "Sign in"
                events := sending "click" "submit" (.object [("form", .str "login")]) } none])])

def loginForm : Example :=
  { id := "system-form-login"
    name := "Login Form"
    description := "Email and password sign-in card with a submit action"
    category := "form"
    tags := ["login", "auth", "form", "card"]
    schema :=
      { version := some "1.0"
        root := loginFormRoot } }

def adminSidebarRoot : Component :=
  .mk { id := "sidebar", type := "Container"
        props := some [("className", .str "w-64 h-screen flex flex-col border-r")] }
    (some
     [.mk { id := "sidebar-title", type := "Text"
            props := some [("className", .str "p-4 text-xl font-bold")]
            text := some "Admin Panel" } none,
      .mk { id := "menu-dashboard", type := "Button"
            props := some [("variant", .str "ghost"), ("className", .str "justify-start gap-2")]
            events := sending "click" "navigate" (.str "/dashboard") }
        (some
         [.mk { id := "menu-dashboard-icon", type := "Icon"
                props := some [("name", .str "home"), ("size", .int 16)] } none,
          .mk { id := "menu-dashboard-text", type := "Text", text := some "Dashboard" } none]),
      .mk { id := "menu-settings", type := "Button"
            props := some [("variant", .str "ghost"), ("className", .str "justify-start gap-2")]
            events := sending "click" "navigate" (.str "/settings") }
        (some
         [.mk { id := "menu-settings-icon", type := "Icon"
                props := some [("name", .str "settings"), ("size", .int 16)] } none,
          .mk { id := "menu-settings-text", type := "Text", text := some "Settings" } none])])

def adminSidebar : Example :=
  { id := "system-layout-admin-sidebar"
    name := "Admin Sidebar"
    description := "Side navigation for an admin console with icon menu items"
    category := "layout"
    tags := ["sidebar", "admin", "navigation"]
    schema :=
      { version := some "1.0"
        root := adminSidebarRoot } }

def userListRoot : Component :=
  .mk { id := "user-list", type := "Container"
        props := some [("className", .str "flex flex-col gap-2")] }
    (some
     [.mk { id := "user-row", type := "Container"
            props := some
              [("className", .str "flex items-center justify-between rounded-md border p-3")]
            loop := some { source := "users", itemName := some "user", indexName := some "i" } }
        (some
         [.mk { id := "user-name", type := "Text", text := some "\x7b\x7buser.name\x7d\x7d" } none,
          .mk { id := "user-admin", type := "Badge", props := some [("variant", .str "secondary")]
                condition := some "\x7b\x7buser.admin\x7d\x7d", text := some "Admin" } none])])

def userList : Example :=
  { id := "system-display-user-list"
    name := "User List"
    description := "Data-bound list repeating one row per user"
    category := "display"
    tags := ["list", "loop", "binding", "users"]
    schema :=
      { version := some "1.0"
        root := userListRoot
        data := some
          [("users", .array
            [.object [("name", .str "Ada"), ("admin", .bool true)],
             .object [("name", .str "Grace"), ("admin", .bool false)]])] } }

def statsCardsRoot : Component :=
  .mk { id := "stats-grid", type := "Container"
        props := some [("className", .str "grid grid-cols-3 gap-4")] }
    (some
     [.mk { id := "stat-revenue", type := "Card" }
        (some
         [.mk { id := "stat-revenue-label", type := "CardDescription"
                text := some "Revenue" } none,
          .mk { id := "stat-revenue-value", type := "CardTitle"
                binding := some "\x7b\x7bstats.revenue\x7d\x7d" } none]),
      .mk { id := "stat-users", type := "Card" }
        (some
         [.mk { id := "stat-users-label", type := "CardDescription"
                text := some "Active users" } none,
          .mk { id := "stat-users-value", type := "CardTitle"
                binding := some "\x7b\x7bstats.users\x7d\x7d" } none]),
      .mk { id := "stat-progress", type := "Card" }
        (some
         [.mk { id := "stat-progress-label", type := "CardDescription"
                text := some "Quarter goal" } none,
          .mk { id := "stat-progress-bar", type := "Progress"
                props := some [("value", .int 64)] } none])])

def statsCards : Example :=
  { id := "system-dashboard-stats"
    name := "Dashboard Stats"
    description := "Row of metric cards bound to dashboard data"
    category := "dashboard"
    tags := ["dashboard", "metrics", "card", "binding"]
    schema :=
      { version := some "1.0"
        root := statsCardsRoot
        data := some [("stats", .object [("revenue", .str "$45,231"), ("users", .int 2350)])] } }

def notificationSettingsRoot : Component :=
  .mk { id := "notify-card", type := "Card" }
    (some
     [.mk { id := "notify-header", type := "CardHeader" }
        (some
         [.mk { id := "notify-title", type := "CardTitle", text := some "Notifications" } none]),
      .mk { id := "notify-content", type := "CardContent"
            props := some [("className", .str "grid gap-4")] }
        (some
         [.mk { id := "notify-email", type := "Switch", props := some [("checked", .bool true)]
                events := sending "change" "toggle" (.str "email") } none,
          .mk { id := "notify-muted-alert", type := "Alert"
                props := some [("variant", .str "destructive")]
                condition := some "settings.muted"
                text := some "All notifications are muted" } none])])

def notificationSettings : Example :=
  { id := "system-form-notification-settings"
    name := "Notification Settings"
    description := "Toggle list with a conditional warning"
    category := "form"
    tags := ["settings", "switch", "condition"]
    schema :=
      { version := some "1.0"
        root := notificationSettingsRoot
        data := some [("settings", .object [("muted", .bool false)])] } }

def examples : List Example :=
  [loginForm, adminSidebar, userList, statsCards, notificationSettings]

end UiSchema.Builtin
