import SnippetStudio.Capability.Basic
import SnippetStudio.Capability.MockData

/-!
# The catalogue

The components, icons and fixture data of the standard set (`Capabilities.standard`).  A component
has the class names of its element, and where it comes in kinds the class names of each kind.
-/

namespace SnippetStudio.Catalogue

/-- the outline of a control that has the focus -/
def focusRing : String :=
  "focus-visible:outline-none focus-visible:ring-2 focus-visible:ring-slate-950 focus-visible:ring-offset-2"

def components : List Component :=
  [{ name := "Accordion", tag := "div",
     className := "w-full",
     dropped := Component.words ["type", "collapsible", "defaultValue", "onValueChange"] },
   { name := "AccordionItem", tag := "details",
     className := "border-b group",
     dropped := Component.words ["value"] },
   { name := "AccordionTrigger", tag := "summary",
     className :=
       "flex flex-1 cursor-pointer list-none items-center justify-between py-4 " ++
       "font-medium hover:underline" },
   { name := "AccordionContent", tag := "div",
     className := "pb-4 pt-0 text-sm" },
   { name := "Alert", tag := "div",
     className := "relative w-full rounded-lg border p-4",
     variants := Component.table [("default", "bg-white text-slate-950"),
                 ("destructive", "border-red-500/50 text-red-600")],
     attrs := Component.table [("role", "alert")] },
   { name := "AlertTitle", tag := "h5",
     className := "mb-1 font-medium leading-none tracking-tight" },
   { name := "AlertDescription", tag := "div",
     className := "text-sm [&_p]:leading-relaxed" },
   { name := "Avatar", tag := "span",
     className := "relative flex h-10 w-10 shrink-0 overflow-hidden rounded-full" },
   { name := "AvatarImage", tag := "img",
     className := "aspect-square h-full w-full" },
   { name := "AvatarFallback", tag := "span",
     className := "flex h-full w-full items-center justify-center rounded-full bg-slate-100" },
   { name := "Button", tag := "button",
     className :=
       "inline-flex items-center justify-center gap-2 whitespace-nowrap rounded-md " ++
       "text-sm font-medium transition-colors disabled:pointer-events-none " ++
       "disabled:opacity-50 " ++ focusRing,
     variants := Component.table [("default", "bg-slate-900 text-slate-50 hover:bg-slate-900/90"),
                 ("destructive", "bg-red-500 text-slate-50 hover:bg-red-500/90"),
                 ("outline", "border border-slate-200 bg-white hover:bg-slate-100 hover:text-slate-900"),
                 ("secondary", "bg-slate-100 text-slate-900 hover:bg-slate-100/80"),
                 ("ghost", "hover:bg-slate-100 hover:text-slate-900"),
                 ("link", "text-slate-900 underline-offset-4 hover:underline")],
     sizes := Component.table [("default", "h-10 px-4 py-2"),
              ("sm", "h-9 rounded-md px-3"),
              ("lg", "h-11 rounded-md px-8"),
              ("icon", "h-10 w-10")],
     attrs := Component.table [("type", "button")],
     dropped := Component.words ["asChild"] },
   { name := "Card", tag := "div",
     className := "rounded-lg border bg-white text-slate-950 shadow-sm" },
   { name := "CardHeader", tag := "div",
     className := "flex flex-col space-y-1.5 p-6" },
   { name := "CardTitle", tag := "h3",
     className := "text-2xl font-semibold leading-none tracking-tight" },
   { name := "CardDescription", tag := "p",
     className := "text-sm text-slate-500" },
   { name := "CardContent", tag := "div",
     className := "p-6 pt-0" },
   { name := "CardFooter", tag := "div",
     className := "flex items-center p-6 pt-0" },
   { name := "Checkbox", tag := "input",
     className :=
       "peer h-4 w-4 shrink-0 rounded-sm border border-slate-900 accent-slate-900 " ++ focusRing,
     attrs := Component.table [("type", "checkbox")],
     behavior := "checkbox" },
   { name := "DropdownMenu", tag := "details",
     className := "relative inline-block text-left",
     dropped := Component.words ["modal"] },
   { name := "DropdownMenuTrigger", tag := "summary",
     className := "cursor-pointer list-none",
     dropped := Component.words ["asChild"] },
   { name := "DropdownMenuContent", tag := "div",
     className :=
       "absolute z-50 mt-2 min-w-[8rem] overflow-hidden rounded-md border bg-white " ++
       "p-1 shadow-md",
     dropped := Component.words ["align", "sideOffset", "forceMount"] },
   { name := "DropdownMenuItem", tag := "div",
     className :=
       "relative flex cursor-default select-none items-center rounded-sm px-2 py-1.5 " ++
       "text-sm hover:bg-slate-100",
     attrs := Component.table [("role", "menuitem")],
     dropped := Component.words ["onSelect", "asChild"] },
   { name := "Input", tag := "input",
     className :=
       "flex h-10 w-full rounded-md border border-slate-200 bg-white px-3 py-2 " ++
       "text-sm placeholder:text-slate-500 disabled:cursor-not-allowed " ++
       "disabled:opacity-50 " ++ focusRing },
   { name := "Label", tag := "label",
     className :=
       "text-sm font-medium leading-none peer-disabled:cursor-not-allowed " ++
       "peer-disabled:opacity-70" },
   { name := "Select", tag := "details",
     className := "relative w-full",
     behavior := "select-root" },
   { name := "SelectTrigger", tag := "summary",
     className :=
       "flex h-10 w-full cursor-pointer list-none items-center justify-between " ++
       "rounded-md border border-slate-200 bg-white px-3 py-2 text-sm" },
   { name := "SelectValue", tag := "span",
     className := "text-slate-500",
     renamed := Component.table [("placeholder", "data-placeholder")],
     behavior := "select-value" },
   { name := "SelectContent", tag := "div",
     className :=
       "absolute z-50 mt-1 max-h-96 w-full overflow-hidden rounded-md border bg-white " ++
       "p-1 shadow-md",
     dropped := Component.words ["position"] },
   { name := "SelectItem", tag := "div",
     className :=
       "relative flex w-full cursor-default select-none items-center rounded-sm " ++
       "py-1.5 pl-8 pr-2 text-sm hover:bg-slate-100",
     attrs := Component.table [("role", "option")],
     renamed := Component.table [("value", "data-value")],
     behavior := "select-item" },
   { name := "Tabs", tag := "div",
     behavior := "tabs-root" },
   { name := "TabsList", tag := "div",
     className :=
       "inline-flex h-10 items-center justify-center rounded-md bg-slate-100 p-1 " ++
       "text-slate-500",
     attrs := Component.table [("role", "tablist")] },
   { name := "TabsTrigger", tag := "button",
     className :=
       "inline-flex items-center justify-center whitespace-nowrap rounded-sm px-3 " ++
       "py-1.5 text-sm font-medium data-[state=active]:bg-white " ++
       "data-[state=active]:text-slate-950 data-[state=active]:shadow-sm",
     attrs := Component.table [("type", "button"),
              ("role", "tab")],
     behavior := "tabs-trigger" },
   { name := "TabsContent", tag := "div",
     className := "mt-2",
     attrs := Component.table [("role", "tabpanel")],
     behavior := "tabs-content" },
   { name := "Textarea", tag := "textarea",
     className :=
       "flex min-h-[80px] w-full rounded-md border border-slate-200 bg-white px-3 " ++
       "py-2 text-sm placeholder:text-slate-500 disabled:cursor-not-allowed " ++
       "disabled:opacity-50 " ++ focusRing }]

/-- the icons named to the generator and known to the linter; snippets may use any other -/
def icons : List String :=
  ["AlertCircle", "ArrowLeft", "ArrowRight", "Bell", "Calendar", "Check", "CheckCircle2",
   "ChevronDown", "ChevronLeft", "ChevronRight", "ChevronUp", "Clock", "ExternalLink", "Facebook",
   "Github", "Globe", "Heart", "Home", "Info", "Instagram", "Linkedin", "Loader2", "Mail",
   "MapPin", "Menu", "Minus", "Phone", "Plus", "RefreshCw", "Search", "Settings", "ShoppingCart",
   "Star", "Trash2", "Twitter", "User", "Users", "X"]

end SnippetStudio.Catalogue

namespace SnippetStudio

/-- the set that snippets get unless another is asked for -/
def Capabilities.standard : Capabilities where
  components := Catalogue.components
  mockData := Catalogue.mockData.freeze
  icons := sortNames Catalogue.icons

end SnippetStudio
