import CmdletShell.Display.Renderable
import CmdletShell.Settings.Basic

/-!
# The theme of panels

* `PanelStyle.ofValues`: a panel style from the settings, with another to fall back on.
* `Settings.panelStyle`: the panel style of a name.
* `Settings.panel`: a panel in a style, with details of its own.
-/

namespace CmdletShell

namespace Display

/-- How a panel looks. -/
structure PanelStyle where
  /-- The style of the edge. -/
  borderStyle : Value
  /-- The room between edge and body, null for the usual room. -/
  padding : Value
  /-- The style of a title. -/
  titleStyle : Value
  /-- The side to which the title is aligned. -/
  titleAlign : Value
  /-- The style of the body. -/
  backgroundStyle : Value
  /-- Whether the panel takes the whole width. -/
  expand : Bool
  deriving Inhabited

/-- The fields of a value that has to be an object. -/
def fieldsOf : Value → Except Fault (Fields Value)
  | .obj fields => .ok fields
  | value => .error (.missingOperation value.kind "get")

/-- A panel style from the settings: what the style leaves out comes from another, but for the
styles of title and body, or is as usual. -/
def PanelStyle.ofValues (values fallback : Value) : Except Fault PanelStyle := do
  let values ← fieldsOf values
  let fallback ← fieldsOf fallback
  let pick (name : Text) (usual : Value) : Value :=
    (values.get? name).getD ((fallback.get? name).getD usual)
  let own (name : Text) : Value := (values.get? name).getD .null
  return {
    borderStyle := pick "border_style" (.str "#888888")
    padding := pick "padding" .null
    titleStyle := own "title_style"
    titleAlign := pick "title_align" (.str "left")
    backgroundStyle := own "background_style"
    expand := (pick "expand" (.bool false)).truthy }

/-- The value under a key in a table of the settings. A list or an object is no key; any other
value that is not a text is not found. -/
def lookUp (table key : Value) : Except Fault (Option Value) := do
  let fields ← fieldsOf table
  match key with
  | .arr _ | .obj _ => throw .wrongKind
  | .str name => return fields.get? name
  | _ => return none

/-- The details of a panel that are fixed by its parts. -/
def fixedDetails : List Text := ["title", "style", "fit", "renderable"]

/-- The details of a panel that are not described. -/
def silentDetails : List Text := ["box", "safe_box", "width", "height", "highlight"]

/-- A panel with a detail of its own. A panel that fits its body has no say in its width. -/
def Panel.withDetail (fit : Bool) (panel : Panel) (detail : Text × Value) : Except Fault Panel :=
  let (name, value) := detail
  if name = "subtitle" then .ok { panel with subtitle := value }
  else if name = "subtitle_align" then .ok { panel with subtitleAlign := value }
  else if name = "title_align" then .ok { panel with titleAlign := value }
  else if name = "border_style" then .ok { panel with borderStyle := value }
  else if name = "padding" then .ok { panel with padding := value }
  else if name = "expand" && !fit then .ok { panel with expand := value }
  else if silentDetails.contains name then .ok panel
  else .error .wrongKind

/-- The title of a panel: markup takes the title style if there is one. -/
def titleIn (style : PanelStyle) (title : Label) : Label :=
  match title with
  | .markup text =>
    if text.isEmpty || !style.titleStyle.truthy then title.orNone
    else (Label.styled (.ofStyle text style.titleStyle)).orNone
  | title => title.orNone

/-- A panel in a style. -/
def PanelStyle.frame (style : PanelStyle) (body : Body) (title : Label) (fit : Bool) : Panel :=
  let panel : Panel := {
    body
    title := titleIn style title
    borderStyle := style.borderStyle
    titleAlign := style.titleAlign
    expand := .bool !fit }
  let panel :=
    if style.padding matches .null then panel else { panel with padding := style.padding }
  if style.backgroundStyle.truthy then { panel with style := style.backgroundStyle } else panel

end Display

namespace Settings

open Display

/-- The panel style of a name; the default style stands for an unknown one. -/
def panelStyle (settings : Settings) (name : Value) : Except Fault PanelStyle := do
  let styles := settings .panelStyles
  let fallback := ((← fieldsOf styles).get? "default").getD (.obj [])
  let values ← lookUp styles name
  PanelStyle.ofValues (values.getD fallback) fallback

/-- The name of the panel style for a shape of output. -/
def styleForShape (settings : Settings) (shape : Text) : Except Fault Value :=
  (lookUp (settings .shapeStyles) (.str shape)).map fun name => name.getD (.str "default")

/-- A panel in a style, with details of its own. -/
def panel (settings : Settings) (body : Body) (title : Label) (style : Value) (fit : Bool)
    (details : Fields Value) : Except Fault Panel := do
  if details.any fun (name, _) => fixedDetails.contains name then throw .wrongKind
  let style ← settings.panelStyle style
  details.foldlM (Panel.withDetail fit) (style.frame body title fit)

end Settings

end CmdletShell
