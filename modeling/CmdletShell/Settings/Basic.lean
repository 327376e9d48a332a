import CmdletShell.Json.Display
import CmdletShell.Text.Case

/-!
# Settings

Each setting has a value of any kind, since a settings file may put any value in any place.

* `Setting.place?`: the section and the key under which a document holds a setting.
* `Setting.revise`: what a value found in a document makes of a setting.
* `Settings.overlay`: the settings after a document has been laid over them.
* `Settings.document`: the document that holds all the settings a document can hold.
-/

namespace CmdletShell

/-- What can be set. -/
inductive Setting where
  /-- The home of a new session. -/
  | homeLocation
  /-- What the prompt begins with. -/
  | promptPrefix
  /-- Aliases beside the usual ones. -/
  | extraAliases
  /-- The greeting. -/
  | welcomeMessage
  /-- Whether a greeting is shown. -/
  | startupBanner
  /-- Whether the time a line took is shown. -/
  | timing
  /-- The least level that is logged. -/
  | logLevel
  /-- The name of the lexer that colours what is typed. -/
  | promptLexer
  /-- Whether completions pop up while typing. -/
  | completionPopup
  /-- The keys that the help lists. -/
  | helpKeys
  /-- The session commands that the help lists. -/
  | helpCommands
  /-- The styles of the prompt. -/
  | promptStyles
  /-- The styles of the completion menu. -/
  | completionStyles
  /-- The styles of panels. -/
  | panelStyles
  /-- The panel style for each shape of an output. -/
  | shapeStyles
  /-- Whether output is highlighted. -/
  | highlighting
  /-- What is highlighted. -/
  | highlightRules
  /-- The styles of highlighting. -/
  | highlightStyles
  deriving DecidableEq, Repr, Inhabited

namespace Setting

/-- The parts of a settings document. -/
inductive Section where
  /-- The program as a whole. -/
  | general
  /-- The session. -/
  | session
  /-- What is shown. -/
  | ui
  deriving DecidableEq, Repr, Inhabited

/-- The key of a section in a document. -/
def Section.name : Section → Text
  | .general => "general"
  | .session => "session"
  | .ui => "ui"

/-- The section and the key under which a document holds a setting. -/
def place? : Setting → Option (Section × Text)
  | .welcomeMessage => some (.general, "welcome_message")
  | .startupBanner => some (.general, "show_startup_banner")
  | .logLevel => some (.general, "log_level")
  | .homeLocation => some (.session, "home_location")
  | .promptPrefix => some (.session, "prompt_prefix")
  | .extraAliases => some (.session, "aliases")
  | .timing => some (.ui, "show_timing")
  | .promptLexer => some (.ui, "choice_prompt_lexer")
  | .completionPopup => some (.ui, "completion_auto_popup")
  | .helpKeys => some (.ui, "help_keybinds")
  | .promptStyles => some (.ui, "prompt_styles")
  | .completionStyles => some (.ui, "completion_styles")
  | .panelStyles => some (.ui, "panel_styles")
  | .shapeStyles => some (.ui, "output_shape_styles")
  | .highlighting => some (.ui, "highlighter_enabled")
  | .highlightRules => some (.ui, "highlighter_rules")
  | .highlightStyles => some (.ui, "highlighter_styles")
  | .helpCommands => none

/-- The settings of a section in the order in which they are written. -/
def ofSection : Section → List Setting
  | .general => [.welcomeMessage, .startupBanner, .logLevel]
  | .session => [.homeLocation, .promptPrefix, .extraAliases]
  | .ui =>
    [.timing, .promptLexer, .completionPopup, .helpKeys, .promptStyles, .completionStyles,
      .panelStyles, .shapeStyles, .highlighting, .highlightRules, .highlightStyles]

/-- An alias as a document gives it: the name in lower case, the target as a text. -/
def readAlias (field : Text × Value) : Text × Value :=
  (Text.lower field.1, .str field.2.show)

/-- A table after the fields of another have been written into it. -/
def mergeTable (old : Value) (fields : Fields Value) : Value :=
  match old with
  | .obj oldFields => .obj (Fields.update oldFields fields)
  | _ => Value.ofFields fields

/-- Whether a value is an object. -/
def isObject : Value → Bool
  | .obj _ => true
  | _ => false

/-- Whether a value is a list. -/
def isList : Value → Bool
  | .arr _ => true
  | _ => false

/-- What a value found in a document makes of the old value of a setting. Tables are merged, the
aliases and the lists are replaced, and a value of the wrong kind changes none of these; any other
setting takes the value as it is. -/
def revise (setting : Setting) (found old : Value) : Value :=
  match setting with
  | .promptStyles | .completionStyles | .panelStyles | .highlightStyles | .shapeStyles =>
    match found with
    | .obj fields => mergeTable old fields
    | _ => old
  | .extraAliases =>
    match found with
    | .obj fields => Value.ofFields (fields.map readAlias)
    | _ => old
  | .highlightRules =>
    match found with
    | .arr items => .arr (items.filter isObject)
    | _ => old
  | .helpKeys =>
    match found with
    | .arr items => .arr (items.filter isList)
    | _ => old
  | _ => found

/-- The value that a document holds for a setting. -/
def find? (document : Value) (setting : Setting) : Option Value := do
  let (part, key) ← setting.place?
  document.at? [part.name, key]

end Setting

/-- The value of each setting. -/
abbrev Settings := Setting → Value

namespace Settings

/-- The settings after one has been given a value. -/
def put (setting : Setting) (value : Value) (settings : Settings) : Settings :=
  fun other => if other = setting then value else settings other

/-- The settings after a document has been laid over them. -/
def overlay (document : Value) (settings : Settings) : Settings := fun setting =>
  match setting.find? document with
  | some found => setting.revise found (settings setting)
  | none => settings setting

/-- A field of a section. -/
def field? (settings : Settings) (setting : Setting) : Option (Text × Value) :=
  setting.place?.map fun (_, key) => (key, settings setting)

/-- A section of the document. -/
def sectionField (settings : Settings) (part : Setting.Section) : Text × Value :=
  (part.name, .obj ((Setting.ofSection part).filterMap settings.field?))

/-- The document that holds all the settings a document can hold. -/
def document (settings : Settings) : Value :=
  .obj ([.general, .session, .ui].map settings.sectionField)

end Settings

end CmdletShell
