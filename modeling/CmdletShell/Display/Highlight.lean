import CmdletShell.Display.Theme
import CmdletShell.Pattern.Reader
import CmdletShell.Settings.Environment

/-!
# Highlighting

A rule marks all matches of a pattern with a style. A rule without a pattern or a style, or with a
pattern that cannot be read, is left out.

* `Highlighter.ofRules`: the rules that can be used.
* `Highlighter.highlight`: a styled text with the marks of all rules, rule after rule.
* `Settings.consoleHighlighter`: the highlighter of the console, if it has one.
-/

namespace CmdletShell

namespace Display

/-- A rule of highlighting. -/
structure HighlightRule where
  /-- What is looked for. -/
  pattern : Pattern
  /-- Whether letter case is ignored. -/
  anyCase : Bool
  /-- The style of what is found. -/
  style : Value
  deriving Inhabited

/-- The style of a rule: the style under its name in the settings, or its own. -/
def ruleStyle (styles : Value) (rule : Fields Value) : Except Fault Value := do
  let own := (rule.get? "style").getD .null
  let found ← lookUp styles ((rule.get? "style").getD (.str []))
  return found.getD own

/-- A rule from the settings, if it can be used. A pattern has to be a text. -/
def HighlightRule.read (styles rule : Value) : Except Fault (Option HighlightRule) := do
  let rule ← fieldsOf rule
  let pattern := (rule.get? "pattern").getD .null
  let style ← ruleStyle styles rule
  if !pattern.truthy || !style.truthy then return none
  let anyCase := ((rule.get? "ignore_case").getD .null).truthy
  match pattern with
  | .str text => return (Pattern.read? text).map fun pattern => { pattern, anyCase, style }
  | _ => throw .wrongKind

/-- The marks that a rule sets in a text: none for an empty match. -/
def HighlightRule.marks (rule : HighlightRule) (text : Text) : List Span :=
  ((rule.pattern.findAll rule.anyCase text).filter fun (start, stop) => start != stop).map
    fun (start, stop) => ⟨start, stop, rule.style⟩

/-- The rules in use. -/
abbrev Highlighter := List HighlightRule

/-- The rules of the settings that can be used. -/
def Highlighter.ofRules (styles : Value) (rules : List Value) : Except Fault Highlighter :=
  (rules.mapM (HighlightRule.read styles)).map fun found => found.filterMap id

/-- A styled text with the marks of all rules. -/
def Highlighter.highlight (highlighter : Highlighter) (styled : StyledText) : StyledText :=
  { styled with spans := styled.spans ++ highlighter.flatMap (·.marks styled.text) }

end Display

namespace Settings

open Display

/-- The highlighter of the console, if highlighting is switched on and there are rules. -/
def consoleHighlighter (settings : Settings) (environment : Environment) :
    Except Fault (Option Highlighter) :=
  match settings .highlightRules with
  | .arr (rule :: rules) =>
    if (settings.highlighted environment).truthy then
      (Highlighter.ofRules (settings .highlightStyles) (rule :: rules)).map some
    else .ok none
  | _ => .ok none

end Settings

end CmdletShell
