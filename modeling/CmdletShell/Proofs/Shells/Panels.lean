import CmdletShell.Proofs.Shells.Views

/-!
# When a view can be shown

The settings may put any value in the place of a panel style, so a panel may break before it is
drawn. It does not exactly if the value that names its style `Leads` to one, and so does the name
of the default style (`isOk_panelStyle`). From panels this goes on to views, and to what a result
needs to be shown (`succeeds_displayResult`).

How a style is drawn is left to the terminal.
-/

namespace CmdletShell.Proofs.Shells.Panels

open CmdletShell.Shell CmdletShell.Display
open CmdletShell.Proofs.Builtins.Fields CmdletShell.Proofs.Shells.Steps

/-! ### Panel styles -/

/-- A value that a table can be asked for: no list and no object. -/
def IsName : Value → Prop
  | .arr _ | .obj _ => False
  | _ => True

/-- **The value leads to a panel style**: it names one that is an object, or none. -/
structure Leads (settings : Settings) (name : Value) : Prop where
  isName : IsName name
  isObject : ∀ text style, name = .str text → (settings .panelStyles).get? text = some style →
    Setting.isObject style = true

/-- The name of the default style and another value lead to styles. -/
def LeadsTo (settings : Settings) (name : Value) : Prop :=
  Leads settings (.str "default") ∧ Leads settings name

variable {settings : Settings} {table name : Value}

theorem exists_of_isObject (h : Setting.isObject table = true) :
    ∃ fields : Fields Value, table = .obj fields := by
  cases table with
  | obj fields => exact ⟨fields, rfl⟩
  | _ => cases h

theorem leads_str {text : Text} : Leads settings (.str text) ↔
    ∀ style, (settings .panelStyles).get? text = some style → Setting.isObject style = true := by
  constructor
  · exact fun h style hs => h.isObject text style rfl hs
  · intro h
    refine ⟨trivial, ?_⟩
    rintro text' style ⟨⟩ hs
    exact h style hs

/-- If all panel styles are objects, every value that a table can be asked for leads to one. -/
theorem leadsTo_of_forall {fields : Fields Value} (hs : settings .panelStyles = .obj fields)
    (hall : ∀ field ∈ fields, Setting.isObject field.2 = true) (hn : IsName name) :
    LeadsTo settings name := by
  have hobject : ∀ {text : Text} {style : Value}, (settings .panelStyles).get? text = some style →
      Setting.isObject style = true := by
    intro text style h
    rw [hs] at h
    exact hall (text, style) (mem_of_get? h)
  exact ⟨leads_str.mpr fun _ => hobject, hn, fun _ _ _ => hobject⟩

theorem isOk_ofValues (values fallback : Value) : (PanelStyle.ofValues values fallback).isOk =
    (Setting.isObject values && Setting.isObject fallback) := by
  cases values <;> cases fallback <;> rfl

/-- What is found under a value that is asked for. -/
def found? (table : Value) : Value → Option Value
  | .str text => table.get? text
  | _ => none

/-- A table is asked for anything but a list or an object. -/
theorem lookUp_of_isName (ht : Setting.isObject table = true) (hn : IsName name) :
    lookUp table name = .ok (found? table name) := by
  obtain ⟨fields, rfl⟩ := exists_of_isObject ht
  cases name with
  | arr | obj => exact hn.elim
  | _ => rfl

theorem isName_of_lookUp {found : Option Value} (h : lookUp table name = .ok found) :
    IsName name := by
  cases name with
  | arr | obj =>
    obtain ⟨_, -, h⟩ := ok_of_bind h
    cases h
  | _ => trivial

/-- **A panel style can be read exactly if its name and the default one lead to styles.** -/
theorem isOk_panelStyle (hp : Setting.isObject (settings .panelStyles) = true) (name : Value) :
    (settings.panelStyle name).isOk = true ↔ LeadsTo settings name := by
  obtain ⟨styles, hs⟩ := exists_of_isObject hp
  have heq : settings.panelStyle name = lookUp (settings .panelStyles) name >>= fun values =>
      PanelStyle.ofValues (values.getD ((styles.get? "default").getD (.obj [])))
        ((styles.get? "default").getD (.obj [])) := by
    rw [Settings.panelStyle, hs]
    rfl
  have hdefault : Setting.isObject ((styles.get? "default").getD (.obj [])) = true ↔
      Leads settings (.str "default") := by
    rw [leads_str, hs, Value.get?]
    cases styles.get? "default" <;> simp [Setting.isObject]
  rw [heq, isOk_bind]
  constructor
  · rintro ⟨found, hf, hok⟩
    have hname := isName_of_lookUp hf
    rw [lookUp_of_isName hp hname] at hf
    cases hf
    rw [isOk_ofValues, Bool.and_eq_true] at hok
    refine ⟨hdefault.mp hok.2, hname, ?_⟩
    rintro text style rfl hstyle
    rw [found?, hstyle] at hok
    exact hok.1
  · rintro ⟨hd, hn⟩
    refine ⟨_, lookUp_of_isName hp hn.isName, ?_⟩
    rw [isOk_ofValues, Bool.and_eq_true]
    refine ⟨?_, hdefault.mpr hd⟩
    cases hfound : found? (settings .panelStyles) name with
    | none => exact hdefault.mpr hd
    | some style =>
      cases name with
      | str text => exact hn.isObject text style rfl hfound
      | _ => cases hfound

/-! ### Panels -/

theorem all_panelView (panel : Except Fault Panel) :
    (panelView panel).all (·.isOk) = panel.isOk := by
  rw [panelView, List.all_cons, isOk_map, List.all_nil, Bool.and_true]

theorem succeeds_panelView (panel : Except Fault Panel) (shell : Shell) :
    succeeds (display (panelView panel)) shell = panel.isOk :=
  (succeeds_display _ shell).trans (all_panelView panel)

section Panel
variable (hp : Setting.isObject (settings .panelStyles) = true)
include hp

theorem isOk_fitted (body : Body) (title : Label) (style : Text) :
    (fitted settings body title style).isOk = true ↔ LeadsTo settings (.str style) := by
  rw [← isOk_panelStyle hp]
  have heq : (fitted settings body title style).isOk = (settings.panelStyle (.str style)).isOk := by
    unfold fitted Settings.panel
    cases settings.panelStyle (.str style) <;> rfl
  rw [heq]

/-- The panel style for a shape, as the settings name it. -/
def shapeStyle (settings : Settings) (shape : Shape) : Value :=
  ((settings .shapeStyles).get? shape.name).getD (.str "default")

theorem isOk_resultPanel (hs : Setting.isObject (settings .shapeStyles) = true) (line : Text)
    (result : Result) : (resultPanel settings line result).isOk = true ↔
      (∃ text, result.output = .str text) ∧
        LeadsTo settings (shapeStyle settings result.shape) := by
  have hstyle : settings.styleForShape result.shape.name =
      .ok (shapeStyle settings result.shape) := by
    have hname : IsName (.str result.shape.name) := trivial
    rw [Settings.styleForShape, lookUp_of_isName hs hname]
    rfl
  have hpanel : ∀ body, (settings.panel body (.plain (' ' :: line))
      (shapeStyle settings result.shape) true
      [("subtitle", timing settings result.millis), ("subtitle_align", .str "right")]).isOk =
        (settings.panelStyle (shapeStyle settings result.shape)).isOk := by
    intro body
    unfold Settings.panel
    cases settings.panelStyle (shapeStyle settings result.shape) <;> rfl
  unfold resultPanel
  rw [hstyle, ← isOk_panelStyle hp]
  cases ho : result.output with
  | str text =>
    have hbody : ∃ body, resultBody result.shape (.str text) = .ok body := by
      unfold resultBody
      dsimp only
      split <;> exact ⟨_, rfl⟩
    obtain ⟨body, hbody⟩ := hbody
    rw [hbody, ← hpanel body]
    exact ⟨fun h => ⟨⟨text, rfl⟩, h⟩, fun h => h.2⟩
  | _ =>
    constructor
    · rintro ⟨⟩
    · rintro ⟨⟨text, ⟨⟩⟩, -⟩

end Panel

/-! ### Results -/

/-- **What a result needs to be shown**: a failure the style of errors, an output that does not
clear the screen the style of its shape, and that it is a text. -/
structure Showable (settings : Settings) (result : Result) : Prop where
  failure : result.success = false → LeadsTo settings (.str "error")
  output : result.success = true → result.output.truthy = true →
    clearsScreen result.output = false →
    (∃ text, result.output = .str text) ∧ LeadsTo settings (shapeStyle settings result.shape)

/-- **A result is shown without a breakdown exactly if it has what it needs.** -/
theorem succeeds_displayResult {shell : Shell}
    (hp : Setting.isObject (shell.surroundings.settings .panelStyles) = true)
    (hs : Setting.isObject (shell.surroundings.settings .shapeStyles) = true) (line : Text)
    (result : Result) : succeeds (displayResult line result) shell = true ↔
      Showable shell.surroundings.settings result := by
  have hsettings : outcome Shell.settings shell = (.ok shell.surroundings.settings, shell) := rfl
  unfold displayResult
  rw [succeeds_bind_ok hsettings]
  cases hsuccess : result.success with
  | false =>
    have hview : ∀ title tree, (succeeds (display (panelView
        (fitted shell.surroundings.settings (.tree tree) title "error"))) shell = true ↔
          Showable shell.surroundings.settings result) := by
      intro title tree
      rw [succeeds_panelView, isOk_fitted hp]
      refine ⟨fun h => ⟨fun _ => h, fun ht => ?_⟩, fun h => h.failure hsuccess⟩
      rw [hsuccess] at ht
      cases ht
    rw [Bool.false_and, if_neg Bool.false_ne_true]
    cases hword : unknownWord? line result with
    | some word =>
      rw [← hview (failureTitle line) (notFoundTree line (result.error.getD [])
        (shell.interpreter.suggest word))]
      rfl
    | none =>
      rw [← hview (failureTitle line) (failureTree line (failureMessage result))]
      unfold Display.result
      rw [hsuccess]
      rfl
  | true =>
    have hfails : result.success = false → LeadsTo shell.surroundings.settings (.str "error") := by
      rw [hsuccess]
      rintro ⟨⟩
    rw [Bool.true_and]
    cases hclear : clearsScreen result.output with
    | true =>
      rw [if_pos rfl]
      refine ⟨fun _ => ⟨hfails, fun _ _ h => ?_⟩, fun _ => rfl⟩
      rw [hclear] at h
      cases h
    | false =>
      rw [if_neg Bool.false_ne_true]
      dsimp only
      unfold Display.result
      rw [hsuccess, Bool.not_true, if_neg Bool.false_ne_true]
      cases ht : result.output.truthy with
      | false =>
        rw [Bool.not_false, if_pos rfl]
        refine ⟨fun _ => ⟨hfails, fun _ h => ?_⟩, fun _ => rfl⟩
        rw [ht] at h
        cases h
      | true =>
        rw [Bool.not_true, if_neg Bool.false_ne_true, succeeds_panelView, isOk_resultPanel hp hs]
        exact ⟨fun h => ⟨hfails, fun _ _ _ => h⟩, fun h => h.output hsuccess ht hclear⟩

end CmdletShell.Proofs.Shells.Panels
