import CmdletShell.CommandLine.Run
import CmdletShell.Proofs.Files.Written
import CmdletShell.Proofs.Shells.Panels

/-!
# What the program needs of its settings

A settings file may put any value in any place, and most of them do no harm: what is no table, no
list and no pair of lists is left out when the file is loaded, and unknown names stand for the
default. Some values do. `Loggable`, `Startable`, `Helpful` and `Presentable` say which settings
the log, a new session, the help, and the lines of a session can live with.

Here are the parts: what holds of all settings that files lead to (`Carried`), when there is a log
(`isOk_configure`), when a session starts (`exists_start_iff`), and when the help is shown
(`succeeds_showHelp`).
-/

namespace CmdletShell.Proofs.Shells.Needs

open CmdletShell.Shell CmdletShell.Display CmdletShell.CommandLine
open CmdletShell.Proofs.Builtins CmdletShell.Proofs.Files.Written
open CmdletShell.Proofs.Shells.Steps CmdletShell.Proofs.Shells.Panels

/-! ### The needs -/

/-- The log level has a name that is known, in any letter case. -/
def KnownLevel (settings : Settings) : Prop :=
  Text.upper (settings .logLevel).show ∈ Threshold.names.names

/-- What a rule of highlighting says its style is. -/
def ownStyle (rule : Value) : Value := (rule.get? "style").getD (.str [])

/-- The style of a rule: the one that the settings have under its name, or its own. -/
def styleOf (settings : Settings) (rule : Value) : Value :=
  (found? (settings .highlightStyles) (ownStyle rule)).getD ((rule.get? "style").getD .null)

/-- What a rule of highlighting looks for. -/
def patternOf (rule : Value) : Value := (rule.get? "pattern").getD .null

/-- **A rule that can be read**: its style is no list and no object, and if both style and pattern
count as given, the pattern is a text, which may be no pattern at all. -/
structure ReadableRule (settings : Settings) (rule : Value) : Prop where
  style : IsName (ownStyle rule)
  pattern : (patternOf rule).truthy = true → (styleOf settings rule).truthy = true →
    ∃ text, patternOf rule = .str text

/-- **What the console needs**: if output is highlighted at all, the rules can be read. -/
def ReadableRules (settings : Settings) : Prop :=
  (settings .highlighting).truthy = true → ∀ rules, settings .highlightRules = .arr rules →
    ∀ rule ∈ rules, ReadableRule settings rule

/-- **What the log needs**: the console if it shows all that is logged, else a level. -/
def Loggable (debug : Bool) (settings : Settings) : Prop :=
  if debug then ReadableRules settings else KnownLevel settings

/-- **What a session needs to start**: the console, and a choice of a lexer that is a text. -/
structure Startable (settings : Settings) : Prop where
  lexer : ∃ name, settings .promptLexer = .str name
  rules : ReadableRules settings

/-- Each key of the help is a pair: what to press, and what it does. -/
def PairedKeys (settings : Settings) : Prop :=
  ∀ keys, settings .helpKeys = .arr keys → ∀ key ∈ keys, ∃ name words, key = .arr [name, words]

/-- **What the help needs**: keys that are pairs, and a style for its panel. -/
structure Helpful (settings : Settings) : Prop where
  keys : PairedKeys settings
  panel : LeadsTo settings (.str "info")

/-- The names of the styles that panels of the session itself have. -/
def panelNames : List Text := ["info", "success", "warning", "error"]

/-- **What the lines of a session need**: a home that is a text or counts as none, pairs of keys for
the help, and a style for every panel. -/
structure Presentable (settings : Settings) : Prop where
  home : (settings .homeLocation).truthy = true → ∃ path, settings .homeLocation = .str path
  keys : PairedKeys settings
  panels : ∀ name ∈ panelNames, LeadsTo settings (.str name)
  shapes : ∀ shape, LeadsTo settings (shapeStyle settings shape)

/-! ### Settings that files lead to -/

section Carried
variable {settings : Settings} (hc : Carried settings)
include hc

/-- A table of styles stays a table. -/
theorem isObject_of_carried {setting : Setting} (hm : manner setting = .merged) :
    Setting.isObject (settings setting) = true := by
  have hk := hc.kept setting
  rw [hm] at hk
  obtain ⟨old, fields, -, heq, -⟩ := hk
  rw [heq]
  rfl

/-- The keys of the help are a list of lists, and the rules a list of objects. -/
theorem list_of_carried {setting : Setting} {keep : Value → Bool}
    (hm : manner setting = .filtered keep) :
    ∃ items, settings setting = .arr items ∧ ∀ item ∈ items, keep item = true := by
  have hk := hc.kept setting
  rwa [hm] at hk

/-- The aliases are a table of texts: reading one that was read changes nothing. -/
theorem aliases_of_carried :
    ∃ aliases, settings .extraAliases = .obj (State.textFields aliases) := by
  obtain ⟨fields, heq, -, hread⟩ := hc.kept .extraAliases
  refine ⟨fields.map fun field => (field.1, field.2.show), heq.trans (congrArg Value.obj ?_)⟩
  rw [State.textFields, List.map_map]
  refine (List.map_id _).symm.trans (List.map_congr_left fun field hf => ?_)
  have htext : .str field.2.show = field.2 := congrArg Prod.snd (hread field hf)
  exact Prod.ext rfl htext.symm

end Carried

/-! ### Starting a session -/

section Start
variable {settings : Settings}

theorem ruleStyle_of_isName (hs : Setting.isObject (settings .highlightStyles) = true)
    {fields : Fields Value} (hn : IsName (ownStyle (.obj fields))) :
    ruleStyle (settings .highlightStyles) fields = .ok (styleOf settings (.obj fields)) := by
  have hfound := lookUp_of_isName hs hn
  unfold ownStyle Value.get? at hfound
  unfold ruleStyle
  rw [hfound]
  rfl

/-- How a rule that is an object is read. -/
theorem read_obj (fields : Fields Value) :
    HighlightRule.read (settings .highlightStyles) (.obj fields) =
      ruleStyle (settings .highlightStyles) fields >>= fun style =>
        if !(patternOf (.obj fields)).truthy || !style.truthy then pure none
        else match patternOf (.obj fields) with
          | .str text => pure ((Pattern.read? text).map fun pattern =>
              ⟨pattern, ((fields.get? "ignore_case").getD .null).truthy, style⟩)
          | _ => throw .wrongKind := rfl

/-- A rule that is an object is read exactly if it can be. -/
theorem isOk_read (hs : Setting.isObject (settings .highlightStyles) = true) {rule : Value}
    (hr : Setting.isObject rule = true) :
    (HighlightRule.read (settings .highlightStyles) rule).isOk = true ↔
      ReadableRule settings rule := by
  obtain ⟨fields, rfl⟩ := exists_of_isObject hr
  rw [read_obj, isOk_bind]
  constructor
  · rintro ⟨style, hstyle, h⟩
    have hname : IsName (ownStyle (.obj fields)) := by
      obtain ⟨found, hf, -⟩ := ok_of_bind hstyle
      exact isName_of_lookUp hf
    rw [ruleStyle_of_isName hs hname] at hstyle
    cases hstyle
    refine ⟨hname, fun hp ht => ?_⟩
    rw [hp, ht, Bool.not_true, Bool.or_self, if_neg Bool.false_ne_true] at h
    split at h
    · next text heq => exact ⟨text, heq⟩
    · cases h
  · rintro ⟨hname, hpattern⟩
    refine ⟨_, ruleStyle_of_isName hs hname, ?_⟩
    split
    · rfl
    · next h =>
      rw [Bool.or_eq_true, Bool.not_eq_true', Bool.not_eq_true', not_or, Bool.not_eq_false,
        Bool.not_eq_false] at h
      obtain ⟨text, htext⟩ := hpattern h.1 h.2
      rw [htext]
      rfl

/-- The highlighter of the console is made exactly if the rules can be read, or none is wanted. -/
theorem isOk_consoleHighlighter (hc : Carried settings) :
    (settings.consoleHighlighter []).isOk = true ↔ ReadableRules settings := by
  have hs : Setting.isObject (settings .highlightStyles) = true := isObject_of_carried hc rfl
  have hm : manner .highlightRules = .filtered Setting.isObject := rfl
  obtain ⟨rules, hrules, hobject⟩ := list_of_carried hc hm
  have hswitch : settings.highlighted [] = settings .highlighting := rfl
  unfold Settings.consoleHighlighter ReadableRules
  rw [hrules, hswitch]
  have hread : (∀ rule ∈ rules, (HighlightRule.read (settings .highlightStyles) rule).isOk = true) ↔
      ∀ rule ∈ rules, ReadableRule settings rule :=
    forall₂_congr fun rule hrule => isOk_read hs (hobject rule hrule)
  have hsame : ∀ P : List Value → Prop,
      (∀ rules', Value.arr rules = .arr rules' → P rules') ↔ P rules := by simp
  rw [hsame fun rules => ∀ rule ∈ rules, ReadableRule settings rule, ← hread]
  cases rules with
  | nil => exact ⟨fun _ _ _ h => (List.not_mem_nil h).elim, fun _ => rfl⟩
  | cons rule rules =>
    dsimp only
    cases ht : (settings .highlighting).truthy with
    | false =>
      rw [if_neg Bool.false_ne_true]
      exact ⟨fun _ h => (Bool.false_ne_true h).elim, fun _ => rfl⟩
    | true =>
      rw [if_pos rfl, isOk_map, Highlighter.ofRules, isOk_map, isOk_mapM]
      exact ⟨fun h _ => h, fun h => h rfl⟩

/-- **There is a log exactly if the settings let it**, whether or not it can be kept in a file. -/
theorem isOk_configure (hc : Carried settings) (debug : Bool) (site : Site) (storage : Storage) :
    (Logging.configure debug settings [] site storage).1.isOk = true ↔ Loggable debug settings := by
  unfold Logging.configure Logging.thresholdFor Loggable
  cases debug with
  | true =>
    rw [if_pos rfl, if_pos rfl, ← isOk_consoleHighlighter hc]
    dsimp only
    cases settings.consoleHighlighter [] <;> exact Iff.rfl
  | false =>
    rw [if_neg Bool.false_ne_true, if_neg Bool.false_ne_true]
    have hlevel : settings.levelName [] = Text.upper (settings .logLevel).show := rfl
    rw [hlevel, KnownLevel, Threshold.read?, ← Fields.isSome_get?_iff]
    cases Threshold.names.get? (Text.upper (settings .logLevel).show) <;> exact Iff.rfl

theorem eq_str_of_textOf {operation text : Text} {value : Value}
    (h : textOf operation value = .ok text) : value = .str text := by
  cases value <;> cases h
  rfl

/-- A lexer is chosen exactly if the choice is a text. -/
theorem succeeds_renewLexer {shell : Shell} : succeeds renewLexer shell = true ↔
    ∃ name, shell.surroundings.settings.lexerChoice shell.surroundings.environment = .str name := by
  constructor
  · intro h
    obtain ⟨_, _, hchoose, -⟩ := succeeds_bind.mp h
    obtain ⟨_, _, hget, hchoose⟩ := exists_of_bind hchoose
    cases hget
    obtain ⟨name, _, htext, -⟩ := exists_of_bind hchoose
    rw [outcome_attempt] at htext
    exact ⟨name, eq_str_of_textOf (Prod.mk.inj htext).1⟩
  · rintro ⟨name, hname⟩
    have htext : outcome (attempt (textOf "strip" (shell.surroundings.settings.lexerChoice
        shell.surroundings.environment))) shell = (.ok name, shell) := by
      rw [outcome_attempt, hname]
      rfl
    refine succeeds_bind.mpr ?_
    unfold chooseLexer
    rw [outcome_bind_ok (outcome_get shell), outcome_bind_ok htext]
    dsimp only
    split
    · exact ⟨_, _, rfl, rfl⟩
    · split <;> exact ⟨_, _, rfl, rfl⟩

/-- **A session starts exactly if the settings let it.** -/
theorem exists_start_iff {surroundings : Surroundings} (hc : Carried surroundings.settings)
    (he : surroundings.environment = []) (logging : Logging) (interpreter : Interpreter) :
    (∃ sitting, Sitting.start logging surroundings interpreter = .ok sitting) ↔
      Startable surroundings.settings := by
  have hlexer : succeeds renewLexer { interpreter, surroundings } = true ↔
      ∃ name, surroundings.settings .promptLexer = .str name := by
    rw [succeeds_renewLexer]
    dsimp only
    rw [he]
    rfl
  have hstart : (∃ sitting, Sitting.start logging surroundings interpreter = .ok sitting) ↔
      (surroundings.settings.consoleHighlighter []).isOk = true ∧
        succeeds renewLexer { interpreter, surroundings } = true := by
    unfold Sitting.start Steps.succeeds Shell.start
    rw [he]
    cases surroundings.settings.consoleHighlighter [] with
    | error fault => simp [Except.isOk, Except.toBool]
    | ok found =>
      have hsame : StateT.run (ExceptT.run renewLexer) { interpreter, surroundings } =
          outcome renewLexer { interpreter, surroundings } := rfl
      dsimp only
      rw [hsame]
      rcases outcome renewLexer { interpreter, surroundings } with ⟨_ | _, shell⟩ <;>
        simp [Except.isOk, Except.toBool]
  rw [hstart, hlexer, isOk_consoleHighlighter hc]
  exact ⟨fun h => ⟨h.2, h.1⟩, fun h => ⟨h.rules, h.lexer⟩⟩

end Start

/-! ### Showing the help -/

section Help
variable {settings : Settings}

/-- A list is a pair exactly if it has two items. -/
theorem isOk_pairOf (items : List Value) :
    (pairOf (.arr items)).isOk = true ↔ ∃ name words, Value.arr items = .arr [name, words] := by
  match items with
  | [] | [_] | _ :: _ :: _ :: _ =>
    constructor
    · rintro ⟨⟩
    · rintro ⟨_, _, ⟨⟩⟩
  | [name, words] => exact ⟨fun _ => ⟨name, words, rfl⟩, fun _ => rfl⟩

/-- The help can be written exactly if each of its keys is a pair. -/
theorem isOk_helpLines (hc : Carried settings) (catalogue : Catalogue) :
    (helpLines settings catalogue).isOk = true ↔ PairedKeys settings := by
  have hm : manner .helpKeys = .filtered Setting.isList := rfl
  obtain ⟨keys, hkeys, hlist⟩ := list_of_carried hc hm
  have hcommands : (pairsOf (settings .helpCommands)).isOk = true := by
    rw [hc.others .helpCommands rfl]
    rfl
  obtain ⟨commands, hcommands⟩ := isOk_iff.mp hcommands
  have hpairs : (helpLines settings catalogue).isOk = true ↔ (keys.mapM pairOf).isOk = true := by
    have hparts : pairsOf (.arr keys) = keys.mapM pairOf := rfl
    unfold helpLines
    rw [hkeys, hcommands, hparts]
    cases keys.mapM pairOf <;> exact Iff.rfl
  rw [hpairs, isOk_mapM, PairedKeys, hkeys]
  constructor
  · rintro h keys' ⟨⟩ key hk
    obtain ⟨items, rfl⟩ : ∃ items, key = .arr items := by
      cases key with
      | arr items => exact ⟨items, rfl⟩
      | _ => cases hlist _ hk
    exact (isOk_pairOf items).mp (h _ hk)
  · intro h key hk
    obtain ⟨name, words, rfl⟩ := h keys rfl key hk
    rfl

/-- **The help is shown exactly if the settings let it.** -/
theorem succeeds_showHelp {shell : Shell} (hc : Carried shell.surroundings.settings) :
    succeeds showHelp shell = true ↔ Helpful shell.surroundings.settings := by
  have hp : Setting.isObject (shell.surroundings.settings .panelStyles) = true :=
    isObject_of_carried hc rfl
  have hsettings : outcome Shell.settings shell = (.ok shell.surroundings.settings, shell) := rfl
  have hlines := isOk_helpLines hc (catalogue shell.interpreter.registry)
  unfold showHelp
  rw [succeeds_bind_ok hsettings, succeeds_bind_ok (outcome_get shell), succeeds_display]
  unfold Display.help
  cases hl : helpLines shell.surroundings.settings (catalogue shell.interpreter.registry) with
  | error fault =>
    rw [hl] at hlines
    refine ⟨fun h => (Bool.false_ne_true h).elim, fun h => ?_⟩
    exact (Bool.false_ne_true (hlines.mpr h.keys)).elim
  | ok lines =>
    rw [hl] at hlines
    have hblank : ([.ok .blank] : View).all (·.isOk) = true := rfl
    dsimp only
    rw [List.all_append, List.all_append, all_panelView, hblank, Bool.true_and, Bool.and_true,
      notice, isOk_fitted hp]
    exact ⟨fun h => ⟨hlines.mp rfl, h⟩, fun h => h.panel⟩

end Help

end CmdletShell.Proofs.Shells.Needs
