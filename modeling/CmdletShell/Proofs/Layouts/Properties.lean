import CmdletShell.Display.Plain
import CmdletShell.Display.View
import CmdletShell.Layout.Properties
import CmdletShell.Proofs.Layouts.Tables
import Mathlib.Data.List.Infix

/-!
# Properties that are read back

Properties in plain text are shown as a table of the keys and values read from it. If keys and
values are on one line and have no white space at their ends (`Trim`), and no key has a colon
between spaces or ends with one begun (`IsProperty`), then the pairs are read back from the text as
they are (`readProperties_properties`), unless a value is empty: its line lacks the space after the
colon, and there is no table (`readProperties_eq_none`).

A line is cut at its first colon between spaces. A key has none, and the spaces that it is filled up
with make none either.

The cells of the table show the pairs but for two characters: a text on the screen has no bell and
no backspace (`objectTable_shows`, `bell_unshown`).
-/

namespace CmdletShell.Proofs.Layouts.Properties

open CmdletShell.Display CmdletShell.Layout CmdletShell.Text
open CmdletShell.Proofs.Lines.Strip CmdletShell.Proofs.Lines.Joined
open CmdletShell.Proofs.Lines.Trimmed CmdletShell.Proofs.Layouts.Tables

variable {text front key value : Text} {texts : List Text} {pairs : List (Text × Text)}
variable {pair : Text × Text} {width : Nat}

/-- **A text on one line**, without white space at its ends. -/
structure Trim (text : Text) : Prop where
  oneLine : ∀ c ∈ text, isLineEnd c = false
  ends : HasEnds isBlank text

instance (text : Text) : Decidable (Trim text) :=
  decidable_of_iff (text.any isLineEnd = false ∧ HasEnds isBlank text)
    ⟨fun h => ⟨forall_iff_any.mpr h.1, h.2⟩, fun h => ⟨forall_iff_any.mp h.oneLine, h.ends⟩⟩

/-- **A key and a value that can be read back**: the key has no colon between spaces, and does not
end with a space and a colon. -/
structure IsProperty (pair : Text × Text) : Prop where
  key : Trim pair.1
  unopened : Unopened ':' pair.1
  value : Trim pair.2

instance (pair : Text × Text) : Decidable (IsProperty pair) :=
  decidable_of_iff (Trim pair.1 ∧ (¬ colon <:+: pair.1 ∧ ¬ [' ', ':'] <:+ pair.1) ∧ Trim pair.2)
    ⟨fun h => ⟨h.1, ⟨h.2.1.1, h.2.1.2⟩, h.2.2⟩,
      fun h => ⟨h.key, ⟨h.unopened.inside, h.unopened.ending⟩, h.value⟩⟩

/-! ### Lines -/

theorem linesAfter_append (h : ∀ c ∈ text, isLineEnd c = false) (front rest : Text) :
    linesAfter front (text ++ rest) = linesAfter (front ++ text) rest := by
  induction text generalizing front with
  | nil => rw [List.nil_append, List.append_nil]
  | cons c text ih =>
    obtain ⟨hc, htext⟩ := List.forall_mem_cons.mp h
    have hstep : linesAfter front (c :: (text ++ rest)) =
        linesAfter (front ++ [c]) (text ++ rest) := by
      conv_lhs => unfold linesAfter
      split
      · next heq => cases heq
      · next heq =>
        obtain ⟨rfl, -⟩ := List.cons.inj heq
        cases hc
      · next heq =>
        obtain ⟨rfl, rfl⟩ := List.cons.inj heq
        rw [hc]
        rfl
    rw [List.cons_append, hstep, ih htext]
    simp

/-- **Lines that are joined are read back** if none of them is empty. -/
theorem lines_joinWith (hne : texts ≠ []) (hfull : ∀ text ∈ texts, text ≠ [])
    (h : ∀ text ∈ texts, ∀ c ∈ text, isLineEnd c = false) :
    lines (joinWith ['\n'] texts) = texts := by
  induction texts with
  | nil => exact absurd rfl hne
  | cons text texts ih =>
    obtain ⟨htext, hmore⟩ := List.forall_mem_cons.mp h
    obtain ⟨hfirst, hothers⟩ := List.forall_mem_cons.mp hfull
    by_cases hr : texts = []
    · have hlast := linesAfter_append htext [] []
      rw [List.append_nil, List.nil_append] at hlast
      rw [hr, joinWith_singleton, lines, hlast, linesAfter, if_neg]
      rwa [List.isEmpty_iff]
    · have hnext : linesAfter text ('\n' :: joinWith ['\n'] texts) =
          text :: lines (joinWith ['\n'] texts) := rfl
      rw [joinWith_cons _ _ hr, List.append_assoc, lines, linesAfter_append htext,
        List.nil_append, List.singleton_append, hnext, ih hr hothers hmore]

/-! ### The separator of a line -/

theorem splitProperty_eq_none : splitProperty text = none ↔ ¬ colon <:+: text := by
  induction text with
  | nil => simp [splitProperty, colon]
  | cons c text ih =>
    rw [splitProperty, List.infix_cons_iff, not_or, ← List.isPrefixOf_iff_prefix]
    by_cases hc : colon.isPrefixOf (c :: text) = true
    · simp [hc]
    · rw [if_neg hc, Option.map_eq_none_iff, ih]
      simp [hc]

/-- **A line is cut at its first separator.** -/
theorem splitProperty_append (h : ¬ colon <:+: front ++ [' ', ':']) (rest : Text) :
    splitProperty (front ++ colon ++ rest) = some (front, rest) := by
  induction front with
  | nil => rfl
  | cons c front ih =>
    rw [List.cons_append, List.infix_cons_iff, not_or] at h
    have hc : ¬ colon.isPrefixOf (c :: (front ++ colon ++ rest)) = true := by
      rw [List.isPrefixOf_iff_prefix]
      intro hpre
      -- a separator here would end before the last space of the one after `front`
      have hsplit : c :: (front ++ colon ++ rest) =
          (c :: (front ++ [' ', ':'])) ++ ' ' :: rest := by
        simp [colon]
      rw [hsplit] at hpre
      exact h.1 (List.prefix_of_prefix_length_le hpre (List.prefix_append _ _) (by simp [colon]))
    rw [List.cons_append, List.cons_append, splitProperty, if_neg hc, ih h.2]
    rfl

/-! ### The line of a property -/

theorem strip_of_trim (h : Trim text) : strip text = text := trim_eq_self h.ends

/-- A key filled up with spaces has no separator, and makes none with the colon after it. -/
theorem unopened_filled (h : Unopened ':' key) (width : Int) : Unopened ':' (padRight width key) :=
  h.append_spaces (by decide) _

theorem propertyLine_full (h : Trim value) (hne : value ≠ []) :
    propertyLine width key value = padRight width key ++ colon ++ value := by
  have hstrip : strip value ≠ [] := by rwa [strip_of_trim h]
  rw [propertyLine, stripRight_append hstrip, stripRight_of_ended h.ends.2]
  rfl

theorem propertyLine_empty (width : Nat) (key : Text) :
    propertyLine width key [] = padRight width key ++ [' ', ':'] := by
  have htail : stripRight [' ', ':', ' '] = [' ', ':'] := by decide
  rw [propertyLine, List.append_nil, stripRight_append (by decide), htail]

/-- **The property of a line is the pair it was written for.** -/
theorem readProperty_full (h : IsProperty pair) (hne : pair.2 ≠ []) :
    readProperty (propertyLine width pair.1 pair.2) = some pair := by
  have hfirst : ¬ colon <:+: padRight width pair.1 ++ [' ', ':'] :=
    (unopened_filled h.unopened width).not_isInfix (by decide)
  have hkey : strip (padRight width pair.1) = pair.1 := by
    rw [padRight, strip_append_of_blank (strip_replicate _), strip_of_trim h.key]
  rw [readProperty, propertyLine_full h.value hne, splitProperty_append hfirst, Option.map_some]
  dsimp only
  rw [hkey, strip_of_trim h.value]

/-- **The line of an empty value has no property.** -/
theorem readProperty_empty (h : IsProperty pair) (he : pair.2 = []) :
    readProperty (propertyLine width pair.1 pair.2) = none := by
  have hfirst : ¬ colon <:+: padRight width pair.1 ++ [' ', ':'] :=
    (unopened_filled h.unopened width).not_isInfix (by decide)
  rw [readProperty, he, propertyLine_empty, splitProperty_eq_none.mpr hfirst, Option.map_none]

/-- A line of a property has its colon, and no character that ends a line. -/
theorem propertyLine_oneLine (h : IsProperty pair) :
    ':' ∈ propertyLine width pair.1 pair.2 ∧
      ∀ c ∈ propertyLine width pair.1 pair.2, isLineEnd c = false := by
  have hfilled : ∀ c ∈ padRight width pair.1, isLineEnd c = false := by
    intro c hc
    rcases List.mem_append.mp hc with hc | hc
    · exact h.key.oneLine c hc
    · rw [List.eq_of_mem_replicate hc]
      rfl
  have hopened : ∀ c ∈ [' ', ':'], isLineEnd c = false := forall_iff_any.mpr (by decide)
  have hcolon : ∀ c ∈ colon, isLineEnd c = false := forall_iff_any.mpr (by decide)
  by_cases he : pair.2 = []
  · rw [he, propertyLine_empty]
    refine ⟨by simp, fun c hc => ?_⟩
    rcases List.mem_append.mp hc with hc | hc
    · exact hfilled c hc
    · exact hopened c hc
  · rw [propertyLine_full h.value he]
    refine ⟨by simp [colon], fun c hc => ?_⟩
    rcases List.mem_append.mp hc with hc | hc
    · rcases List.mem_append.mp hc with hc | hc
      · exact hfilled c hc
      · exact hcolon c hc
    · exact h.value.oneLine c hc

/-! ### The text of the properties -/

/-- The lines of the properties. -/
def propertyLines (pairs : List (Text × Text)) : List Text :=
  pairs.map fun pair => propertyLine (keyWidth pairs) pair.1 pair.2

/-- The lines are read from the text, and none of them is blank. -/
theorem lines_properties (hne : pairs ≠ []) (h : ∀ pair ∈ pairs, IsProperty pair) :
    (lines (properties pairs)).filter (!isBlankText ·) = propertyLines pairs := by
  have hlines : ∀ line ∈ propertyLines pairs,
      ':' ∈ line ∧ ∀ c ∈ line, isLineEnd c = false := by
    intro line hline
    obtain ⟨pair, hpair, rfl⟩ := List.mem_map.mp hline
    exact propertyLine_oneLine (h pair hpair)
  have hread : lines (properties pairs) = propertyLines pairs :=
    lines_joinWith (by simpa [propertyLines] using hne)
      (fun line hline => List.ne_nil_of_mem (hlines line hline).1)
      fun line hline => (hlines line hline).2
  rw [hread, List.filter_eq_self]
  intro line hline
  have hcolon : ∃ c ∈ line, isBlank c = false := ⟨':', (hlines line hline).1, rfl⟩
  simpa [isBlankText] using hcolon

theorem mapM_eq_some {α β : Type} {f : α → Option β} {g : β → α} :
    ∀ {items : List β}, (∀ item ∈ items, f (g item) = some item) →
      (items.map g).mapM f = some items
  | [], _ => rfl
  | item :: items, h => by
    obtain ⟨hitem, hitems⟩ := List.forall_mem_cons.mp h
    rw [List.map_cons, List.mapM_cons, hitem, mapM_eq_some hitems]
    rfl

theorem mapM_eq_none {α β : Type} {f : α → Option β} {item : α} :
    ∀ {items : List α}, item ∈ items → f item = none → items.mapM f = none
  | [], hm, _ => absurd hm List.not_mem_nil
  | first :: items, hm, h => by
    rw [List.mapM_cons]
    cases hf : f first with
    | none => rfl
    | some value =>
      rcases List.mem_cons.mp hm with rfl | hm
      · rw [h] at hf
        cases hf
      · rw [mapM_eq_none hm h]
        rfl

/-- **The pairs are read back** if no value is empty. -/
theorem readProperties_properties (hne : pairs ≠ []) (h : ∀ pair ∈ pairs, IsProperty pair)
    (hfull : ∀ pair ∈ pairs, pair.2 ≠ []) : readProperties (properties pairs) = some pairs := by
  rw [readProperties, lines_properties hne h]
  exact mapM_eq_some fun pair hpair => readProperty_full (h pair hpair) (hfull pair hpair)

/-- **An empty value breaks the reading off.** -/
theorem readProperties_eq_none (h : ∀ pair ∈ pairs, IsProperty pair) (hmem : pair ∈ pairs)
    (he : pair.2 = []) : readProperties (properties pairs) = none := by
  rw [readProperties, lines_properties (List.ne_nil_of_mem hmem) h]
  exact mapM_eq_none (List.mem_map.mpr ⟨pair, hmem, rfl⟩) (readProperty_empty (h pair hmem) he)

/-! ### The table -/

/-- The texts that the rows of a table of two columns show. -/
def rowsShown (table : Table) : List (Text × Text) :=
  match table.columns with
  | [first, second] => (first.cells.map (·.shown)).zip (second.cells.map (·.shown))
  | _ => []

/-- The part of a text that is shown. -/
def seen (text : Text) : Text := text.filter isShown

theorem rowsShown_propertyTable (pairs : List (Text × Text)) :
    rowsShown (propertyTable pairs) = pairs.map (Prod.map seen seen) := by
  rw [rowsShown, propertyTable]
  simp only [List.map_map]
  rw [List.zip_map']
  rfl

theorem isShown_iff {c : Char} (h : isLineEnd c = false) :
    isShown c = true ↔ c ≠ '\x07' ∧ c ≠ '\x08' := by
  have hof : ∀ d : Char, c.toNat = d.toNat → c = d := by
    intro d heq
    rw [← Char.ofNat_toNat c, heq, Char.ofNat_toNat]
  constructor
  · intro hs
    constructor
    · rintro rfl
      cases hs
    · rintro rfl
      cases hs
  · rintro ⟨hbell, hback⟩
    have h7 : c.toNat ≠ 7 := fun heq => hbell (hof '\x07' heq)
    have h8 : c.toNat ≠ 8 := fun heq => hback (hof '\x08' heq)
    simp only [isLineEnd, Bool.or_eq_false_iff, Bool.and_eq_false_iff, decide_eq_false_iff_not,
      beq_eq_false_iff_ne] at h
    simp only [isShown, Bool.and_eq_true, bne_iff_ne]
    omega

/-- **A text on one line is shown as it is** unless it has a bell or a backspace. -/
theorem seen_eq_self (h : ∀ c ∈ text, isLineEnd c = false) :
    seen text = text ↔ '\x07' ∉ text ∧ '\x08' ∉ text := by
  rw [seen, List.filter_eq_self]
  constructor
  · intro hs
    exact ⟨fun hm => absurd (hs _ hm) (by decide), fun hm => absurd (hs _ hm) (by decide)⟩
  · rintro ⟨hbell, hback⟩ c hc
    rw [isShown_iff (h c hc)]
    exact ⟨fun heq => hbell (heq ▸ hc), fun heq => hback (heq ▸ hc)⟩

/-- The pair has neither a bell nor a backspace. -/
def Quiet (pair : Text × Text) : Prop :=
  ('\x07' ∉ pair.1 ∧ '\x08' ∉ pair.1) ∧ '\x07' ∉ pair.2 ∧ '\x08' ∉ pair.2

theorem map_seen_eq_self (h : ∀ pair ∈ pairs, IsProperty pair) :
    pairs.map (Prod.map seen seen) = pairs ↔ ∀ pair ∈ pairs, Quiet pair := by
  induction pairs with
  | nil => simp
  | cons pair pairs ih =>
    obtain ⟨hpair, hpairs⟩ := List.forall_mem_cons.mp h
    rw [List.map_cons, List.cons.injEq, ih hpairs, List.forall_mem_cons, Prod.ext_iff]
    refine and_congr_left fun _ => ?_
    exact and_congr (seen_eq_self hpair.key.oneLine) (seen_eq_self hpair.value.oneLine)

theorem objectTable_eq_some (hne : pairs ≠ []) (h : readProperties text = some pairs) :
    objectTable text = some (propertyTable pairs) := by
  obtain ⟨pair, rest, rfl⟩ := List.exists_cons_of_ne_nil hne
  rw [objectTable, h]

theorem objectTable_eq_none (h : readProperties text = none) : objectTable text = none := by
  rw [objectTable, h]

/-- **Properties are shown as a table of the pairs** if no value is empty, and as the text that they
are otherwise. The rows show the pairs without bells and backspaces, so they are the pairs exactly
if there are none. -/
theorem objectTable_shows (pairs : List (Text × Text)) (hne : pairs ≠ [])
    (h : ∀ pair ∈ pairs, IsProperty pair) :
    ((∀ pair ∈ pairs, pair.2 ≠ []) →
      objectTable (properties pairs) = some (propertyTable pairs) ∧
      resultBody .object (.str (properties pairs)) = .ok (.table (propertyTable pairs)) ∧
      rowsShown (propertyTable pairs) = pairs.map (Prod.map seen seen) ∧
      (rowsShown (propertyTable pairs) = pairs ↔ ∀ pair ∈ pairs, Quiet pair)) ∧
    ((∃ pair ∈ pairs, pair.2 = []) →
      objectTable (properties pairs) = none ∧
      resultBody .object (.str (properties pairs)) = .ok (.label (.plain (properties pairs)))) := by
  constructor
  · intro hfull
    have htable := objectTable_eq_some hne (readProperties_properties hne h hfull)
    refine ⟨htable, ?_, rowsShown_propertyTable pairs, ?_⟩
    · rw [resultBody, htable]
      rfl
    · rw [rowsShown_propertyTable, map_seen_eq_self h]
  · rintro ⟨pair, hmem, he⟩
    have hnone := objectTable_eq_none (readProperties_eq_none h hmem he)
    refine ⟨hnone, ?_⟩
    rw [resultBody, hnone]
    rfl

/-- Keys and values with colons, and an empty key. -/
def colons : List (Text × Text) := [("Path", "C: : D"), (":", "a :"), ("", ": : b")]

/-- The same pairs and one without a value. -/
def hostless : List (Text × Text) := ("Host", []) :: colons

/-- All colons but the separators stay where they are; with an empty value there is no table. -/
theorem objectTable_shows_colons :
    colons ≠ [] ∧ (∀ pair ∈ colons, IsProperty pair) ∧ (∀ pair ∈ colons, pair.2 ≠ []) ∧
    objectTable (properties colons) = some (propertyTable colons) ∧
    rowsShown (propertyTable colons) = colons ∧
    hostless ≠ [] ∧ (∀ pair ∈ hostless, IsProperty pair) ∧ (∃ pair ∈ hostless, pair.2 = []) ∧
    objectTable (properties hostless) = none := by
  have hne : colons ≠ [] := by decide
  have hcolons : ∀ pair ∈ colons, IsProperty pair := by decide
  have hfull : ∀ pair ∈ colons, pair.2 ≠ [] := by decide
  have hquiet : ∀ pair ∈ colons, Quiet pair := by unfold Quiet; decide
  have hne' : hostless ≠ [] := by decide
  have hhostless : ∀ pair ∈ hostless, IsProperty pair := by decide
  have hempty : ∃ pair ∈ hostless, pair.2 = [] := by decide
  obtain ⟨htable, -, -, hrows⟩ := (objectTable_shows colons hne hcolons).1 hfull
  obtain ⟨hnone, -⟩ := (objectTable_shows hostless hne' hhostless).2 hempty
  exact ⟨hne, hcolons, hfull, htable, hrows.mpr hquiet, hne', hhostless, hempty, hnone⟩

/-- A value with a bell. -/
def belled : List (Text × Text) := [("Key", "a\x07b")]

/-- **A bell in a value is not shown**, so the rows of the table are not the pairs. -/
theorem bell_unshown :
    belled ≠ [] ∧ (∀ pair ∈ belled, IsProperty pair ∧ pair.2 ≠ []) ∧
    ∃ table, objectTable (properties belled) = some table ∧
      rowsShown table = [(("Key" : Text), ("ab" : Text))] ∧ rowsShown table ≠ belled :=
  ⟨by decide, by decide, propertyTable belled, rfl, by decide, by decide⟩

end CmdletShell.Proofs.Layouts.Properties
