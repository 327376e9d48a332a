import CmdletShell.Proofs.Runs.Characters
import CmdletShell.Proofs.Texts.Markup

/-!
# The prompt

The prompt writes its prefix and the location between tags and reads them back (`promptFragments`).
So it shows them as they are exactly if all their characters are plain (`shown_iff`): it breaks if
one of them cannot be written, and else shows line ends as line feeds. A location is made of the
characters of the home and of the lines (`executeAll_madeOf`), so the prompt shows every location
that is reached by lines of plain characters, from a home of such (`prompt_shows`).
-/

namespace CmdletShell.Proofs.Shells.Prompts

open CmdletShell.Display CmdletShell.Display.Markup CmdletShell.Text CmdletShell.Location
open CmdletShell.Line (isPipeline tokenize)
open CmdletShell.Proofs.Lines.Strip CmdletShell.Proofs.Texts.Markup
open CmdletShell.Proofs.Runs.Execution
open CmdletShell.Proofs.Runs.Locations CmdletShell.Proofs.Runs.Homeward
open CmdletShell.Proofs.Runs.Characters

variable {start location : Text}

/-- The prompt is read back, with this text. -/
def Reads (start location text : Text) : Prop :=
  ∃ fragments, promptFragments (.str start) (.str location) = .ok fragments ∧
    (fragments.map (·.2)).flatten = text

/-- **The prompt shows what it begins with and the location**, with a space between them and a sign
and a space behind. -/
def Shown (start location : Text) : Prop := Reads start location (start ++ " " ++ location ++ "> ")

/-- The pieces of the prompt before the empty ones are left out. -/
def pieces (start location : Text) : List (Text × Text) :=
  [("class:prompt_prefix", start), ([], " "), ("class:path", location),
    ("class:prompt_symbol", ">"), ([], " ")]

/-- The pieces that are not empty. -/
def filled (pieces : List (Text × Text)) : List (Text × Text) :=
  pieces.filter fun piece => !piece.2.isEmpty

/-- No text is lost with the empty pieces. -/
theorem flatten_filled (pieces : List (Text × Text)) :
    ((filled pieces).map (·.2)).flatten = (pieces.map (·.2)).flatten := by
  have hfilter : (filled pieces).map (·.2) =
      (pieces.map (·.2)).filter fun text => !text.isEmpty := by
    rw [List.filter_map]
    rfl
  rw [hfilter, List.flatten_filter_not_isEmpty]

/-- **What comes of a prompt.** -/
theorem promptFragments_eq (start location : Text) :
    promptFragments (.str start) (.str location) =
      if (start ++ location).all isWritable = true then
        .ok (filled (pieces (unifyLineEnds start) (unifyLineEnds location)))
      else .error .unmarkable := by
  have hspace : readData " " = .ok " " := by rfl
  have hsign : readData (escape ">") = .ok ">" := by rfl
  have hread : promptFragments (.str start) (.str location) =
      fragmentsOf (promptParts start location) := rfl
  rw [hread, fragmentsOf, promptParts, List.all_append]
  simp only [List.mapM_cons, List.mapM_nil, hspace, hsign, readData_escape]
  cases start.all isWritable <;> cases location.all isWritable <;> rfl

theorem promptFragments_error (h : ¬ (start ++ location).all isWritable = true) :
    promptFragments (.str start) (.str location) = .error .unmarkable := by
  rw [promptFragments_eq, if_neg h]

theorem reads_of_writable (h : (start ++ location).all isWritable = true) :
    Reads start location (unifyLineEnds start ++ " " ++ unifyLineEnds location ++ "> ") :=
  ⟨_, by rw [promptFragments_eq, if_pos h], by rw [flatten_filled]; simp [pieces]⟩

/-- The signs of the prompt are no line ends. -/
theorem return_mem_iff (start location : Text) :
    '\r' ∈ start ++ " " ++ location ++ "> " ↔ '\r' ∈ start ∨ '\r' ∈ location := by
  have hspace : '\r' ∉ (" " : Text) := by decide
  have hsign : '\r' ∉ ("> " : Text) := by decide
  simp only [List.mem_append, hspace, hsign, or_false]

/-- **The prompt shows its texts exactly if their characters are plain.** -/
theorem shown_iff : Shown start location ↔ ∀ c ∈ start ++ location, IsPlain c := by
  rw [forall_isPlain_iff, List.mem_append]
  constructor
  · rintro ⟨fragments, hread, htext⟩
    by_cases h : (start ++ location).all isWritable = true
    · refine ⟨h, fun hreturn => ?_⟩
      -- a carriage return is not in what is read back
      obtain ⟨fragments', hread', htext'⟩ := reads_of_writable h
      rw [hread] at hread'
      cases hread'
      rw [← return_mem_iff, htext.symm.trans htext', return_mem_iff] at hreturn
      exact hreturn.elim (return_not_mem_unifyLineEnds start)
        (return_not_mem_unifyLineEnds location)
    · rw [promptFragments_error h] at hread
      cases hread
  · rintro ⟨hw, hn⟩
    obtain ⟨hs, hl⟩ := not_or.mp hn
    have hreads := reads_of_writable hw
    rwa [unifyLineEnds_eq_self hs, unifyLineEnds_eq_self hl] at hreads

/-! ### Sessions -/

/-- **The prompt of a session**, at whatever location its lines have led to. It shows prefix and
location exactly if their characters are plain, as they are after lines of plain characters; it
breaks if a character cannot be written, and else shows line ends as line feeds. -/
theorem prompt_shows (surroundings : Surroundings) (given extraAliases : Value)
    (interpreter : Interpreter) (home start : Text) (lines : List (Option Text))
    (hcreate : surroundings.interpreterWith given extraAliases = .ok interpreter)
    (hr : surroundings.registry = .default) (hh : startHome surroundings given = .str home) :
    ∃ location, (executeAll interpreter lines).state.location = .str location ∧
      (Shown start location ↔ ∀ c ∈ start ++ location, IsPlain c) ∧
      ((∀ c ∈ start ++ home, IsPlain c) →
        (∀ line, some line ∈ lines → ∀ c ∈ line, IsPlain c) → Shown start location) ∧
      ((∃ c ∈ start ++ location, isWritable c = false) →
        promptFragments (.str start) (.str location) = .error .unmarkable) ∧
      ((∀ c ∈ start ++ location, isWritable c = true) →
        Reads start location (unifyLineEnds start ++ " " ++ unifyLineEnds location ++ "> ")) := by
  obtain ⟨hat, hsame⟩ := atHome_of_interpreterWith hcreate hh
  have hdefault : interpreter.registry = .default := hsame.trans hr
  have hany : MadeOf (fun _ => True) (executeAll interpreter lines).state :=
    executeAll_madeOf trivial lines hdefault (madeOf_of_atHome hat fun _ _ => trivial)
      fun _ _ _ _ => trivial
  obtain ⟨location, hlocation, -⟩ := hany.location
  refine ⟨location, hlocation, shown_iff, fun hplain hlines => ?_, fun h => ?_, fun h => ?_⟩
  · obtain ⟨hstart, hhome⟩ := List.forall_mem_append.mp hplain
    have hmade : MadeOf IsPlain (executeAll interpreter lines).state :=
      executeAll_madeOf (by decide) lines hdefault (madeOf_of_atHome hat hhome) hlines
    obtain ⟨path, hpath, hmem⟩ := hmade.location
    rw [hlocation] at hpath
    cases hpath
    exact shown_iff.mpr (List.forall_mem_append.mpr ⟨hstart, hmem⟩)
  · obtain ⟨c, hc, hw⟩ := h
    refine promptFragments_error fun hall => ?_
    rw [List.all_eq_true.mp hall c hc] at hw
    cases hw
  · exact reads_of_writable (List.all_eq_true.mpr h)

/-- Where a line leads that changes the location of a session with a home on the network. -/
theorem location_share (line target : Text) (htrim : trimmed (some line) = line)
    (hp : isPipeline line = false) (ht : tokenize line = [moveWord, target]) :
    (executeAll (fresh shareHome) [some line]).state.location =
      .str (resolve shareHome target shareHome) :=
  (execute_leads (fresh_registry shareHome) meansMove_share htrim hp ht rfl rfl rfl).location_eq

/-- A line that goes down a path with signs of markup in it. -/
def markedLine : Text := "Set-Location \"a&amp; <b>\""

/-- The signs are shown as they are. -/
theorem prompt_shows_marked :
    visiting.interpreterWith .null .null = .ok (fresh shareHome) ∧
    visiting.registry = .default ∧ startHome visiting .null = .str shareHome ∧
    (executeAll (fresh shareHome) [some markedLine]).state.location =
      .str "\\\\srv\\me\\a&amp; <b>" ∧
    Shown "PS" "\\\\srv\\me\\a&amp; <b>" := by
  have hcreate : visiting.interpreterWith .null .null = .ok (fresh shareHome) := by rfl
  have hh : startHome visiting .null = .str shareHome := by rfl
  obtain ⟨location, hlocation, -, hshown, -⟩ :=
    prompt_shows visiting .null .null (fresh shareHome) shareHome "PS" [some markedLine] hcreate rfl
      hh
  have hled : (executeAll (fresh shareHome) [some markedLine]).state.location =
      .str "\\\\srv\\me\\a&amp; <b>" :=
    location_share markedLine "a&amp; <b>" (by decide) (by decide) (by decide)
  rw [hled] at hlocation
  cases hlocation
  refine ⟨hcreate, rfl, hh, hled, hshown ?_ fun line hline => ?_⟩
  · exact forall_isPlain_iff.mpr ⟨by decide, by decide⟩
  · obtain rfl := Option.some.inj (List.mem_singleton.mp hline)
    exact forall_isPlain_iff.mpr ⟨by decide, by decide⟩

/-- A control character: one below the space, or from delete on up to the no-break space. -/
def isControl (c : Char) : Bool := c.toNat < 32 || 127 ≤ c.toNat && c.toNat < 160

/-- A line that goes down a path with a control character in it. -/
def controlLine : Text := "Set-Location \"a\x01b\""

/-- So a prompt without control characters does not show every location. -/
theorem prompt_breaks : ¬ ∀ (surroundings : Surroundings) (given extraAliases : Value)
    (interpreter : Interpreter) (home start location : Text) (lines : List (Option Text)),
    surroundings.interpreterWith given extraAliases = .ok interpreter →
    surroundings.registry = .default → startHome surroundings given = .str home →
    (∀ c ∈ start, isControl c = false) →
    (executeAll interpreter lines).state.location = .str location → Shown start location := by
  intro h
  have hcreate : visiting.interpreterWith .null .null = .ok (fresh shareHome) := by rfl
  have hshown := h visiting .null .null (fresh shareHome) shareHome "PS"
    "\\\\srv\\me\\a\x01b" [some controlLine] hcreate rfl (by rfl) (forall_iff_any.mpr (by decide))
    (location_share controlLine "a\x01b" (by decide) (by decide) (by decide))
  have hplain := shown_iff.mp hshown '\x01' (by decide)
  revert hplain
  decide

end CmdletShell.Proofs.Shells.Prompts
