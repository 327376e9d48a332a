import CmdletShell.Cmdlet.Item
import CmdletShell.Proofs.Arguments.Arrangements
import CmdletShell.Proofs.Builtins.Handlers

/-!
# Copies and moves

The source of a copy or a move is the path that a flag gives, or the first loose text; the
destination is what its flag gives, or the first loose text that is not the source (`operandsOf`).
Whatever the order of the arguments and the form of the flags, the store of items is asked for
exactly these two, or the one that lacks is reported (`transfers`).

The arguments are read twice, for the loose texts and for each flag. What is read of arranged
arguments is the same in front of others (`positionals_append`, `flagValue_append`).
-/

namespace CmdletShell.Proofs.Builtins.Transfers

open CmdletShell.Argument CmdletShell.Cmdlet CmdletShell.Text
open CmdletShell.Proofs.Arguments.Flags CmdletShell.Proofs.Arguments.Arrangements
open CmdletShell.Proofs.Builtins.Handlers

/-- **The arguments hold** these loose texts, and a path and a destination if their flags are given,
in any order; switches may stand among them. -/
def Offered (texts : List Text) (path destination : Option Text) (args : List Text) : Prop :=
  (∀ text ∈ texts, text ≠ []) ∧ ∃ given, Arranged itemFlags texts given args ∧
    given.get? "-Path" = path ∧ given.get? "-Destination" = destination

/-- The source, and the loose texts that are not used for it. -/
def sourceOf (texts : List Text) : Option Text → Option Text × List Text
  | some path => (some path, texts)
  | none => (texts.head?, texts.tail)

/-- **The source and the destination.** -/
def operandsOf (texts : List Text) (path destination : Option Text) :
    Option Text × Option Text :=
  let (source, rest) := sourceOf texts path
  (source, destination.or rest.head?)

/-- An operand lacks. -/
def lacking (name parameter : Text) : Failure :=
  .missing name parameter (name ++ " requires source and destination parameters.")

/-- **What a copy or a move of these operands comes to.** -/
def transferred (name : Text) (operation : Text → Text → Except Fault Text) :
    Option Text × Option Text → Except Failure Reply
  | (none, _) => .error (lacking name "Path")
  | (some _, none) => .error (lacking name "Destination")
  | (some source, some destination) => storeReply (operation source destination)

variable {flags texts args : List Text} {given : Fields Text} {flag value : Text}
  {path destination : Option Text}

/-! ### Arguments in front of others -/

theorem positionals_append (hf : ∀ flag ∈ flags, IsFlagName flag)
    (h : Arranged flags texts given args) (rest : List Text) :
    positionals flags (args ++ rest) = texts ++ positionals flags rest := by
  induction h with
  | nil => rfl
  | loose htext _ ih =>
    rw [List.cons_append, positionals_cons_of_not_isFlag htext.isFlag_eq, ih, List.cons_append]
  | switch htoken _ ih =>
    rw [List.cons_append, positionals_cons_of_isFlag htoken.isFlag htoken.isOneOf_eq, ih]
  | group hmem _ hgives _ ih =>
    rw [List.append_assoc, positionals_of_gives hf hmem hgives, ih]

theorem flagValue_append (hf : ∀ flag ∈ flags, IsFlagName flag) (hd : (flags.map lower).Nodup)
    (h : Arranged flags texts given args) (hmem : flag ∈ flags) (rest : List Text) :
    flagValue flag (args ++ rest) = (given.get? flag).or (flagValue flag rest) := by
  have hflag := hf flag hmem
  induction h with
  | nil => rfl
  | loose htext _ ih =>
    rw [List.cons_append, flagValue_cons_of_other (htext.mention_eq hflag), ih]
  | switch htoken _ ih =>
    have hother := mention_of_isPrefix (htoken.not_isPrefix flag hmem)
    rw [List.cons_append, flagValue_cons_of_other hother, ih]
  | @group other value tokens texts given args hother hv hgives _ ih =>
    rw [List.append_assoc, Fields.get?]
    by_cases he : other = flag
    · subst he
      rw [if_pos rfl, flagValue_of_gives hgives hflag hv, Option.some_or]
    · have hne : lower flag ≠ lower other := fun hl =>
        he (List.inj_on_of_nodup_map hd hmem hother hl).symm
      rw [if_neg he, flagValue_of_gives_other hgives (hf other hother) hflag hne, ih]

/-- What a flag gives is not empty. -/
theorem ne_nil_of_get? (h : Arranged flags texts given args)
    (hget : given.get? flag = some value) : value ≠ [] := by
  induction h with
  | nil => cases hget
  | loose _ _ ih | switch _ _ ih => exact ih hget
  | group _ hv _ _ ih =>
    rw [Fields.get?] at hget
    split_ifs at hget
    · cases hget
      exact hv
    · exact ih hget

/-! ### Operands -/

theorem itemFlags_isFlagName : ∀ flag ∈ itemFlags, IsFlagName flag := by decide

theorem itemFlags_nodup : (itemFlags.map lower).Nodup := by decide

/-- **What is read of arguments** in any order. -/
theorem operands_eq (h : Offered texts path destination args) :
    source? args = (operandsOf texts path destination).1 ∧
    destination? args = (operandsOf texts path destination).2 := by
  obtain ⟨hne, given, harranged, hpath, hdestination⟩ := h
  have hpositionals : positionals itemFlags args = texts := by
    have hread := positionals_append itemFlags_isFlagName harranged []
    simpa [positionals] using hread
  have hvalue : ∀ flag ∈ itemFlags, flagValue flag args = given.get? flag := by
    intro flag hmem
    have hread := flagValue_append itemFlags_isFlagName itemFlags_nodup harranged hmem []
    simpa [flagValue] using hread
  have hpathValue : flagValue "-Path" args = path := (hvalue _ (by decide)).trans hpath
  have hdestinationValue : flagValue "-Destination" args = destination :=
    (hvalue _ (by decide)).trans hdestination
  have hgiven : ∀ {flag text}, given.get? flag = some text → present (some text) = some text :=
    fun hget => nonEmpty_of_ne_nil (ne_nil_of_get? harranged hget)
  have hloose : ∀ {rest : List Text}, rest ⊆ texts → present rest.head? = rest.head? :=
    fun hsub => present_of_ne_nil fun text ht => hne text (hsub (List.mem_of_mem_head? ht))
  constructor
  · rw [source?, flagOrPositional, firstPresent, hpathValue, firstPositional, hpositionals]
    cases path with
    | none => exact hloose (List.Subset.refl _)
    | some path =>
      rw [hgiven hpath]
      exact hgiven hpath
  · rw [destination?, hdestinationValue, hpathValue, hpositionals]
    cases destination with
    | some destination => exact hgiven hdestination
    | none =>
      cases path with
      | none => exact hloose (List.tail_suffix texts).subset
      | some path => exact hloose (List.Subset.refl _)

theorem operands_transferred (name : Text) (h : Offered texts path destination args)
    (operation : Text → Text → Except Fault Text) :
    (operands name args >>= fun (source, destination) => storeReply (operation source destination))
      = transferred name operation (operandsOf texts path destination) := by
  obtain ⟨hsource, hdestination⟩ := operands_eq h
  rw [operands, hsource, hdestination]
  obtain ⟨source, destination⟩ := operandsOf texts path destination
  cases source <;> cases destination <;> rfl

/-- **Copies and moves never mix up their operands.** Whatever the order and the spelling of the
arguments, the store is asked for their source and their destination, or the first of them that
lacks is reported, and the state stays. -/
theorem transfers (h : Offered texts path destination args) (context : Context) (state : State) :
    (copyItem.handler context args).run state =
      ⟨(transferred "Copy-Item" context.items.copy (operandsOf texts path destination)).map
        Answer.reply, state, []⟩ ∧
    (moveItem.handler context args).run state =
      ⟨(transferred "Move-Item" context.items.move (operandsOf texts path destination)).map
        Answer.reply, state, []⟩ := by
  unfold copyItem moveItem
  dsimp only
  rw [reading_run, reading_run, operands_transferred _ h, operands_transferred _ h]
  exact ⟨rfl, rfl⟩

/-- A switch, two loose texts of which one has a space, and the path between them. -/
def scatteredArgs : List Text := ["a b", "-Force", "-PATH:-x", "c"]

/-- The path is the source, the first loose text the destination, and the other one is left. -/
theorem transfers_scattered :
    Offered ["a b", "c"] (some "-x") none scatteredArgs ∧
    (copyItem.handler { clock := default, random := fun least _ => least } scatteredArgs).run
        default =
      ⟨.ok (.reply (Reply.text "Copied '-x' to 'a b'")), default, []⟩ := by
  have hlast : Arranged itemFlags ["c"] [] ["c"] := .loose (Or.inr (by decide)) .nil
  have hspell : Spells "-Path" "-PATH" := by
    unfold Spells
    decide
  have hpath : Arranged itemFlags ["c"] [("-Path", "-x")] ["-PATH:-x", "c"] :=
    .group (by decide) (by decide) (.colon hspell) hlast
  have hswitch : IsSwitch itemFlags "-Force" := ⟨rfl, by decide⟩
  have harranged : Arranged itemFlags ["a b", "c"] [("-Path", "-x")] scatteredArgs :=
    .loose (Or.inr (by decide)) (.switch hswitch hpath)
  have hoffered : Offered ["a b", "c"] (some "-x") none scatteredArgs :=
    ⟨by decide, _, harranged, rfl, rfl⟩
  obtain ⟨hcopy, -⟩ :=
    transfers hoffered { clock := default, random := fun least _ => least } default
  exact ⟨hoffered, hcopy⟩

end CmdletShell.Proofs.Builtins.Transfers
