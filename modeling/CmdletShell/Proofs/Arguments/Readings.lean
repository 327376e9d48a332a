import CmdletShell.Proofs.Arguments.NameValues
import Mathlib.Data.List.TakeWhile

/-!
# The reading of an assignment

The arguments of an assignment are read from left to right, in pieces (`Piece`): a token that holds
a flag and its text, a flag with the token after it, whatever that is, or a loose token. Only a
flag at the very end is no piece, as no token follows it. `Reading` says what it is to take all
arguments apart so; there is always one reading and no other (`exists_reading`, `Reading.unique`).

What comes of the arguments is read off the pieces: the last text that a flag gives, and else the
first loose token that is left (`nameOf`, `valueOf`). `readNameValue_reading` says that this is what
the scan gives, and that it fails exactly for a flag at the end.
-/

namespace CmdletShell.Proofs.Arguments.Readings

open CmdletShell.Argument CmdletShell.Text
open CmdletShell.Proofs.Arguments.Flags CmdletShell.Proofs.Arguments.NameValues
open CmdletShell.Proofs.Texts.Case

/-! ### Pieces -/

/-- **A token holds a part's flag and its text**: the flag in any letter case, and the text behind
a colon, or behind white space, all of which is passed. -/
inductive Holds (slot : Slot) (text : Text) : Text → Prop
  /-- The text stands behind a colon. -/
  | colon {spelling} : Spells (dashed slot) spelling → Holds slot text (spelling ++ ':' :: text)
  /-- The text stands behind white space. -/
  | blank {spelling gap} : Spells (dashed slot) spelling → gap ≠ [] →
      (∀ c ∈ gap, isBlank c = true) → (∀ c ∈ text.head?, isBlank c = false) →
      Holds slot text (spelling ++ (gap ++ text))

/-- **A piece of the arguments.** -/
inductive Piece where
  /-- A token that holds a flag and its text. -/
  | joined (slot : Slot) (text token : Text)
  /-- A flag, and the token after it as its text. -/
  | apart (slot : Slot) (text flag : Text)
  /-- A token that is no flag and holds none. -/
  | loose (token : Text)

/-- The tokens of a piece. -/
def Piece.tokens : Piece → List Text
  | .joined _ _ token => [token]
  | .apart _ text flag => [flag, text]
  | .loose token => [token]

/-- The piece is what it says. -/
def Piece.Proper : Piece → Prop
  | .joined slot text token => Holds slot text token
  | .apart slot _ flag => Spells (dashed slot) flag
  | .loose token => ∀ slot, ¬ Spells (dashed slot) token ∧ ∀ text, ¬ Holds slot text token

/-- **A reading of the arguments**: proper pieces, one after another, and a flag behind them if no
token follows it. Each argument is a token of one of them. -/
structure Reading (args : List Text) (pieces : List Piece) (waiting : Option (Slot × Text)) :
    Prop where
  tokens : args = pieces.flatMap Piece.tokens ++ (waiting.map (·.2)).toList
  proper : ∀ piece ∈ pieces, piece.Proper
  flag : ∀ last ∈ waiting, Spells (dashed last.1) last.2

/-! ### What the pieces give -/

/-- The text that a piece gives to a part by its flag. -/
def Piece.textFor (part : Slot) : Piece → Option Text
  | .joined slot text _ | .apart slot text _ => if slot = part then some text else none
  | .loose _ => none

/-- The token of a loose piece. -/
def Piece.looseToken : Piece → Option Text
  | .loose token => some token
  | _ => none

/-- The texts that are given to a part by its flag, in order. -/
def textsFor (part : Slot) (pieces : List Piece) : List Text := pieces.filterMap (·.textFor part)

/-- The loose tokens in order. -/
def looseTokens (pieces : List Piece) : List Text := pieces.filterMap Piece.looseToken

/-- **The name**: the last text for it, or else the first loose token. -/
def nameOf (pieces : List Piece) : Option Text :=
  (textsFor .name pieces).getLast?.or (looseTokens pieces).head?

/-- The loose tokens that are not used as the name. -/
def unused (pieces : List Piece) : List Text :=
  if textsFor .name pieces = [] then (looseTokens pieces).tail else looseTokens pieces

/-- **The value**: the last text for it, or else the first loose token that is not the name. -/
def valueOf (pieces : List Piece) : Option Text :=
  (textsFor .value pieces).getLast?.or (unused pieces).head?

/-- The failure for a flag that no token follows. -/
def lackingText (slot : Slot) (flag : Text) : Failure :=
  .missing "Set-Variable" slot.parameter ("Set-Variable: " ++ flag ++ " needs a value.")

variable {slot : Slot} {text token flag rest : Text} {args : List Text} {piece : Piece}
  {pieces : List Piece} {waiting : Option (Slot × Text)}

/-! ### Flags in tokens -/

theorem lower_dashed (slot : Slot) : lower (dashed slot) = '-' :: slot.flag := by
  cases slot <;> decide

theorem bare?_eq_some_iff : bare? token = some slot ↔ Spells (dashed slot) token := by
  constructor
  · intro h
    unfold bare? at h
    split_ifs at h with hname hvalue
    · cases h
      exact hname.trans (lower_dashed .name).symm
    · cases h
      exact hvalue.trans (lower_dashed .value).symm
  · exact bare?_spells

/-- No character is folded to a letter of a flag but in its lower case. -/
theorem lowerChar_of_foldCase {c : Char} (h : foldCase c ∈ slot.flag) :
    c ≠ 'İ' ∧ c ≠ 'Σ' ∧ lowerChar c = foldCase c := by
  have htwins : ∀ twin ∈ caseTwins, Char.ofNat twin.2 ∉ slot.flag := by
    cases slot <;> decide
  have hi : c ≠ 'İ' := by
    rintro rfl
    revert h
    cases slot <;> decide
  have hs : c ≠ 'Σ' := by
    rintro rfl
    revert h
    cases slot <;> decide
  refine ⟨hi, hs, ?_⟩
  unfold foldCase at h ⊢
  rw [if_neg hi] at h ⊢
  dsimp only at h ⊢
  split at h
  · next low twin hfind => exact absurd h (htwins _ (List.mem_of_find?_eq_some hfind))
  · rfl

/-- A dash with letters that are folded to those of a flag is the flag in some letter case. -/
theorem spells_of_foldCase {letters : Text} (h : letters.map foldCase = slot.flag) :
    Spells (dashed slot) ('-' :: letters) := by
  have hfold : ∀ c ∈ letters, c ≠ 'İ' ∧ c ≠ 'Σ' ∧ lowerChar c = foldCase c := by
    intro c hc
    have hf : foldCase c ∈ slot.flag := by
      rw [← h]
      exact List.mem_map_of_mem hc
    exact lowerChar_of_foldCase hf
  have hplain : Plain ('-' :: letters) :=
    List.forall_mem_cons.mpr ⟨by decide, fun c hc => ⟨(hfold c hc).1, (hfold c hc).2.1⟩⟩
  have hmap : letters.map lowerChar = slot.flag := by
    rw [← h]
    exact List.map_congr_left fun c hc => (hfold c hc).2.2
  unfold Spells
  rw [lower_of_plain hplain, List.map_cons, hmap, lowerChar_eq_dash.mpr rfl, lower_dashed]

/-- What is attached to a flag stands behind a colon or behind white space. -/
theorem attached?_eq_some_iff : attached? rest = some text ↔ rest = ':' :: text ∨
    ∃ gap, gap ≠ [] ∧ (∀ c ∈ gap, isBlank c = true) ∧ (∀ c ∈ text.head?, isBlank c = false) ∧
      rest = gap ++ text := by
  constructor
  · intro h
    unfold attached? at h
    split at h
    · cases h
    · cases h
      exact Or.inl rfl
    · next c rest _ =>
      split_ifs at h with hc
      cases h
      refine Or.inr ⟨c :: rest.takeWhile isBlank, List.cons_ne_nil _ _, ?_, fun d hd => ?_, ?_⟩
      · exact List.forall_mem_cons.mpr ⟨hc, fun d hd => List.mem_takeWhile_imp hd⟩
      · have hne : rest.dropWhile isBlank ≠ [] := by
          rintro hnil
          rw [stripLeft, dropLeft, hnil] at hd
          cases hd
        have hnot := List.head_dropWhile_not isBlank hne
        rwa [(List.head_eq_iff_head?_eq_some hne).mpr hd] at hnot
      · rw [stripLeft, dropLeft, List.cons_append, List.takeWhile_append_dropWhile]
  · rintro (rfl | ⟨gap, hne, hgap, htext, rfl⟩)
    · rfl
    · obtain ⟨c, gap, rfl⟩ := List.exists_cons_of_ne_nil hne
      have hc := hgap c List.mem_cons_self
      have hstrip : stripLeft (gap ++ text) = text := by
        rw [stripLeft, dropLeft,
          List.dropWhile_append_of_pos fun d hd => hgap d (List.mem_cons_of_mem _ hd)]
        cases text with
        | nil => rfl
        | cons d text => exact List.dropWhile_cons_of_neg (by simp [htext d rfl])
      have hcolon : c ≠ ':' := by
        rintro rfl
        exact absurd hc (by decide)
      have hattached : attached? (c :: (gap ++ text)) = some (stripLeft (gap ++ text)) := by
        unfold attached?
        split
        · next heq => cases heq
        · next heq => exact absurd (List.cons.inj heq).1 hcolon
        · next heq =>
          cases heq
          exact if_pos hc
      exact hattached.trans (congrArg some hstrip)

theorem holds_of_insideFor? (h : insideFor? slot token = some text) : Holds slot text token := by
  unfold insideFor? at h
  split at h
  · next rest =>
    dsimp only at h
    split_ifs at h with hfold
    have hspells := spells_of_foldCase hfold
    have hsplit : '-' :: rest =
        ('-' :: rest.take slot.flag.length) ++ rest.drop slot.flag.length := by simp
    rcases attached?_eq_some_iff.mp h with hcolon | ⟨gap, hne, hgap, htext, hblank⟩
    · rw [hsplit, hcolon]
      exact .colon hspells
    · rw [hsplit, hblank]
      exact .blank hspells hne hgap htext
  · cases h

theorem inside?_eq_some_iff : inside? token = some (slot, text) ↔ Holds slot text token := by
  constructor
  · intro h
    unfold inside? at h
    split at h
    · next hname =>
      cases h
      exact holds_of_insideFor? hname
    · obtain ⟨other, hvalue, heq⟩ := Option.map_eq_some_iff.mp h
      cases heq
      exact holds_of_insideFor? hvalue
  · intro h
    cases h with
    | colon hs => exact inside?_spells hs _
    | blank hs hne hgap htext =>
      rw [inside?_spells hs,
        attached?_eq_some_iff.mpr (Or.inr ⟨_, hne, hgap, htext, rfl⟩)]
      rfl

/-- A flag alone holds no text. -/
theorem inside?_flag (h : Spells (dashed slot) flag) : inside? flag = none := by
  have hinside := inside?_spells h []
  rwa [List.append_nil] at hinside

theorem loose_iff : (Piece.loose token).Proper ↔ inside? token = none ∧ bare? token = none := by
  constructor
  · intro h
    refine ⟨Option.eq_none_iff_forall_ne_some.mpr fun ⟨slot, text⟩ hinside => ?_,
      Option.eq_none_iff_forall_ne_some.mpr fun slot hbare => ?_⟩
    · exact (h slot).2 text (inside?_eq_some_iff.mp hinside)
    · exact (h slot).1 (bare?_eq_some_iff.mp hbare)
  · rintro ⟨hinside, hbare⟩ slot
    refine ⟨fun hs => ?_, fun text hh => ?_⟩
    · rw [bare?_eq_some_iff.mpr hs] at hbare
      cases hbare
    · rw [inside?_eq_some_iff.mpr hh] at hinside
      cases hinside

/-! ### The scan of a reading -/

/-- What has been read after a piece. -/
def Piece.enter (read : NameValue) : Piece → NameValue
  | .joined slot text _ | .apart slot text _ => read.set slot text
  | .loose token => read.add token

/-- **The scan passes a piece** and enters what it gives. -/
theorem scan_piece (h : piece.Proper) (read : NameValue) (rest : List Text) :
    scanNameValue read (piece.tokens ++ rest) = scanNameValue (piece.enter read) rest := by
  cases piece with
  | joined slot text token =>
    have hinside := inside?_eq_some_iff.mpr h
    rw [Piece.tokens, List.singleton_append, scanNameValue, hinside]
    rfl
  | apart slot text flag => exact scan_apart h text read rest
  | loose token =>
    obtain ⟨hinside, hbare⟩ := loose_iff.mp h
    rw [Piece.tokens, List.singleton_append, scanNameValue, hinside]
    dsimp only
    rw [hbare]
    rfl

/-- A flag at the end is reported. -/
theorem scan_waiting (h : Spells (dashed slot) flag) (read : NameValue) :
    scanNameValue read [flag] = .error (slot, flag) := by
  rw [scanNameValue, inside?_flag h]
  dsimp only
  rw [bare?_eq_some_iff.mpr h]

theorem scan_pieces : ∀ (pieces : List Piece), (∀ piece ∈ pieces, piece.Proper) →
    ∀ (read : NameValue) (rest : List Text),
    scanNameValue read (pieces.flatMap Piece.tokens ++ rest) =
      scanNameValue (pieces.foldl Piece.enter read) rest
  | [], _, _, _ => rfl
  | piece :: pieces, h, read, rest => by
    rw [List.flatMap_cons, List.append_assoc, scan_piece (h piece List.mem_cons_self),
      scan_pieces pieces fun other ho => h other (List.mem_cons_of_mem _ ho)]
    rfl

/-! ### There is one reading -/

theorem reading_nil : Reading [] [] none := ⟨rfl, by simp, by simp⟩

theorem Reading.cons (hp : piece.Proper) (h : Reading args pieces waiting) :
    Reading (piece.tokens ++ args) (piece :: pieces) waiting where
  tokens := by rw [h.tokens, List.flatMap_cons, List.append_assoc]
  proper := List.forall_mem_cons.mpr ⟨hp, h.proper⟩
  flag := h.flag

/-- **All arguments can be read.** -/
theorem exists_reading (args : List Text) : ∃ pieces waiting, Reading args pieces waiting := by
  -- the pieces are those that the scan passes, whatever it has read before
  have hscan : ∀ read : NameValue, ∃ pieces waiting, Reading args pieces waiting := by
    intro read
    fun_induction scanNameValue read args with
    | case1 => exact ⟨[], none, reading_nil⟩
    | case2 read token rest slot text hinside ih =>
      obtain ⟨pieces, waiting, h⟩ := ih
      have hp : (Piece.joined slot text token).Proper := inside?_eq_some_iff.mp hinside
      exact ⟨_, _, h.cons hp⟩
    | case3 read token rest hinside hbare ih =>
      obtain ⟨pieces, waiting, h⟩ := ih
      exact ⟨_, _, h.cons (loose_iff.mpr ⟨hinside, hbare⟩)⟩
    | case4 read token hinside slot hbare =>
      have hs := bare?_eq_some_iff.mp hbare
      exact ⟨[], some (slot, token), rfl, by simp, by simpa using hs⟩
    | case5 read token hinside slot hbare text rest ih =>
      obtain ⟨pieces, waiting, h⟩ := ih
      have hp : (Piece.apart slot text token).Proper := bare?_eq_some_iff.mp hbare
      exact ⟨_, _, h.cons hp⟩
  exact hscan {}

/-- The first token of a piece. -/
def Piece.first : Piece → Text
  | .joined _ _ token | .loose token => token
  | .apart _ _ flag => flag

/-- What the first token of a piece holds, and what flag it is. -/
def Piece.sign : Piece → Option (Slot × Text) × Option Slot
  | .joined slot text _ => (some (slot, text), none)
  | .apart slot _ _ => (none, some slot)
  | .loose _ => (none, none)

theorem Piece.Proper.sign_eq (h : piece.Proper) :
    (inside? piece.first, bare? piece.first) = piece.sign := by
  cases piece with
  | joined slot text token =>
    have hinside : inside? token = some (slot, text) := inside?_eq_some_iff.mpr h
    have hbare : bare? token = none := by
      refine Option.eq_none_iff_forall_ne_some.mpr fun part hpart => ?_
      rw [inside?_flag (bare?_eq_some_iff.mp hpart)] at hinside
      cases hinside
    exact Prod.ext hinside hbare
  | apart slot text flag => exact Prod.ext (inside?_flag h) (bare?_eq_some_iff.mpr h)
  | loose token =>
    obtain ⟨hinside, hbare⟩ := loose_iff.mp h
    exact Prod.ext hinside hbare

/-- **What a list of arguments begins with is one piece only.** -/
theorem Piece.Proper.unique {other : Piece} {rest rest' : List Text} (h : piece.Proper)
    (ho : other.Proper) (heq : piece.tokens ++ rest = other.tokens ++ rest') :
    piece = other ∧ rest = rest' := by
  have hfirst : piece.first = other.first := by
    have hhead := congrArg List.head? heq
    cases piece <;> cases other <;> exact Option.some.inj hhead
  have hsign : piece.sign = other.sign := by rw [← h.sign_eq, ← ho.sign_eq, hfirst]
  cases piece <;> cases other <;> simp_all [Piece.sign, Piece.tokens, Piece.first]

/-- A flag that no token follows is no piece. -/
theorem ne_tokens_append (hw : ∀ last ∈ waiting, Spells (dashed last.1) last.2)
    (hp : piece.Proper) (rest : List Text) :
    (waiting.map (·.2)).toList ≠ piece.tokens ++ rest := by
  intro heq
  cases waiting with
  | none => cases piece <;> cases heq
  | some last =>
    have hs := hw last rfl
    have hfirst : last.2 = piece.first := by
      have hhead := congrArg List.head? heq
      cases piece <;> exact Option.some.inj hhead
    have hsign := hp.sign_eq
    rw [← hfirst, inside?_flag hs, bare?_eq_some_iff.mpr hs] at hsign
    cases piece <;> cases hsign
    cases heq

/-- **There is no other reading.** -/
theorem Reading.unique : ∀ {pieces others : List Piece} {args : List Text}
    {waiting waiting' : Option (Slot × Text)}, Reading args pieces waiting →
    Reading args others waiting' → pieces = others ∧ waiting = waiting'
  | [], [], _, waiting, waiting', h, ho => by
    refine ⟨rfl, ?_⟩
    have heq := h.tokens.symm.trans ho.tokens
    cases waiting with
    | none =>
      cases waiting' with
      | none => rfl
      | some last => cases heq
    | some last =>
      cases waiting' with
      | none => cases heq
      | some other =>
        have hflag : last.2 = other.2 := (List.cons.inj heq).1
        have hbare := bare?_eq_some_iff.mpr (h.flag last rfl)
        rw [hflag, bare?_eq_some_iff.mpr (ho.flag other rfl)] at hbare
        exact congrArg some (Prod.ext (Option.some.inj hbare).symm hflag)
  | [], other :: others, args, waiting, waiting', h, ho => by
    have heq := h.tokens.symm.trans ho.tokens
    rw [List.flatMap_cons, List.append_assoc] at heq
    exact absurd heq (ne_tokens_append h.flag (ho.proper other List.mem_cons_self) _)
  | piece :: pieces, [], args, waiting, waiting', h, ho => by
    have heq := ho.tokens.symm.trans h.tokens
    rw [List.flatMap_cons, List.append_assoc] at heq
    exact absurd heq (ne_tokens_append ho.flag (h.proper piece List.mem_cons_self) _)
  | piece :: pieces, other :: others, args, waiting, waiting', h, ho => by
    have heq := h.tokens.symm.trans ho.tokens
    rw [List.flatMap_cons, List.append_assoc, List.flatMap_cons, List.append_assoc] at heq
    obtain ⟨hp, hps⟩ := List.forall_mem_cons.mp h.proper
    obtain ⟨ho', hos⟩ := List.forall_mem_cons.mp ho.proper
    obtain ⟨rfl, hrest⟩ := hp.unique ho' heq
    obtain ⟨rfl, rfl⟩ := Reading.unique ⟨rfl, hps, h.flag⟩ ⟨hrest, hos, ho.flag⟩
    exact ⟨rfl, rfl⟩

/-! ### What comes of the arguments -/

/-- The text that has been read for a part. -/
def textOf (read : NameValue) : Slot → Option Text
  | .name => read.name
  | .value => read.value

theorem textOf_set (part : Slot) (read : NameValue) :
    textOf (read.set slot text) part = if slot = part then some text else textOf read part := by
  cases slot <;> cases part <;> rfl

theorem getLast?_cons_or (first : Text) (others : List Text) (before : Option Text) :
    (first :: others).getLast?.or before = others.getLast?.or (some first) := by
  cases others <;> simp [List.getLast?_cons]

/-- **Of the texts for a part the last one stays.** -/
theorem textOf_foldl (part : Slot) : ∀ (pieces : List Piece) (read : NameValue),
    textOf (pieces.foldl Piece.enter read) part =
      (textsFor part pieces).getLast?.or (textOf read part)
  | [], _ => rfl
  | piece :: pieces, read => by
    have ih := textOf_foldl part pieces (piece.enter read)
    rw [List.foldl_cons, ih, textsFor, textsFor, List.filterMap_cons]
    cases piece with
    | joined slot text | apart slot text =>
      rw [Piece.textFor, Piece.enter, textOf_set]
      split_ifs
      · exact (getLast?_cons_or text _ _).symm
      · rfl
    | loose token => cases part <;> rfl

theorem loose_foldl : ∀ (pieces : List Piece) (read : NameValue),
    (pieces.foldl Piece.enter read).loose = read.loose ++ looseTokens pieces
  | [], read => (List.append_nil _).symm
  | piece :: pieces, read => by
    rw [List.foldl_cons, loose_foldl pieces, looseTokens, looseTokens, List.filterMap_cons]
    cases piece with
    | joined slot | apart slot => cases slot <;> rfl
    | loose token => exact List.append_assoc _ _ _

/-- A name that has a text of its own leaves all loose tokens unused. -/
theorem unused_eq (pieces : List Piece) :
    unused pieces = if (textsFor .name pieces).getLast? = none then (looseTokens pieces).tail
      else looseTokens pieces := by
  simp only [unused, List.getLast?_eq_none_iff]

/-- The name and the value are those of the pieces. -/
theorem result_foldl (pieces : List Piece) :
    (pieces.foldl Piece.enter {}).result = (nameOf pieces, valueOf pieces) := by
  have hname := textOf_foldl .name pieces {}
  have hvalue := textOf_foldl .value pieces {}
  have hloose : (pieces.foldl Piece.enter {}).loose = looseTokens pieces := loose_foldl pieces {}
  rw [nameOf, valueOf, unused_eq]
  generalize pieces.foldl Piece.enter {} = read at hname hvalue hloose
  obtain ⟨name, value, loose⟩ := read
  have hnone : ∀ part, textOf {} part = none := by rintro (_ | _) <;> rfl
  rw [hnone, Option.or_none] at hname hvalue
  rw [← hname, ← hvalue, ← hloose]
  cases name <;> cases value <;> rfl

/-- **An assignment is read from left to right.** There is one reading of its arguments. It fails
exactly if a flag is at the end of the reading, for the parameter of this flag; otherwise the name
and the value are those that the pieces of the reading give. -/
theorem readNameValue_reading (args : List Text) :
    (∃! reading : List Piece × Option (Slot × Text), Reading args reading.1 reading.2) ∧
    ∀ pieces waiting, Reading args pieces waiting →
      ((∃ failure, readNameValue args = .error failure) ↔
        ∃ slot flag, waiting = some (slot, flag)) ∧
      (∀ slot flag, waiting = some (slot, flag) →
        readNameValue args = .error (lackingText slot flag)) ∧
      (waiting = none → readNameValue args = .ok (nameOf pieces, valueOf pieces)) := by
  refine ⟨?_, fun pieces waiting h => ?_⟩
  · obtain ⟨pieces, waiting, h⟩ := exists_reading args
    refine ⟨(pieces, waiting), h, fun other ho => ?_⟩
    obtain ⟨hpieces, hwaiting⟩ := Reading.unique ho h
    exact Prod.ext hpieces hwaiting
  · have hscan := scan_pieces pieces h.proper {} (waiting.map (·.2)).toList
    rw [← h.tokens] at hscan
    cases waiting with
    | none =>
      have hok : readNameValue args = .ok (nameOf pieces, valueOf pieces) := by
        rw [readNameValue, hscan, ← result_foldl]
        rfl
      simp [hok]
    | some last =>
      obtain ⟨slot, flag⟩ := last
      have herror : readNameValue args = .error (lackingText slot flag) := by
        rw [readNameValue, hscan, Option.map_some, Option.toList_some,
          scan_waiting (h.flag _ rfl)]
        rfl
      simp [herror]

/-- Flags in odd letter cases, one of them with the other as its text, and a name given twice. -/
def mixedPieces : List Piece :=
  [.loose "a", .joined .value "-x" "-VALUE:-x", .apart .name "-Value" "-name",
    .joined .name "b c" "-Name \t b c", .loose "d"]

/-- The last name counts, and a flag behind all that lacks its text. -/
theorem readNameValue_reading_mixed :
    Reading ["a", "-VALUE:-x", "-name", "-Value", "-Name \t b c", "d"] mixedPieces none ∧
    readNameValue ["a", "-VALUE:-x", "-name", "-Value", "-Name \t b c", "d"] =
      .ok (some "b c", some "-x") ∧
    Reading ["a", "-VALUE:-x", "-name", "-Value", "-Name \t b c", "d", "-vALUE"] mixedPieces
      (some (.value, "-vALUE")) ∧
    readNameValue ["a", "-VALUE:-x", "-name", "-Value", "-Name \t b c", "d", "-vALUE"] =
      .error (lackingText .value "-vALUE") := by
  have hspells : ∀ entry ∈ [(Slot.value, ("-VALUE" : Text)), (.name, "-name"), (.name, "-Name"),
      (.value, "-vALUE")], Spells (dashed entry.1) entry.2 := by
    unfold Spells
    decide
  have hblank : Holds .name "b c" "-Name \t b c" := by
    have hname := hspells (.name, "-Name") (by decide)
    have hgap : ∀ c ∈ (" \t " : Text), isBlank c = true := List.all_eq_true.mp (by decide)
    refine @Holds.blank _ _ "-Name" " \t " hname (by decide) hgap ?_
    rintro c ⟨⟩
    decide
  have hproper : ∀ piece ∈ mixedPieces, piece.Proper := by
    simp only [mixedPieces, List.forall_mem_cons]
    exact ⟨loose_iff.mpr ⟨by decide, by decide⟩, .colon (hspells (.value, "-VALUE") (by decide)),
      hspells (.name, "-name") (by decide), hblank, loose_iff.mpr ⟨by decide, by decide⟩, nofun⟩
  have hwhole : Reading ["a", "-VALUE:-x", "-name", "-Value", "-Name \t b c", "d"] mixedPieces
      none := ⟨rfl, hproper, by simp⟩
  have hcut : Reading ["a", "-VALUE:-x", "-name", "-Value", "-Name \t b c", "d", "-vALUE"]
      mixedPieces (some (.value, "-vALUE")) := by
    refine ⟨rfl, hproper, ?_⟩
    rintro last ⟨⟩
    exact hspells (.value, "-vALUE") (by decide)
  obtain ⟨-, -, hok⟩ := (readNameValue_reading _).2 _ _ hwhole
  obtain ⟨-, herror, -⟩ := (readNameValue_reading _).2 _ _ hcut
  exact ⟨hwhole, hok rfl, hcut, herror _ _ rfl⟩

end CmdletShell.Proofs.Arguments.Readings
