import CmdletShell.Cmdlet.Session
import CmdletShell.Proofs.Arguments.Flags
import CmdletShell.Proofs.Lines.Quoting

/-!
# Spellings of an assignment

Name and value are each given by flag or by position (`Spelling`), and a flag may stand in one token
with what it gives (`Flagged`). The tokens that give a part by its flag set it (`scan_flagged`), and
a token that does not begin with a dash is loose (`scan_loose`). So every spelling assigns the value
to the name (`assignment_of_spelling`).
-/

namespace CmdletShell.Proofs.Arguments.NameValues

open CmdletShell.Argument CmdletShell.Cmdlet CmdletShell.Text
open CmdletShell.Proofs.Arguments.Flags CmdletShell.Proofs.Lines.Quoting
open CmdletShell.Proofs.Texts.Case

/-- A token that begins neither like a flag nor with white space. -/
structure IsValue (text : Text) : Prop extends IsToken text where
  undashed : text.head? ≠ some '-'
  unindented : ∀ c ∈ text.head?, isBlank c = false

/-- The same without a dollar sign at the start, which is no part of a name. -/
structure IsName (text : Text) : Prop extends IsValue text where
  unsigned : text.head? ≠ some '$'

/-- The flag of a part. -/
def dashed (slot : Slot) : Text := '-' :: slot.parameter

/-- **The tokens that give a part by its flag.** -/
inductive Flagged (slot : Slot) (text : Text) : List Text → Prop
  /-- The text is the next token. -/
  | apart : Flagged slot text [dashed slot, text]
  /-- The text stands behind a space. -/
  | space : Flagged slot text [dashed slot ++ ' ' :: text]
  /-- The text stands behind a colon. -/
  | colon : Flagged slot text [dashed slot ++ ':' :: text]

/-- **The ways to spell an assignment.** -/
inductive Spelling (name value : Text) : List Text → Prop
  /-- Without a flag the name comes first. -/
  | loose : Spelling name value [name, value]
  /-- The name has its flag. -/
  | named {tokens} : Flagged .name name tokens → Spelling name value (tokens ++ [value])
  /-- The value has its flag. -/
  | valued {tokens} : Flagged .value value tokens → Spelling name value (name :: tokens)
  /-- Both have their flags. -/
  | both {tokens others} : Flagged .name name tokens → Flagged .value value others →
      Spelling name value (tokens ++ others)
  /-- The value comes before the name. -/
  | swapped {tokens others} : Flagged .name name tokens → Flagged .value value others →
      Spelling name value (others ++ tokens)

variable {slot : Slot} {text token name value spelling : Text} {tokens args : List Text}

theorem isToken_of_flagged (ht : IsToken text) (h : Flagged slot text tokens) :
    ∀ token ∈ tokens, IsToken token := by
  have hflag : IsToken (dashed slot) := by cases slot <;> decide
  have happend : ∀ {c}, c ≠ '"' → IsToken (dashed slot ++ c :: text) := by
    intro c hc
    refine ⟨List.append_ne_nil_of_left_ne_nil hflag.ne_nil _, ?_⟩
    rw [List.mem_append, List.mem_cons, not_or, not_or]
    exact ⟨hflag.unquoted, hc.symm, ht.unquoted⟩
  cases h with
  | apart => exact List.forall_mem_cons.mpr ⟨hflag, List.forall_mem_singleton.mpr ht⟩
  | space => exact List.forall_mem_singleton.mpr (happend (by decide))
  | colon => exact List.forall_mem_singleton.mpr (happend (by decide))

theorem isToken_of_spelling (hn : IsToken name) (hv : IsToken value)
    (h : Spelling name value args) : ∀ token ∈ args, IsToken token := by
  cases h with
  | loose => exact List.forall_mem_cons.mpr ⟨hn, List.forall_mem_singleton.mpr hv⟩
  | named hname =>
    exact List.forall_mem_append.mpr
      ⟨isToken_of_flagged hn hname, List.forall_mem_singleton.mpr hv⟩
  | valued hvalue => exact List.forall_mem_cons.mpr ⟨hn, isToken_of_flagged hv hvalue⟩
  | both hname hvalue =>
    exact List.forall_mem_append.mpr
      ⟨isToken_of_flagged hn hname, isToken_of_flagged hv hvalue⟩
  | swapped hname hvalue =>
    exact List.forall_mem_append.mpr
      ⟨isToken_of_flagged hv hvalue, isToken_of_flagged hn hname⟩

/-! ### Flags in tokens -/

theorem insideFor?_cons (slot : Slot) (rest : Text) : insideFor? slot ('-' :: rest) =
    if (rest.take slot.flag.length).map foldCase = slot.flag then
      attached? (rest.drop slot.flag.length)
    else none := rfl

theorem isFlagName_dashed (slot : Slot) : IsFlagName (dashed slot) := by
  cases slot <;> decide

/-- The letters of a flag have no further forms. -/
theorem foldCase_of_mem (slot : Slot) {c : Char} (hc : c ≠ 'İ') (h : lowerChar c ∈ slot.flag) :
    foldCase c = lowerChar c := by
  have htwins : ∀ d ∈ slot.flag, (caseTwins.find? (·.1 == d.toNat)).isNone = true := by
    rw [← List.all_eq_true]
    cases slot <;> rfl
  rw [foldCase, if_neg hc]
  dsimp only
  rw [Option.isNone_iff_eq_none.mp (htwins _ h)]

/-- A flag in any letter case is a dash with letters that are folded to it. -/
theorem exists_of_spells (h : Spells (dashed slot) spelling) :
    ∃ letters, spelling = '-' :: letters ∧ letters.map foldCase = slot.flag := by
  have hflag := isFlagName_dashed slot
  have hmap := h.map_lowerChar hflag
  have hlower : lower (dashed slot) = '-' :: slot.flag := by cases slot <;> decide
  obtain ⟨c, tail, rfl⟩ := h.eq_cons hflag
  rw [hlower, List.map_cons, List.cons.injEq] at hmap
  refine ⟨c :: tail, rfl, ?_⟩
  rw [← hmap.2]
  refine List.map_congr_left fun d hd => foldCase_of_mem slot ?_ ?_
  · exact (h.plain hflag d (.tail _ hd)).1
  · rw [← hmap.2]
    exact List.mem_map_of_mem hd

/-- A token with a flag gives what is attached to the flag. -/
theorem insideFor?_spells (h : Spells (dashed slot) spelling) (rest : Text) :
    insideFor? slot (spelling ++ rest) = attached? rest := by
  obtain ⟨letters, rfl, hfold⟩ := exists_of_spells h
  have hlength : letters.length = slot.flag.length := by rw [← hfold, List.length_map]
  rw [List.cons_append, insideFor?_cons, List.take_left' hlength, if_pos hfold,
    List.drop_left' hlength]

/-- It gives nothing to the other part, whose flag begins with another letter. -/
theorem insideFor?_other {other : Slot} (hne : other ≠ slot) (h : Spells (dashed slot) spelling)
    (rest : Text) : insideFor? other (spelling ++ rest) = none := by
  obtain ⟨letters, rfl, hfold⟩ := exists_of_spells h
  rw [List.cons_append, insideFor?_cons]
  refine if_neg fun heq => hne ?_
  have hfirst : other.flag.head? = slot.flag.head? := by
    rw [← heq, ← hfold]
    cases letters with
    | nil => cases slot <;> cases hfold
    | cons c letters => cases other <;> rfl
  revert hfirst
  cases other <;> cases slot <;> decide

theorem inside?_spells (h : Spells (dashed slot) spelling) (rest : Text) :
    inside? (spelling ++ rest) = (attached? rest).map fun text => (slot, text) := by
  unfold inside?
  cases slot with
  | name =>
    rw [insideFor?_spells h, insideFor?_other (by decide) h]
    cases attached? rest <;> rfl
  | value => rw [insideFor?_other (by decide) h, insideFor?_spells h]

theorem inside?_of_head?_ne (h : token.head? ≠ some '-') : inside? token = none := by
  have hnone : ∀ slot, insideFor? slot token = none := by
    intro slot
    unfold insideFor?
    split
    · exact absurd rfl h
    · rfl
  rw [inside?, hnone, hnone]
  rfl

theorem bare?_of_head?_ne (h : token.head? ≠ some '-') : bare? token = none := by
  have hne : ∀ flag, lower token ≠ '-' :: flag := by
    intro flag hl
    refine h (head?_lower_eq_dash.mp ?_)
    rw [hl]
    rfl
  rw [bare?, if_neg (hne _), if_neg (hne _)]

theorem bare?_spells (h : Spells (dashed slot) spelling) : bare? spelling = some slot := by
  unfold bare?
  rw [h]
  cases slot <;> decide

/-! ### Reading -/

/-- A token that does not begin with a dash is loose. -/
theorem scan_loose (h : token.head? ≠ some '-') (read : NameValue) (rest : List Text) :
    scanNameValue read (token :: rest) = scanNameValue (read.add token) rest := by
  rw [scanNameValue, inside?_of_head?_ne h]
  dsimp only
  rw [bare?_of_head?_ne h]

/-- A token with a flag and a text sets the part. -/
theorem scan_inside {rest : Text} (hs : Spells (dashed slot) spelling)
    (h : attached? rest = some text) (read : NameValue) (args : List Text) :
    scanNameValue read ((spelling ++ rest) :: args) =
      scanNameValue (read.set slot text) args := by
  rw [scanNameValue, inside?_spells hs, h]
  rfl

/-- A flag sets the part to the next token. -/
theorem scan_apart (hs : Spells (dashed slot) spelling) (text : Text) (read : NameValue)
    (args : List Text) : scanNameValue read (spelling :: text :: args) =
      scanNameValue (read.set slot text) args := by
  have hinside : inside? spelling = none := by
    have hi := inside?_spells hs []
    rwa [List.append_nil] at hi
  rw [scanNameValue, hinside]
  dsimp only
  rw [bare?_spells hs]

theorem attached?_space (h : ∀ c ∈ text.head?, isBlank c = false) :
    attached? (' ' :: text) = some text := by
  have hs : stripLeft text = text := by
    cases text with
    | nil => rfl
    | cons c rest => exact List.dropWhile_cons_of_neg (by rw [h c rfl]; exact Bool.false_ne_true)
  exact congrArg some hs

/-- **The tokens that give a part set it.** -/
theorem scan_flagged (h : Flagged slot text tokens) (ht : ∀ c ∈ text.head?, isBlank c = false)
    (read : NameValue) (rest : List Text) :
    scanNameValue read (tokens ++ rest) = scanNameValue (read.set slot text) rest := by
  have hs : Spells (dashed slot) (dashed slot) := rfl
  cases h with
  | apart => exact scan_apart hs text read rest
  | space => exact scan_inside hs (attached?_space ht) read rest
  | colon => exact scan_inside hs rfl read rest

theorem scan_last (h : Flagged slot text tokens) (ht : ∀ c ∈ text.head?, isBlank c = false)
    (read : NameValue) : scanNameValue read tokens = .ok (read.set slot text) := by
  have hscan := scan_flagged h ht read []
  rwa [List.append_nil] at hscan

/-- The name and the value that are read. -/
theorem readNameValue_of_spelling (hn : IsName name) (hv : IsValue value)
    (h : Spelling name value args) : readNameValue args = .ok (some name, some value) := by
  unfold readNameValue
  cases h with
  | loose =>
    rw [scan_loose hn.undashed, scan_loose hv.undashed]
    rfl
  | named hname =>
    rw [scan_flagged hname hn.unindented, scan_loose hv.undashed]
    rfl
  | valued hvalue =>
    rw [scan_loose hn.undashed, scan_last hvalue hv.unindented]
    rfl
  | both hname hvalue =>
    rw [scan_flagged hname hn.unindented, scan_last hvalue hv.unindented]
    rfl
  | swapped hname hvalue =>
    rw [scan_flagged hvalue hv.unindented, scan_last hname hn.unindented]
    rfl

/-! ### What is assigned -/

/-- The number of texts that have been read. -/
def given (read : NameValue) : Nat :=
  read.name.toList.length + read.value.toList.length + read.loose.length

theorem given_set_le (slot : Slot) (text : Text) (read : NameValue) :
    given (read.set slot text) ≤ given read + 1 := by
  cases slot <;> simp [NameValue.set, given] <;> omega

theorem given_add (token : Text) (read : NameValue) : given (read.add token) = given read + 1 := by
  simp only [NameValue.add, given, List.length_append, List.length_singleton]
  omega

/-- Each token gives one text at most. -/
theorem given_le_of_scan {start read : NameValue} (h : scanNameValue start args = .ok read) :
    given read ≤ given start + args.length := by
  fun_induction scanNameValue start args with
  | case1 start => cases h; exact Nat.le_refl _
  | case2 start token rest slot text _ ih =>
    have := ih h
    have := given_set_le slot text start
    rw [List.length_cons]
    omega
  | case3 start token rest _ _ ih =>
    have := ih h
    have := given_add token start
    rw [List.length_cons]
    omega
  | case4 => cases h
  | case5 start token _ slot _ text rest ih =>
    have := ih h
    have := given_set_le slot text start
    rw [List.length_cons, List.length_cons]
    omega

/-- The texts that have been read. -/
def texts (read : NameValue) : List Text :=
  read.name.toList ++ read.value.toList ++ read.loose

theorem mem_texts_set {read : NameValue} {other : Text} (h : other ∈ texts (read.set slot text)) :
    other ∈ texts read ∨ other = text := by
  cases slot <;> simp only [texts, NameValue.set, List.mem_append, Option.toList_some,
    List.mem_singleton] at h ⊢ <;> tauto

theorem mem_texts_add {read : NameValue} {other : Text} (h : other ∈ texts (read.add token)) :
    other ∈ texts read ∨ other = token := by
  simp only [texts, NameValue.add, List.mem_append, List.mem_singleton] at h ⊢
  tauto

theorem isSuffix_of_attached? {rest : Text} (h : attached? rest = some text) : text <:+ rest := by
  unfold attached? at h
  split at h
  · cases h
  · cases h
    exact List.suffix_cons _ _
  · split_ifs at h
    cases h
    exact (List.dropWhile_suffix isBlank).trans (List.suffix_cons _ _)

theorem isSuffix_of_inside? (h : inside? token = some (slot, text)) : text <:+ token := by
  have hslot : ∀ {slot}, insideFor? slot token = some text → text <:+ token := by
    intro slot h
    unfold insideFor? at h
    split at h
    · dsimp only at h
      split_ifs at h
      exact (isSuffix_of_attached? h).trans
        ((List.drop_suffix _ _).trans (List.suffix_cons _ _))
    · cases h
  unfold inside? at h
  split at h
  · next hname =>
    cases h
    exact hslot hname
  · obtain ⟨other, hvalue, heq⟩ := Option.map_eq_some_iff.mp h
    cases heq
    exact hslot hvalue

/-- Each text that is read is a token or the end of one. -/
theorem isSuffix_of_scan {start read : NameValue} (h : scanNameValue start args = .ok read) :
    ∀ text ∈ texts read, text ∈ texts start ∨ ∃ token ∈ args, text <:+ token := by
  fun_induction scanNameValue start args with
  | case1 start =>
    cases h
    exact fun text ht => Or.inl ht
  | case2 start token rest slot text hinside ih =>
    intro other ho
    rcases ih h other ho with hs | ⟨arg, ha, hsuffix⟩
    · rcases mem_texts_set hs with hs | rfl
      · exact Or.inl hs
      · exact Or.inr ⟨token, List.mem_cons_self, isSuffix_of_inside? hinside⟩
    · exact Or.inr ⟨arg, List.mem_cons_of_mem _ ha, hsuffix⟩
  | case3 start token rest _ _ ih =>
    intro other ho
    rcases ih h other ho with hs | ⟨arg, ha, hsuffix⟩
    · rcases mem_texts_add hs with hs | rfl
      · exact Or.inl hs
      · exact Or.inr ⟨other, List.mem_cons_self, List.suffix_rfl⟩
    · exact Or.inr ⟨arg, List.mem_cons_of_mem _ ha, hsuffix⟩
  | case4 => cases h
  | case5 start token _ slot _ text rest ih =>
    intro other ho
    rcases ih h other ho with hs | ⟨arg, ha, hsuffix⟩
    · rcases mem_texts_set hs with hs | rfl
      · exact Or.inl hs
      · exact Or.inr ⟨other, by simp, List.suffix_rfl⟩
    · exact Or.inr ⟨arg, by simp [ha], hsuffix⟩

theorem two_le_given {read : NameValue} (h : read.result = (some name, some value)) :
    2 ≤ given read := by
  obtain ⟨first, second, loose⟩ := read
  rcases first with _ | first <;> rcases second with _ | second <;>
    rcases loose with _ | ⟨token, _ | ⟨other, rest⟩⟩ <;>
    simp [NameValue.result, given] at h ⊢ <;> omega

/-- A name and a value are two tokens at least. -/
theorem two_le_length_of_read (h : readNameValue args = .ok (some name, some value)) :
    2 ≤ args.length := by
  unfold readNameValue at h
  cases hs : scanNameValue {} args with
  | error missing => rw [hs] at h; cases h
  | ok read =>
    rw [hs] at h
    have hle : given read ≤ 0 + args.length := given_le_of_scan hs
    have := two_le_given (Except.ok.inj h)
    omega

/-- **What is assigned**: the value that is read, to the name that is read, which is not empty,
without the dollar signs at its start. -/
theorem assignment_eq_ok_iff : assignment args = .ok (name, value) ↔ ∃ typed, typed ≠ [] ∧
    readNameValue args = .ok (some typed, some value) ∧ typed.dropWhile (· == '$') = name := by
  constructor
  · intro h
    unfold assignment at h
    dsimp only at h
    split at h
    · cases h
    cases hr : readNameValue args with
    | error failure => rw [hr] at h; cases h
    | ok parts =>
      obtain ⟨first, second⟩ := parts
      rw [hr] at h
      rcases first with _ | ⟨_ | ⟨c, rest⟩⟩ <;> rcases second with _ | second <;> cases h
      exact ⟨c :: rest, List.cons_ne_nil c rest, rfl, rfl⟩
  · rintro ⟨typed, hne, hread, rfl⟩
    have hlength : ¬ args.length < 2 := by have := two_le_length_of_read hread; omega
    have hpresent : present (some typed) = some typed := nonEmpty_of_ne_nil hne
    simp only [assignment, if_neg hlength, hread, bind, Except.bind, hpresent]
    rfl

theorem mem_texts_of_result {read : NameValue} (h : read.result = (some name, some value)) :
    value ∈ texts read := by
  obtain ⟨first, second, loose⟩ := read
  rcases first with _ | first <;> rcases second with _ | second <;>
    rcases loose with _ | ⟨token, _ | ⟨other, rest⟩⟩ <;>
    simp_all [NameValue.result, texts]

/-- **The value is a token or the end of one.** -/
theorem isSuffix_of_assignment (h : assignment args = .ok (name, value)) :
    ∃ token ∈ args, value <:+ token := by
  obtain ⟨typed, -, hread, -⟩ := assignment_eq_ok_iff.mp h
  unfold readNameValue at hread
  cases hs : scanNameValue {} args with
  | error missing => rw [hs] at hread; cases hread
  | ok read =>
    rw [hs] at hread
    exact (isSuffix_of_scan hs value (mem_texts_of_result (Except.ok.inj hread))).resolve_left
      List.not_mem_nil

/-- **Every spelling assigns the value to the name.** -/
theorem assignment_of_spelling (hn : IsName name) (hv : IsValue value)
    (h : Spelling name value args) : assignment args = .ok (name, value) := by
  have hsign : name.dropWhile (· == '$') = name := by
    cases name with
    | nil => rfl
    | cons c rest =>
      refine List.dropWhile_cons_of_neg fun hc => hn.unsigned ?_
      rw [eq_of_beq hc]
      rfl
  exact assignment_eq_ok_iff.mpr ⟨name, hn.ne_nil, readNameValue_of_spelling hn hv h, hsign⟩

end CmdletShell.Proofs.Arguments.NameValues
