import CmdletShell.Proofs.Paths.Segments
import Mathlib.Logic.Function.Iterate

/-!
# Changes of location, by segments

Under a drive, a location is a stack of segments: a relative target pushes its segments
(`segments_descend`), and `..` pops one unless it is the only one (`segments_parent`); neither
leaves the drive (`parent_on`, `descend_on`). `resolve_segments` says so of every target, and draws
two conclusions, each by an induction on the number of steps up: they undo a relative target, and
they end at the root of the drive.
-/

namespace CmdletShell.Proofs.Paths.Steps

open CmdletShell.Location CmdletShell.Proofs.Paths.Segments

variable {letter : Char} {current path target home : Text}

/-! ### Paths on a drive -/

/-- The path begins with the drive of the letter. -/
structure On (letter : Char) (path : Text) : Prop where
  isAlpha : letter.isAlpha = true
  isPrefix : [letter, ':'] <+: path

theorem hasDrive_iff : hasDrive path = true ↔ ∃ letter, On letter path := by
  constructor
  · intro h
    unfold hasDrive at h
    split at h
    · next letter rest => exact ⟨letter, h, rest, rfl⟩
    · cases h
  · rintro ⟨letter, ha, rest, rfl⟩
    exact ha

theorem ne_separator_of_isAlpha (h : letter.isAlpha = true) : letter ≠ separator := by
  rintro rfl
  revert h
  decide

/-- Nothing of the drive lies behind a separator. -/
theorem on_of_append {front tail : Text} (h : On letter (front ++ tail))
    (ht : ∀ c ∈ tail.head?, c = separator) : On letter front := by
  refine ⟨h.isAlpha, ?_⟩
  obtain ⟨rest, hrest⟩ := h.isPrefix
  rcases front with _ | ⟨a, _ | ⟨b, front⟩⟩
  · rw [List.nil_append] at hrest
    have hs := ht letter (by rw [← hrest]; rfl)
    exact absurd hs (ne_separator_of_isAlpha h.isAlpha)
  · have htail : ':' :: rest = tail := (List.cons.inj hrest).2
    have hs := ht ':' (by rw [← htail]; rfl)
    exact absurd hs (by decide)
  · obtain ⟨rfl, htail⟩ := List.cons.inj hrest
    obtain ⟨rfl, -⟩ := List.cons.inj htail
    exact ⟨front, rfl⟩

theorem trimEnd_on (h : On letter path) : On letter (trimEnd path) := by
  obtain ⟨tail, hpath, htail⟩ := exists_trimEnd path
  rw [hpath] at h
  exact on_of_append h fun c hc => htail c (List.mem_of_mem_head? hc)

theorem dropLast_on (h : On letter path) : On letter (dropLast path) := by
  have ht := trimEnd_on h
  rcases path_cases path with ⟨-, hd⟩ | ⟨above, last, hp, -, -, hd⟩
  · rwa [hd]
  · rw [hp] at ht
    rw [hd]
    exact on_of_append ht (by simp)

theorem dropLast_isPrefix (path : Text) : dropLast path <+: path := by
  have ht : trimEnd path <+: path := List.rdropWhile_prefix _ _
  rcases path_cases path with ⟨-, hd⟩ | ⟨above, last, hp, -, -, hd⟩
  · rwa [hd]
  · rw [hd]
    rw [hp] at ht
    exact (List.prefix_append _ _).trans ht

theorem segments_ne_nil (h : On letter path) : segments path ≠ [] := by
  obtain ⟨rest, rfl⟩ := h.isPrefix
  by_cases hs : separator ∈ [letter, ':'] ++ rest
  · obtain ⟨first, after, heq, hn⟩ := List.eq_append_cons_of_mem hs
    have hne : first ≠ [] := by
      rintro rfl
      exact ne_separator_of_isAlpha h.isAlpha (List.cons.inj heq).1
    rw [heq, segments_append_separator, segments_of_not_mem hn hne]
    exact List.cons_ne_nil _ _
  · rw [segments_of_not_mem hs (List.cons_ne_nil _ _)]
    exact List.cons_ne_nil _ _

/-! ### A step up -/

/-- The root of a drive. -/
def root (letter : Char) : Text := [letter, ':', separator]

theorem parent_eq (h : On letter current) : parent current =
    if dropLast current = [letter, ':'] then root letter else dropLast current := by
  obtain ⟨rest, hrest⟩ := (dropLast_on h).isPrefix
  have hroot : driveRoot current = root letter := by
    obtain ⟨tail, rfl⟩ := h.isPrefix
    rw [driveRoot, if_pos (hasDrive_iff.mpr ⟨letter, h⟩)]
    rfl
  have hdrive : isDrive (dropLast current) = decide (rest = []) := by
    rw [isDrive, hasDrive_iff.mpr ⟨letter, dropLast_on h⟩, ← hrest]
    cases rest <;> rfl
  have hempty : (dropLast current).isEmpty = false := by rw [← hrest]; rfl
  have hiff : dropLast current = [letter, ':'] ↔ rest = [] := by rw [← hrest]; simp
  rw [parent, hroot]
  simp only [hempty, hdrive, Bool.false_or, decide_eq_true_eq, hiff]

theorem parent_on (h : On letter current) : On letter (parent current) := by
  rw [parent_eq h]
  split_ifs
  · exact ⟨h.isAlpha, [separator], rfl⟩
  · exact dropLast_on h

theorem segments_root_eq (letter : Char) : segments (root letter) = segments [letter, ':'] := by
  have h := @segments_append_separators [separator] (by simp) [letter, ':']
  exact h

/-- **A step up pops a segment**, unless it is the only one. -/
theorem segments_parent (h : On letter current) : segments (parent current) =
    if (segments current).length = 1 then segments current else (segments current).dropLast := by
  have hseg : segments (parent current) = segments (dropLast current) := by
    rw [parent_eq h]
    split_ifs with hd
    · rw [hd, segments_root_eq]
    · rfl
  rw [hseg, ← segments_trimEnd current]
  rcases path_cases current with ⟨hs, hd⟩ | ⟨above, last, hp, hs, hne, hd⟩
  · have hpiece : trimEnd current ≠ [] := by
      obtain ⟨rest, hrest⟩ := (trimEnd_on h).isPrefix
      rw [← hrest]
      exact List.cons_ne_nil _ _
    rw [hd, segments_of_not_mem hs hpiece, if_pos (List.length_singleton)]
  · have habove : segments above ≠ [] := segments_ne_nil (hd ▸ dropLast_on h)
    rw [hd, hp, segments_append_separator, segments_of_not_mem hs hne, List.dropLast_concat,
      if_neg]
    rw [List.length_append, List.length_singleton]
    have := List.length_pos_iff.mpr habove
    omega

/-! ### A step down -/

theorem descend_on (h : On letter current) (target : Text) :
    On letter (descend current target) := by
  obtain ⟨rest, hrest⟩ := (trimEnd_on h).isPrefix
  refine ⟨h.isAlpha, rest ++ separator :: Text.trim (· == separator) target, ?_⟩
  rw [descend, ← hrest, List.append_assoc]

/-- **A relative path pushes its segments.** -/
theorem segments_descend (current target : Text) :
    segments (descend current target) = segments current ++ segments target := by
  rw [descend, segments_append_separator, segments_trimEnd, segments_trim]

/-! ### Many steps up -/

/-- As many steps up as there are segments on top take them off. -/
theorem segments_iterate_parent : ∀ (base extra : List Text) {current : Text},
    On letter current → base ≠ [] → segments current = base ++ extra →
    segments (parent^[extra.length] current) = base := by
  intro base extra
  induction extra using List.reverseRecOn with
  | nil =>
    intro current _ _ hs
    rw [List.append_nil] at hs
    exact hs
  | append_singleton extra last ih =>
    intro current hon hb hs
    rw [List.length_append, List.length_singleton, Function.iterate_succ_apply]
    refine ih (parent_on hon) hb ?_
    have hb' := List.length_pos_iff.mpr hb
    rw [segments_parent hon, hs, if_neg, ← List.append_assoc, List.dropLast_concat]
    rw [List.length_append, List.length_append, List.length_singleton]
    omega

/-- The path begins with the root of the drive of the letter. -/
structure Rooted (letter : Char) (path : Text) : Prop where
  isAlpha : letter.isAlpha = true
  isPrefix : root letter <+: path

theorem Rooted.on (h : Rooted letter path) : On letter path :=
  ⟨h.isAlpha, (List.prefix_append [letter, ':'] [separator]).trans h.isPrefix⟩

/-- A longer part than the drive has the separator of the root. -/
theorem Rooted.of_isPrefix (h : Rooted letter path) {part : Text} (hp : part <+: path)
    (hon : On letter part) (hne : part ≠ [letter, ':']) : Rooted letter part := by
  refine ⟨h.isAlpha, List.prefix_of_prefix_length_le h.isPrefix hp ?_⟩
  obtain ⟨rest, rfl⟩ := hon.isPrefix
  cases rest with
  | nil => exact absurd rfl hne
  | cons c rest => simp [root]

theorem parent_rooted (h : Rooted letter current) : Rooted letter (parent current) := by
  rw [parent_eq h.on]
  split_ifs with hd
  · exact ⟨h.isAlpha, List.prefix_rfl⟩
  · exact h.of_isPrefix (dropLast_isPrefix current) (dropLast_on h.on) hd

/-- Above a single segment is the root. -/
theorem parent_eq_root (h : Rooted letter current) (hs : (segments current).length = 1) :
    parent current = root letter := by
  rw [parent_eq h.on, if_pos]
  have ht := trimEnd_on h.on
  rcases path_cases current with ⟨hn, hd⟩ | ⟨above, last, hp, hn, hne, hd⟩
  · by_contra hdrive
    rw [hd] at hdrive
    have hr := h.of_isPrefix (List.rdropWhile_prefix _ _) ht hdrive
    exact hn (hr.isPrefix.subset (by simp [root]))
  · have habove := List.length_pos_iff.mpr (segments_ne_nil (hd ▸ dropLast_on h.on))
    rw [← segments_trimEnd, hp, segments_append_separator, segments_of_not_mem hn hne,
      List.length_append, List.length_singleton] at hs
    omega

theorem root_rooted (ha : letter.isAlpha = true) : Rooted letter (root letter) :=
  ⟨ha, List.prefix_rfl⟩

theorem parent_root (ha : letter.isAlpha = true) : parent (root letter) = root letter := by
  refine parent_eq_root (root_rooted ha) ?_
  have hn : separator ∉ [letter, ':'] := by
    have hc : separator ≠ ':' := by decide
    simp [(ne_separator_of_isAlpha ha).symm, hc]
  rw [segments_root_eq, segments_of_not_mem hn (List.cons_ne_nil _ _), List.length_singleton]

/-- As many steps up as there are segments lead to the root, and further ones do not leave it. -/
theorem iterate_parent_eq_root : ∀ (count : Nat) {current : Text}, Rooted letter current →
    (segments current).length ≤ count → parent^[count] current = root letter := by
  intro count
  induction count with
  | zero =>
    intro current h hle
    have := List.length_pos_iff.mpr (segments_ne_nil h.on)
    omega
  | succ count ih =>
    intro current h hle
    rw [Function.iterate_succ_apply]
    by_cases hs : (segments current).length = 1
    · rw [parent_eq_root h hs]
      exact Function.iterate_fixed (parent_root h.isAlpha) count
    · refine ih (parent_rooted h) ?_
      rw [segments_parent h.on, if_neg hs, List.length_dropLast]
      omega

/-! ### What a target asks for -/

/-- A target with every slash as a backslash. -/
def asPath (target : Text) : Text := Text.replace '/' separator target

/-- The path goes down from the current location: it is neither a sign for the home, nor on a drive,
nor a sign for the current location or the one above. -/
structure Relative (path : Text) : Prop where
  ne_home : path ≠ "~" ∧ path ≠ "$HOME"
  hasDrive_eq : hasDrive path = false
  ne_here : path ≠ [] ∧ path ≠ "."
  ne_above : path ≠ ".."

theorem read_eq {path : Text} (h : asPath target = path) : Target.read target =
    if path = "~" || path = "$HOME" then .home
    else if hasDrive path then .absolute path
    else if path = [] || path = "." then .here
    else if path = ".." then .above
    else .below path := by
  subst h
  rfl

theorem resolve_home (h : asPath target = "~" ∨ asPath target = "$HOME") (current home : Text) :
    resolve current target home = home := by
  have hread : Target.read target = .home := by
    rcases h with h | h <;> rw [read_eq h] <;> decide
  rw [resolve, hread]

theorem resolve_absolute (h : hasDrive (asPath target) = true) (current home : Text) :
    resolve current target home = asPath target := by
  have hne : ∀ {sign : Text}, hasDrive sign = false → asPath target ≠ sign := by
    rintro sign hs rfl
    rw [h] at hs
    cases hs
  have hhome : asPath target ≠ "~" := hne (by decide)
  have hvar : asPath target ≠ "$HOME" := hne (by decide)
  have hread : Target.read target = .absolute (asPath target) := by
    rw [read_eq rfl, decide_eq_false hhome, decide_eq_false hvar, if_neg (by decide), if_pos h]
  rw [resolve, hread]

theorem resolve_here (h : asPath target = [] ∨ asPath target = ".") (current home : Text) :
    resolve current target home = current := by
  have hread : Target.read target = .here := by
    rcases h with h | h <;> rw [read_eq h] <;> decide
  rw [resolve, hread]

theorem resolve_above (h : asPath target = "..") (current home : Text) :
    resolve current target home = parent current := by
  have hread : Target.read target = .above := by
    rw [read_eq h]
    decide
  rw [resolve, hread]

theorem resolve_relative (h : Relative (asPath target)) (current home : Text) :
    resolve current target home = descend current (asPath target) := by
  have hread : Target.read target = .below (asPath target) := by
    rw [read_eq rfl, decide_eq_false h.ne_home.1, decide_eq_false h.ne_home.2, h.hasDrive_eq,
      decide_eq_false h.ne_here.1, decide_eq_false h.ne_here.2, if_neg h.ne_above]
    rfl
  rw [resolve, hread]

/-- A step up, as a change of location. -/
def stepUp (home current : Text) : Text := resolve current ".." home

theorem stepUp_eq (home : Text) : stepUp home = parent :=
  funext fun current => resolve_above (by decide) current home

/-- **A location is a stack of segments.** What each kind of target makes of it, that steps up undo
a relative target, and that they end at the root of the drive. -/
theorem resolve_segments (current target home : Text) (hdrive : hasDrive current = true) :
    (asPath target = "~" ∨ asPath target = "$HOME" → resolve current target home = home) ∧
    (hasDrive (asPath target) = true → resolve current target home = asPath target) ∧
    (asPath target = [] ∨ asPath target = "." → resolve current target home = current) ∧
    (asPath target = ".." → segments (resolve current target home) =
      if (segments current).length = 1 then segments current else (segments current).dropLast) ∧
    (Relative (asPath target) → segments (resolve current target home) =
      segments current ++ segments (asPath target)) ∧
    (Relative (asPath target) → segments ((stepUp home)^[(segments (asPath target)).length]
      (resolve current target home)) = segments current) ∧
    ∀ letter rest, current = letter :: ':' :: separator :: rest →
      ∀ count, (segments current).length ≤ count →
        (stepUp home)^[count] current = [letter, ':', separator] := by
  obtain ⟨drive, hon⟩ := hasDrive_iff.mp hdrive
  rw [stepUp_eq]
  refine ⟨fun h => resolve_home h current home, fun h => resolve_absolute h current home,
    fun h => resolve_here h current home, fun h => ?_, fun h => ?_, fun h => ?_, ?_⟩
  · rw [resolve_above h]
    exact segments_parent hon
  · rw [resolve_relative h]
    exact segments_descend current _
  · rw [resolve_relative h]
    exact segments_iterate_parent _ _ (descend_on hon _) (segments_ne_nil hon)
      (segments_descend current _)
  · rintro letter rest rfl count hle
    have ha : letter.isAlpha = true := hdrive
    exact iterate_parent_eq_root count ⟨ha, rest, rfl⟩ hle

/-- A location with a doubled separator and one at its end. -/
def uneven : Text := "C:\\Users\\\\me\\"

/-- Two steps up undo a target of two segments, and three lead to the root. -/
theorem resolve_segments_uneven :
    hasDrive uneven = true ∧ Relative (asPath "a/b") ∧
    segments (resolve uneven "a/b" "D:\\") = ["C:", "Users", "me", "a", "b"] ∧
    segments ((stepUp "D:\\")^[2] (resolve uneven "a/b" "D:\\")) = ["C:", "Users", "me"] ∧
    (stepUp "D:\\")^[3] uneven = "C:\\" := by
  have hd : hasDrive uneven = true := by decide
  have hr : Relative (asPath "a/b") := ⟨by decide, by decide, by decide, by decide⟩
  have hu : segments uneven = ["C:", "Users", "me"] := by decide
  have ht : segments (asPath "a/b") = ["a", "b"] := by decide
  obtain ⟨-, -, -, -, hdown, hback, hroot⟩ := resolve_segments uneven "a/b" "D:\\" hd
  rw [hu, ht] at hdown hback
  rw [hu] at hroot
  exact ⟨hd, hr, hdown hr, hback hr, hroot 'C' "Users\\\\me\\" (by decide) 3 le_rfl⟩

end CmdletShell.Proofs.Paths.Steps
