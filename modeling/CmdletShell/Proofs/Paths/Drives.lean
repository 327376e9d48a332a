import CmdletShell.Proofs.Lines.Strip
import CmdletShell.Proofs.Paths.Steps

/-!
# Changes of location and drives

A change of location leads to the home, to the target, to the current location, one step up or some
steps down (`resolve_cases`). So it stays on a drive (`resolve_hasDrive`), brings in no character of
its own but the separator (`forall_mem_resolve`), hence no slash (`resolve_unslashed`), and leads to
another drive only by way of the home or of a target that names the drive (`resolve_on`). So the
path of the home does not lead home from everywhere unless it is on a drive and without slashes
(`Returning`).
-/

namespace CmdletShell.Proofs.Paths.Drives

open CmdletShell.Location
open CmdletShell.Proofs.Lines.Strip CmdletShell.Proofs.Paths.Segments CmdletShell.Proofs.Paths.Steps

variable {letter : Char} {current target home sign : Text}

/-! ### Slashes -/

theorem unslashed_asPath (target : Text) : '/' ∉ asPath target := by
  intro h
  obtain ⟨c, -, hc⟩ := List.mem_map.mp h
  split_ifs at hc with hslash
  · revert hc
    decide
  · exact hslash hc

theorem asPath_of_unslashed (h : '/' ∉ target) : asPath target = target := by
  have hid : ∀ c ∈ target, (if c = '/' then separator else c) = c := by
    intro c hc
    rw [if_neg (ne_of_mem_of_not_mem hc h)]
  rw [asPath, Text.replace, List.map_congr_left hid, List.map_id']

/-- A sign without separators and slashes is written in one way. -/
theorem asPath_eq_iff (hs : separator ∉ sign) (hn : '/' ∉ sign) :
    asPath target = sign ↔ target = sign := by
  constructor
  · rintro rfl
    have hslash : '/' ∉ target := fun h => hs (List.mem_map.mpr ⟨'/', h, if_pos rfl⟩)
    exact (asPath_of_unslashed hslash).symm
  · rintro rfl
    exact asPath_of_unslashed hn

theorem hasDrive_cons_cons (c d : Char) (rest : Text) :
    hasDrive (c :: d :: rest) = (d == ':' && c.isAlpha) := by
  by_cases hd : d = ':'
  · subst hd
    rfl
  · unfold hasDrive
    split
    · next heq =>
      obtain ⟨rfl, -⟩ := List.cons.inj (List.cons.inj heq).2
      exact absurd rfl hd
    · rw [beq_false_of_ne hd, Bool.false_and]

/-- Slashes make no difference to the drive. -/
theorem hasDrive_asPath (target : Text) : hasDrive (asPath target) = hasDrive target := by
  match target with
  | [] => rfl
  | [_] => rfl
  | c :: d :: rest =>
    have hcolon : ((if d = '/' then separator else d) == ':') = (d == ':') := by
      split_ifs with hd
      · subst hd
        decide
      · rfl
    have hletter : (if c = '/' then separator else c).isAlpha = c.isAlpha := by
      split_ifs with hc
      · subst hc
        decide
      · rfl
    have hcons : asPath (c :: d :: rest) = (if c = '/' then separator else c) ::
        (if d = '/' then separator else d) :: asPath rest := rfl
    rw [hcons, hasDrive_cons_cons, hasDrive_cons_cons, hcolon, hletter]

/-! ### Where a change of location leads -/

/-- **The places to which a change of location leads.** -/
theorem resolve_cases (current target home : Text) :
    ((asPath target = "~" ∨ asPath target = "$HOME") ∧ resolve current target home = home) ∨
    (hasDrive (asPath target) = true ∧ resolve current target home = asPath target) ∨
    resolve current target home = current ∨ resolve current target home = parent current ∨
    resolve current target home = descend current (asPath target) := by
  by_cases hhome : asPath target = "~" ∨ asPath target = "$HOME"
  · exact Or.inl ⟨hhome, resolve_home hhome current home⟩
  by_cases hdrive : hasDrive (asPath target) = true
  · exact Or.inr (Or.inl ⟨hdrive, resolve_absolute hdrive current home⟩)
  by_cases hhere : asPath target = [] ∨ asPath target = "."
  · exact Or.inr (Or.inr (Or.inl (resolve_here hhere current home)))
  by_cases habove : asPath target = ".."
  · exact Or.inr (Or.inr (Or.inr (Or.inl (resolve_above habove current home))))
  · have hrelative : Relative (asPath target) :=
      ⟨not_or.mp hhome, Bool.eq_false_iff.mpr hdrive, not_or.mp hhere, habove⟩
    exact Or.inr (Or.inr (Or.inr (Or.inr (resolve_relative hrelative current home))))

/-- **A change of location stays on a drive.** -/
theorem resolve_hasDrive (hc : hasDrive current = true) (hh : hasDrive home = true)
    (target : Text) : hasDrive (resolve current target home) = true := by
  obtain ⟨letter, hon⟩ := hasDrive_iff.mp hc
  rcases resolve_cases current target home with ⟨-, h⟩ | ⟨hd, h⟩ | h | h | h <;> rw [h]
  · exact hh
  · exact hd
  · exact hc
  · exact hasDrive_iff.mpr ⟨letter, parent_on hon⟩
  · exact hasDrive_iff.mpr ⟨letter, descend_on hon _⟩

section Characters
variable {Q : Char → Prop}

theorem forall_mem_parent (hs : Q separator) (hc : ∀ c ∈ current, Q c) :
    ∀ c ∈ parent current, Q c := by
  have hroot : ∀ c ∈ driveRoot current, Q c := by
    unfold driveRoot
    split_ifs
    · exact List.forall_mem_append.mpr
        ⟨fun c h => hc c (List.mem_of_mem_take h), List.forall_mem_singleton.mpr hs⟩
    · exact List.forall_mem_singleton.mpr hs
  unfold parent
  dsimp only
  split_ifs
  · exact hroot
  · exact fun c h => hc c ((dropLast_isPrefix current).subset h)

theorem forall_mem_descend (hs : Q separator) (hc : ∀ c ∈ current, Q c)
    (ht : ∀ c ∈ target, Q c) : ∀ c ∈ descend current target, Q c := by
  have hp : trimEnd current <+: current := List.rdropWhile_prefix _ _
  exact List.forall_mem_append.mpr ⟨fun c h => hc c (hp.subset h),
    List.forall_mem_cons.mpr ⟨hs, fun c h => ht c ((trim_isInfix _ target).subset h)⟩⟩

/-- **A change of location brings in no character** but the separator and those of the target, in
which slashes count as separators. -/
theorem forall_mem_resolve (hs : Q separator) (hc : ∀ c ∈ current, Q c) (hh : ∀ c ∈ home, Q c)
    (ht : ∀ c ∈ asPath target, Q c) : ∀ c ∈ resolve current target home, Q c := by
  rcases resolve_cases current target home with ⟨-, h⟩ | ⟨-, h⟩ | h | h | h <;> rw [h]
  · exact hh
  · exact ht
  · exact hc
  · exact forall_mem_parent hs hc
  · exact forall_mem_descend hs hc ht

theorem forall_mem_asPath (hs : Q separator) (ht : ∀ c ∈ target, Q c) :
    ∀ c ∈ asPath target, Q c := by
  refine List.forall_mem_map.mpr fun c hc => ?_
  split_ifs
  · exact hs
  · exact ht c hc

end Characters

/-- **A change of location brings in no slash.** -/
theorem resolve_unslashed (hc : '/' ∉ current) (hh : '/' ∉ home) (target : Text) :
    '/' ∉ resolve current target home := by
  rw [← List.forall_mem_ne] at hc hh ⊢
  exact forall_mem_resolve (by decide) hc hh (List.forall_mem_ne.mpr (unslashed_asPath target))

/-- The target names a place of its own: the home or a path on a drive. -/
def isFixed (target : Text) : Bool := target = "~" || target = "$HOME" || hasDrive target

/-- **Only a target with a place of its own leads to another drive.** -/
theorem resolve_on (hc : On letter current) (ht : isFixed target = false) (home : Text) :
    On letter (resolve current target home) := by
  simp only [isFixed, Bool.or_eq_false_iff, decide_eq_false_iff_not] at ht
  obtain ⟨⟨htilde, hvariable⟩, hdrive⟩ := ht
  rcases resolve_cases current target home with ⟨hhome, -⟩ | ⟨hd, -⟩ | h | h | h
  · rw [asPath_eq_iff (by decide) (by decide), asPath_eq_iff (by decide) (by decide)] at hhome
    exact absurd hhome (not_or.mpr ⟨htilde, hvariable⟩)
  · rw [hasDrive_asPath, hdrive] at hd
    cases hd
  · rw [h]
    exact hc
  · rw [h]
    exact parent_on hc
  · rw [h]
    exact descend_on hc _

/-! ### Going home by its path -/

/-- The path leads to itself from everywhere when it is the home: it is a sign for the home, or on a
drive and without slashes. -/
def Returning (home : Text) : Prop :=
  home = "~" ∨ home = "$HOME" ∨ hasDrive home = true ∧ '/' ∉ home

theorem resolve_of_returning (h : Returning home) (current : Text) :
    resolve current home home = home := by
  rcases h with rfl | rfl | ⟨hd, hn⟩
  · exact resolve_home (Or.inl (by decide)) current _
  · exact resolve_home (Or.inr (by decide)) current _
  · rw [resolve_absolute (by rwa [hasDrive_asPath]), asPath_of_unslashed hn]

/-- **From a drive, the path of the home leads there only if it leads there from everywhere.** -/
theorem returning_of_resolve (hc : On letter current) (h : resolve current home home = home) :
    Returning home := by
  by_cases hf : isFixed home = true
  · simp only [isFixed, Bool.or_eq_true, decide_eq_true_eq] at hf
    rcases hf with (htilde | hvariable) | hd
    · exact Or.inl htilde
    · exact Or.inr (Or.inl hvariable)
    · rw [resolve_absolute (by rwa [hasDrive_asPath])] at h
      exact Or.inr (Or.inr ⟨hd, h ▸ unslashed_asPath home⟩)
  · have hf : isFixed home = false := Bool.eq_false_iff.mpr hf
    have hon := resolve_on hc hf home
    rw [h] at hon
    rw [isFixed, hasDrive_iff.mpr ⟨letter, hon⟩, Bool.or_true] at hf
    cases hf

end CmdletShell.Proofs.Paths.Drives
