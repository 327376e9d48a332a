import CmdletShell.Glob
import Mathlib.Data.List.Infix

/-!
# What a wildcard pattern covers

`Covers` reads a pattern character by character and says which texts it covers as a whole.
`Glob.covers` first reads the pattern into pieces and then tries where each star may end; both come
to the same (`covers_iff`).

The induction is on the bound of the pieces' count, and the pattern is never longer than the bound.
Of several stars in a row the reader keeps one, which covers what all of them do
(`matchPieces_star_star`).
-/

namespace CmdletShell.Proofs.Texts.Wildcards

open CmdletShell.Glob

/-- **The pattern covers the whole text.** -/
inductive Covers : Text → Text → Prop
  /-- Nothing covers nothing. -/
  | nil : Covers [] []
  /-- A star stands for any characters. -/
  | star {pattern text} (front : Text) : Covers pattern text →
      Covers ('*' :: pattern) (front ++ text)
  /-- A question mark stands for one character. -/
  | any {pattern text} (c : Char) : Covers pattern text → Covers ('?' :: pattern) (c :: text)
  /-- Brackets stand for one character of their set. -/
  | set {pattern body after text c} : body? pattern = some (body, after) →
      (setPiece body).accepts c = true → Covers after text → Covers ('[' :: pattern) (c :: text)
  /-- A bracket without a partner stands for itself. -/
  | bracket {pattern text} : body? pattern = none → Covers pattern text →
      Covers ('[' :: pattern) ('[' :: text)
  /-- Any other character stands for itself. -/
  | char {pattern text c} : c ≠ '*' → c ≠ '?' → c ≠ '[' → Covers pattern text →
      Covers (c :: pattern) (c :: text)

variable {pattern body after text : Text} {pieces : List Piece} {piece : Piece} {p : Text → Bool}

/-! ### Stars -/

theorem anyEnd_iff : anyEnd p text = true ↔ ∃ rest, rest <:+ text ∧ p rest = true := by
  induction text with
  | nil => simp [anyEnd]
  | cons c text ih =>
    rw [anyEnd, Bool.or_eq_true, ih]
    simp only [List.suffix_cons_iff, or_and_right, exists_or, exists_eq_left]

/-- What two stars in a row cover one of them does. -/
theorem matchPieces_star_star :
    matchPieces (.star :: .star :: pieces) text = matchPieces (.star :: pieces) text := by
  rw [Bool.eq_iff_iff]
  simp only [matchPieces, anyEnd_iff]
  constructor
  · rintro ⟨rest, hrest, last, hlast, hp⟩
    exact ⟨last, hlast.trans hrest, hp⟩
  · rintro ⟨rest, hrest, hp⟩
    exact ⟨text, List.suffix_rfl, rest, hrest, hp⟩

/-- A star in front of pieces, whether or not the reader keeps it. -/
theorem matchPieces_star (pieces : List Piece) (text : Text) :
    matchPieces (match pieces with
      | .star :: more => .star :: more
      | more => .star :: more) text = anyEnd (matchPieces pieces) text := by
  split
  · exact matchPieces_star_star.symm
  · rfl

/-- A piece for one character takes one character. -/
theorem matchPieces_cons_iff (hne : piece ≠ .star) : matchPieces (piece :: pieces) text = true ↔
    ∃ c rest, text = c :: rest ∧ piece.accepts c = true ∧ matchPieces pieces rest = true := by
  cases piece <;> cases text <;> simp_all [matchPieces]

/-! ### Brackets -/

theorem setPiece_ne_star (body : Text) : setPiece body ≠ .star := by
  unfold setPiece Glob.setOf
  dsimp only
  repeat' split
  all_goals exact Piece.noConfusion

/-- What is behind a pair of brackets is shorter than what is behind the first of them. -/
theorem length_of_body? (h : body? pattern = some (body, after)) :
    after.length < pattern.length := by
  unfold body? at h
  dsimp only at h
  split at h
  · next c behind hdrop =>
    cases h
    -- neither the mark nor a first closing bracket is read twice
    have hsuffix : c :: after <:+ pattern := by
      rw [← hdrop]
      refine (List.dropWhile_suffix _).trans ?_
      split
      · next rest hmark =>
        refine (List.suffix_cons ']' rest).trans ?_
        rw [← hmark]
        split
        · exact List.suffix_cons _ _
        · exact List.suffix_rfl
      · split
        · exact List.suffix_cons _ _
        · exact List.suffix_rfl
    exact hsuffix.length_le
  · cases h

theorem covers_nil_iff : Covers [] text ↔ text = [] :=
  ⟨fun h => by cases h; rfl, fun h => h ▸ .nil⟩

theorem covers_star_iff :
    Covers ('*' :: pattern) text ↔ ∃ rest, rest <:+ text ∧ Covers pattern rest := by
  constructor
  · intro h
    cases h with
    | star front hrest => exact ⟨_, List.suffix_append _ _, hrest⟩
    | char hstar => exact absurd rfl hstar
  · rintro ⟨rest, ⟨front, rfl⟩, hrest⟩
    exact .star front hrest

theorem covers_any_iff :
    Covers ('?' :: pattern) text ↔ ∃ c rest, text = c :: rest ∧ Covers pattern rest := by
  constructor
  · intro h
    cases h with
    | any c hrest => exact ⟨c, _, rfl, hrest⟩
    | char _ hany => exact absurd rfl hany
  · rintro ⟨c, rest, rfl, hrest⟩
    exact .any c hrest

theorem covers_set_iff (h : body? pattern = some (body, after)) : Covers ('[' :: pattern) text ↔
    ∃ c rest, text = c :: rest ∧ (setPiece body).accepts c = true ∧ Covers after rest := by
  constructor
  · intro hc
    cases hc with
    | set hbody haccepts hrest =>
      cases h.symm.trans hbody
      exact ⟨_, _, rfl, haccepts, hrest⟩
    | bracket hbody => cases h.symm.trans hbody
    | char _ _ hbracket => exact absurd rfl hbracket
  · rintro ⟨c, rest, rfl, haccepts, hrest⟩
    exact .set h haccepts hrest

theorem covers_bracket_iff (h : body? pattern = none) :
    Covers ('[' :: pattern) text ↔ ∃ rest, text = '[' :: rest ∧ Covers pattern rest := by
  constructor
  · intro hc
    cases hc with
    | set hbody => cases h.symm.trans hbody
    | bracket _ hrest => exact ⟨_, rfl, hrest⟩
    | char _ _ hbracket => exact absurd rfl hbracket
  · rintro ⟨rest, rfl, hrest⟩
    exact .bracket h hrest

theorem covers_char_iff {c : Char} (hstar : c ≠ '*') (hany : c ≠ '?') (hbracket : c ≠ '[') :
    Covers (c :: pattern) text ↔ ∃ rest, text = c :: rest ∧ Covers pattern rest := by
  constructor
  · intro hc
    cases hc with
    | char _ _ _ hrest => exact ⟨_, rfl, hrest⟩
    | star => exact absurd rfl hstar
    | any => exact absurd rfl hany
    | set => exact absurd rfl hbracket
    | bracket => exact absurd rfl hbracket
  · rintro ⟨rest, rfl, hrest⟩
    exact .char hstar hany hbracket hrest

/-! ### Reading and covering -/

/-- A character that stands for itself takes itself. -/
theorem matchPieces_char_iff {c : Char} : matchPieces (.char c :: pieces) text = true ↔
    ∃ rest, text = c :: rest ∧ matchPieces pieces rest = true := by
  rw [matchPieces_cons_iff (by simp)]
  simp only [Piece.accepts, beq_iff_eq]
  constructor
  · rintro ⟨d, rest, rfl, rfl, h⟩
    exact ⟨rest, rfl, h⟩
  · rintro ⟨rest, rfl, h⟩
    exact ⟨c, rest, rfl, rfl, h⟩

/-- **Reading into pieces and covering come to the same**, if the bound is long enough. -/
theorem matchPieces_parseFrom : ∀ {bound : Nat} {pattern text : Text}, pattern.length ≤ bound →
    (matchPieces (parseFrom bound pattern) text = true ↔ Covers pattern text)
  | bound, [], text, _ => by
    have hread : parseFrom bound [] = [] := by cases bound <;> rfl
    rw [hread, covers_nil_iff, matchPieces, List.isEmpty_iff]
  | 0, c :: pattern, text, h => absurd h (Nat.not_succ_le_zero _)
  | bound + 1, c :: pattern, text, h => by
    have hrest : pattern.length ≤ bound := Nat.le_of_succ_le_succ h
    have ih : ∀ {text : Text},
        matchPieces (parseFrom bound pattern) text = true ↔ Covers pattern text :=
      matchPieces_parseFrom hrest
    rw [parseFrom]
    split_ifs with hstar hany hbracket
    · subst hstar
      refine (Bool.eq_iff_iff.mp (matchPieces_star (parseFrom bound pattern) text)).trans ?_
      rw [anyEnd_iff, covers_star_iff]
      simp only [ih]
    · subst hany
      rw [matchPieces_cons_iff (by simp), covers_any_iff]
      simp only [Piece.accepts, true_and, ih]
    · subst hbracket
      cases hbody : body? pattern with
      | none =>
        dsimp only
        rw [matchPieces_char_iff, covers_bracket_iff hbody]
        simp only [ih]
      | some found =>
        obtain ⟨body, after⟩ := found
        have hafter : after.length ≤ bound := (length_of_body? hbody).le.trans hrest
        dsimp only
        rw [matchPieces_cons_iff (setPiece_ne_star body), covers_set_iff hbody]
        simp only [matchPieces_parseFrom hafter]
    · rw [matchPieces_char_iff, covers_char_iff hstar hany hbracket]
      simp only [ih]

/-- **A pattern is read as what it covers.** -/
theorem covers_iff : Glob.covers pattern text = true ↔ Covers pattern text :=
  matchPieces_parseFrom le_rfl

/-- A star in the middle, a set with a range, and brackets that have no partner. -/
example : Glob.covers "p*[a-c]?[" "paxb9[" = true ∧ Glob.covers "p*[a-c]?[" "paxd9[" = false := by
  decide

end CmdletShell.Proofs.Texts.Wildcards
