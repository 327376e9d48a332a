import CmdletShell.Argument.Flag
import CmdletShell.Proofs.Texts.Case

/-!
# Tokens that spell flags

A flag is a dash with ASCII letters after it, and is spelled in any letter case (`Spells`). A token
that spells a flag and goes on with a colon or a space, or does not go on, mentions this flag
(`mention_self`) and no other, not even one that begins like it (`mention_other`). A token that does
not begin with a dash mentions none (`mention_of_head?_ne`).
-/

namespace CmdletShell.Proofs.Arguments.Flags

open CmdletShell.Argument CmdletShell.Text CmdletShell.Proofs.Texts.Case

/-- The text is a dash with ASCII letters after it. -/
structure IsFlagName (flag : Text) : Prop where
  dash : flag.head? = some '-'
  ne_nil : flag.tail ≠ []
  isAlpha : ∀ c ∈ flag.tail, c.isAlpha = true

instance : DecidablePred IsFlagName := fun flag =>
  decidable_of_iff (flag.head? = some '-' ∧ flag.tail ≠ [] ∧ flag.tail.all Char.isAlpha = true)
    ⟨fun h => ⟨h.1, h.2.1, List.all_eq_true.mp h.2.2⟩,
      fun h => ⟨h.1, h.2, List.all_eq_true.mpr h.3⟩⟩

/-- The text is the flag in some letter case. -/
def Spells (flag spelling : Text) : Prop := lower spelling = lower flag

variable {flag other spelling rest token : Text}

theorem IsFlagName.eq_cons (h : IsFlagName flag) :
    ∃ letters, flag = '-' :: letters ∧ letters ≠ [] ∧ ∀ c ∈ letters, c.isAlpha = true := by
  cases flag with
  | nil => exact absurd rfl h.ne_nil
  | cons c letters =>
    have hc : c = '-' := Option.some.inj h.dash
    exact ⟨letters, by rw [hc], h.ne_nil, h.isAlpha⟩

theorem IsFlagName.ascii (h : IsFlagName flag) : ∀ c ∈ flag, c.toNat < 128 := by
  obtain ⟨letters, rfl, -, ha⟩ := h.eq_cons
  refine List.forall_mem_cons.mpr ⟨by decide, fun c hc => ?_⟩
  exact toNat_lt_of_isAlpha (ha c hc)

/-- The lower case of a flag is a flag of the same length. -/
theorem IsFlagName.lower (h : IsFlagName flag) :
    IsFlagName (Text.lower flag) ∧ (Text.lower flag).length = flag.length := by
  have hl := lower_of_plain (plain_of_ascii h.ascii)
  refine ⟨?_, by rw [hl, List.length_map]⟩
  obtain ⟨letters, rfl, hne, ha⟩ := h.eq_cons
  have hdash : lowerChar '-' = '-' := lowerChar_eq_dash.mpr rfl
  rw [List.map_cons, hdash] at hl
  rw [hl]
  refine ⟨rfl, fun hnil => hne (List.map_eq_nil_iff.mp hnil), fun c hc => ?_⟩
  obtain ⟨d, hd, rfl⟩ := List.mem_map.mp hc
  exact lowerChar_isAlpha (ha d hd)

theorem Spells.plain (h : Spells flag spelling) (hf : IsFlagName flag) : Plain spelling :=
  plain_of_lower fun d hd => hf.lower.1.ascii d (h ▸ hd)

theorem Spells.map_lowerChar (h : Spells flag spelling) (hf : IsFlagName flag) :
    spelling.map lowerChar = lower flag :=
  (lower_of_plain (h.plain hf)).symm.trans h

theorem Spells.length_eq (h : Spells flag spelling) (hf : IsFlagName flag) :
    spelling.length = flag.length := by
  rw [← hf.lower.2, ← h.map_lowerChar hf, List.length_map]

/-- A spelling begins with the dash itself. -/
theorem Spells.eq_cons (h : Spells flag spelling) (hf : IsFlagName flag) :
    ∃ c tail, spelling = '-' :: c :: tail := by
  obtain ⟨letters, hl, hne, -⟩ := hf.lower.1.eq_cons
  have hmap := h.map_lowerChar hf
  rw [hl] at hmap
  rcases spelling with _ | ⟨d, _ | ⟨c, tail⟩⟩
  · cases hmap
  · exact absurd (List.cons.inj hmap).2.symm hne
  · obtain rfl := lowerChar_eq_dash.mp (List.cons.inj hmap).1
    exact ⟨c, tail, rfl⟩

/-- By which one flag is longer than another is letters. -/
theorem isAlpha_of_lower_append {c : Char} {more : Text} (hf : IsFlagName flag)
    (ho : IsFlagName other) (h : lower other ++ c :: more = lower flag) : c.isAlpha = true := by
  obtain ⟨letters, hl, -, ha⟩ := hf.lower.1.eq_cons
  obtain ⟨letters', hl', -⟩ := ho.lower.1.eq_cons
  rw [hl, hl', List.cons_append] at h
  refine ha c ?_
  rw [← (List.cons.inj h).2]
  simp

/-! ### What a token says about a flag -/

/-- What follows a flag in its token, if anything does, begins with a colon or a space. -/
def Closes (rest : Text) : Prop := ∀ c ∈ rest.head?, c = ':' ∨ c = ' '

theorem head?_lowerFrom (h : Closes rest) (cased : Bool) :
    ∀ c ∈ (lowerFrom cased rest).head?, c = ':' ∨ c = ' ' := by
  cases rest with
  | nil => exact fun c hc => by cases hc
  | cons d rest =>
    rcases h d rfl with rfl | rfl
    · intro c hc
      cases hc
      exact Or.inl (by decide)
    · intro c hc
      cases hc
      exact Or.inr (by decide)

theorem ofRest_cons {c : Char} (hs : c ≠ ' ') (hc : c ≠ ':') (rest : Text) :
    Mention.ofRest (c :: rest) = .other := by
  unfold Mention.ofRest
  split
  · next heq => cases heq
  · next heq => exact absurd (List.cons.inj heq).1 hs
  · next heq => exact absurd (List.cons.inj heq).1 hc
  · rfl

/-- **A token that spells the flag** says what stands behind the flag. -/
theorem mention_self (h : Spells flag spelling) (hf : IsFlagName flag) (rest : Text) :
    mention flag (spelling ++ rest) = Mention.ofRest rest := by
  obtain ⟨cased, hl⟩ := lower_append (h.plain hf) rest
  rw [h.map_lowerChar hf] at hl
  have hp : (lower flag).isPrefixOf (lower (spelling ++ rest)) = true := by
    rw [List.isPrefixOf_iff_prefix, hl]
    exact List.prefix_append _ _
  rw [mention, if_pos hp, List.drop_left' (h.length_eq hf)]

/-- **A token that spells a flag and ends it** says nothing about another. -/
theorem mention_other (h : Spells flag spelling) (hf : IsFlagName flag) (ho : IsFlagName other)
    (hne : lower other ≠ lower flag) (hc : Closes rest) :
    mention other (spelling ++ rest) = .other := by
  obtain ⟨cased, hl⟩ := lower_append (h.plain hf) rest
  have hmap := h.map_lowerChar hf
  rw [hmap] at hl
  unfold mention
  split_ifs with hp
  · rw [List.isPrefixOf_iff_prefix, hl] at hp
    rcases List.prefix_or_prefix_of_prefix hp (List.prefix_append _ _) with
      ⟨_ | ⟨c, more⟩, hmore⟩ | ⟨_ | ⟨c, more⟩, hmore⟩
    · exact absurd (by simpa using hmore) hne
    · -- the flag is longer than the other, so a letter follows
      have hca := isAlpha_of_lower_append hf ho hmore
      rw [← hmore] at hmap
      obtain ⟨front, back, rfl, hfront, hback⟩ := List.map_eq_append_iff.mp hmap
      obtain ⟨d, tail, rfl, rfl, -⟩ := List.map_eq_cons_iff.mp hback
      have hlen : front.length = other.length := by
        rw [← ho.lower.2, ← hfront, List.length_map]
      rw [List.append_assoc, List.drop_left' hlen, List.cons_append]
      refine ofRest_cons ?_ ?_ _
      · rintro rfl
        exact absurd hca (by decide)
      · rintro rfl
        exact absurd hca (by decide)
    · exact absurd (by simpa using hmore.symm) hne
    · -- the other flag is longer, and would have what closes this one in it
      have hca := isAlpha_of_lower_append ho hf hmore
      rw [← hmore, List.prefix_append_right_inj] at hp
      obtain ⟨behind, hbehind⟩ := hp
      rcases head?_lowerFrom hc cased c (by rw [← hbehind]; rfl) with rfl | rfl
      · exact absurd hca (by decide)
      · exact absurd hca (by decide)
  · rfl

/-- A token without a dash at its start mentions no flag. -/
theorem mention_of_head?_ne (hf : IsFlagName flag) (h : token.head? ≠ some '-') :
    mention flag token = .other := by
  unfold mention
  split_ifs with hp
  · rw [List.isPrefixOf_iff_prefix] at hp
    obtain ⟨behind, hbehind⟩ := hp
    obtain ⟨letters, hl, -⟩ := hf.lower.1.eq_cons
    refine absurd (head?_lower_eq_dash.mp ?_) h
    rw [← hbehind, hl]
    rfl
  · rfl

end CmdletShell.Proofs.Arguments.Flags
