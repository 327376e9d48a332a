import CmdletShell.Text.Similarity
import Mathlib.Data.List.Infix

/-!
# The similarity of texts

A block that is found stands in both texts (`Common`), so the blocks put together are a common
subsequence (`exists_common`). Hence no score is above one, and only a text itself has the score one
(`eq_of_part_eq_whole`).

It does have it (`similarity_self`), even if some of its characters start no block: compared with
itself, the block that is found first stands at the same place in both (`scanFirst_self`), and
growing makes it the whole text.
-/

namespace CmdletShell.Proofs.Texts.Similarity

open CmdletShell.Text

variable {ignored : List Char} {a b part front rest : Text} {block best : Block} {i : Nat}

/-! ### Common starts -/

/-- A common start stands at the start of both texts. -/
theorem exists_commonRun (ignored : List Char) (a b : Text) : ∃ run more more',
    a = run ++ more ∧ b = run ++ more' ∧ run.length = commonRun ignored a b := by
  fun_induction commonRun ignored a b with
  | case1 c as d bs h ih =>
    obtain ⟨rfl, -⟩ : c = d ∧ _ := by simpa using h
    obtain ⟨run, more, more', rfl, rfl, hlength⟩ := ih
    exact ⟨c :: run, more, more', rfl, rfl, by rw [List.length_cons, hlength]⟩
  | case2 c as d bs => exact ⟨[], c :: as, d :: bs, rfl, rfl, rfl⟩
  | case3 a b => exact ⟨[], a, b, rfl, rfl, rfl⟩

/-- A common start of the reversed texts is a common end. -/
theorem exists_commonEnd (ignored : List Char) (a b : Text) : ∃ more more' run,
    a = more ++ run ∧ b = more' ++ run ∧
      run.length = commonRun ignored a.reverse b.reverse := by
  obtain ⟨run, more, more', ha, hb, hlength⟩ := exists_commonRun ignored a.reverse b.reverse
  refine ⟨more.reverse, more'.reverse, run.reverse, ?_, ?_, ?_⟩
  · rw [← List.reverse_append, ← ha, List.reverse_reverse]
  · rw [← List.reverse_append, ← hb, List.reverse_reverse]
  · rw [List.length_reverse, hlength]

theorem commonRun_comm (ignored : List Char) (a b : Text) :
    commonRun ignored a b = commonRun ignored b a := by
  fun_induction commonRun ignored a b with
  | case1 c as d bs h ih =>
    obtain ⟨rfl, -⟩ : c = d ∧ _ := by simpa using h
    rw [commonRun, if_pos h, ih]
  | case2 c as d bs h =>
    have hne : ¬ (d = c && !ignored.contains d) = true := by
      intro hd
      obtain ⟨rfl, -⟩ : d = c ∧ _ := by simpa using hd
      exact h hd
    rw [commonRun, if_neg hne]
  | case3 a b h =>
    cases a with
    | nil => cases b <;> rfl
    | cons c as =>
      cases b with
      | nil => rfl
      | cons d bs => exact absurd rfl (h c as d bs rfl)

/-- A text has its longest common start with itself. -/
theorem commonRun_le_self (ignored : List Char) (a b : Text) :
    commonRun ignored a b ≤ commonRun ignored a a := by
  fun_induction commonRun ignored a b with
  | case1 c as d bs h ih =>
    obtain ⟨rfl, -⟩ : c = d ∧ _ := by simpa using h
    rw [commonRun, if_pos h]
    exact Nat.succ_le_succ ih
  | case2 => exact Nat.zero_le _
  | case3 => exact Nat.zero_le _

theorem commonRun_self : ∀ a : Text, commonRun [] a a = a.length
  | [] => rfl
  | c :: a => by
    rw [commonRun, if_pos (by simp), commonRun_self a, List.length_cons]

/-! ### Blocks -/

/-- The text has a part at a place. -/
def Stands (text part : Text) (i : Nat) : Prop :=
  ∃ before after, text = before ++ part ++ after ∧ before.length = i

theorem Stands.take_length (h : Stands a part i) : (a.take i).length = i := by
  obtain ⟨before, after, rfl, rfl⟩ := h
  rw [List.append_assoc, List.take_left]

/-- What stands before the part, the part, and what stands after it are the text. -/
theorem Stands.split (h : Stands a part i) :
    a = a.take i ++ part ++ a.drop (i + part.length) := by
  obtain ⟨before, after, rfl, rfl⟩ := h
  rw [← List.length_append, List.drop_left, List.append_assoc, List.take_left, List.append_assoc]

/-- The part may be made longer by what stands at its ends. -/
theorem Stands.grow {more run tail rest : Text} (h : Stands a part i)
    (hbefore : a.take i = more ++ run) (hafter : a.drop (i + part.length) = tail ++ rest) :
    Stands a (run ++ part ++ tail) (i - run.length) := by
  have hlength := h.take_length
  have hsplit := h.split
  rw [hbefore, List.length_append] at hlength
  rw [hbefore, hafter] at hsplit
  exact ⟨more, rest, by rw [hsplit]; simp only [List.append_assoc],
    Nat.eq_sub_of_add_eq hlength⟩

/-- **The block stands in both texts.** -/
def Common (a b : Text) (block : Block) : Prop :=
  ∃ part, Stands a part block.first ∧ Stands b part block.second ∧ part.length = block.size

theorem common_empty (a b : Text) : Common a b ⟨0, 0, 0⟩ :=
  ⟨[], ⟨[], a, rfl, rfl⟩, ⟨[], b, rfl, rfl⟩, rfl⟩

/-- A common start of the rests of two texts is a block. -/
theorem common_of_commonRun (before before' : Text) :
    Common (before ++ a) (before' ++ b)
      ⟨before.length, before'.length, commonRun ignored a b⟩ := by
  obtain ⟨run, more, more', ha, hb, hlength⟩ := exists_commonRun ignored a b
  exact ⟨run, ⟨before, more, by rw [ha, List.append_assoc], rfl⟩,
    ⟨before', more', by rw [hb, List.append_assoc], rfl⟩, hlength⟩

theorem scanSecond_common (before before' : Text) (h : Common (before ++ a) (before' ++ b) best) :
    Common (before ++ a) (before' ++ b)
      (scanSecond ignored a before.length b before'.length best) := by
  induction b generalizing before' best with
  | nil => exact h
  | cons c b ih =>
    have hsplit : before' ++ c :: b = (before' ++ [c]) ++ b := by simp
    have hlength : before'.length + 1 = (before' ++ [c]).length := by simp
    rw [scanSecond, hlength, hsplit]
    refine ih (before' ++ [c]) ?_
    rw [← hsplit]
    split_ifs
    · exact common_of_commonRun before before'
    · exact h

theorem scanFirst_common (before : Text) (h : Common (before ++ a) b best) :
    Common (before ++ a) b (scanFirst ignored b a before.length best) := by
  induction a generalizing before best with
  | nil => exact h
  | cons c a ih =>
    have hsplit : before ++ c :: a = (before ++ [c]) ++ a := by simp
    have hlength : before.length + 1 = (before ++ [c]).length := by simp
    rw [scanFirst, hlength, hsplit]
    refine ih (before ++ [c]) ?_
    rw [← hsplit]
    exact scanSecond_common before [] h

/-- Growing keeps a block in both texts: it takes the end that the parts before it share, and the
start that the parts after it share. -/
theorem growBlock_common (h : Common a b block) : Common a b (growBlock a b block) := by
  obtain ⟨part, hfirst, hsecond, hsize⟩ := h
  obtain ⟨more, more', run, hbefore, hbefore', hleft⟩ :=
    exists_commonEnd [] (a.take block.first) (b.take block.second)
  obtain ⟨tail, rest, rest', hafter, hafter', hright⟩ :=
    exists_commonRun [] (a.drop (block.first + block.size)) (b.drop (block.second + block.size))
  rw [growBlock, ← hleft, ← hright, ← hsize]
  rw [← hsize] at hafter hafter'
  refine ⟨run ++ part ++ tail, hfirst.grow hbefore hafter, hsecond.grow hbefore' hafter', ?_⟩
  rw [List.length_append, List.length_append]

theorem longestBlock_common (ignored : List Char) (a b : Text) :
    Common a b (longestBlock ignored a b) :=
  growBlock_common (scanFirst_common [] (common_empty a b))

/-! ### Common subsequences -/

/-- **The common blocks, put together, are a common subsequence.** By induction on the number of
blocks; what stands before a block and what stands after it have subsequences of their own. -/
theorem exists_common (ignored : List Char) : ∀ (fuel : Nat) (a b : Text),
    ∃ common : Text, common.Sublist a ∧ common.Sublist b ∧
      common.length = blockSizeWithin ignored fuel a b
  | 0, a, b => ⟨[], List.nil_sublist a, List.nil_sublist b, rfl⟩
  | fuel + 1, a, b => by
    rw [blockSizeWithin]
    split_ifs
    · exact ⟨[], List.nil_sublist a, List.nil_sublist b, rfl⟩
    · obtain ⟨part, hfirst, hsecond, hsize⟩ := longestBlock_common ignored a b
      generalize longestBlock ignored a b = block at *
      obtain ⟨left, hleft, hleft', hlength⟩ :=
        exists_common ignored fuel (a.take block.first) (b.take block.second)
      obtain ⟨right, hright, hright', hlength'⟩ := exists_common ignored fuel
        (a.drop (block.first + block.size)) (b.drop (block.second + block.size))
      rw [← hsize] at hright hright' hlength' ⊢
      refine ⟨left ++ part ++ right, ?_, ?_, ?_⟩
      · rw [hfirst.split]
        exact (hleft.append (List.Sublist.refl part)).append hright
      · rw [hsecond.split]
        exact (hleft'.append (List.Sublist.refl part)).append hright'
      · rw [List.length_append, List.length_append, hlength, hlength']

theorem exists_common_blockSize (a b : Text) : ∃ common : Text,
    common.Sublist a ∧ common.Sublist b ∧ common.length = blockSize a b :=
  exists_common (popular b) a.length a b

theorem blockSize_le (a b : Text) : blockSize a b ≤ a.length ∧ blockSize a b ≤ b.length := by
  obtain ⟨common, ha, hb, hlength⟩ := exists_common_blockSize a b
  rw [← hlength]
  exact ⟨ha.length_le, hb.length_le⟩

/-- Only a text itself has all its characters in common blocks. -/
theorem eq_of_blockSize (ha : blockSize a b = a.length) (hb : blockSize a b = b.length) :
    a = b := by
  obtain ⟨common, hsub, hsub', hlength⟩ := exists_common_blockSize a b
  have hfirst : common = a := hsub.eq_of_length (hlength.trans ha)
  have hsecond : common = b := hsub'.eq_of_length (hlength.trans hb)
  exact hfirst.symm.trans hsecond

/-! ### A text and itself -/

/-- A block that is at least as long as all in a row is kept. -/
theorem scanSecond_eq_self (h : ∀ text, text <:+ b → commonRun ignored a text ≤ best.size)
    (i j : Nat) : scanSecond ignored a i b j best = best := by
  induction b generalizing j with
  | nil => rfl
  | cons c b ih =>
    rw [scanSecond, if_neg (not_lt.mpr (h _ List.suffix_rfl))]
    exact ih (fun text ht => h text (ht.trans (List.suffix_cons c b))) (j + 1)

/-- The places of a row that have no longer block can be left out. -/
theorem scanSecond_skip (h : ∀ text, text <:+ front ++ b → b.length < text.length →
      commonRun ignored a text ≤ best.size) (i j : Nat) :
    scanSecond ignored a i (front ++ b) j best =
      scanSecond ignored a i b (j + front.length) best := by
  induction front generalizing j with
  | nil => rfl
  | cons c front ih =>
    have hc : commonRun ignored a (c :: (front ++ b)) ≤ best.size :=
      h _ List.suffix_rfl (by rw [List.length_cons, List.length_append]; omega)
    rw [List.cons_append, scanSecond, if_neg (not_lt.mpr hc),
      ih fun text ht => h text (ht.trans (List.suffix_cons c _)), List.length_cons]
    congr 1
    omega

/-- The block stands at the same place in both texts, and is at least as long as all that begin
before a rest of the first text. -/
structure Diagonal (ignored : List Char) (text rest : Text) (best : Block) : Prop where
  same : best.first = best.second
  longest : ∀ first second, first <:+ text → second <:+ text → rest.length < first.length →
    commonRun ignored first second ≤ best.size

/-- **In the row of a place only the place itself counts**: at an earlier place of the second text
there is no longer block, since it would be one of an earlier row, and at a later place there is
none longer than at the place itself. -/
theorem scanSecond_self {c : Char} {text : Text} (ht : text = front ++ c :: rest)
    (h : Diagonal ignored text (c :: rest) best) :
    scanSecond ignored (c :: rest) front.length text 0 best =
      if best.size < commonRun ignored (c :: rest) (c :: rest) then
        ⟨front.length, front.length, commonRun ignored (c :: rest) (c :: rest)⟩
      else best := by
  have hsuffix : c :: rest <:+ text := ⟨front, ht.symm⟩
  have hearlier : ∀ second, second <:+ front ++ c :: rest → (c :: rest).length < second.length →
      commonRun ignored (c :: rest) second ≤ best.size := by
    intro second hs hlong
    rw [commonRun_comm]
    exact h.longest second (c :: rest) (ht ▸ hs) hsuffix hlong
  have hskip := scanSecond_skip hearlier front.length 0
  rw [← ht, Nat.zero_add] at hskip
  rw [hskip, scanSecond]
  refine scanSecond_eq_self (fun second _ => ?_) _ _
  have hself := commonRun_le_self ignored (c :: rest) second
  split_ifs with hlt
  · exact hself
  · exact hself.trans (not_lt.mp hlt)

theorem Diagonal.next {c : Char} {text : Text} (ht : text = front ++ c :: rest)
    (h : Diagonal ignored text (c :: rest) best) :
    Diagonal ignored text rest (scanSecond ignored (c :: rest) front.length text 0 best) := by
  rw [scanSecond_self ht h]
  constructor
  · split_ifs
    · rfl
    · exact h.same
  · intro first second hf hs hlong
    have hrow : c :: rest <:+ text := ⟨front, ht.symm⟩
    by_cases hlength : first.length = (c :: rest).length
    · have heq : first = c :: rest :=
        (List.suffix_of_suffix_length_le hf hrow hlength.le).eq_of_length hlength
      have hself := commonRun_le_self ignored (c :: rest) second
      rw [heq]
      split_ifs with hlt
      · exact hself
      · exact hself.trans (not_lt.mp hlt)
    · have hlonger : (c :: rest).length < first.length := by
        rw [List.length_cons] at hlength ⊢
        omega
      have hle := h.longest first second hf hs hlonger
      split_ifs with hlt
      · exact hle.trans hlt.le
      · exact hle

theorem scanFirst_self {text : Text} : ∀ (rest front : Text) {best : Block},
    text = front ++ rest → Diagonal ignored text rest best →
    (scanFirst ignored text rest front.length best).first =
      (scanFirst ignored text rest front.length best).second
  | [], _, _, _, h => h.same
  | c :: rest, front, best, ht, h => by
    have hsplit : text = (front ++ [c]) ++ rest := by rw [ht]; simp
    have hlength : front.length + 1 = (front ++ [c]).length := by simp
    rw [scanFirst, hlength]
    exact scanFirst_self rest (front ++ [c]) hsplit (h.next ht)

/-- A block that stands at the same place grows to both ends. -/
theorem growBlock_self {text : Text} (hs : block.first = block.second)
    (h : Common text text block) : growBlock text text block = ⟨0, 0, text.length⟩ := by
  obtain ⟨part, hfirst, -, hsize⟩ := h
  have hsplit := congrArg List.length hfirst.split
  rw [List.length_append, List.length_append, hfirst.take_length, hsize] at hsplit
  rw [growBlock, ← hs, commonRun_self, commonRun_self, List.length_reverse, hfirst.take_length,
    Nat.sub_self, ← hsplit]

/-- **The longest block of a text and itself is the text.** -/
theorem longestBlock_self (ignored : List Char) (text : Text) :
    longestBlock ignored text text = ⟨0, 0, text.length⟩ := by
  have hstart : Diagonal ignored text text ⟨0, 0, 0⟩ :=
    ⟨rfl, fun first _ hf _ hlong => absurd hf.length_le (not_le.mpr hlong)⟩
  exact growBlock_self (scanFirst_self text [] rfl hstart)
    (scanFirst_common [] (common_empty text text))

theorem blockSizeWithin_nil (ignored : List Char) (fuel : Nat) :
    blockSizeWithin ignored fuel [] [] = 0 := by
  obtain ⟨common, hsub, -, hlength⟩ := exists_common ignored fuel [] []
  rw [← hlength, List.sublist_nil.mp hsub]
  rfl

theorem blockSize_self (text : Text) : blockSize text text = text.length := by
  unfold blockSize
  cases text with
  | nil => rfl
  | cons c text =>
    rw [List.length_cons, blockSizeWithin, longestBlock_self]
    dsimp only
    rw [if_neg (by simp), Nat.zero_add, List.drop_length, List.take_zero, blockSizeWithin_nil]
    simp

/-! ### Scores -/

theorem similarity_whole_pos (a b : Text) : 0 < (similarity a b).whole := by
  unfold similarity
  split_ifs with h
  · exact Nat.one_pos
  · exact Nat.pos_of_ne_zero h

/-- No score is above one. -/
theorem similarity_part_le (a b : Text) : (similarity a b).part ≤ (similarity a b).whole := by
  obtain ⟨ha, hb⟩ := blockSize_le a b
  unfold similarity
  split_ifs
  · exact le_rfl
  · dsimp only
    omega

/-- **A text itself has the score one.** -/
theorem similarity_self (text : Text) :
    (similarity text text).part = (similarity text text).whole := by
  unfold similarity
  split_ifs
  · rfl
  · dsimp only
    rw [blockSize_self]
    omega

/-- **Only a text itself has the score one.** -/
theorem eq_of_part_eq_whole (h : (similarity a b).part = (similarity a b).whole) : a = b := by
  obtain ⟨ha, hb⟩ := blockSize_le a b
  unfold similarity at h
  split_ifs at h with hempty
  · rw [List.length_eq_zero_iff.mp (by omega : a.length = 0),
      List.length_eq_zero_iff.mp (by omega : b.length = 0)]
  · dsimp only at h
    exact eq_of_blockSize (by omega) (by omega)

end CmdletShell.Proofs.Texts.Similarity
