import CmdletShell.Proofs.Completions.Matching

/-!
# The order of the words that match

The words of a list that match are ordered by their best matches: by the place of the match, then by
its length, then by the place of the word in the list (`Hit.Before`). `choose` gives exactly the
words that match, once for each place in the list, and in that order (`exists_ranked`); there is
only one such list (`Ranked.unique`).

Sorting leaves elements in order that it does not tell apart: `pairwise_mergeSort_stable`.
-/

namespace CmdletShell.Proofs.Completions.Ranking

open CmdletShell.Completion CmdletShell.Proofs.Completions.Matching

variable {typed word : Text} {words : List Text} {found : Match}

/-! ### Sorting -/

section Stable
variable {α : Type} {le : α → α → Bool} {r : α → α → Prop} {l : List α}

/-- **Sorting keeps the order of elements** that compare both ways. -/
theorem pairwise_mergeSort_stable (trans : ∀ a b c, le a b = true → le b c = true → le a c = true)
    (total : ∀ a b, (le a b || le b a) = true) (h : l.Pairwise r) :
    (l.mergeSort le).Pairwise fun a b => le a b = true ∧ (le b a = true → r a b) := by
  -- the elements with their places, sorted by both
  have hsorted := List.pairwise_mergeSort (List.zipIdxLE_trans trans) (List.zipIdxLE_total total)
    l.zipIdx
  have hplaces : (l.zipIdx.mergeSort (List.zipIdxLE le)).Pairwise fun a b => a.2 ≠ b.2 := by
    rw [(List.mergeSort_perm _ _).pairwise_iff fun hne => hne.symm, ← List.pairwise_map,
      List.zipIdx_map_snd]
    exact List.nodup_range'
  rw [← List.mergeSort_zipIdx, List.pairwise_map]
  refine (hsorted.and hplaces).imp_of_mem ?_
  rintro ⟨a, i⟩ ⟨b, j⟩ ha hb ⟨hle, hne⟩
  have hi := List.mem_zipIdx_iff_getElem?.mp (List.mem_mergeSort.mp ha)
  have hj := List.mem_zipIdx_iff_getElem?.mp (List.mem_mergeSort.mp hb)
  dsimp only at hi hj hne ⊢
  obtain ⟨hilen, rfl⟩ := List.getElem?_eq_some_iff.mp hi
  obtain ⟨hjlen, rfl⟩ := List.getElem?_eq_some_iff.mp hj
  unfold List.zipIdxLE at hle
  split_ifs at hle with hab hba
  · refine ⟨hab, fun _ => List.pairwise_iff_getElem.mp h i j hilen hjlen ?_⟩
    exact Nat.lt_of_le_of_ne (of_decide_eq_true hle) hne
  · exact ⟨hab, fun hba' => absurd hba' hba⟩

end Stable

theorem le_trans (a b c : Match) (hab : a.le b = true) (hbc : b.le c = true) :
    a.le c = true := by
  rw [le_iff] at *
  omega

theorem le_total (a b : Match) : (a.le b || b.le a) = true := by
  rw [Bool.or_eq_true, le_iff, le_iff]
  omega

/-! ### Hits -/

/-- A word of a list with its best match. -/
structure Hit where
  /-- The place of the word in the list. -/
  place : Nat
  /-- The word. -/
  word : Text
  /-- Its best match. -/
  found : Match

/-- The order of hits: by the place of the match, its length, and the place of the word. -/
def Hit.Before (a b : Hit) : Prop :=
  a.found.start < b.found.start ∨ a.found.start = b.found.start ∧
    (a.found.size < b.found.size ∨ a.found.size = b.found.size ∧ a.place < b.place)

/-- **The words of a list that match what is typed**, each with its best match, in order. -/
structure Ranked (typed : Text) (words : List Text) (hits : List Hit) : Prop where
  mem_iff : ∀ hit, hit ∈ hits ↔
    words[hit.place]? = some hit.word ∧ Best typed hit.word hit.found
  sorted : hits.Pairwise Hit.Before

/-- The hits in the order of the words. -/
def hitsOf (typed : Text) (words : List Text) : List Hit :=
  words.zipIdx.filterMap fun entry =>
    (Match.find? typed entry.1).map fun found => ⟨entry.2, entry.1, found⟩

theorem mem_hitsOf (hline : '\n' ∉ typed) {hit : Hit} : hit ∈ hitsOf typed words ↔
    words[hit.place]? = some hit.word ∧ Best typed hit.word hit.found := by
  rw [hitsOf, List.mem_filterMap, ← find?_eq_some_iff hline]
  constructor
  · rintro ⟨⟨word, place⟩, hmem, hsome⟩
    obtain ⟨found, hfound, rfl⟩ := Option.map_eq_some_iff.mp hsome
    exact ⟨List.mem_zipIdx_iff_getElem?.mp hmem, hfound⟩
  · rintro ⟨hword, hfound⟩
    exact ⟨(hit.word, hit.place), List.mem_zipIdx_iff_getElem?.mpr hword, by rw [hfound]; rfl⟩

theorem pairwise_hitsOf (typed : Text) (words : List Text) :
    (hitsOf typed words).Pairwise fun a b => a.place < b.place := by
  have hplaces : words.zipIdx.Pairwise fun a b => a.2 < b.2 := by
    rw [← List.pairwise_map, List.zipIdx_map_snd]
    exact List.pairwise_lt_range'
  refine hplaces.filterMap _ ?_
  intro a b hab hit ha hit' hb
  obtain ⟨-, -, rfl⟩ := Option.map_eq_some_iff.mp ha
  obtain ⟨-, -, rfl⟩ := Option.map_eq_some_iff.mp hb
  exact hab

/-- **`choose` gives the words that match, best match first.** -/
theorem exists_ranked (hline : '\n' ∉ typed) (words : List Text) :
    ∃ hits, Ranked typed words hits ∧
      choose typed words = hits.map fun hit => (hit.found, hit.word) := by
  refine ⟨(hitsOf typed words).mergeSort fun a b => a.found.le b.found, ⟨fun hit => ?_, ?_⟩, ?_⟩
  · rw [List.mem_mergeSort, mem_hitsOf hline]
  · have hstable := @pairwise_mergeSort_stable Hit (fun a b => a.found.le b.found) _ _
      (fun a b c => le_trans a.found b.found c.found) (fun a b => le_total a.found b.found)
      (pairwise_hitsOf typed words)
    refine hstable.imp fun {a b} ⟨hle, hplace⟩ => ?_
    rw [le_iff] at hle hplace
    unfold Hit.Before
    omega
  · have hmap : (hitsOf typed words).map (fun hit => (hit.found, hit.word)) =
        words.filterMap fun word => (Match.find? typed word).map fun found => (found, word) := by
      conv_rhs => rw [← List.zipIdx_map_fst 0 words]
      rw [hitsOf, List.map_filterMap, List.filterMap_map]
      congr 1
      funext entry
      rw [Option.map_map]
      rfl
    rw [choose, ← hmap]
    exact (@List.map_mergeSort Hit (Match × Text) _ (fun a b => a.1.le b.1) _ _
      fun _ _ _ _ => rfl).symm

theorem Hit.not_before_self (hit : Hit) : ¬ hit.Before hit := by
  unfold Hit.Before
  omega

theorem Hit.not_before_of_before {a b : Hit} (h : a.Before b) : ¬ b.Before a := by
  unfold Hit.Before at *
  omega

/-- **There is only one such list**: a list in strict order is determined by its members. -/
theorem Ranked.unique {hits hits' : List Hit} (h : Ranked typed words hits)
    (h' : Ranked typed words hits') : hits = hits' := by
  have hnodup : ∀ {list : List Hit}, list.Pairwise Hit.Before → list.Nodup := by
    intro list hsorted
    refine List.Pairwise.imp (fun {a b} hbefore => ?_) hsorted
    rintro rfl
    exact Hit.not_before_self a hbefore
  have hperm : hits.Perm hits' := by
    rw [List.perm_ext_iff_of_nodup (hnodup h.sorted) (hnodup h'.sorted)]
    intro hit
    rw [h.mem_iff, h'.mem_iff]
  refine hperm.eq_of_pairwise ?_ h.sorted h'.sorted
  intro a b _ _ hab hba
  exact absurd hba (Hit.not_before_of_before hab)

/-! ### The words that are chosen -/

/-- A word is chosen as often as it is in the list. -/
theorem perm_choose (typed : Text) (words : List Text) : ((choose typed words).map (·.2)).Perm
    (words.filter fun word => (Match.find? typed word).isSome) := by
  refine ((List.mergeSort_perm _ _).map _).trans (List.Perm.of_eq ?_)
  rw [List.map_filterMap, ← List.filterMap_eq_filter]
  congr 1
  funext word
  rcases Option.eq_none_or_eq_some (Match.find? typed word) with h | ⟨found, h⟩
  · simp [Option.guard, h]
  · simp [Option.guard, h]

theorem find?_nil : ∀ word : Text, Match.find? [] word = some ⟨0, 0⟩
  | [] => rfl
  | _ :: _ => rfl

/-- If nothing is typed, all words are chosen in their order. -/
theorem choose_nil (words : List Text) : (choose [] words).map (·.2) = words := by
  have hmatch : words.filterMap (fun word => (Match.find? [] word).map fun found => (found, word)) =
      words.map fun word => (⟨0, 0⟩, word) := by
    rw [← List.filterMap_eq_map]
    congr 1
    funext word
    rw [find?_nil]
    rfl
  have hsorted : (words.map fun word => ((⟨0, 0⟩ : Match), word)).Pairwise
      fun a b => a.1.le b.1 = true := by
    rw [List.pairwise_map]
    exact List.pairwise_of_forall fun _ _ => rfl
  rw [choose, hmatch, List.mergeSort_of_pairwise hsorted, List.map_map]
  exact List.map_id words

end CmdletShell.Proofs.Completions.Ranking
