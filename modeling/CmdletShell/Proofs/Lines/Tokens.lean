import CmdletShell.Line.Token
import Mathlib.Data.List.SplitBy

/-!
# Tokens by position

A place of a line is *in quotes* if an odd number of quotes stands before it. A character is *kept*
if it is no quote and, outside quotes, no white space; white space outside quotes is a *break*. Two
kept places are *joined* if no break stands between them.

`tokenize_eq` says that the tokens are the longest runs of kept places in which neighbours are
joined, and `tokenize_exact` what that means for the characters: none is lost, moved or doubled, and
a token ends where a break stands and nowhere else. A quote that is not closed is no exception.
-/

namespace CmdletShell.Proofs.Lines.Tokens

open CmdletShell.Line CmdletShell.Text

/-! ### Places of a line -/

/-- An odd number of quotes stands before the place. -/
def inQuotes (text : Text) (i : Nat) : Bool :=
  (text.take i).count '"' % 2 == 1

/-- White space at the place separates tokens. -/
def isBreak (text : Text) (i : Nat) : Bool :=
  text[i]?.any isBlank && !inQuotes text i

/-- The character at the place belongs to a token. -/
def isKept (text : Text) (i : Nat) : Bool :=
  text[i]?.any fun c => c != '"' && (!isBlank c || inQuotes text i)

/-- The kept places from a place on. -/
def keptFrom (text : Text) (n : Nat) : List Nat :=
  (List.range' n (text.length - n)).filter (isKept text)

/-- The kept places. -/
def keptPlaces (text : Text) : List Nat := (List.range text.length).filter (isKept text)

/-- No break stands between the places. -/
def joined (text : Text) (i j : Nat) : Bool :=
  decide (∀ m < j, i < m → isBreak text m = false)

/-- The characters at places. -/
def letters (text : Text) (places : List Nat) : Text := places.filterMap (text[·]?)

variable {text : Text} {n : Nat} {c : Char} {rest : Text}

theorem getElem?_of_drop (h : text.drop n = c :: rest) : text[n]? = some c := by
  rw [← List.head?_drop, h]; rfl

theorem drop_succ_of_drop (h : text.drop n = c :: rest) : text.drop (n + 1) = rest := by
  rw [← List.tail_drop, h]; rfl

theorem inQuotes_succ (h : text[n]? = some c) :
    inQuotes text (n + 1) = if c = '"' then !inQuotes text n else inQuotes text n := by
  unfold inQuotes
  rw [List.take_add_one, h, List.count_append, Option.toList_some]
  by_cases hc : c = '"'
  · rw [if_pos hc, hc, List.count_singleton_self, Bool.eq_iff_iff]
    simp only [beq_iff_eq, Bool.not_eq_true', beq_eq_false_iff_ne]
    omega
  · have hz : List.count '"' [c] = 0 := List.count_eq_zero_of_not_mem (by simpa using Ne.symm hc)
    rw [if_neg hc, hz, Nat.add_zero]

theorem isBreak_eq (h : text[n]? = some c) :
    isBreak text n = (isBlank c && !inQuotes text n) := by
  rw [isBreak, h, Option.any_some]

/-- A quote is neither kept nor a break. -/
theorem isBreak_quote (h : text[n]? = some '"') : isBreak text n = false := by
  rw [isBreak_eq h]
  have hb : isBlank '"' = false := by decide
  rw [hb, Bool.false_and]

theorem isKept_quote (h : text[n]? = some '"') : isKept text n = false := by
  rw [isKept, h]; rfl

/-- Any other character is one of both. -/
theorem isKept_eq (h : text[n]? = some c) (hc : c ≠ '"') : isKept text n = !isBreak text n := by
  rw [isBreak_eq h, isKept, h, Option.any_some, bne_iff_ne.mpr hc, Bool.true_and, Bool.not_and,
    Bool.not_not]

theorem keptFrom_zero (text : Text) : keptFrom text 0 = keptPlaces text := by
  rw [keptFrom, keptPlaces, Nat.sub_zero, List.range_eq_range']

theorem keptFrom_end (h : text.drop n = []) : keptFrom text n = [] := by
  rw [List.drop_eq_nil_iff] at h
  rw [keptFrom, Nat.sub_eq_zero_of_le h]
  rfl

theorem keptFrom_drop (h : text.drop n = c :: rest) :
    keptFrom text n =
      if isKept text n then n :: keptFrom text (n + 1) else keptFrom text (n + 1) := by
  have hn : n < text.length := by
    by_contra hle
    rw [List.drop_of_length_le (by omega)] at h
    cases h
  have hl : text.length - n = text.length - (n + 1) + 1 := by omega
  rw [keptFrom, hl, List.range'_succ, List.filter_cons]
  rfl

theorem le_of_mem_keptFrom {i : Nat} (h : i ∈ keptFrom text n) : n ≤ i := by
  have hr := (List.mem_filter.mp h).1
  rw [List.mem_range'_1] at hr
  exact hr.1

theorem joined_iff {i j : Nat} :
    joined text i j = true ↔ ∀ m, i < m → m < j → isBreak text m = false := by
  rw [joined, decide_eq_true_iff]
  exact ⟨fun h m hi hj => h m hj hi, fun h m hj hi => h m hi hj⟩

theorem joined_succ {i : Nat} (hb : isBreak text n = false) (h : joined text i n = true) :
    joined text i (n + 1) = true := by
  rw [joined_iff] at h ⊢
  intro m hi hm
  rcases Nat.lt_succ_iff_lt_or_eq.mp hm with hm | rfl
  · exact h m hi hm
  · exact hb

theorem joined_eq_false {i j : Nat} (hb : isBreak text n = true) (hi : i < n) (hj : n < j) :
    joined text i j = false := by
  rw [Bool.eq_false_iff, ne_eq, joined_iff]
  intro h
  rw [h n hi hj] at hb
  cases hb

/-! ### Letters of kept places -/

theorem letters_append_of_getElem? {places : List Nat} (h : text[n]? = some c) :
    letters text (places ++ [n]) = letters text places ++ [c] := by
  rw [letters, List.filterMap_append, List.filterMap_cons, h]
  rfl

theorem length_letters {places : List Nat} (h : ∀ i ∈ places, isKept text i = true) :
    (letters text places).length = places.length := by
  rw [letters, List.filterMap_length_eq_length]
  intro i hi
  cases hc : text[i]? with
  | none => have := h i hi; rw [isKept, hc] at this; cases this
  | some c => rfl

theorem ne_quote_of_mem_letters {places : List Nat} (h : ∀ i ∈ places, isKept text i = true)
    (hc : c ∈ letters text places) : c ≠ '"' := by
  obtain ⟨i, hi, hl⟩ := List.mem_filterMap.mp hc
  have hk := h i hi
  rw [isKept, hl, Option.any_some, Bool.and_eq_true, bne_iff_ne] at hk
  exact hk.1

/-! ### The scan -/

/-- What the scan has in hand at place `n`: joined places, the last of which is joined to `n`. -/
structure Pending (text : Text) (n : Nat) (group : List Nat) : Prop where
  kept : ∀ i ∈ group, isKept text i = true
  chain : group.IsChain fun i j => joined text i j = true
  last : ∀ i ∈ group.getLast?, i < n ∧ joined text i n = true

theorem pending_nil (text : Text) (n : Nat) : Pending text n [] :=
  ⟨by simp, List.isChain_nil, by simp⟩

variable {group : List Nat}

theorem Pending.skip (h : Pending text n group) (hb : isBreak text n = false) :
    Pending text (n + 1) group where
  kept := h.kept
  chain := h.chain
  last i hi := ⟨(h.last i hi).1.trans (Nat.lt_succ_self n), joined_succ hb (h.last i hi).2⟩

theorem Pending.take (h : Pending text n group) (hk : isKept text n = true) :
    Pending text (n + 1) (group ++ [n]) where
  kept i hi := by
    rcases List.mem_append.mp hi with hi | hi
    · exact h.kept i hi
    · rwa [List.mem_singleton.mp hi]
  chain := by
    rw [List.isChain_append]
    refine ⟨h.chain, List.isChain_singleton n, fun i hi j hj => ?_⟩
    obtain rfl : n = j := by simpa using hj
    exact (h.last i hi).2
  last i hi := by
    obtain rfl : n = i := by simpa using hi
    refine ⟨Nat.lt_succ_self n, joined_iff.mpr fun m hn hm => ?_⟩
    omega

/-- A pending group is one run, unless it is empty. -/
theorem Pending.flush (h : Pending text n group) :
    flush (letters text group) = (group.splitBy (joined text)).map (letters text) := by
  have hl := length_letters h.kept
  unfold Line.flush
  by_cases hg : group = []
  · subst hg; rfl
  · have hne : (letters text group).isEmpty = false := by
      rw [List.isEmpty_eq_false_iff, ← List.length_pos_iff, hl, List.length_pos_iff]
      exact hg
    rw [hne, List.splitBy_of_isChain hg h.chain]
    rfl

/-- **The scan cuts at the breaks.** By induction on what is left of the line. -/
theorem scan_eq (text : Text) : ∀ (rest : Text) (n : Nat) (group : List Nat),
    text.drop n = rest → Pending text n group →
    scan (inQuotes text n) (letters text group) rest =
      ((group ++ keptFrom text n).splitBy (joined text)).map (letters text)
  | [], n, group, hd, hp => by
    rw [keptFrom_end hd, List.append_nil, scan]
    exact hp.flush
  | c :: rest, n, group, hd, hp => by
    have hc := getElem?_of_drop hd
    have hd' := drop_succ_of_drop hd
    have hq := inQuotes_succ hc
    rw [keptFrom_drop hd, scan]
    by_cases hquote : c = '"'
    · rw [hquote] at hc
      rw [if_pos hquote] at hq ⊢
      rw [isKept_quote hc, if_neg Bool.false_ne_true, ← hq]
      exact scan_eq text rest _ _ hd' (hp.skip (isBreak_quote hc))
    · rw [if_neg hquote] at hq ⊢
      rw [isKept_eq hc hquote, ← isBreak_eq hc, ← hq]
      cases hb : isBreak text n with
      | true =>
        -- the group ends here: it is not joined to what comes
        have hcut : ∀ i ∈ group.getLast?, ∀ j ∈ (keptFrom text (n + 1)).head?,
            joined text i j = false := fun i hi j hj =>
          joined_eq_false hb (hp.last i hi).1 (le_of_mem_keptFrom (List.mem_of_mem_head? hj))
        have hrest := scan_eq text rest (n + 1) [] hd' (pending_nil text _)
        rw [List.nil_append] at hrest
        rw [if_pos rfl, Bool.not_true, if_neg Bool.false_ne_true, List.splitBy_append hcut,
          List.map_append, hp.flush, ← hrest]
        rfl
      | false =>
        have hk : isKept text n = true := by rw [isKept_eq hc hquote, hb]; rfl
        have hrest := scan_eq text rest (n + 1) (group ++ [n]) hd' (hp.take hk)
        rw [letters_append_of_getElem? hc, List.append_assoc] at hrest
        rw [if_neg Bool.false_ne_true, Bool.not_false, if_pos rfl]
        exact hrest

/-- **The tokens are the longest runs of joined places.** -/
theorem tokenize_eq (text : Text) :
    tokenize text = ((keptPlaces text).splitBy (joined text)).map (letters text) := by
  rw [← keptFrom_zero]
  exact scan_eq text text 0 [] rfl (pending_nil text 0)

/-- A token has no character but those of the line. -/
theorem subset_of_mem_tokenize {token : Text} (h : token ∈ tokenize text) : token ⊆ text := by
  rw [tokenize_eq] at h
  obtain ⟨places, -, rfl⟩ := List.mem_map.mp h
  intro c hc
  obtain ⟨i, -, hi⟩ := List.mem_filterMap.mp hc
  exact List.mem_of_getElem? hi

/-! ### Neighbours -/

/-- The entry `k` of the lists put together and the next one come from one list. -/
def SameList {α : Type} (lists : List (List α)) (k : Nat) : Prop :=
  ∃ before list after, lists = before ++ list :: after ∧ before.flatten.length ≤ k ∧
    k + 1 < before.flatten.length + list.length

section SameList
variable {α β : Type} {lists : List (List α)} {k : Nat}

theorem not_sameList_nil : ¬ SameList ([] : List (List α)) k := by
  rintro ⟨before, list, after, h, -⟩
  simp at h

theorem sameList_cons {first : List α} :
    SameList (first :: lists) k ↔
      k + 1 < first.length ∨ first.length ≤ k ∧ SameList lists (k - first.length) := by
  constructor
  · rintro ⟨_ | ⟨head, before⟩, list, after, h, hle, hlt⟩
    · obtain ⟨rfl, rfl⟩ := List.cons.inj h
      exact Or.inl (by simpa using hlt)
    · obtain ⟨rfl, rfl⟩ := List.cons.inj h
      rw [List.flatten_cons, List.length_append] at hle hlt
      exact Or.inr ⟨by omega, before, list, after, rfl, by omega, by omega⟩
  · rintro (hlt | ⟨hle, before, list, after, rfl, hle', hlt⟩)
    · exact ⟨[], first, lists, rfl, by simp, by simpa using hlt⟩
    · refine ⟨first :: before, list, after, rfl, ?_, ?_⟩
      · rw [List.flatten_cons, List.length_append]; omega
      · rw [List.flatten_cons, List.length_append]; omega

/-- Only the lengths of the lists count. -/
theorem sameList_map {f : List α → List β} :
    ∀ {lists : List (List α)} {k : Nat}, (∀ list ∈ lists, (f list).length = list.length) →
      (SameList (lists.map f) k ↔ SameList lists k)
  | [], k, _ => by rw [List.map_nil]; exact iff_of_false not_sameList_nil not_sameList_nil
  | first :: lists, k, h => by
    rw [List.map_cons, sameList_cons, sameList_cons, h first List.mem_cons_self,
      sameList_map fun list hl => h list (List.mem_cons_of_mem _ hl)]

/-- Neighbours are in one run exactly if they are related. -/
theorem sameList_splitBy {r : α → α → Bool} {l : List α} {a b : α} (ha : l[k]? = some a)
    (hb : l[k + 1]? = some b) : SameList (l.splitBy r) k ↔ r a b = true := by
  obtain ⟨hflat, hnil, hchain, happart⟩ := List.splitBy_eq_iff.mp (rfl : l.splitBy r = _)
  generalize l.splitBy r = lists at *
  subst hflat
  induction lists generalizing k with
  | nil => simp at ha
  | cons first lists ih =>
    rw [List.flatten_cons] at ha hb
    rw [sameList_cons]
    rcases Nat.lt_trichotomy (k + 1) first.length with hlt | heq | hgt
    · rw [List.getElem?_append_left (by omega), List.getElem?_eq_some_iff] at ha hb
      obtain ⟨hk, rfl⟩ := ha
      obtain ⟨hk', rfl⟩ := hb
      exact iff_of_true (Or.inl hlt) ((hchain first List.mem_cons_self).getElem k hk')
    · -- `a` ends the first run and `b` begins the next one
      rw [List.getElem?_append_left (by omega)] at ha
      rw [List.getElem?_append_right (by omega), heq, Nat.sub_self] at hb
      cases lists with
      | nil => simp at hb
      | cons second lists =>
        obtain ⟨hf, hs, hr⟩ := (List.isChain_cons_cons.mp happart).1
        have ha' : a = first.getLast hf := by
          obtain ⟨hk, rfl⟩ := List.getElem?_eq_some_iff.mp ha
          rw [List.getLast_eq_getElem]
          congr 1
          omega
        have hb' : b = second.head hs := by
          rw [List.flatten_cons, List.getElem?_append_left (List.length_pos_iff.mpr hs),
            ← List.head?_eq_getElem?, List.head?_eq_some_head hs] at hb
          exact (Option.some.inj hb).symm
        rw [ha', hb', hr]
        exact iff_of_false (fun h => by omega) Bool.false_ne_true
    · rw [List.getElem?_append_right (by omega)] at ha hb
      have hk : k + 1 - first.length = k - first.length + 1 := by omega
      rw [hk] at hb
      rw [← ih (fun h => hnil (List.mem_cons_of_mem _ h))
        (fun m hm => hchain m (List.mem_cons_of_mem _ hm)) happart.tail ha hb]
      exact ⟨fun h => (h.resolve_left (by omega)).2, fun h => Or.inr ⟨by omega, h⟩⟩

end SameList

/-! ### The characters of the tokens -/

/-- **The tokenizer loses, doubles and moves nothing.** The tokens put together are the kept
characters in order; two neighbours among them are in one token exactly if no break stands between
them; and no token is empty or has a quote. -/
theorem tokenize_exact (text : Text) :
    (tokenize text).flatten = letters text (keptPlaces text) ∧
    (∀ k i j, (keptPlaces text)[k]? = some i → (keptPlaces text)[k + 1]? = some j →
      (SameList (tokenize text) k ↔ ∀ m, i < m → m < j → isBreak text m = false)) ∧
    ∀ token ∈ tokenize text, token ≠ [] ∧ '"' ∉ token := by
  have hkept : ∀ group ∈ (keptPlaces text).splitBy (joined text), ∀ i ∈ group,
      isKept text i = true := by
    intro group hg i hi
    have hmem : i ∈ ((keptPlaces text).splitBy (joined text)).flatten :=
      List.mem_flatten.mpr ⟨group, hg, hi⟩
    rw [List.flatten_splitBy] at hmem
    exact (List.mem_filter.mp hmem).2
  rw [tokenize_eq]
  refine ⟨?_, fun k i j hi hj => ?_, fun token ht => ?_⟩
  · rw [show letters text = List.filterMap (text[·]?) from rfl, ← List.filterMap_flatten,
      List.flatten_splitBy]
  · rw [sameList_map fun group hg => length_letters (hkept group hg), sameList_splitBy hi hj,
      joined_iff]
  · obtain ⟨group, hg, rfl⟩ := List.mem_map.mp ht
    refine ⟨fun h => List.ne_nil_of_mem_splitBy hg ?_,
      fun h => ne_quote_of_mem_letters (hkept group hg) h rfl⟩
    rw [← List.length_eq_zero_iff, ← length_letters (hkept group hg), h]
    rfl

/-- A line with a token that is quoted in part. -/
def partlyQuoted : Text := "a\" b\"c d"

/-- The quote at place 4 joins `b` and `c`; the break at place 6 parts `c` and `d`. -/
theorem tokenize_exact_partlyQuoted :
    (keptPlaces partlyQuoted)[2]? = some 3 ∧ (keptPlaces partlyQuoted)[3]? = some 5 ∧
    (keptPlaces partlyQuoted)[4]? = some 7 ∧
    SameList (tokenize partlyQuoted) 2 ∧ ¬ SameList (tokenize partlyQuoted) 3 := by
  have h3 : (keptPlaces partlyQuoted)[2]? = some 3 := by decide
  have h5 : (keptPlaces partlyQuoted)[3]? = some 5 := by decide
  have h7 : (keptPlaces partlyQuoted)[4]? = some 7 := by decide
  refine ⟨h3, h5, h7, ?_, ?_⟩
  · rw [(tokenize_exact partlyQuoted).2.1 2 3 5 h3 h5]
    exact joined_iff.mp (by decide)
  · rw [(tokenize_exact partlyQuoted).2.1 3 5 7 h5 h7]
    intro h
    have hb := h 6 (by decide) (by decide)
    revert hb
    decide

end CmdletShell.Proofs.Lines.Tokens
