import CmdletShell.Json.Value
import Mathlib.Data.List.Nodup

/-!
# Named values

Writing a value under a name touches one entry: the entry of the name keeps its place, and a new
one goes last (`written_put`). So no name is lost and the order of the names stays
(`Written.names_isPrefix`).
-/

namespace CmdletShell.Proofs.Builtins.Fields

open CmdletShell.Fields

variable {α : Type} {name : Text} {value : α} {fields fields' : Fields α}

theorem mem_of_get? (h : fields.get? name = some value) : (name, value) ∈ fields := by
  induction fields with
  | nil => cases h
  | cons field rest ih =>
    obtain ⟨key, old⟩ := field
    rw [get?] at h
    split at h
    · next hk => cases h; rw [hk]; exact List.mem_cons_self
    · exact List.mem_cons_of_mem _ (ih h)

theorem mem_put {field : Text × α} (h : field ∈ fields.put name value) :
    field = (name, value) ∨ field ∈ fields := by
  induction fields with
  | nil => exact Or.inl (List.mem_singleton.mp h)
  | cons head rest ih =>
    obtain ⟨key, old⟩ := head
    rw [put] at h
    split at h
    · next hk =>
      subst hk
      exact (List.mem_cons.mp h).imp_right (List.mem_cons_of_mem _)
    · rcases List.mem_cons.mp h with rfl | h
      · exact Or.inr List.mem_cons_self
      · exact (ih h).imp_right (List.mem_cons_of_mem _)

/-- **One entry is written.** -/
inductive Written (name : Text) (value : α) : Fields α → Fields α → Prop
  /-- The entry of the name keeps its place. -/
  | kept {before after : Fields α} {old : α} : name ∉ names before →
      Written name value (before ++ (name, old) :: after) (before ++ (name, value) :: after)
  /-- A new entry goes last. -/
  | added {fields : Fields α} : name ∉ names fields →
      Written name value fields (fields ++ [(name, value)])

theorem written_put (name : Text) (value : α) :
    ∀ fields : Fields α, Written name value fields (fields.put name value)
  | [] => .added (by simp [names])
  | (key, old) :: rest => by
    by_cases hk : key = name
    · subst hk
      rw [put, if_pos rfl]
      have hn : key ∉ names ([] : Fields α) := List.not_mem_nil
      exact Written.kept hn
    · rw [put, if_neg hk]
      have hne : ∀ {fields : Fields α},
          name ∉ names fields → name ∉ names ((key, old) :: fields) := by
        intro fields hn hmem
        rcases List.mem_cons.mp hmem with h | h
        · exact hk h.symm
        · exact hn h
      generalize hp : put name value rest = rest'
      have hw := written_put name value rest
      rw [hp] at hw
      cases hw with
      | kept hn => exact Written.kept (hne hn)
      | added hn => exact Written.added (hne hn)

theorem get?_append_of_not_mem {before : Fields α} (h : name ∉ names before) (rest : Fields α) :
    get? name (before ++ rest) = get? name rest := by
  induction before with
  | nil => rfl
  | cons field before ih =>
    obtain ⟨key, old⟩ := field
    simp only [names, List.map_cons, List.mem_cons, not_or] at h
    rw [List.cons_append, get?, if_neg (Ne.symm h.1)]
    exact ih h.2

theorem Written.get?_eq (h : Written name value fields fields') :
    get? name fields' = some value := by
  cases h with
  | kept hn => rw [get?_append_of_not_mem hn, get?, if_pos rfl]
  | added hn => rw [get?_append_of_not_mem hn, get?, if_pos rfl]

theorem Written.names_isPrefix (h : Written name value fields fields') :
    names fields <+: names fields' := by
  cases h with
  | kept => simp [names]
  | added => simp [names]

/-- Something is found under the names, and under no other. -/
theorem isSome_get?_iff : (get? name fields).isSome = true ↔ name ∈ names fields := by
  induction fields with
  | nil => simp [get?, names]
  | cons field fields ih =>
    obtain ⟨key, old⟩ := field
    rw [get?, names, List.map_cons, List.mem_cons]
    split_ifs with hk
    · exact iff_of_true rfl (Or.inl hk.symm)
    · rw [ih, or_iff_right (Ne.symm hk), names]

/-- If the names differ, each entry is found by its name. -/
theorem get?_of_mem (hd : fields.names.Nodup) (h : (name, value) ∈ fields) :
    fields.get? name = some value := by
  induction fields with
  | nil => cases h
  | cons field rest ih =>
    obtain ⟨other, old⟩ := field
    obtain ⟨hnot, hrest⟩ := List.nodup_cons.mp hd
    rw [get?]
    rcases List.mem_cons.mp h with heq | h
    · obtain ⟨rfl, rfl⟩ := Prod.mk.inj heq
      exact if_pos rfl
    · have hne : other ≠ name := by
        rintro rfl
        exact hnot (List.mem_map.mpr ⟨_, h, rfl⟩)
      rw [if_neg hne]
      exact ih hrest h

/-! ### Writing one table into another -/

theorem names_append (fields more : Fields α) :
    names (fields ++ more) = names fields ++ names more :=
  List.map_append

/-- A name is added unless it is there. -/
theorem names_put (name : Text) (value : α) (fields : Fields α) :
    names (fields.put name value) =
      if name ∈ names fields then names fields else names fields ++ [name] := by
  have hw := written_put name value fields
  generalize fields.put name value = after at hw ⊢
  cases hw with
  | kept hn => simp [names]
  | added hn => rw [if_neg hn, names_append]; rfl

theorem update_cons (fields : Fields α) (name : Text) (value : α) (changes : Fields α) :
    update fields ((name, value) :: changes) = update (fields.put name value) changes := rfl

theorem update_append (fields changes more : Fields α) :
    update fields (changes ++ more) = update (update fields changes) more :=
  List.foldl_append

theorem put_of_not_mem (h : name ∉ names fields) (value : α) :
    fields.put name value = fields ++ [(name, value)] := by
  have hw := written_put name value fields
  generalize fields.put name value = after at hw
  cases hw with
  | kept => simp [names] at h
  | added => rfl

/-- The entry of a name is written in its place. -/
theorem put_between {before : Fields α} (h : name ∉ names before) (old value : α)
    (after : Fields α) :
    put name value (before ++ (name, old) :: after) = before ++ (name, value) :: after := by
  induction before with
  | nil => rw [List.nil_append, put, if_pos rfl, List.nil_append]
  | cons field before ih =>
    obtain ⟨key, other⟩ := field
    simp only [names, List.map_cons, List.mem_cons, not_or] at h
    rw [List.cons_append, put, if_neg (Ne.symm h.1), ih h.2, List.cons_append]

theorem nodup_put (h : (names fields).Nodup) (name : Text) (value : α) :
    (names (fields.put name value)).Nodup := by
  rw [names_put]
  split_ifs with hn
  · exact h
  · exact h.append (List.nodup_singleton name) (List.disjoint_singleton.mpr hn)

/-- The names of a table stay different. -/
theorem nodup_update (changes : Fields α) : ∀ {fields : Fields α}, (names fields).Nodup →
    (names (update fields changes)).Nodup := by
  induction changes with
  | nil => exact fun h => h
  | cons field changes ih => exact fun h => ih (nodup_put h field.1 field.2)

theorem mem_update {field : Text × α} (changes : Fields α) : ∀ {fields : Fields α},
    field ∈ update fields changes → field ∈ fields ∨ field ∈ changes := by
  induction changes with
  | nil => exact fun h => Or.inl h
  | cons change changes ih =>
    intro fields h
    rcases ih h with h | h
    · rcases mem_put h with rfl | h
      · exact Or.inr (by simp)
      · exact Or.inl h
    · exact Or.inr (by simp [h])

/-- The names after changes are those there were and those of the changes. -/
theorem mem_names_update {other : Text} (changes : Fields α) : ∀ {fields : Fields α},
    other ∈ names (update fields changes) ↔ other ∈ names fields ∨ other ∈ names changes := by
  induction changes with
  | nil => exact fun {fields} => (or_iff_left List.not_mem_nil).symm
  | cons change changes ih =>
    obtain ⟨name, value⟩ := change
    intro fields
    have hput : other ∈ names (fields.put name value) ↔ other ∈ names fields ∨ other = name := by
      rw [names_put]
      split_ifs with hn
      · exact ⟨Or.inl, fun h => h.elim id fun heq => heq ▸ hn⟩
      · rw [List.mem_append, List.mem_singleton]
    have hcons : other ∈ names ((name, value) :: changes) ↔ other = name ∨ other ∈ names changes :=
      List.mem_cons
    rw [update_cons, ih, hput, hcons, or_assoc]

theorem names_isPrefix_update (changes : Fields α) : ∀ fields : Fields α,
    names fields <+: names (update fields changes) := by
  induction changes with
  | nil => exact fun fields => List.prefix_rfl
  | cons change changes ih =>
    exact fun fields => (written_put change.1 change.2 fields).names_isPrefix.trans (ih _)

theorem put_of_get? (h : fields.get? name = some value) : fields.put name value = fields := by
  induction fields with
  | nil => cases h
  | cons field rest ih =>
    obtain ⟨key, old⟩ := field
    rw [get?] at h
    rw [put]
    split_ifs at h ⊢ with hk
    · rw [Option.some.inj h]
    · rw [ih h]

theorem get?_update_of_not_mem (changes : Fields α) : ∀ {fields : Fields α},
    name ∉ names changes → get? name (update fields changes) = get? name fields := by
  induction changes with
  | nil => exact fun _ => rfl
  | cons change changes ih =>
    intro fields h
    rw [names, List.map_cons, List.mem_cons, not_or] at h
    rw [update_cons, ih h.2, get?_put, if_neg h.1]

/-- If the names of the changes differ, each of them is found. -/
theorem get?_update_of_mem (changes : Fields α) : ∀ {fields : Fields α}, (names changes).Nodup →
    (name, value) ∈ changes → get? name (update fields changes) = some value := by
  induction changes with
  | nil => rintro fields - ⟨⟩
  | cons change changes ih =>
    intro fields hd h
    obtain ⟨hnot, hrest⟩ := List.nodup_cons.mp hd
    rw [update_cons]
    rcases List.mem_cons.mp h with rfl | h
    · rw [get?_update_of_not_mem changes hnot, get?_put, if_pos rfl]
    · exact ih hrest h

/-- **Changes that have been made change nothing.** -/
theorem update_update {changes : Fields α} (hd : (names changes).Nodup) (fields : Fields α) :
    update (update fields changes) changes = update fields changes := by
  have hsame : ∀ {rest : Fields α}, (∀ field ∈ rest,
      get? field.1 (update fields changes) = some field.2) →
      update (update fields changes) rest = update fields changes := by
    intro rest h
    induction rest with
    | nil => rfl
    | cons field rest ih =>
      rw [update_cons, put_of_get? (h field List.mem_cons_self)]
      exact ih fun field hf => h field (List.mem_cons_of_mem _ hf)
  exact hsame fun field hf => get?_update_of_mem changes hd hf

/-- New names go last, in order. -/
theorem update_of_nodup (changes : Fields α) : ∀ {fields : Fields α},
    (names (fields ++ changes)).Nodup → update fields changes = fields ++ changes := by
  induction changes with
  | nil => exact fun _ => (List.append_nil _).symm
  | cons change changes ih =>
    obtain ⟨name, value⟩ := change
    intro fields h
    have hn : name ∉ names fields := by
      rw [names_append, names, names, List.map_cons] at h
      intro hmem
      exact (List.nodup_append.mp h).2.2 name hmem name (by simp) rfl
    rw [update_cons, put_of_not_mem hn, ih (by simpa using h), List.append_assoc,
      List.singleton_append]

/-- Values for all names in order replace the old ones. -/
theorem update_same_names : ∀ {before old new : Fields α}, (names (before ++ old)).Nodup →
    names old = names new → update (before ++ old) new = before ++ new
  | before, [], [], _, _ => rfl
  | before, (key, value) :: old, (name, value') :: new, hd, hn => by
    simp only [names, List.map_cons, List.cons.injEq] at hn
    obtain ⟨rfl, hn⟩ := hn
    have hkey : key ∉ names before := by
      rw [names_append, names, names, List.map_cons] at hd
      intro hmem
      exact (List.nodup_append.mp hd).2.2 key hmem key (by simp) rfl
    have hsplit : ∀ (v : α) (fields : Fields α),
        before ++ (key, v) :: fields = (before ++ [(key, v)]) ++ fields := by simp
    rw [update_cons, put_between hkey, hsplit value' old, hsplit value' new]
    refine update_same_names ?_ hn
    simpa [names] using hd

/-- **A table written over one whose names it begins with is what is left.** -/
theorem update_of_isPrefix {old new : Fields α} (hp : names old <+: names new)
    (hd : (names new).Nodup) : update old new = new := by
  obtain ⟨first, rest, rfl, hnames⟩ :
      ∃ first rest, new = first ++ rest ∧ names first = names old := by
    refine ⟨new.take old.length, new.drop old.length, (List.take_append_drop _ _).symm, ?_⟩
    have hlen : old.length = (names old).length := (List.length_map _).symm
    rw [names, List.map_take, hlen]
    exact (List.prefix_iff_eq_take.mp hp).symm
  rw [names_append, hnames] at hd
  have hfirst : update ([] ++ old) first = [] ++ first :=
    update_same_names (List.Nodup.of_append_left hd) hnames.symm
  rw [List.nil_append, List.nil_append] at hfirst
  rw [update_append, hfirst]
  refine update_of_nodup rest ?_
  rw [names_append, hnames]
  exact hd

end CmdletShell.Proofs.Builtins.Fields
