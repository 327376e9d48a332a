import CmdletShell.Failure
import CmdletShell.Proofs.Builtins.Fields
import CmdletShell.Proofs.Documents.Numerals

/-!
# What documents can hold

A sound value is one that a document can hold: its whole numbers can be read, its floating point
numbers are canonical, and the names of each object differ (`Sound`). Whatever is read is sound
(`read_sound`). The induction is on the fuel, for values, items and fields at once.
-/

namespace CmdletShell.Proofs.Documents.Soundness

open CmdletShell.Json CmdletShell.Text
open CmdletShell.Proofs.Builtins.Fields
open CmdletShell.Proofs.Numbers.Rounding CmdletShell.Proofs.Documents.Numerals

/-- A value that a document can hold. -/
inductive Sound : Value → Prop
  | null : Sound .null
  | bool (b : Bool) : Sound (.bool b)
  | int {n : Int} : Readable n → Sound (.int n)
  | float {x : Binary64} : IsCanonical x → Sound (.float x)
  | str (s : Text) : Sound (.str s)
  | arr {items : List Value} : (∀ item ∈ items, Sound item) → Sound (.arr items)
  | obj {fields : Fields Value} : (Fields.names fields).Nodup →
      (∀ field ∈ fields, Sound field.2) → Sound (.obj fields)

theorem Sound.nodup {fields : Fields Value} (h : Sound (.obj fields)) :
    (Fields.names fields).Nodup := by
  cases h with
  | obj hn _ => exact hn

section Read
variable {fuel : Nat} {text rest : Text} {value : Value} {items : List Value}
  {fields : Fields Value}

theorem sound_readWord (h : readWord text = .ok (value, rest)) : Sound value := by
  have hnumber : ∀ {negative : Bool} {text : Text},
      readNumber negative text = .ok (value, rest) → Sound value := by
    intro negative text h
    rcases readNumber_ok h with ⟨n, rfl, hn⟩ | ⟨x, rfl, hx⟩
    · exact .int hn
    · exact .float hx
  unfold readWord at h
  dsimp only at h
  split at h
  · next word found hfind =>
    cases h
    have hmem := List.mem_of_find?_eq_some hfind
    simp only [List.mem_cons, Prod.mk.injEq, List.not_mem_nil, or_false] at hmem
    rcases hmem with ⟨-, rfl⟩ | ⟨-, rfl⟩ | ⟨-, rfl⟩ | ⟨-, rfl⟩ | ⟨-, rfl⟩ | ⟨-, rfl⟩
    · exact .null
    · exact .bool true
    · exact .bool false
    all_goals exact .float trivial
  · split at h <;> exact hnumber h

theorem sound_ofFields (h : ∀ f ∈ fields, Sound f.2) : Sound (Value.ofFields fields) := by
  refine .obj (nodup_update fields (by simp [Fields.names])) fun f hf => ?_
  rcases mem_update fields hf with hf | hf
  · cases hf
  · exact h f hf

/-- What reading with the fuel gives is sound. -/
def ReadsSound (fuel : Nat) : Prop :=
  (∀ text value rest, readValue fuel text = .ok (value, rest) → Sound value) ∧
  (∀ text items rest, readItems fuel text = .ok (items, rest) → ∀ v ∈ items, Sound v) ∧
  ∀ text fields rest, readFields fuel text = .ok (fields, rest) → ∀ f ∈ fields, Sound f.2

theorem sound_readValue (h : ReadsSound fuel)
    (hr : readValue (fuel + 1) text = .ok (value, rest)) : Sound value := by
  obtain ⟨-, hitems, hfields⟩ := h
  rw [readValue.eq_def] at hr
  dsimp only at hr
  split at hr
  · obtain ⟨⟨s, after⟩, -, heq⟩ := ok_of_map hr
    cases heq
    exact .str s
  · split at hr
    · cases hr
      exact .arr (by simp)
    · obtain ⟨⟨items, after⟩, hi, heq⟩ := ok_of_map hr
      cases heq
      exact .arr (hitems _ _ _ hi)
  · split at hr
    · cases hr
      exact .obj (by simp [Fields.names]) (by simp)
    · obtain ⟨⟨fields, after⟩, hi, heq⟩ := ok_of_map hr
      cases heq
      exact sound_ofFields (hfields _ _ _ hi)
  · exact sound_readWord hr

theorem sound_readItems (h : ReadsSound fuel)
    (hr : readItems (fuel + 1) text = .ok (items, rest)) : ∀ v ∈ items, Sound v := by
  obtain ⟨hvalue, hitems, -⟩ := h
  rw [readItems.eq_def] at hr
  obtain ⟨⟨item, after⟩, hv, hr⟩ := ok_of_bind hr
  have hitem := hvalue _ _ _ hv
  dsimp only at hr
  split at hr
  · cases hr
    simpa using hitem
  · obtain ⟨⟨more, last⟩, hi, hr⟩ := ok_of_bind hr
    cases hr
    exact List.forall_mem_cons.mpr ⟨hitem, hitems _ _ _ hi⟩
  · cases hr

theorem sound_readFields (h : ReadsSound fuel)
    (hr : readFields (fuel + 1) text = .ok (fields, rest)) : ∀ f ∈ fields, Sound f.2 := by
  obtain ⟨hvalue, -, hfields⟩ := h
  rw [readFields.eq_def] at hr
  dsimp only at hr
  split at hr
  · obtain ⟨⟨name, named⟩, -, hr⟩ := ok_of_bind hr
    dsimp only at hr
    split at hr
    · obtain ⟨⟨value, after⟩, hv, hr⟩ := ok_of_bind hr
      have hfield := hvalue _ _ _ hv
      dsimp only at hr
      split at hr
      · cases hr
        simpa using hfield
      · obtain ⟨⟨more, last⟩, hi, hr⟩ := ok_of_bind hr
        cases hr
        exact List.forall_mem_cons.mpr ⟨hfield, hfields _ _ _ hi⟩
      · cases hr
    · cases hr
  · cases hr

theorem readsSound : ∀ fuel, ReadsSound fuel
  | 0 => by
    refine ⟨fun _ _ _ h => ?_, fun _ _ _ h => ?_, fun _ _ _ h => ?_⟩
    · cases h
    · cases h
    · cases h
  | fuel + 1 =>
    ⟨fun _ _ _ => sound_readValue (readsSound fuel), fun _ _ _ => sound_readItems (readsSound fuel),
      fun _ _ _ => sound_readFields (readsSound fuel)⟩

/-- **Whatever is read is sound.** -/
theorem read_sound (h : Json.read text = .ok value) : Sound value := by
  unfold Json.read at h
  obtain ⟨⟨found, after⟩, hv, h⟩ := ok_of_bind h
  dsimp only at h
  split_ifs at h
  cases h
  exact (readsSound _).1 _ _ _ hv

end Read

end CmdletShell.Proofs.Documents.Soundness
