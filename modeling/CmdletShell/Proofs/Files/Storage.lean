import CmdletShell.Storage.Basic
import Mathlib.Data.List.Basic
import Mathlib.Data.Option.Basic

/-!
# What a storage keeps

Making directories and writing a file where nothing stood only add nodes to a storage (`Extends`),
and a storage with more nodes has at every place what the other has there (`Extends.node?`). So
directories are made around the files that are there (`makeDirectory_extends`), and a file that is
written where nothing stood, in a directory, can be read (`write?_child`).
-/

namespace CmdletShell.Proofs.Files.Storage

open CmdletShell.Storage

variable {storage other made : Storage} {path here directory : Path} {name : Text} {node : Node}

/-- What stands in the first storage stands in the second. -/
def Extends (storage other : Storage) : Prop :=
  ∀ key node, storage.nodes.get? key = some node → other.nodes.get? key = some node

theorem Extends.refl (storage : Storage) : Extends storage storage := fun _ _ h => h

theorem Extends.trans (h : Extends storage other) (h' : Extends other made) :
    Extends storage made := fun key node hn => h' key node (h key node hn)

/-- A node at a new key adds to a storage. -/
theorem extends_put {key : Text} (h : storage.nodes.get? key = none) (node : Node) :
    Extends storage ⟨storage.nodes.put key node⟩ := by
  intro other old hold
  have hne : other ≠ key := by
    rintro rfl
    rw [h] at hold
    cases hold
  rw [Fields.get?_put, if_neg hne]
  exact hold

theorem Extends.direct? (h : Extends storage other) (hn : storage.direct? path = some node) :
    other.direct? path = some node := by
  unfold CmdletShell.Storage.direct? at hn ⊢
  split_ifs at hn ⊢ with hp
  · exact hn
  · exact h _ _ hn

theorem Extends.walk? (h : Extends storage other) : ∀ (parts : List Text) {here path : Path},
    storage.walk? here parts = some path → other.walk? here parts = some path
  | [], _, _, hw => hw
  | part :: rest, here, path, hw => by
    unfold CmdletShell.Storage.walk? at hw ⊢
    by_cases hd : part = ['.', '.']
    · rw [if_pos hd] at hw ⊢
      split_ifs at hw ⊢
      exact h.walk? rest hw
    · rw [if_neg hd] at hw ⊢
      cases hc : storage.direct? (here.child part) with
      | none => rw [hc] at hw; cases hw
      | some node =>
        rw [hc] at hw
        rw [h.direct? hc]
        cases node with
        | directory => exact h.walk? rest hw
        | file bytes => exact hw

/-- **A storage with more nodes has at every place what the other has there.** -/
theorem Extends.node? (h : Extends storage other) (hn : storage.node? path = some node) :
    other.node? path = some node := by
  unfold CmdletShell.Storage.node? at hn ⊢
  obtain ⟨reached, hw, hd⟩ := Option.bind_eq_some_iff.mp hn
  rw [h.walk? path.parts hw]
  exact h.direct? hd

theorem Extends.read? (h : Extends storage other) {bytes : List Nat}
    (hr : storage.read? path = some bytes) : other.read? path = some bytes := by
  unfold CmdletShell.Storage.read? at hr ⊢
  cases hn : storage.node? path with
  | none => rw [hn] at hr; cases hr
  | some node => rw [hn] at hr; rw [h.node? hn]; exact hr

theorem read?_eq_some {bytes : List Nat} :
    storage.read? path = some bytes ↔ storage.node? path = some (.file bytes) := by
  unfold CmdletShell.Storage.read?
  split
  · next found hn => rw [hn]; simp
  · next hn => simpa using hn bytes

theorem parts_child (path : Path) (part : Text) : (path.child part).parts.isEmpty = false := by
  simp [Path.child]

theorem makeWay_extends : ∀ (parts : List Text) {storage made : Storage} {here : Path},
    storage.makeWay here parts = .ok made → Extends storage made
  | [], storage, made, _, h => by
    cases h
    exact Extends.refl storage
  | part :: rest, storage, made, here, h => by
    unfold makeWay at h
    by_cases hd : part = ['.', '.']
    · rw [if_pos hd] at h
      exact makeWay_extends rest h
    · rw [if_neg hd] at h
      cases hc : storage.direct? (here.child part) with
      | some node =>
        rw [hc] at h
        cases node with
        | directory => exact makeWay_extends rest h
        | file bytes => cases h
      | none =>
        rw [hc] at h
        have hfree : storage.nodes.get? (here.child part).text = none := by
          unfold CmdletShell.Storage.direct? at hc
          rwa [if_neg (by simp [parts_child])] at hc
        exact (extends_put hfree .directory).trans (makeWay_extends rest h)

/-- **Making a directory only adds to a storage.** -/
theorem makeDirectory_extends (h : storage.makeDirectory directory = .ok made) :
    Extends storage made :=
  makeWay_extends _ h

theorem makeWay_error : ∀ (parts : List Text) {storage : Storage} {here : Path} {fault : Fault},
    storage.makeWay here parts = .error fault → fault.isFiling = true
  | [], _, _, _, h => by cases h
  | part :: rest, storage, here, fault, h => by
    unfold makeWay at h
    by_cases hd : part = ['.', '.']
    · rw [if_pos hd] at h
      exact makeWay_error rest h
    · rw [if_neg hd] at h
      cases hc : storage.direct? (here.child part) with
      | none => rw [hc] at h; exact makeWay_error rest h
      | some node =>
        rw [hc] at h
        cases node with
        | directory => exact makeWay_error rest h
        | file bytes =>
          dsimp only at h
          split_ifs at h <;> cases h <;> rfl

/-- A directory is not made only for what stands in its way. -/
theorem makeDirectory_error {fault : Fault} (h : storage.makeDirectory directory = .error fault) :
    fault.isFiling = true :=
  makeWay_error _ h

/-- What has been made can be walked to. -/
theorem walk?_of_makeWay : ∀ (parts : List Text) {storage made : Storage} {here : Path},
    ['.', '.'] ∉ parts → storage.direct? here = some .directory →
    storage.makeWay here parts = .ok made →
    ∃ above, made.walk? here parts = some above ∧ made.direct? above = some .directory
  | [], _, _, here, _, hd, h => by
    cases h
    exact ⟨here, rfl, hd⟩
  | part :: rest, storage, made, here, hn, hd, h => by
    have hpart : part ≠ ['.', '.'] := fun heq => hn (by simp [heq])
    have hrest : ['.', '.'] ∉ rest := fun hm => hn (List.mem_cons_of_mem _ hm)
    have hstep : ∀ storage : Storage, storage.direct? (here.child part) = some .directory →
        storage.makeWay (here.child part) rest = .ok made →
        ∃ above, made.walk? here (part :: rest) = some above ∧
          made.direct? above = some .directory := by
      intro storage hc hm
      obtain ⟨above, hw, ha⟩ := walk?_of_makeWay rest hrest hc hm
      refine ⟨above, ?_, ha⟩
      rw [CmdletShell.Storage.walk?, if_neg hpart, (makeWay_extends rest hm).direct? hc]
      exact hw
    unfold makeWay at h
    rw [if_neg hpart] at h
    cases hc : storage.direct? (here.child part) with
    | some node =>
      rw [hc] at h
      cases node with
      | directory => exact hstep storage hc h
      | file bytes => cases h
    | none =>
      rw [hc] at h
      refine hstep _ ?_ h
      rw [CmdletShell.Storage.direct?, if_neg (by simp [parts_child]), Fields.get?_put, if_pos rfl]

/-- **A directory that has been made stands there**, if no double dots lead to it. -/
theorem node?_of_makeDirectory (hn : ['.', '.'] ∉ directory.parts)
    (h : storage.makeDirectory directory = .ok made) :
    made.node? directory = some .directory := by
  obtain ⟨above, hw, ha⟩ := walk?_of_makeWay directory.parts hn rfl h
  unfold CmdletShell.Storage.node?
  rw [hw]
  exact ha

/-- The last step of a walk. -/
theorem walk?_append : ∀ (parts : List Text) {here above : Path},
    storage.walk? here parts = some above → storage.direct? above = some .directory →
    storage.walk? here (parts ++ [name]) = storage.walk? above [name]
  | [], _, _, hw, _ => by cases hw; rfl
  | part :: rest, here, above, hw, hd => by
    unfold CmdletShell.Storage.walk? at hw
    rw [List.cons_append, CmdletShell.Storage.walk?]
    by_cases hp : part = ['.', '.']
    · rw [if_pos hp] at hw ⊢
      split_ifs at hw ⊢
      exact walk?_append rest hw hd
    · rw [if_neg hp] at hw ⊢
      cases hc : storage.direct? (here.child part) with
      | none => rw [hc] at hw; cases hw
      | some node =>
        rw [hc] at hw
        cases node with
        | directory => exact walk?_append rest hw hd
        | file bytes =>
          dsimp only at hw
          split_ifs at hw
          cases hw
          rw [hc] at hd
          cases hd

/-- What stands in a directory that is reached. -/
theorem node?_child {above : Path} (hn : name ≠ ['.', '.'])
    (hw : storage.walk? { directory with parts := [] } directory.parts = some above)
    (hd : storage.direct? above = some .directory) :
    storage.node? (directory.child name) = storage.direct? (above.child name) := by
  have hwalk : storage.walk? { directory with parts := [] } (directory.parts ++ [name]) =
      storage.walk? above [name] := walk?_append directory.parts hw hd
  have hstep : storage.walk? above [name] = (storage.direct? (above.child name)).map
      fun _ => above.child name := by
    rw [CmdletShell.Storage.walk?, if_neg hn]
    cases storage.direct? (above.child name) with
    | none => rfl
    | some node => cases node <;> rfl
  have hparts : storage.node? (directory.child name) =
      (storage.walk? { directory with parts := [] } (directory.parts ++ [name])).bind
        storage.direct? := rfl
  rw [hparts, hwalk, hstep]
  cases hc : storage.direct? (above.child name) with
  | none => rfl
  | some node => exact hc

/-- **A file that is written where nothing stood, in a directory, can be read.** -/
theorem write?_child (hn : name ≠ ['.', '.']) (hd : storage.node? directory = some .directory)
    (hfree : storage.node? (directory.child name) = none) (bytes : List Nat) :
    ∃ written, storage.write? (directory.child name) bytes = some written ∧
      Extends storage written ∧ written.read? (directory.child name) = some bytes := by
  unfold CmdletShell.Storage.node? at hd
  obtain ⟨above, hw, habove⟩ := Option.bind_eq_some_iff.mp hd
  rw [node?_child hn hw habove] at hfree
  have hkey : storage.nodes.get? (above.child name).text = none := by
    unfold CmdletShell.Storage.direct? at hfree
    rwa [if_neg (by simp [parts_child])] at hfree
  have hext := extends_put hkey (.file bytes)
  refine ⟨⟨storage.nodes.put (above.child name).text (.file bytes)⟩, ?_, hext, ?_⟩
  · have hlast : (directory.child name).parts.getLast? = some name := by simp [Path.child]
    have hinit : (directory.child name).parts.dropLast = directory.parts := by simp [Path.child]
    have hroot : ({ directory.child name with parts := [] } : Path) =
        { directory with parts := [] } := rfl
    simp [CmdletShell.Storage.write?, hlast, hinit, hroot, hw, habove, hfree]
  · have hput : (⟨storage.nodes.put (above.child name).text (.file bytes)⟩ : Storage).direct?
        (above.child name) = some (.file bytes) := by
      rw [CmdletShell.Storage.direct?, if_neg (by simp [parts_child]), Fields.get?_put, if_pos rfl]
    rw [read?_eq_some, node?_child hn (hext.walk? _ hw) (hext.direct? habove)]
    exact hput

end CmdletShell.Proofs.Files.Storage
