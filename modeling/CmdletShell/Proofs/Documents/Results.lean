import CmdletShell.Interpreter.Result
import CmdletShell.Number.Basic
import CmdletShell.Proofs.Documents.Structure

/-!
# The document of a result

A result that puts out a text is read back from its document, whatever characters are in its texts
(`read_document`), if the time it took may be read. That holds of every time between two readings of
a floating timer (`readable_elapsedMillis`): a floating point number has at most 1024 binary digits
before its point.
-/

namespace CmdletShell.Proofs.Documents.Results

open CmdletShell.Json CmdletShell.Binary64 CmdletShell.Text
open CmdletShell.Proofs.Builtins.Fields CmdletShell.Proofs.Numbers.Rounding
open CmdletShell.Proofs.Documents.Numerals CmdletShell.Proofs.Documents.Soundness
open CmdletShell.Proofs.Documents.Structure

/-! ### The time -/

theorem roundDiv_le (num den : Nat) : roundDiv num den ≤ num + 1 := by
  have hle := Nat.div_le_self num den
  unfold roundDiv
  dsimp only
  split_ifs <;> omega

theorem ratio_num_lt {mantissa : Nat} {exponent : Int} (h : Canonical mantissa exponent) :
    (ratio mantissa exponent).1 + 1 < 10 ^ digitLimit := by
  obtain ⟨hm, -, hgreatest, -⟩ := h
  have hlimit : ∀ e ≤ 971, mantissa * 2 ^ e + 1 < 10 ^ digitLimit := by
    intro e he
    have hdigits : 53 + e < digitLimit := by
      unfold digitLimit
      omega
    calc mantissa * 2 ^ e + 1 ≤ mantissa * 2 ^ e + 2 ^ e := by
          gcongr
          exact Nat.one_le_two_pow
      _ = (mantissa + 1) * 2 ^ e := (Nat.succ_mul _ _).symm
      _ ≤ 2 ^ 53 * 2 ^ e := Nat.mul_le_mul_right _ hm
      _ = 2 ^ (53 + e) := (pow_add 2 53 e).symm
      _ ≤ 10 ^ (53 + e) := Nat.pow_le_pow_left (by decide) _
      _ < 10 ^ digitLimit := Nat.pow_lt_pow_right (by decide) hdigits
  cases exponent with
  | negSucc e =>
    have h := hlimit 0 (Nat.zero_le _)
    rwa [pow_zero, Nat.mul_one] at h
  | ofNat e => exact hlimit e (by simpa using hgreatest)

/-- **A floating point number is rounded to a whole number that may be read.** -/
theorem readable_round {x : Binary64} (h : IsCanonical x) : Readable x.round := by
  cases x with
  | finite s m e =>
    have hround : roundDiv (ratio m e).1 (ratio m e).2 < 10 ^ digitLimit :=
      (roundDiv_le _ _).trans_lt (ratio_num_lt h)
    cases s <;> simpa [Readable, Binary64.round, signed] using hround
  | infinite s => exact readable_of_lt Nat.ofNat_pos
  | notANumber => exact readable_of_lt Nat.ofNat_pos

theorem isCanonical_scale (factor : Nat) (x : Binary64) : IsCanonical (x.scale factor) := by
  cases x with
  | finite s m e => exact isCanonical_ofRatio (ratio_den_pos m e)
  | infinite s => trivial
  | notANumber => trivial

/-- **The time between two floating readings may be read.** -/
theorem readable_elapsedMillis (x y : Binary64) :
    Readable (elapsedMillis (.float x) (.float y)) := by
  have hround : Readable ((y.sub x).scale 1000).round :=
    readable_round (isCanonical_scale 1000 (y.sub x))
  have hle : ((elapsedMillis (.float x) (.float y) : Nat) : Int).natAbs ≤
      ((y.sub x).scale 1000).round.natAbs := by
    change ((((y.sub x).scale 1000).round.toNat : Nat) : Int).natAbs ≤ _
    omega
  exact hle.trans_lt hround

/-! ### The document -/

variable {result : Result}

/-- The fields of a document have different names. -/
theorem nodup_names_document (result : Result) :
    (Fields.names (result.commonFields ++ Result.errorField result.error)).Nodup := by
  have hnames : Fields.names (result.commonFields ++ Result.errorField (some [])) =
      ["success", "output", "executionTimeMs", "outputShape", "error"] := rfl
  have hall : (Fields.names (result.commonFields ++ Result.errorField (some []))).Nodup := by
    rw [hnames]
    decide
  cases result.error with
  | none =>
    rw [Fields.names, List.map_append] at hall
    exact (List.nodup_append.mp hall).1
  | some error => exact hall

theorem sound_document (ho : ∃ text, result.output = .str text) (hm : Readable result.millis) :
    Sound result.document := by
  obtain ⟨output, ho⟩ := ho
  refine .obj (nodup_names_document result) fun field hf => ?_
  rcases List.mem_append.mp hf with hf | hf
  · simp only [Result.commonFields, List.mem_cons, List.not_mem_nil, or_false] at hf
    rcases hf with rfl | rfl | rfl | rfl
    · exact .bool _
    · rw [ho]
      exact .str output
    · exact .int hm
    · exact .str _
  · cases he : result.error with
    | none =>
      rw [he] at hf
      cases hf
    | some error =>
      rw [he] at hf
      obtain rfl := List.mem_singleton.mp hf
      exact .str error

/-- **A result is read back from its document**, with a line feed after it. -/
theorem read_document (ascii : Bool) (ho : ∃ text, result.output = .str text)
    (hm : Readable result.millis) :
    Json.read (writeIndented ascii result.document ++ ['\n']) = .ok result.document :=
  read_written_append (spaced_indented ascii) (sound_document ho hm)
    (List.forall_mem_singleton.mpr rfl)

end CmdletShell.Proofs.Documents.Results
