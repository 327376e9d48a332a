import CmdletShell.Proofs.Documents.Soundness
import CmdletShell.Proofs.Documents.Strings

/-!
# Documents are read as they were written

What is written for a sound value is read as the value (`read_written`), in any layout that sets
the parts apart by white space and commas (`Spaced`), and so it is with white space after it
(`read_written_append`).

The induction is on the value; what carries it is that a written value is read in front of whatever
may come after it (`Reads`), with fuel for all its characters.
-/

namespace CmdletShell.Proofs.Documents.Structure

open CmdletShell.Json CmdletShell.Text
open CmdletShell.Proofs.Builtins.Fields
open CmdletShell.Proofs.Numbers.Rounding CmdletShell.Proofs.Numbers.Decimals
open CmdletShell.Proofs.Documents.Numerals CmdletShell.Proofs.Documents.Soundness
open CmdletShell.Proofs.Documents.Strings

/-- Brackets and items are set apart by white space, and items by commas too. -/
structure Spaced (layout : Layout) : Prop where
  margin : ∀ depth, ∀ c ∈ layout.margin depth, isGap c = true
  between : ∀ depth, ∃ gap : Text, layout.between depth = ',' :: gap ∧ ∀ c ∈ gap, isGap c = true

theorem Spaced.length_between_pos {layout : Layout} (h : Spaced layout) (depth : Nat) :
    0 < (layout.between depth).length := by
  obtain ⟨gap, hb, -⟩ := h.between depth
  simp [hb]

/-! ### White space -/

section Gaps
variable {gap rest : Text}

theorem skipGap_append (h : ∀ c ∈ gap, isGap c = true) (rest : Text) :
    skipGap (gap ++ rest) = skipGap rest :=
  List.dropWhile_append_of_pos h

theorem skipGap_cons {c : Char} (h : isGap c = false) (rest : Text) :
    skipGap (c :: rest) = c :: rest :=
  List.dropWhile_cons_of_neg (by simp [h])

/-- White space and then a closing bracket or a comma may come after a value. -/
theorem clear_gap (h : ∀ c ∈ gap, isGap c = true) {c : Char} (hc : c = ',' ∨ c = ']' ∨ c = '\x7d')
    (rest : Text) : Clear (gap ++ c :: rest) := by
  cases gap with
  | nil =>
    rintro d ⟨⟩
    exact Or.inr hc
  | cons d gap =>
    rintro e ⟨⟩
    exact Or.inl (h d (by simp))

end Gaps

/-! ### Values that are words -/

/-- The characters that begin a word or a number. -/
def BeginsWord (c : Char) : Prop :=
  c.isDigit = true ∨ c ∈ ['-', 'n', 't', 'f', 'N', 'I']

theorem BeginsWord.not_bracket {c : Char} (h : BeginsWord c) :
    isGap c = false ∧ c ≠ '"' ∧ c ≠ '[' ∧ c ≠ '\x7b' ∧ c ≠ ']' := by
  have hgap : isGap c = false := by
    by_contra hg
    rw [Bool.not_eq_false] at hg
    unfold isGap at hg
    simp only [Bool.or_eq_true, decide_eq_true_eq] at hg
    rcases hg with ((rfl | rfl) | rfl) | rfl <;> revert h <;> unfold BeginsWord <;> decide
  refine ⟨hgap, ?_, ?_, ?_, ?_⟩ <;> rintro rfl <;> revert h <;> unfold BeginsWord <;> decide

theorem readValue_word {c : Char} (h : BeginsWord c) (fuel : Nat) (more : Text) :
    readValue (fuel + 1) (c :: more) = readWord (c :: more) := by
  obtain ⟨-, hq, hb, hc, -⟩ := h.not_bracket
  rw [readValue.eq_def]
  dsimp only
  split
  · next heq => exact absurd (List.cons.inj heq).1 hq
  · next heq => exact absurd (List.cons.inj heq).1 hb
  · next heq => exact absurd (List.cons.inj heq).1 hc
  · rfl

theorem beginsWord_writeInteger (n : Int) :
    ∃ c more, writeInteger n = c :: more ∧ BeginsWord c := by
  cases n with
  | ofNat m =>
    obtain ⟨c, more, hcons, hc⟩ := IsWhole.cons (isWhole_writeNatural m)
    exact ⟨c, more, hcons, Or.inl hc⟩
  | negSucc m => exact ⟨'-', writeNatural (m + 1), rfl, Or.inr (by simp)⟩

theorem beginsWord_writeFloat {x : Binary64} (hx : IsCanonical x) :
    ∃ c more, writeFloat x = c :: more ∧ BeginsWord c := by
  cases x with
  | infinite negative =>
    cases negative
    · exact ⟨'I', _, rfl, Or.inr (by simp)⟩
    · exact ⟨'-', _, rfl, Or.inr (by simp)⟩
  | notANumber => exact ⟨'N', _, rfl, Or.inr (by simp)⟩
  | finite negative mantissa exponent =>
    obtain ⟨decimal, hp, htext, -⟩ := write_finite hx negative
    obtain ⟨c, more, hcons, hc⟩ := Decimal.Proper.cons hp
    cases negative with
    | true => exact ⟨'-', decimal.text, htext, Or.inr (by simp)⟩
    | false => exact ⟨c, more, htext.trans hcons, Or.inl hc⟩

/-! ### Where values begin -/

section Written
variable {layout : Layout} {depth fuel : Nat} {item value : Value} {items : List Value}
  {field : Text × Value} {fields : Fields Value} {gap text rest after last : Text}

/-- The text begins with a character that is no white space and closes no list. -/
def Starts (text : Text) : Prop :=
  ∃ c more, text = c :: more ∧ isGap c = false ∧ c ≠ ']'

theorem Starts.skipGap_eq (h : Starts text) (hg : ∀ c ∈ gap, isGap c = true) (rest : Text) :
    skipGap (gap ++ (text ++ rest)) = text ++ rest := by
  obtain ⟨c, more, rfl, hc, -⟩ := h
  rw [skipGap_append hg, List.cons_append, skipGap_cons hc]

theorem Starts.append (h : Starts text) (more : Text) : Starts (text ++ more) := by
  obtain ⟨c, rest, rfl, hc⟩ := h
  exact ⟨c, rest ++ more, rfl, hc⟩

theorem starts_of_beginsWord (h : ∃ c more, text = c :: more ∧ BeginsWord c) : Starts text := by
  obtain ⟨c, more, htext, hc⟩ := h
  obtain ⟨hgap, -, -, -, hb⟩ := hc.not_bracket
  exact ⟨c, more, htext, hgap, hb⟩

theorem starts_writeAt (layout : Layout) (depth : Nat) (hv : Sound value) :
    Starts (writeAt layout depth value) := by
  cases hv with
  | null => exact ⟨'n', _, rfl, by decide⟩
  | bool b => cases b <;> exact ⟨_, _, rfl, by decide⟩
  | int hn => exact starts_of_beginsWord (beginsWord_writeInteger _)
  | float hx => exact starts_of_beginsWord (beginsWord_writeFloat hx)
  | str s => exact ⟨'"', _, rfl, by decide⟩
  | @arr items => cases items <;> exact ⟨'[', _, rfl, by decide⟩
  | @obj fields => cases fields <;> exact ⟨'\x7b', _, rfl, by decide⟩

theorem starts_writeItems (layout : Layout) (depth : Nat) (hitem : Sound item)
    (items : List Value) : Starts (writeItems layout depth (item :: items)) := by
  have h := starts_writeAt layout depth hitem
  cases items with
  | nil => exact h
  | cons next items => exact (h.append _).append _

/-- The fields of an object begin with a quote. -/
theorem writeFields_cons (layout : Layout) (depth : Nat) (field : Text × Value)
    (fields : Fields Value) :
    ∃ more, writeFields layout depth (field :: fields) = '"' :: more := by
  obtain ⟨name, value⟩ := field
  cases fields <;> exact ⟨_, rfl⟩

/-! ### Items and fields in turn -/

theorem readItems_last (hv : readValue fuel text = .ok (item, rest))
    (hs : skipGap rest = ']' :: after) : readItems (fuel + 1) text = .ok ([item], after) := by
  rw [readItems.eq_def]
  dsimp only [bind, Except.bind]
  rw [hv]
  simp only [hs]
  rfl

theorem readItems_next (hv : readValue fuel text = .ok (item, rest))
    (hs : skipGap rest = ',' :: after) (hi : readItems fuel (skipGap after) = .ok (items, last)) :
    readItems (fuel + 1) text = .ok (item :: items, last) := by
  rw [readItems.eq_def]
  dsimp only [bind, Except.bind]
  rw [hv]
  simp only [hs, hi]
  rfl

/-- The text begins with a field: a name, a colon, and a value that is read. -/
def BeginsField (fuel : Nat) (text : Text) (field : Text × Value) (rest : Text) : Prop :=
  ∃ quoted named valued, text = '"' :: quoted ∧
    readText (quoted.length + 1) quoted = .ok (field.1, named) ∧ skipGap named = ':' :: valued ∧
    readValue fuel (skipGap valued) = .ok (field.2, rest)

theorem readFields_last (hf : BeginsField fuel text field rest)
    (hs : skipGap rest = '\x7d' :: after) :
    readFields (fuel + 1) text = .ok ([field], after) := by
  obtain ⟨quoted, named, valued, rfl, hname, hcolon, hv⟩ := hf
  rw [readFields.eq_def]
  simp only [bind, Except.bind, hname, hcolon, hv, hs]
  rfl

theorem readFields_next (hf : BeginsField fuel text field rest)
    (hs : skipGap rest = ',' :: after)
    (hi : readFields fuel (skipGap after) = .ok (fields, last)) :
    readFields (fuel + 1) text = .ok (field :: fields, last) := by
  obtain ⟨quoted, named, valued, rfl, hname, hcolon, hv⟩ := hf
  rw [readFields.eq_def]
  simp only [bind, Except.bind, hname, hcolon, hv, hs, hi]
  rfl

theorem readValue_list {c : Char} (hs : skipGap text = c :: after) (hc : c ≠ ']')
    (hi : readItems fuel (c :: after) = .ok (items, rest)) :
    readValue (fuel + 1) ('[' :: text) = .ok (.arr items, rest) := by
  rw [readValue.eq_def]
  simp only [hs]
  split
  · next heq => exact absurd (List.cons.inj heq).1 hc
  · rw [hi]
    rfl

theorem readValue_object {c : Char} (hs : skipGap text = c :: after) (hc : c ≠ '\x7d')
    (hi : readFields fuel (c :: after) = .ok (fields, rest)) :
    readValue (fuel + 1) ('\x7b' :: text) = .ok (Value.ofFields fields, rest) := by
  rw [readValue.eq_def]
  simp only [hs]
  split
  · next heq => exact absurd (List.cons.inj heq).1 hc
  · rw [hi]
    rfl

/-! ### What is written is read -/

/-- What is written for the value is read as the value, whatever may come after it. -/
def Reads (layout : Layout) (value : Value) : Prop :=
  ∀ (depth fuel : Nat) (rest : Text), Clear rest → (writeAt layout depth value).length < fuel →
    readValue fuel (writeAt layout depth value ++ rest) = .ok (value, rest)

theorem readText_quoted (ascii : Bool) (name rest : Text) :
    ∃ quoted, writeText ascii name ++ rest = '"' :: quoted ∧
      readText (quoted.length + 1) quoted = .ok (name, rest) := by
  refine ⟨name.flatMap (writeChar ascii) ++ '"' :: rest, by simp [writeText], ?_⟩
  refine readText_written ascii name ?_ rest
  have hle := length_le_written ascii name
  rw [List.length_append]
  omega

/-- What may come between two parts is read up to the next part. -/
theorem skipGap_between (hl : Spaced layout) (depth : Nat) (hs : Starts text) (rest : Text) :
    ∃ after, skipGap (layout.between depth ++ (text ++ rest)) = ',' :: after ∧
      skipGap after = text ++ rest := by
  obtain ⟨gap, hb, hg⟩ := hl.between depth
  refine ⟨gap ++ (text ++ rest), ?_, hs.skipGap_eq hg rest⟩
  rw [hb, List.cons_append, skipGap_cons (by decide)]

theorem clear_between (hl : Spaced layout) (depth : Nat) (rest : Text) :
    Clear (layout.between depth ++ rest) := by
  obtain ⟨gap, hb, -⟩ := hl.between depth
  rw [hb]
  rintro c ⟨⟩
  exact Or.inr (Or.inl rfl)

/-- **The items of a list are read** up to its closing bracket. -/
theorem readItems_written (hl : Spaced layout) (depth : Nat) (hg : ∀ c ∈ gap, isGap c = true)
    (rest : Text) : ∀ (items : List Value) (item : Value),
    (∀ v ∈ item :: items, Sound v ∧ Reads layout v) →
    ∀ fuel, (writeItems layout depth (item :: items)).length + 1 < fuel →
      readItems fuel (writeItems layout depth (item :: items) ++ (gap ++ ']' :: rest)) =
        .ok (item :: items, rest)
  | [], item, h, fuel + 1, hf => by
    have hv := (h item (by simp)).2 depth fuel (gap ++ ']' :: rest)
      (clear_gap hg (Or.inr (Or.inl rfl)) rest) (by rw [writeItems] at hf; omega)
    refine readItems_last hv ?_
    rw [skipGap_append hg, skipGap_cons (by decide)]
  | next :: items, item, h, fuel + 1, hf => by
    -- an item costs one unit of fuel, and the comma after it pays for that
    have hstarts := starts_writeItems layout depth (h next (by simp)).1 items
    have hlength := hl.length_between_pos depth
    rw [writeItems, List.length_append, List.length_append] at hf
    have ih := readItems_written hl depth hg rest items next
      (fun v hv => h v (List.mem_cons_of_mem _ hv)) fuel (by omega)
    have hv := (h item (by simp)).2 depth fuel (layout.between depth ++
        (writeItems layout depth (next :: items) ++ (gap ++ ']' :: rest)))
      (clear_between hl depth _) (by omega)
    obtain ⟨after, hcomma, hskip⟩ := skipGap_between hl depth hstarts (gap ++ ']' :: rest)
    rw [writeItems, List.append_assoc, List.append_assoc]
    exact readItems_next hv hcomma (by rw [hskip]; exact ih)

/-- A field is read as it was written. -/
theorem beginsField_written (depth fuel : Nat) {field : Text × Value}
    (hs : Sound field.2) (hr : Reads layout field.2) (hrest : Clear rest)
    (hf : (writeAt layout depth field.2).length < fuel) :
    BeginsField fuel (writeText layout.ascii field.1 ++ ([':', ' '] ++
      (writeAt layout depth field.2 ++ rest))) field rest := by
  obtain ⟨quoted, hquoted, hname⟩ := readText_quoted layout.ascii field.1
    ([':', ' '] ++ (writeAt layout depth field.2 ++ rest))
  refine ⟨quoted, _, ' ' :: (writeAt layout depth field.2 ++ rest), hquoted, hname,
    skipGap_cons (by decide) _, ?_⟩
  have hspace : ∀ c ∈ ([' '] : Text), isGap c = true := by simp [isGap]
  have hskip := (starts_writeAt layout depth hs).skipGap_eq hspace rest
  rw [List.singleton_append] at hskip
  rw [hskip]
  exact hr depth fuel rest hrest hf

/-- **The fields of an object are read** up to its closing brace. -/
theorem readFields_written (hl : Spaced layout) (depth : Nat) (hg : ∀ c ∈ gap, isGap c = true)
    (rest : Text) : ∀ (fields : Fields Value) (field : Text × Value),
    (∀ f ∈ field :: fields, Sound f.2 ∧ Reads layout f.2) →
    ∀ fuel, (writeFields layout depth (field :: fields)).length + 1 < fuel →
      readFields fuel (writeFields layout depth (field :: fields) ++ (gap ++ '\x7d' :: rest)) =
        .ok (field :: fields, rest)
  | [], (name, value), h, fuel + 1, hf => by
    obtain ⟨hs, hr⟩ := h (name, value) (by simp)
    rw [writeFields, List.length_append, List.length_append] at hf
    have hfield := beginsField_written depth fuel hs hr
      (clear_gap hg (Or.inr (Or.inr rfl)) rest) (by dsimp only; omega)
    rw [writeFields, List.append_assoc, List.append_assoc]
    refine readFields_last hfield ?_
    rw [skipGap_append hg, skipGap_cons (by decide)]
  | next :: fields, (name, value), h, fuel + 1, hf => by
    obtain ⟨hs, hr⟩ := h (name, value) (by simp)
    obtain ⟨more, hmore⟩ := writeFields_cons layout depth next fields
    have hstarts : Starts (writeFields layout depth (next :: fields)) :=
      ⟨'"', more, hmore, by decide⟩
    have hlength := hl.length_between_pos depth
    rw [writeFields] at hf
    simp only [List.length_append] at hf
    have ih := readFields_written hl depth hg rest fields next
      (fun f hf => h f (List.mem_cons_of_mem _ hf)) fuel (by omega)
    have hclear := clear_between hl depth
      (writeFields layout depth (next :: fields) ++ (gap ++ '\x7d' :: rest))
    have hfield := beginsField_written depth fuel hs hr hclear (by dsimp only; omega)
    obtain ⟨after, hcomma, hskip⟩ := skipGap_between hl depth hstarts (gap ++ '\x7d' :: rest)
    rw [writeFields]
    simp only [List.append_assoc]
    exact readFields_next hfield hcomma (by rw [hskip]; exact ih)

theorem reads_word (hb : ∀ depth, ∃ c more, writeAt layout depth value = c :: more ∧ BeginsWord c)
    (hw : ∀ depth rest, Clear rest →
      readWord (writeAt layout depth value ++ rest) = .ok (value, rest)) : Reads layout value := by
  intro depth fuel rest hrest hf
  obtain ⟨fuel, rfl⟩ := Nat.exists_eq_add_one_of_ne_zero (Nat.ne_of_gt (Nat.zero_lt_of_lt hf))
  obtain ⟨c, more, hcons, hc⟩ := hb depth
  have h := hw depth rest hrest
  rw [hcons, List.cons_append] at h ⊢
  rw [readValue_word hc]
  exact h

theorem reads_list (hl : Spaced layout) (h : ∀ v ∈ items, Sound v ∧ Reads layout v) :
    Reads layout (.arr items) := by
  rintro depth (_ | fuel) rest hrest hf
  · omega
  cases items with
  | nil => rfl
  | cons item items =>
    have hstarts := starts_writeItems layout (depth + 1) (h item (by simp)).1 items
    have hmargin := hstarts.skipGap_eq (hl.margin (depth + 1)) (layout.margin depth ++ ']' :: rest)
    obtain ⟨c, more, hcons, -, hbracket⟩ := hstarts
    rw [writeAt] at hf ⊢
    simp only [List.length_append, List.length_cons, List.length_nil] at hf
    have hitems := readItems_written hl (depth + 1) (hl.margin depth) rest items item h
      fuel (by omega)
    simp only [List.cons_append, List.append_assoc, List.nil_append]
    rw [hcons, List.cons_append] at hmargin hitems ⊢
    exact readValue_list hmargin hbracket hitems

theorem reads_object (hl : Spaced layout) (hn : (Fields.names fields).Nodup)
    (h : ∀ f ∈ fields, Sound f.2 ∧ Reads layout f.2) : Reads layout (.obj fields) := by
  rintro depth (_ | fuel) rest hrest hf
  · omega
  cases fields with
  | nil => rfl
  | cons field fields =>
    obtain ⟨more, hcons⟩ := writeFields_cons layout (depth + 1) field fields
    have hstarts : Starts (writeFields layout (depth + 1) (field :: fields)) :=
      ⟨'"', more, hcons, by decide⟩
    have hmargin := hstarts.skipGap_eq (hl.margin (depth + 1))
      (layout.margin depth ++ '\x7d' :: rest)
    have hmerged : Value.ofFields (field :: fields) = .obj (field :: fields) := by
      rw [Value.ofFields, update_of_nodup (field :: fields) (by simpa using hn), List.nil_append]
    rw [writeAt] at hf ⊢
    simp only [List.length_append, List.length_cons, List.length_nil] at hf
    have hfields := readFields_written hl (depth + 1) (hl.margin depth) rest fields field h
      fuel (by omega)
    simp only [List.cons_append, List.append_assoc, List.nil_append]
    rw [hcons, List.cons_append] at hmargin hfields ⊢
    rw [← hmerged]
    exact readValue_object hmargin (by decide) hfields

/-- **A sound value is read as it was written**, whatever may come after it. -/
theorem reads_of_sound (hl : Spaced layout) (hv : Sound value) : Reads layout value := by
  induction hv with
  | null => exact reads_word (fun _ => ⟨'n', _, rfl, by simp [BeginsWord]⟩) fun _ _ _ => rfl
  | bool b =>
    cases b with
    | true => exact reads_word (fun _ => ⟨'t', _, rfl, by simp [BeginsWord]⟩) fun _ _ _ => rfl
    | false => exact reads_word (fun _ => ⟨'f', _, rfl, by simp [BeginsWord]⟩) fun _ _ _ => rfl
  | @int n hn =>
    refine reads_word (fun _ => ?_) fun _ rest hr => ?_
    · exact beginsWord_writeInteger n
    · exact readWord_writeInteger hn hr
  | @float x hx =>
    refine reads_word (fun _ => ?_) fun _ rest hr => ?_
    · exact beginsWord_writeFloat hx
    · exact readWord_writeFloat hx hr
  | str s =>
    rintro depth (_ | fuel) rest - hf
    · omega
    obtain ⟨quoted, hquoted, hread⟩ := readText_quoted layout.ascii s rest
    have htext : writeAt layout depth (.str s) ++ rest = '"' :: quoted := hquoted
    rw [htext, readValue.eq_def]
    simp only [hread]
    rfl
  | arr hi ih => exact reads_list hl fun v hv => ⟨hi v hv, ih v hv⟩
  | obj hn hf ih => exact reads_object hl hn fun f hm => ⟨hf f hm, ih f hm⟩

/-- **A document is read as it was written**, also in front of white space. -/
theorem read_written_append (hl : Spaced layout) (hv : Sound value)
    (hg : ∀ c ∈ gap, isGap c = true) : Json.read (writeAt layout 0 value ++ gap) = .ok value := by
  have hclear : Clear gap := fun c hc => Or.inl (hg c (List.mem_of_head? hc))
  have hskip := (starts_writeAt layout 0 hv).skipGap_eq (List.forall_mem_nil _) gap
  have hread := reads_of_sound hl hv 0 (2 * (writeAt layout 0 value ++ gap).length + 2) gap hclear
    (by rw [List.length_append]; omega)
  have hend : skipGap gap = [] := List.dropWhile_eq_nil_iff.mpr hg
  rw [List.nil_append] at hskip
  unfold Json.read
  simp only [bind, Except.bind, hskip, hread, hend]
  rfl

theorem read_written (hl : Spaced layout) (hv : Sound value) :
    Json.read (writeAt layout 0 value) = .ok value := by
  have h := read_written_append hl hv (List.forall_mem_nil _)
  rwa [List.append_nil] at h

theorem spaced_indented (ascii : Bool) :
    Spaced ⟨ascii, newLine, fun depth => ',' :: newLine depth⟩ := by
  have hgap : ∀ depth, ∀ c ∈ newLine depth, isGap c = true := by
    intro depth c hc
    rcases List.mem_cons.mp hc with rfl | hc
    · rfl
    · rw [List.eq_of_mem_replicate hc]
      rfl
  exact ⟨hgap, fun depth => ⟨newLine depth, rfl, hgap depth⟩⟩

end Written

end CmdletShell.Proofs.Documents.Structure
