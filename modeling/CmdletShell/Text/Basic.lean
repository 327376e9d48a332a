/-!
# Texts

A text is the list of its code points. Lengths, widths and positions count code points, and texts
are ordered by them.

* `includes`: a part stands somewhere in a text.
* `padRight`: fills a text with spaces up to a width.
* `sort`: puts texts in code point order.
-/

namespace CmdletShell

/-- A text is the list of its code points. -/
abbrev Text := List Char

/-- A string literal may stand for its text. -/
instance : Coe String Text := ⟨String.toList⟩

namespace Text

/-- Whether `part` stands somewhere in the text. -/
def includes (part : Text) : Text → Bool
  | [] => part.isPrefixOf []
  | c :: rest => part.isPrefixOf (c :: rest) || includes part rest

/-- Whether the text ends with `tail`. -/
def endsWith (tail text : Text) : Bool :=
  tail.isSuffixOf text

/-- The text without the characters for which `p` holds at its start. -/
def dropLeft (p : Char → Bool) (text : Text) : Text :=
  text.dropWhile p

/-- The text without the characters for which `p` holds at its end. -/
def dropRight (p : Char → Bool) (text : Text) : Text :=
  (text.reverse.dropWhile p).reverse

/-- The text without the characters for which `p` holds at either end. -/
def trim (p : Char → Bool) (text : Text) : Text :=
  dropRight p (dropLeft p text)

/-- The pieces between the separators, one more than there are separators. -/
def splitAt (separator : Char) : Text → List Text
  | [] => [[]]
  | c :: rest =>
    if c = separator then [] :: splitAt separator rest
    else match splitAt separator rest with
      | [] => [[c]]
      | piece :: pieces => (c :: piece) :: pieces

/-- Every `old` character is replaced by `new`. -/
def replace (old new : Char) (text : Text) : Text :=
  text.map fun c => if c = old then new else c

/-- The text filled up with spaces to a width; a text at least that long stays as it is. -/
def padRight (width : Int) (text : Text) : Text :=
  text ++ List.replicate (width.toNat - text.length) ' '

/-- The texts one after another with `separator` between two of them. -/
def joinWith (separator : Text) (texts : List Text) : Text :=
  List.intercalate separator texts

/-- The first text does not come after the second in code point order. -/
def le : Text → Text → Bool
  | [], _ => true
  | _ :: _, [] => false
  | a :: rest, b :: others => if a = b then le rest others else decide (a.toNat < b.toNat)

/-- The texts in code point order. -/
def sort (texts : List Text) : List Text :=
  texts.mergeSort le

/-- Neighbouring equal texts are kept once, so that a sorted list becomes strictly increasing. -/
def squeeze : List Text → List Text
  | [] => []
  | [a] => [a]
  | a :: b :: rest => if a = b then squeeze (b :: rest) else a :: squeeze (b :: rest)

/-- The texts in code point order, each once. -/
def sortUnique (texts : List Text) : List Text :=
  squeeze (sort texts)

/-- The text as a string. -/
def asString (text : Text) : String :=
  String.ofList text

@[simp] theorem splitAt_nil (separator : Char) : splitAt separator [] = [[]] := rfl

theorem splitAt_ne_nil (separator : Char) (text : Text) : splitAt separator text ≠ [] := by
  cases text with
  | nil => simp [splitAt]
  | cons c rest =>
    unfold splitAt
    split
    · simp
    · split <;> simp

end Text

end CmdletShell
