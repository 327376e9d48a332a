import CmdletShell.Text.Basic

/-!
# Similarity of texts

Two texts are compared by their longest common block, then in the same way by what stands before
it and by what stands after it. The score is twice the count of characters in all those blocks over
the length of both texts. In a long second text the most frequent characters do not start a block.

* `blockSize`: the count of characters in common blocks.
* `Score`, `similarity`: the score as a fraction.
-/

namespace CmdletShell.Text

/-- A common block: where it starts in each text, and its size. -/
structure Block where
  /-- The start in the first text. -/
  first : Nat
  /-- The start in the second text. -/
  second : Nat
  /-- The count of characters. -/
  size : Nat
  deriving DecidableEq, Repr, Inhabited

/-- The length of the longest common start of two texts without a character of `ignored`. -/
def commonRun (ignored : List Char) : Text → Text → Nat
  | a :: as, b :: bs => if a = b && !ignored.contains a then commonRun ignored as bs + 1 else 0
  | _, _ => 0

/-- The better of `best` and the longest block at the start of a text `a`, which stands at `i`, and
some place in another, which stands at `j`. -/
def scanSecond (ignored : List Char) (a : Text) (i : Nat) : Text → Nat → Block → Block
  | [], _, best => best
  | b :: rest, j, best =>
    let size := commonRun ignored a (b :: rest)
    scanSecond ignored a i rest (j + 1) (if best.size < size then ⟨i, j, size⟩ else best)

/-- The longest block of two texts of which the first stands at `i`: of several, the earliest in
the first text, then the earliest in the second. -/
def scanFirst (ignored : List Char) (b : Text) : Text → Nat → Block → Block
  | [], _, best => best
  | a :: rest, i, best =>
    scanFirst ignored b rest (i + 1) (scanSecond ignored (a :: rest) i b 0 best)

/-- A block made longer at both ends as far as the texts agree. -/
def growBlock (a b : Text) (block : Block) : Block :=
  let left := commonRun [] (a.take block.first).reverse (b.take block.second).reverse
  let right :=
    commonRun [] (a.drop (block.first + block.size)) (b.drop (block.second + block.size))
  ⟨block.first - left, block.second - left, left + block.size + right⟩

/-- The longest common block of two texts. -/
def longestBlock (ignored : List Char) (a b : Text) : Block :=
  growBlock a b (scanFirst ignored b a 0 ⟨0, 0, 0⟩)

/-- The count of characters in the common blocks of two texts; `fuel` bounds the blocks. -/
def blockSizeWithin (ignored : List Char) : Nat → Text → Text → Nat
  | 0, _, _ => 0
  | fuel + 1, a, b =>
    let block := longestBlock ignored a b
    if block.size = 0 then 0
    else
      blockSizeWithin ignored fuel (a.take block.first) (b.take block.second) + block.size +
        blockSizeWithin ignored fuel (a.drop (block.first + block.size))
          (b.drop (block.second + block.size))

/-- The characters that do not start a block: in a text of 200 characters or more, those that make
up more than one in a hundred. -/
def popular (text : Text) : List Char :=
  if text.length < 200 then []
  else text.filter fun c => text.length / 100 + 1 < text.count c

/-- The count of characters in the common blocks of two texts. -/
def blockSize (a b : Text) : Nat :=
  blockSizeWithin (popular b) a.length a b

/-- A fraction. -/
structure Score where
  /-- The part. -/
  part : Nat
  /-- The whole. -/
  whole : Nat
  deriving DecidableEq, Repr, Inhabited

namespace Score

/-- Whether a score is at least another. -/
def ge (a b : Score) : Bool :=
  b.part * a.whole ≤ a.part * b.whole

end Score

/-- How similar two texts are; two empty ones are alike. -/
def similarity (a b : Text) : Score :=
  if a.length + b.length = 0 then ⟨1, 1⟩ else ⟨2 * blockSize a b, a.length + b.length⟩

end CmdletShell.Text
