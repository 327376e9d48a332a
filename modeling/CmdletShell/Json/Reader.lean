import CmdletShell.Json.Value

/-!
# Reading documents

A JSON text is read in one pass from left to right. Beside the grammar of JSON the words `NaN`,
`Infinity` and `-Infinity` are numbers. A number without point and exponent is a whole number of
any size up to the digit limit; of two fields with one name the later value stays.

* `Json.read`: the value of a text, or why there is none.
* `Json.ReadError.malformed` and `Json.ReadError.tooLong`: whichever is met first.
-/

namespace CmdletShell.Json

/-- Why a text has no value. -/
inductive ReadError where
  /-- The text does not follow the grammar. -/
  | malformed
  /-- A whole number has more digits than may be read. -/
  | tooLong
  deriving DecidableEq, Repr, Inhabited

/-- A value together with the text after it. -/
abbrev Read (α : Type) := Except ReadError (α × Text)

/-- White space between the parts of a document. -/
def isGap (c : Char) : Bool :=
  c = ' ' || c = '\t' || c = '\n' || c = '\r'

/-- The text after white space. -/
def skipGap (text : Text) : Text :=
  text.dropWhile isGap

/-- The value of a hexadecimal digit. -/
def hexValue? (c : Char) : Option Nat :=
  if '0' ≤ c && c ≤ '9' then some (c.toNat - 48)
  else if 'a' ≤ c && c ≤ 'f' then some (c.toNat - 87)
  else if 'A' ≤ c && c ≤ 'F' then some (c.toNat - 55)
  else none

/-- The number that four hexadecimal digits mean, and the text after them. -/
def unit? : Text → Option (Nat × Text)
  | a :: b :: c :: d :: rest => do
    let a ← hexValue? a
    let b ← hexValue? b
    let c ← hexValue? c
    let d ← hexValue? d
    return (((a * 16 + b) * 16 + c) * 16 + d, rest)
  | _ => none

/-- The character that a backslash and `c` stand for. -/
def escaped? (c : Char) : Option Char :=
  match c with
  | '"' => some '"'
  | '\\' => some '\\'
  | '/' => some '/'
  | 'b' => some '\x08'
  | 'f' => some '\x0c'
  | 'n' => some '\n'
  | 'r' => some '\r'
  | 't' => some '\t'
  | _ => none

/-- The character written by number at the start of a text: two halves make one. A half that stands
alone is no character and becomes the replacement character. -/
def numbered? (text : Text) : Option (Char × Text) := do
  let (n, rest) ← unit? text
  if 0xD800 ≤ n && n < 0xDC00 then
    match rest with
    | '\\' :: 'u' :: more =>
      match unit? more with
      | some (m, rest') =>
        if 0xDC00 ≤ m && m < 0xE000 then
          return (Char.ofNat (0x10000 + (n - 0xD800) * 1024 + (m - 0xDC00)), rest')
        else return ('\uFFFD', rest)
      | none => none
    | _ => return ('\uFFFD', rest)
  else if 0xDC00 ≤ n && n < 0xE000 then return ('\uFFFD', rest)
  else return (Char.ofNat n, rest)

/-- The rest of a string whose opening quote has been read; `fuel` bounds its characters. -/
def readText : Nat → Text → Read Text
  | 0, _ => .error .malformed
  | _, [] => .error .malformed
  | fuel + 1, c :: rest =>
    if c = '"' then .ok ([], rest)
    else if c = '\\' then
      match rest with
      | [] => .error .malformed
      | 'u' :: digits =>
        match numbered? digits with
        | none => .error .malformed
        | some (d, rest) => (readText fuel rest).map fun (text, rest) => (d :: text, rest)
      | e :: rest =>
        match escaped? e with
        | none => .error .malformed
        | some d => (readText fuel rest).map fun (text, rest) => (d :: text, rest)
    else if c.toNat < 32 then .error .malformed
    else (readText fuel rest).map fun (text, rest) => (c :: text, rest)

/-- The values of the ASCII digits at the start of a text, and the text after them. -/
def takeDigits (text : Text) : List Nat × Text :=
  ((text.takeWhile Char.isDigit).map (·.toNat - 48), text.dropWhile Char.isDigit)

/-- The digits of a whole part at the start of a text: a zero begins no others. -/
def takeWhole : Text → List Nat × Text
  | '0' :: rest => ([0], rest)
  | text => takeDigits text

/-- The decimal places at the start of a text: none where no digit follows a point. -/
def takePlaces : Text → List Nat × Text
  | '.' :: rest =>
    match takeDigits rest with
    | ([], _) => ([], '.' :: rest)
    | found => found
  | text => ([], text)

/-- The digits of an exponent after its mark. -/
def takeSigned : Text → Option (Int × Text)
  | '-' :: rest =>
    match takeDigits rest with
    | ([], _) => none
    | (digits, rest) => some (-(Text.digitsValue 0 digits : Int), rest)
  | '+' :: rest =>
    match takeDigits rest with
    | ([], _) => none
    | (digits, rest) => some ((Text.digitsValue 0 digits : Int), rest)
  | text =>
    match takeDigits text with
    | ([], _) => none
    | (digits, rest) => some ((Text.digitsValue 0 digits : Int), rest)

/-- The exponent at the start of a text, if there is one. -/
def takeExponent (text : Text) : Option (Int × Text) :=
  match text with
  | 'e' :: rest => takeSigned rest
  | 'E' :: rest => takeSigned rest
  | _ => none

/-- The number without its sign at the start of a text. -/
def readNumber (negative : Bool) (text : Text) : Read Value :=
  let (whole, rest) := takeWhole text
  if whole.isEmpty then .error .malformed
  else
    let (places, rest) := takePlaces rest
    match places, takeExponent rest with
    | [], none =>
      if Text.digitLimit < whole.length then .error .tooLong
      else
        let n : Int := Text.digitsValue 0 whole
        .ok (.int (if negative then -n else n), rest)
    | _, none =>
      .ok (.float (Binary64.ofDecimal negative (Text.digitsValue 0 (whole ++ places))
        (-(places.length : Int))), rest)
    | _, some (exponent, rest) =>
      .ok (.float (Binary64.ofDecimal negative (Text.digitsValue 0 (whole ++ places))
        (exponent - places.length)), rest)

/-- The value that a word at the start of a text means. -/
def readWord (text : Text) : Read Value :=
  let words : List (Text × Value) :=
    [("null", .null), ("true", .bool true), ("false", .bool false), ("NaN", .float .notANumber),
      ("Infinity", .float (.infinite false)), ("-Infinity", .float (.infinite true))]
  match words.find? fun (word, _) => word.isPrefixOf text with
  | some (word, value) => .ok (value, text.drop word.length)
  | none =>
    match text with
    | '-' :: rest => readNumber true rest
    | _ => readNumber false text

mutual

/-- The value at the start of a text; `fuel` bounds its parts. -/
def readValue : Nat → Text → Read Value
  | 0, _ => .error .malformed
  | fuel + 1, text =>
    match text with
    | '"' :: rest => (readText (rest.length + 1) rest).map fun (s, rest) => (.str s, rest)
    | '[' :: rest =>
      match skipGap rest with
      | ']' :: rest => .ok (.arr [], rest)
      | rest => (readItems fuel rest).map fun (items, rest) => (.arr items, rest)
    | '\x7b' :: rest =>
      match skipGap rest with
      | '\x7d' :: rest => .ok (.obj [], rest)
      | rest => (readFields fuel rest).map fun (fields, rest) => (Value.ofFields fields, rest)
    | _ => readWord text

/-- The items of a list up to its closing bracket. -/
def readItems : Nat → Text → Except ReadError (List Value × Text)
  | 0, _ => .error .malformed
  | fuel + 1, text => do
    let (item, rest) ← readValue fuel text
    match skipGap rest with
    | ']' :: rest => return ([item], rest)
    | ',' :: rest =>
      let (items, rest) ← readItems fuel (skipGap rest)
      return (item :: items, rest)
    | _ => throw .malformed

/-- The fields of an object up to its closing bracket. -/
def readFields : Nat → Text → Except ReadError (List (Text × Value) × Text)
  | 0, _ => .error .malformed
  | fuel + 1, text =>
    match text with
    | '"' :: rest => do
      let (name, rest) ← readText (rest.length + 1) rest
      match skipGap rest with
      | ':' :: rest =>
        let (value, rest) ← readValue fuel (skipGap rest)
        match skipGap rest with
        | '\x7d' :: rest => return ([(name, value)], rest)
        | ',' :: rest =>
          let (fields, rest) ← readFields fuel (skipGap rest)
          return ((name, value) :: fields, rest)
        | _ => throw .malformed
      | _ => throw .malformed
    | _ => .error .malformed

end

/-- The value of a whole text. -/
def read (text : Text) : Except ReadError Value := do
  let (value, rest) ← readValue (2 * text.length + 2) (skipGap text)
  if (skipGap rest).isEmpty then return value else throw .malformed

end CmdletShell.Json
