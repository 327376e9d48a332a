import CmdletShell.Number.Basic

/-!
# Documents

A document is the value of a JSON text. Variables, settings and replies hold such values, since a
configuration file may put a value of any kind in any place.

* `Value.get?`, `Value.put`: reading and writing a field of an object; a new field goes last.
* `Value.truthy`: which values count as yes where a yes or no is asked.
* `Value.kind`: the kind of a value, by the name that messages use.
-/

namespace CmdletShell

/-- The value of a JSON text. The names of an object's fields differ. -/
inductive Value where
  /-- No value. -/
  | null
  /-- Yes or no. -/
  | bool (b : Bool)
  /-- A whole number of any size. -/
  | int (n : Int)
  /-- A floating point number. -/
  | float (x : Binary64)
  /-- A text. -/
  | str (s : Text)
  /-- A list of values. -/
  | arr (items : List Value)
  /-- Named values in order. -/
  | obj (fields : List (Text × Value))
  deriving Repr, Inhabited

/-- Named values in order; the names differ. -/
abbrev Fields (α : Type) := List (Text × α)

namespace Fields

variable {α : Type}

/-- The value under a name. -/
def get? (name : Text) : Fields α → Option α
  | [] => none
  | (key, value) :: rest => if key = name then some value else get? name rest

/-- Writes the value under a name, which keeps its place; a new name goes last. -/
def put (name : Text) (value : α) : Fields α → Fields α
  | [] => [(name, value)]
  | (key, old) :: rest =>
    if key = name then (key, value) :: rest else (key, old) :: put name value rest

/-- The fields after writing all of `changes` one after another. -/
def update (fields changes : Fields α) : Fields α :=
  changes.foldl (fun fs (name, value) => put name value fs) fields

/-- The names in order. -/
def names (fields : Fields α) : List Text :=
  fields.map (·.1)

theorem get?_put (name other : Text) (value : α) (fields : Fields α) :
    get? other (put name value fields) = if other = name then some value else get? other fields := by
  induction fields with
  | nil => simp [put, get?, eq_comm]
  | cons field rest ih =>
    obtain ⟨key, old⟩ := field
    by_cases h : key = name
    · subst h
      by_cases h' : key = other <;> simp [put, get?, h', eq_comm]
      simp [Ne.symm h']
    · by_cases h' : key = other
      · subst h'
        simp [put, get?, h]
      · simp [put, get?, h, h', ih]

end Fields

/-- The kind of a value. -/
inductive Value.Kind where
  /-- No value. -/
  | null
  /-- Yes or no. -/
  | bool
  /-- A whole number. -/
  | int
  /-- A floating point number. -/
  | float
  /-- A text. -/
  | str
  /-- A list. -/
  | arr
  /-- An object. -/
  | obj
  deriving DecidableEq, Repr, Inhabited

/-- The name of a kind in messages. -/
def Value.Kind.name : Value.Kind → Text
  | .null => "NoneType"
  | .bool => "bool"
  | .int => "int"
  | .float => "float"
  | .str => "str"
  | .arr => "list"
  | .obj => "dict"

namespace Value

/-- The kind of a value. -/
def kind : Value → Kind
  | .null => .null
  | .bool _ => .bool
  | .int _ => .int
  | .float _ => .float
  | .str _ => .str
  | .arr _ => .arr
  | .obj _ => .obj

/-- Whether a value counts as yes: not null, no, zero, or empty. -/
def truthy : Value → Bool
  | .null => false
  | .bool b => b
  | .int n => n != 0
  | .float x => !x.isZero
  | .str s => !s.isEmpty
  | .arr items => !items.isEmpty
  | .obj fields => !fields.isEmpty

/-- The value if it counts as yes, else `other`. -/
def orElse (value other : Value) : Value :=
  if value.truthy then value else other

/-- The value under a name, if the value is an object that has it. -/
def get? (name : Text) : Value → Option Value
  | .obj fields => Fields.get? name fields
  | _ => none

/-- The value found by following names through objects. -/
def at? : List Text → Value → Option Value
  | [], value => some value
  | name :: path, value => (value.get? name).bind (at? path)

/-- The object with the given fields; of two with one name the later value stays, at the place of
the earlier. -/
def ofFields (fields : List (Text × Value)) : Value :=
  .obj (Fields.update [] fields)

/-- The text of a value that is one. -/
def text? : Value → Option Text
  | .str s => some s
  | _ => none

/-- The number of a value that is one. -/
def number? : Value → Option Number
  | .int n => some (.int n)
  | .float x => some (.float x)
  | .bool b => some (.int (if b then 1 else 0))
  | _ => none

end Value

end CmdletShell
