/-!
# TOML values

A document is a table. Integers are kept as numbers; floats and dates are kept as they are
written, since no setting is one.
-/

namespace Kennel.Toml

inductive Value where
  | text (s : String)
  | integer (i : Int)
  | float (written : String)
  | boolean (b : Bool)
  | date (written : String)
  | array (items : List Value)
  | table (entries : List (String × Value))
  deriving Inhabited

/-- Takes something out of a value. -/
abbrev Decoder (α : Type) := Value → Option α

namespace Decoder

def text : Decoder String
  | .text s => some s
  | _ => none

/-- A natural number below `limit`. -/
def natural (limit : Nat) : Decoder Nat
  | .integer (.ofNat n) => if n < limit then some n else none
  | _ => none

/-- The items of an array. -/
def list {α : Type} (d : Decoder α) : Decoder (List α)
  | .array items => items.mapM d
  | _ => none

end Decoder

/-- The fields of a structure, taken from a table by their names or from an array in order. -/
structure Fields (α : Type) where
  fromTable : List (String × Value) → Option α
  fromItems : List Value → Option (α × List Value)

namespace Fields

/-- One field; `absent` is what it is when it is missing, if it may be. -/
def field {α : Type} (name : String) (d : Decoder α) (absent : Option α) : Fields α where
  fromTable entries :=
    match entries.lookup name with
    | some v => d v
    | none => absent
  fromItems
    | v :: rest => (d v).map (·, rest)
    | [] => absent.map (·, [])

/-- A field that must be there. -/
def required {α : Type} (name : String) (d : Decoder α) : Fields α := field name d none

def optional {α : Type} (name : String) (d : Decoder α) (absent : α) : Fields α :=
  field name d (some absent)

instance : Applicative Fields where
  pure a := ⟨fun _ => some a, fun items => some (a, items)⟩
  seq f x :=
    { fromTable := fun entries => do
        let g ← f.fromTable entries
        let a ← (x ()).fromTable entries
        some (g a)
      fromItems := fun items => do
        let (g, items) ← f.fromItems items
        let (a, items) ← (x ()).fromItems items
        some (g a, items) }

/-- Takes a structure with these fields; other entries of a table and further items of an array
are passed over. -/
def decoder {α : Type} (f : Fields α) : Decoder α
  | .table entries => f.fromTable entries
  | .array items => (f.fromItems items).map (·.1)
  | _ => none

end Fields

end Kennel.Toml
