import Kennel.Data.Dict
import Kennel.Json.Reading
import Kennel.Json.Value
import Kennel.Net.Address

/-!
# Taking values out of a JSON text

A `Decoder α` takes an `α` out of what was read of a text, or says what the first problem is, in
the order of the text. A number out of range, a missing field and an unknown variant are
mismatches like any other wrong shape.

A structure is taken from an object or from an array. From an object, the members are taken in the
order of the text: one whose name is no field is passed over, and a field that comes twice is a
mismatch at its second name. From an array, the fields are taken in their own order; fields with a
default may be left out at the end. `Fields` describes the fields of a structure once for both.
-/

namespace Kennel.Json

/-- Takes a value out of what was read. -/
abbrev Decoder (α : Type) := Reading → Except Fault α

/-- What it means to find this where something of another shape is expected. -/
def Reading.wrongShape : Reading → Fault
  | .number (.error f) => f
  | .string (.error f) => f
  | .broken b => b.taken
  | _ => .mismatch

namespace Decoder

def text : Decoder String
  | .string taken => taken
  | r => .error r.wrongShape

/-- A truth value. -/
def flag : Decoder Bool
  | .bool b => .ok b
  | r => .error r.wrongShape

/-- A natural number below `limit`. -/
def natural (limit : Nat) : Decoder Nat
  | .number (.ok (.int (.ofNat n))) => if n < limit then .ok n else .error .mismatch
  | r => .error r.wrongShape

def port : Decoder Port := fun r => (natural 65536 r).map (·.toUInt16)

/-- A number, as a float. -/
def real : Decoder Float
  | .number (.ok n) => .ok n.toFloat
  | r => .error r.wrongShape

/-- An address in dotted form. -/
def address : Decoder Address := fun r => do
  match Address.read? (← text r) with
  | some a => .ok a
  | none => .error .mismatch

/-- `null`, or a value. -/
def option {α : Type} (d : Decoder α) : Decoder (Option α)
  | .null => .ok none
  | r => (d r).map some

/-- The items of an array. -/
def list {α : Type} (d : Decoder α) : Decoder (List α)
  | .array items ending => do
    let l ← items.mapM d
    match ending with
    | .closed => .ok l
    | .cut f => .error f
  | r => .error r.wrongShape

def key : Key → Except Fault String
  | .text taken => taken
  | .broken b => .error b.taken

/-- The members of an object; of two under one key the later stays. -/
def dict {α : Type} (d : Decoder α) : Decoder (Dict α)
  | .object members ending => do
    let l ← members.mapM fun m => do
      let k ← key m.1
      let v ← d m.2
      pure (k, v)
    match ending with
    | .closed => .ok (Dict.ofList l)
    | .cut f => .error f
  | r => .error r.wrongShape

/-- One of the variants: its name, or an object with the name and `null`. -/
def variant {α : Type} (variants : List (String × α)) : Decoder α
  | .string taken => do
    match variants.lookup (← taken) with
    | some a => .ok a
    | none => .error .mismatch
  | .object [] _ => .error .malformed
  | .object ((k, v) :: more) ending => do
    let name ← match k with
      | .text taken => taken
      | .broken b => .error b.variant
    match variants.lookup name with
    | none => .error .mismatch
    | some a =>
      match v with
      | .null => pure ()
      | r => .error r.wrongShape
      match more, ending with
      | [], .closed => .ok a
      | [], .cut f => .error f
      | _ :: _, _ => .error .malformed
  | .broken b => .error b.variant
  | _ => .error .malformed

end Decoder

/-- The fields of a structure: slots for those seen so far, how a member goes into its slot, how
the structure comes out in the end, and how the fields are taken from items in order. -/
structure Fields (α : Type) where
  Slots : Type
  empty : Slots
  /-- Puts a member into its slot; nothing if no field has this name. -/
  put : String → Reading → Slots → Option (Except Fault Slots)
  finish : Slots → Except Fault α
  inOrder : List Reading → Ending → Except Fault (α × List Reading)

namespace Fields

variable {α β : Type}

def pure (a : α) : Fields α where
  Slots := Unit
  empty := ()
  put _ _ _ := none
  finish _ := .ok a
  inOrder items _ := .ok (a, items)

/-- One field; `absent` is what it is when it is missing, if it may be. -/
def field (name : String) (d : Decoder α) (absent : Option α) : Fields α where
  Slots := Option α
  empty := none
  put key r slot :=
    if key = name then
      match slot with
      | some _ => some (.error .mismatch)
      | none => some ((d r).map some)
    else none
  finish slot :=
    match slot.or absent with
    | some a => .ok a
    | none => .error .mismatch
  inOrder items ending :=
    match items, ending, absent with
    | r :: rest, _, _ => (d r).map (·, rest)
    | [], .cut f, _ => .error f
    | [], .closed, some a => .ok (a, [])
    | [], .closed, none => .error .mismatch

/-- A field that must be there. -/
def required (name : String) (d : Decoder α) : Fields α := field name d none

def optional (name : String) (d : Decoder α) (absent : α) : Fields α := field name d (some absent)

/-- A field that may be `null`, and is when it is missing from an object. -/
def nullable (name : String) (d : Decoder α) : Fields (Option α) :=
  { field name (.option d) (some none) with
    inOrder := (field name (.option d) none).inOrder }

/-- The fields of a function and of its argument. -/
def seq (f : Fields (α → β)) (x : Fields α) : Fields β where
  Slots := f.Slots × x.Slots
  empty := (f.empty, x.empty)
  put key r s :=
    match f.put key r s.1 with
    | some e => some (e.map (·, s.2))
    | none => (x.put key r s.2).map fun e => e.map (s.1, ·)
  finish s := do
    let g ← f.finish s.1
    let a ← x.finish s.2
    .ok (g a)
  inOrder items ending := do
    let (g, items) ← f.inOrder items ending
    let (a, items) ← x.inOrder items ending
    .ok (g a, items)

instance : Applicative Fields where
  pure := Fields.pure
  seq f x := Fields.seq f (x ())

/-- Takes the members one after another into their slots. -/
def putAll (f : Fields α) : f.Slots → List (Key × Reading) → Except Fault f.Slots
  | slots, [] => .ok slots
  | slots, (k, r) :: rest => do
    let name ← Decoder.key k
    match f.put name r slots with
    | some slots => f.putAll (← slots) rest
    | none =>
      match r.skipFault with
      | some fault => .error fault
      | none => f.putAll slots rest

/-- Takes a structure with these fields. -/
def decoder (f : Fields α) : Decoder α
  | .object members ending => do
    let slots ← f.putAll f.empty members
    match ending with
    | .closed => f.finish slots
    | .cut fault => .error fault
  | .array items ending => do
    let (a, rest) ← f.inOrder items ending
    match rest, ending with
    | _ :: _, _ => .error .malformed
    | [], .closed => .ok a
    | [], .cut fault => .error fault
  | r => .error r.wrongShape

end Fields

namespace Document

/-- Takes a value out of a document that holds nothing else. -/
def take {α : Type} (d : Decoder α) (doc : Document) : Except Fault α := do
  let a ← d doc.root
  if doc.trailing then .error .malformed else .ok a

end Document

/-- Takes a value out of a text. -/
def decodeText {α : Type} (d : Decoder α) (text : String) : Except Fault α :=
  (Document.ofGlyphs (Glyph.ofText text)).take d

/-- Takes a value out of bytes. -/
def decodeBytes {α : Type} (d : Decoder α) (bytes : ByteArray) : Except Fault α :=
  (Document.ofGlyphs (Glyph.ofBytes bytes)).take d

mutual

/-- The value that was read, if it was read to its end and every part can be taken. -/
def Reading.value? : Reading → Option Value
  | .null => some .null
  | .bool b => some (.bool b)
  | .number taken => taken.toOption.map .number
  | .string taken => taken.toOption.map .string
  | .array items ending => do
    let l ← Reading.values? items
    if ending = .closed then some (.array l) else none
  | .object members ending => do
    let l ← Reading.members? members
    if ending = .closed then some (.object l) else none
  | .broken _ => none
termination_by structural r => r

/-- The values that were read. -/
def Reading.values? : List Reading → Option (List Value)
  | [] => some []
  | r :: rest => do
    let v ← r.value?
    let l ← Reading.values? rest
    some (v :: l)
termination_by structural l => l

/-- The members that were read. -/
def Reading.members? : List (Key × Reading) → Option (List (String × Value))
  | [] => some []
  | (.text taken, r) :: rest => do
    let k ← taken.toOption
    let v ← r.value?
    let l ← Reading.members? rest
    some ((k, v) :: l)
  | (.broken _, _) :: _ => none
termination_by structural l => l

end

/-- The value of a text, if it is JSON. -/
def Value.ofText? (text : String) : Option Value :=
  let doc := Document.ofGlyphs (Glyph.ofText text)
  if doc.trailing then none else doc.root.value?

end Kennel.Json
