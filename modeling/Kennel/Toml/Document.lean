import Kennel.Toml.Scalar

/-!
# TOML documents

A document is read line by line into a tree of tables. Each table remembers how it came to be,
since that decides how it may grow: one that a header names takes entries only under that header,
one that a dotted key made is open to further dotted keys, and one that is implied by a longer
header may be named by a header later. Tables in braces and arrays in brackets are closed.

Arrays and tables in braces may be nested at most eighty deep.
-/

namespace Kennel.Toml

/-- How a table came to be. -/
inductive Origin where
  | header
  /-- By the header of a table inside it. -/
  | implied
  | dotted
  deriving DecidableEq

/-- A document as far as it is read. -/
inductive Node where
  | closed (v : Value)
  | table (origin : Origin) (entries : List (String × Node))
  /-- The tables of an array of tables, latest first. -/
  | tables (elements : List (List (String × Node)))
  deriving Inhabited

mutual

/-- The value that a part of a document stands for. -/
def Node.value : Node → Value
  | .closed v => v
  | .table _ entries => .table (Node.entriesValue entries)
  | .tables elements => .array (Node.elementsValue elements).reverse
termination_by structural n => n

def Node.entriesValue : List (String × Node) → List (String × Value)
  | [] => []
  | (k, n) :: rest => (k, n.value) :: Node.entriesValue rest
termination_by structural l => l

def Node.elementsValue : List (List (String × Node)) → List Value
  | [] => []
  | e :: rest => .table (Node.entriesValue e) :: Node.elementsValue rest
termination_by structural l => l

end

abbrev Entries := List (String × Node)

/-- The entries with the one under `k` replaced. -/
def replace (k : String) (n : Node) (entries : Entries) : Entries :=
  entries.map fun e => if e.1 = k then (k, n) else e

/-- Puts a new entry under a key, which may be dotted. -/
def putKey : List String → Node → Entries → Option Entries
  | [], _, _ => none
  | [k], n, entries =>
    if (entries.lookup k).isSome then none else some (entries ++ [(k, n)])
  | k :: rest, n, entries =>
    match entries.lookup k with
    | none => (putKey rest n []).map fun inner => entries ++ [(k, .table .dotted inner)]
    | some (.table .dotted inner) =>
      (putKey rest n inner).map fun inner => replace k (.table .dotted inner) entries
    | some (.table .implied inner) =>
      if rest.length = 1 then none
      else (putKey rest n inner).map fun inner => replace k (.table .implied inner) entries
    | _ => none

/-- Changes the entries of the table that a path of headers leads to; a table that is not there is
made on the way. -/
def along (f : Entries → Option Entries) : List String → Entries → Option Entries
  | [], entries => f entries
  | k :: rest, entries =>
    match entries.lookup k with
    | none => (along f rest []).map fun inner => entries ++ [(k, .table .implied inner)]
    | some (.table origin inner) =>
      (along f rest inner).map fun inner => replace k (.table origin inner) entries
    | some (.tables (last :: before)) =>
      (along f rest last).map fun last => replace k (.tables (last :: before)) entries
    | _ => none

def openTable (k : String) (entries : Entries) : Option Entries :=
  match entries.lookup k with
  | none => some (entries ++ [(k, .table .header [])])
  | some (.table .implied inner) => some (replace k (.table .header inner) entries)
  | _ => none

/-- Opens a further table of an array of tables in its parent. -/
def openElement (k : String) (entries : Entries) : Option Entries :=
  match entries.lookup k with
  | none => some (entries ++ [(k, .tables [[]])])
  | some (.tables elements) => some (replace k (.tables ([] :: elements)) entries)
  | _ => none

mutual

/-- Reads a value. `depth` is how many more levels may be opened. -/
def readValue (fuel depth : Nat) (s : List Char) : Option (Value × List Char) :=
  match fuel with
  | 0 => none
  | fuel + 1 =>
    match s with
    | [] => none
    | c :: rest =>
      if c = '"' ∨ c = '\'' then (readText s).map fun (t, rest) => (.text t, rest)
      else if c = '[' then
        if depth = 0 then none else readItems fuel (depth - 1) [] rest
      else if c = '\x7b' then
        if depth = 0 then none else readEntries fuel (depth - 1) [] rest
      else
        let (token, rest) := splitScalar s
        (scalar? token).map (·, rest)

/-- Reads on in an array after the bracket or a comma. -/
def readItems (fuel depth : Nat) (done : List Value) (s : List Char) : Option (Value × List Char) :=
  match fuel with
  | 0 => none
  | fuel + 1 => do
    match ← skipLines (s.length + 1) s with
    | ']' :: rest => some (.array done.reverse, rest)
    | s =>
      let (v, s) ← readValue fuel depth s
      match ← skipLines (s.length + 1) s with
      | ',' :: rest => readItems fuel depth (v :: done) rest
      | ']' :: rest => some (.array (v :: done).reverse, rest)
      | _ => none

/-- Reads on in a table in braces after the brace or a comma. -/
def readEntries (fuel depth : Nat) (done : Entries) (s : List Char) : Option (Value × List Char) :=
  match fuel with
  | 0 => none
  | fuel + 1 => do
    match ← skipLines (s.length + 1) s with
    | '\x7d' :: rest => some (.table (Node.entriesValue done), rest)
    | s =>
      let (key, s) ← readKey (s.length + 1) s
      let s ← expect '=' s
      let (v, s) ← readValue fuel depth (skipSpace s)
      let done ← putKey key (.closed v) done
      match ← skipLines (s.length + 1) s with
      | ',' :: rest => readEntries fuel depth done rest
      | '\x7d' :: rest => some (.table (Node.entriesValue done), rest)
      | _ => none

end

/-- A document being read: its entries, and the header above the present line. -/
structure Draft where
  entries : Entries := []
  header : List String := []

/-- How deep arrays and tables in braces may be nested. -/
def maxDepth : Nat := 80

/-- Reads one line that is not blank. -/
def readStatement (d : Draft) (s : List Char) : Option (Draft × List Char) := do
  match s with
  | '[' :: '[' :: rest =>
    let (key, s) ← readKey (s.length + 1) rest
    let s ← expect ']' s
    let s ← expect ']' s
    let entries ← along (openElement (key.getLastD "")) key.dropLast d.entries
    some (⟨entries, key⟩, s)
  | '[' :: rest =>
    let (key, s) ← readKey (s.length + 1) rest
    let s ← expect ']' s
    let entries ← along (openTable (key.getLastD "")) key.dropLast d.entries
    some (⟨entries, key⟩, s)
  | s =>
    let (key, s) ← readKey (s.length + 1) s
    let s ← expect '=' s
    let (v, s) ← readValue (2 * s.length + 2) maxDepth (skipSpace s)
    let entries ← along (putKey key (.closed v)) d.header d.entries
    some ({ d with entries }, s)

/-- Reads line after line. The fuel bounds the number of lines. -/
def readAll (fuel : Nat) (d : Draft) (s : List Char) : Option Entries :=
  match fuel with
  | 0 => none
  | fuel + 1 => do
    match ← skipLines (s.length + 1) s with
    | [] => some d.entries
    | s =>
      let (d, s) ← readStatement d s
      readAll fuel d (← endLine s)

/-- Reads the characters of a document, which may begin with a byte order mark. -/
def readDocument (s : List Char) : Option Value :=
  let s := match s with
    | '\ufeff' :: rest => rest
    | s => s
  (readAll (s.length + 1) {} s).map fun entries => .table (Node.entriesValue entries)

/-- Reads a document. -/
def read? (text : String) : Option Value := readDocument text.toList

theorem read?_ofList (s : List Char) : read? (String.ofList s) = readDocument s := by
  rw [read?, String.toList_ofList]

end Kennel.Toml
