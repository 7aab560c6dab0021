/-!
# TOML documents

A document is a list of statements: headers that open a table and assignments to keys of the
open table. `Toml.build?` makes the table that the statements describe. It refuses to define a key
twice, to extend a value, and to open again a table that was opened or written by dotted keys.
-/
namespace TypeForm

/-- A value. Numbers and times keep their spelling. -/
inductive Toml where
  | string (value : String)
  | bool (value : Bool)
  | number (spelling : String)
  | time (spelling : String)
  | array (items : List Toml)
  | table (entries : List (String × Toml))
deriving Repr, Inhabited

namespace Toml

/-- How a table came into being: by a header of its own, as part of a longer header, or as part
of a dotted key. -/
inductive Origin where
  | header
  | implied
  | dotted
deriving DecidableEq, Repr

/-- What a key stands for while a document is read. An array of tables keeps its latest table
apart, which later headers extend. -/
inductive Node where
  | value (value : Toml)
  | table (origin : Origin) (entries : List (String × Node))
  | tables (earlier : List (List (String × Node))) (latest : List (String × Node))
deriving Inhabited

/-- The entries of a table. -/
abbrev Entries := List (String × Node)

/-- A table under construction. -/
structure Section where
  origin : Origin
  entries : Entries

namespace Entries

def node? (entries : Entries) (key : String) : Option Node :=
  (entries.find? fun entry => entry.1 == key).map (·.2)

/-- Put a node in place of the one with the same key, or at the end. -/
def put (entries : Entries) (key : String) (node : Node) : Entries :=
  match entries with
  | [] => [(key, node)]
  | (other, kept) :: rest =>
    if other = key then (key, node) :: rest else (other, kept) :: Entries.put rest key node

end Entries

/-- Change the table at a path. Tables that are missing on the way are made with the given
origin; a dotted path may not lead through a table that has a header. -/
def within (path : List String) (made : Origin) (change : Section → Option Section)
    (target : Section) : Option Section :=
  match path with
  | [] => change target
  | key :: rest =>
    match Entries.node? target.entries key with
    | none => do
      let inner ← within rest made change ⟨made, []⟩
      let node := .table inner.origin inner.entries
      some { target with entries := Entries.put target.entries key node }
    | some (.value _) => none
    | some (.table origin entries) =>
      if made = .dotted ∧ origin = .header then none
      else do
        let inner ← within rest made change ⟨origin, entries⟩
        let node := .table inner.origin inner.entries
        some { target with entries := Entries.put target.entries key node }
    | some (.tables earlier latest) => do
      let inner ← within rest made change ⟨.header, latest⟩
      some { target with entries := Entries.put target.entries key (.tables earlier inner.entries) }

/-- Assign a value to a key of the table that a dotted path leads to. Dotted keys extend only
tables that dotted keys made, and plain keys no others but those. -/
def assign (path : List String) (key : String) (value : Toml) (target : Section) : Option Section :=
  within path .dotted
    (fun inner =>
      if (inner.origin == .dotted) == path.isEmpty then none
      else if (Entries.node? inner.entries key).isSome then none
      else some { inner with entries := Entries.put inner.entries key (.value value) })
    target

/-- Open the table that a header names, new or so far only implied. -/
def openTable (path : List String) (key : String) (root : Section) : Option Section :=
  within path .implied
    (fun inner =>
      match Entries.node? inner.entries key with
      | none => some { inner with entries := Entries.put inner.entries key (.table .header []) }
      | some (.table .implied entries) =>
        some { inner with entries := Entries.put inner.entries key (.table .header entries) }
      | _ => none)
    root

/-- Open a new table at the end of the array that a header names. -/
def openElement (path : List String) (key : String) (root : Section) : Option Section :=
  within path .implied
    (fun inner =>
      match Entries.node? inner.entries key with
      | none => some { inner with entries := Entries.put inner.entries key (.tables [] []) }
      | some (.tables earlier latest) =>
        some { inner with
          entries := Entries.put inner.entries key (.tables (earlier ++ [latest]) []) }
      | _ => none)
    root

/-- A line of a document that is not blank. The last key of a path is kept apart. -/
inductive Statement where
  | table (path : List String) (key : String)
  | element (path : List String) (key : String)
  | assignment (path : List String) (key : String) (value : Toml)

/-- A document in progress: the whole, and the path of the table that is open. -/
structure Progress where
  root : Section
  opened : List String

def Progress.start : Progress := ⟨⟨.header, []⟩, []⟩

def Progress.step (progress : Progress) : Statement → Option Progress
  | .table path key => do
    some ⟨← openTable path key progress.root, path ++ [key]⟩
  | .element path key => do
    some ⟨← openElement path key progress.root, path ++ [key]⟩
  | .assignment path key value => do
    some { progress with
      root := ← within progress.opened .implied (assign path key value) progress.root }

mutual

/-- The value that a finished node stands for. -/
def Node.finish : Node → Toml
  | .value value => value
  | .table _ entries => .table (finishEntries entries)
  | .tables earlier latest =>
    .array (finishTables earlier ++ [.table (finishEntries latest)])

def finishEntries : List (String × Node) → List (String × Toml)
  | [] => []
  | (key, node) :: rest => (key, node.finish) :: finishEntries rest

def finishTables : List (List (String × Node)) → List Toml
  | [] => []
  | entries :: rest => .table (finishEntries entries) :: finishTables rest

end

/-- The table that statements describe, if they are consistent. -/
def build? (statements : List Statement) : Option Toml := do
  let progress ← statements.foldlM Progress.step .start
  some (.table (finishEntries progress.root.entries))

/-- The table that assignments between braces describe. -/
def buildInline? (assignments : List (List String × String × Toml)) : Option Toml := do
  let table ← assignments.foldlM
    (fun table (path, key, value) => assign path key value table) ⟨.header, []⟩
  some (.table (finishEntries table.entries))

end Toml
end TypeForm
