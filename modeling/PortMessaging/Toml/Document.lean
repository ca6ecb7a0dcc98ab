import PortMessaging.Toml.Value

/-!
# Toml.Document — building a document from its headers and keys

A document is built by three steps: a header opens a table, a double header adds a table to an
array of tables, and a key assigns a value in the table opened last.  Each step walks a path and
creates the tables that are missing on it.  A step is refused where it would define something
twice: a key that is taken, a table that was opened before, or a dotted key that reaches into a
table it did not create.
-/

namespace PortMessaging
namespace Toml

/-- What walks a path. -/
inductive Walk where
  | header
  | dottedKey
  deriving DecidableEq, Repr

namespace Walk

/-- The origin of a table that a walk creates. -/
def origin : Walk → TableOrigin
  | header => .passedByHeader
  | dottedKey => .passedByKey

/-- Whether a walk may enter a table that is there.  A dotted key stays out of tables that were
opened by a header, and no walk enters braces. -/
def enters : Walk → TableOrigin → Bool
  | _, .braces => false
  | header, _ => true
  | dottedKey, .header => false
  | dottedKey, _ => true

end Walk

/-- Changes the last item of a list. -/
def alterLast {α : Type} (f : α → Option α) : List α → Option (List α)
  | [] => none
  | [a] => (f a).map ([·])
  | a :: rest => (alterLast f rest).map (a :: ·)

/-- Changes what stands under a key, at its place, or adds it at the end. -/
def alterEntry (key : String) (f : Option Toml → Option Toml) : Entries → Option Entries
  | [] => (f none).map fun item => [(key, item)]
  | (k, item) :: rest =>
    if k = key then (f (some item)).map fun item => (k, item) :: rest
    else (alterEntry key f rest).map ((k, item) :: ·)

/-- Changes the table at the end of a path.  In an array of tables the path goes on in the table
added last. -/
def alterTable (walk : Walk) (f : Table → Option Table) : List String → Table → Option Table
  | [], t => f t
  | key :: path, (origin, entries) => do
    let into (t : Table) : Option Toml :=
      (alterTable walk f path t).map fun (origin, entries) => .table origin entries
    let entries ← alterEntry key (fun item =>
      match item with
      | none => into (walk.origin, [])
      | some (.table origin entries) =>
        if walk.enters origin then into (origin, entries) else none
      | some (.tables items) =>
        (alterLast (fun entries => (alterTable walk f path (.header, entries)).map (·.2)) items).map
          .tables
      | some _ => none) entries
    return (origin, entries)

/-- Opens the table under a key: a new one, or one that was only passed through by headers. -/
def openTable (key : String) : Table → Option Table
  | (origin, entries) => do
    let entries ← alterEntry key (fun item =>
      match item with
      | none => some (.table .header [])
      | some (.table .passedByHeader entries) => some (.table .header entries)
      | some _ => none) entries
    return (origin, entries)

/-- Adds a table to the array of tables under a key, which it creates if need be. -/
def addTable (key : String) : Table → Option Table
  | (origin, entries) => do
    let entries ← alterEntry key (fun item =>
      match item with
      | none => some (.tables [[]])
      | some (.tables items) => some (.tables (items ++ [[]]))
      | some _ => none) entries
    return (origin, entries)

/-- Assigns a value to a free key.  A dotted key assigns only in tables that dotted keys created,
and a plain key only in others. -/
def assignIn (dotted : Bool) (key : String) (value : Toml) : Table → Option Table
  | (origin, entries) =>
    -- A table that dotted keys created has no header under which a plain key could stand.
    if (origin == .passedByKey) = dotted then do
      let entries ← alterEntry key (fun item =>
        match item with
        | none => some value
        | some _ => none) entries
      return (origin, entries)
    else none

/-- Splits a path into its way and its last key. -/
def splitPath (path : List String) : Option (List String × String) :=
  path.getLast?.map fun key => (path.dropLast, key)

/-- Assigns a value along a key, dotted or not, in a table. -/
def assign (path : List String) (value : Toml) (t : Table) : Option Table := do
  let (way, key) ← splitPath path
  alterTable .dottedKey (assignIn (!way.isEmpty) key value) way t

/-- The table that braces hold: its keys are assigned one after the other. -/
def ofBraces (assignments : List (List String × Toml)) : Option Toml := do
  let (_, entries) ← assignments.foldlM (fun t (path, value) => assign path value t)
    ((.braces, []) : Table)
  return .table .braces entries

/-! ## Documents -/

/-- One line of a document. -/
inductive Line where
  | header (path : List String)
  | doubleHeader (path : List String)
  | assignment (path : List String) (value : Toml)

/-- A document under construction: its table, and the path of the table opened last. -/
structure Draft where
  root : Table
  current : List String

namespace Draft

/-- The draft of an empty document. -/
def empty : Draft := ⟨(.header, []), []⟩

/-- Adds a line to a draft. -/
def add (draft : Draft) : Line → Option Draft
  | .header path => do
    let (way, key) ← splitPath path
    return ⟨← alterTable .header (openTable key) way draft.root, path⟩
  | .doubleHeader path => do
    let (way, key) ← splitPath path
    return ⟨← alterTable .header (addTable key) way draft.root, path⟩
  | .assignment path value => do
    return ⟨← alterTable .header (assign path value) draft.current draft.root, draft.current⟩

end Draft

/-- The entries of the document that has the given lines. -/
def ofLines (lines : List Line) : Option Entries :=
  (lines.foldlM Draft.add Draft.empty).map fun draft => draft.root.2

end Toml
end PortMessaging
