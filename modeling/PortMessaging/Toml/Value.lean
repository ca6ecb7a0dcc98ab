/-!
# Toml.Value — TOML values and how tables come about

A TOML document is a table, and the rules on what may be written where depend on how each table
came about: opened by a header or by braces, or only passed through by a header or by a dotted key.
A table carries that origin.  Numbers with a fraction and points in time are kept as they are
written, because nothing in this library computes with them.
-/

namespace PortMessaging

/-- How a table came about. -/
inductive TableOrigin where
  /-- Opened by a header, or the document itself. -/
  | header
  /-- Written in braces. -/
  | braces
  /-- Passed through on the way to a header. -/
  | passedByHeader
  /-- Passed through by a dotted key. -/
  | passedByKey
  deriving DecidableEq, Repr, Inhabited

inductive Toml where
  | string (value : String)
  | integer (value : Int)
  | decimal (text : String)
  | boolean (value : Bool)
  | moment (text : String)
  | array (items : List Toml)
  | table (origin : TableOrigin) (entries : List (String × Toml))
  /-- An array of tables, each opened by a header of its own. -/
  | tables (items : List (List (String × Toml)))
  deriving Inhabited

namespace Toml

/-- The entries of a table, in the order in which they were written. -/
abbrev Entries := List (String × Toml)

/-- A table with its origin. -/
abbrev Table := TableOrigin × Entries

end Toml
end PortMessaging
