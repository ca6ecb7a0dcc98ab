import PortMessaging.SortedMap

/-!
# Payload — the body of a message

A payload maps keys to values in ascending order of the keys' code points.  A value is a text, a
list of texts or a string of bytes, and it keeps its kind also when it is empty.  Writing to a key
replaces what it held.  The module also holds the edits of a payload as data (`Payload.Edit`), with
the answer that each of them gives.
-/

namespace PortMessaging

/-- One value of a payload. -/
inductive PayloadValue where
  | text (value : String)
  | texts (values : List String)
  | bytes (values : List UInt8)
  deriving DecidableEq, Repr

/-- The body of a message. -/
structure Payload where
  entries : SortedMap String PayloadValue
  deriving DecidableEq, Repr, Inhabited

namespace Payload

/-! ## Operations -/

def empty : Payload := ⟨.empty⟩

def get? (p : Payload) (key : String) : Option PayloadValue := p.entries.get? key

/-- The value of a key, if it is a text. -/
def getText? (p : Payload) (key : String) : Option String :=
  match p.get? key with
  | some (.text s) => some s
  | _ => none

def insert (p : Payload) (key : String) (value : PayloadValue) : Payload :=
  ⟨p.entries.insert key value⟩

def erase (p : Payload) (key : String) : Payload := ⟨p.entries.erase key⟩

def size (p : Payload) : Nat := p.entries.size

def isEmpty (p : Payload) : Bool := p.entries.isEmpty

def keys (p : Payload) : List String := p.entries.keys

/-- The keys and their values in ascending order of the keys. -/
def toList (p : Payload) : List (String × PayloadValue) := p.entries.entries

/-- Collects pairs into a payload; of two pairs with one key the later wins. -/
def ofList (pairs : List (String × PayloadValue)) : Payload := ⟨.ofList pairs⟩

@[simp] theorem get?_empty (key : String) : empty.get? key = none := rfl

@[simp] theorem get?_insert_self (p : Payload) (key : String) (value : PayloadValue) :
    (p.insert key value).get? key = some value :=
  SortedMap.get?_insert_self ..

theorem get?_insert_of_ne (p : Payload) {key other : String} (h : other ≠ key)
    (value : PayloadValue) : (p.insert key value).get? other = p.get? other :=
  SortedMap.get?_insert_of_ne _ h _

@[simp] theorem get?_erase_self (p : Payload) (key : String) : (p.erase key).get? key = none :=
  SortedMap.get?_erase_self ..

theorem get?_erase_of_ne (p : Payload) {key other : String} (h : other ≠ key) :
    (p.erase key).get? other = p.get? other :=
  SortedMap.get?_erase_of_ne _ h

/-! ## Edits -/

/-- A change of a payload. -/
inductive Edit where
  | insert (key : String) (value : PayloadValue)
  | remove (key : String)
  /-- Replaces the whole payload by the one collected from pairs. -/
  | collect (pairs : List (String × PayloadValue))
  deriving DecidableEq, Repr

namespace Edit

def apply : Edit → Payload → Payload
  | insert key value, p => p.insert key value
  | remove key, p => p.erase key
  | collect pairs, _ => ofList pairs

/-- What the edit takes away from its key: the value that the key had before. -/
def displaced? : Edit → Payload → Option PayloadValue
  | insert key _, p => p.get? key
  | remove key, p => p.get? key
  | collect _, _ => none

end Edit

end Payload

end PortMessaging
