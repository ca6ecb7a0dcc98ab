/-!
# SortedMap — finite maps in key order

A finite map is kept as the list of its entries in strictly ascending key order.  The order is part
of the type, so a map has one form only: two maps that answer every `get?` alike are equal
(`SortedMap.ext_get?`).  Insertion replaces the value of a key that is present.
-/

namespace PortMessaging

/-- A finite map, as its entries in strictly ascending key order. -/
structure SortedMap (κ ν : Type) [Ord κ] where
  entries : List (κ × ν)
  ascending : entries.Pairwise fun a b => compare a.1 b.1 = .lt

namespace SortedMap

variable {κ ν : Type} [Ord κ]

instance [DecidableEq κ] [DecidableEq ν] : DecidableEq (SortedMap κ ν) := fun a b =>
  decidable_of_iff (a.entries = b.entries) (by
    cases a
    cases b
    simp)

instance [Repr κ] [Repr ν] : Repr (SortedMap κ ν) := ⟨fun m n => reprPrec m.entries n⟩

/-! ## Reading -/

def empty : SortedMap κ ν := ⟨[], .nil⟩

instance : EmptyCollection (SortedMap κ ν) := ⟨empty⟩
instance : Inhabited (SortedMap κ ν) := ⟨empty⟩

def get? (m : SortedMap κ ν) (key : κ) : Option ν :=
  (m.entries.find? fun e => compare key e.1 == .eq).map (·.2)

def contains (m : SortedMap κ ν) (key : κ) : Bool := (m.get? key).isSome

def size (m : SortedMap κ ν) : Nat := m.entries.length

def isEmpty (m : SortedMap κ ν) : Bool := m.entries.isEmpty

def keys (m : SortedMap κ ν) : List κ := m.entries.map (·.1)

/-- The values in the order of their keys. -/
def values (m : SortedMap κ ν) : List ν := m.entries.map (·.2)

/-! ## Insertion -/

/-- Puts an entry into its place in an ascending list, replacing an entry with the same key. -/
def insertEntry (key : κ) (value : ν) : List (κ × ν) → List (κ × ν)
  | [] => [(key, value)]
  | e :: rest =>
    match compare key e.1 with
    | .lt => (key, value) :: e :: rest
    | .eq => (key, value) :: rest
    | .gt => e :: insertEntry key value rest

theorem mem_insertEntry {key : κ} {value : ν} {a : κ × ν} {l : List (κ × ν)}
    (h : a ∈ insertEntry key value l) : a = (key, value) ∨ a ∈ l := by
  induction l with
  | nil => simpa [insertEntry] using h
  | cons e rest ih =>
    unfold insertEntry at h
    split at h
    · simpa using h
    · rcases List.mem_cons.1 h with rfl | h
      · exact .inl rfl
      · exact .inr (List.mem_cons_of_mem _ h)
    · rcases List.mem_cons.1 h with rfl | h
      · exact .inr List.mem_cons_self
      · exact (ih h).imp_right (List.mem_cons_of_mem _)

theorem ascending_insertEntry [Std.TransOrd κ] (key : κ) (value : ν) {l : List (κ × ν)}
    (h : l.Pairwise fun a b => compare a.1 b.1 = .lt) :
    (insertEntry key value l).Pairwise fun a b => compare a.1 b.1 = .lt := by
  induction l with
  | nil => simp [insertEntry]
  | cons e rest ih =>
    obtain ⟨hhead, htail⟩ := List.pairwise_cons.1 h
    unfold insertEntry
    split
    next hlt =>
      refine List.pairwise_cons.2 ⟨fun b hb => ?_, h⟩
      rcases List.mem_cons.1 hb with rfl | hb
      · exact hlt
      · exact Std.TransCmp.lt_trans hlt (hhead b hb)
    next heq =>
      refine List.pairwise_cons.2 ⟨fun b hb => ?_, htail⟩
      exact Std.TransCmp.lt_of_eq_of_lt heq (hhead b hb)
    next hgt =>
      refine List.pairwise_cons.2 ⟨fun b hb => ?_, ih htail⟩
      rcases mem_insertEntry hb with rfl | hb
      · exact Std.OrientedCmp.lt_of_gt hgt
      · exact hhead b hb

/-- Gives a key a value, replacing the one it had. -/
def insert [Std.TransOrd κ] (m : SortedMap κ ν) (key : κ) (value : ν) : SortedMap κ ν :=
  ⟨insertEntry key value m.entries, ascending_insertEntry key value m.ascending⟩

def erase (m : SortedMap κ ν) (key : κ) : SortedMap κ ν :=
  ⟨m.entries.filter fun e => compare key e.1 != .eq, m.ascending.filter _⟩

/-- Changes the value of a key, if it has one. -/
def modify (m : SortedMap κ ν) (key : κ) (f : ν → ν) : SortedMap κ ν :=
  ⟨m.entries.map fun e => if compare key e.1 == .eq then (e.1, f e.2) else e, by
    refine List.pairwise_map.2 (m.ascending.imp fun {a b} h => ?_)
    have fst (e : κ × ν) : (if compare key e.1 == .eq then (e.1, f e.2) else e).1 = e.1 := by
      split <;> rfl
    rw [fst, fst]
    exact h⟩

/-- The map of a list of pairs; of two pairs with one key the later wins. -/
def ofList [Std.TransOrd κ] (pairs : List (κ × ν)) : SortedMap κ ν :=
  pairs.foldl (fun m pair => m.insert pair.1 pair.2) empty

/-! ## What reading sees of an insertion and an erasure -/

@[simp] theorem get?_empty (key : κ) : (empty : SortedMap κ ν).get? key = none := rfl

theorem find?_insertEntry_self [Std.TransOrd κ] (key : κ) (value : ν) (l : List (κ × ν)) :
    (insertEntry key value l).find? (fun e => compare key e.1 == .eq) = some (key, value) := by
  induction l with
  | nil => simp [insertEntry]
  | cons e rest ih =>
    unfold insertEntry
    split
    next => simp
    next => simp
    next hgt => rw [List.find?_cons_of_neg (by simp [hgt]), ih]

theorem find?_insertEntry_of_ne [Std.TransOrd κ] [Std.LawfulEqOrd κ] {key other : κ}
    (h : other ≠ key) (value : ν) (l : List (κ × ν)) :
    (insertEntry key value l).find? (fun e => compare other e.1 == .eq) =
      l.find? (fun e => compare other e.1 == .eq) := by
  have hne : compare other key ≠ .eq := fun heq => h (Std.LawfulEqOrd.eq_of_compare heq)
  induction l with
  | nil => simp [insertEntry, hne]
  | cons e rest ih =>
    unfold insertEntry
    split
    next => rw [List.find?_cons_of_neg (by simpa using hne)]
    next heq =>
      have hkey : key = e.1 := Std.LawfulEqOrd.eq_of_compare heq
      rw [List.find?_cons_of_neg (by simpa using hne),
        List.find?_cons_of_neg (by simpa [← hkey] using hne)]
    next =>
      by_cases he : compare other e.1 = .eq
      · simp [he]
      · rw [List.find?_cons_of_neg (by simpa using he), List.find?_cons_of_neg (by simpa using he),
          ih]

@[simp] theorem get?_insert_self [Std.TransOrd κ] (m : SortedMap κ ν) (key : κ) (value : ν) :
    (m.insert key value).get? key = some value := by
  simp [get?, insert, find?_insertEntry_self]

theorem get?_insert_of_ne [Std.TransOrd κ] [Std.LawfulEqOrd κ] (m : SortedMap κ ν)
    {key other : κ} (h : other ≠ key) (value : ν) :
    (m.insert key value).get? other = m.get? other := by
  simp [get?, insert, find?_insertEntry_of_ne h]

@[simp] theorem get?_erase_self (m : SortedMap κ ν) (key : κ) : (m.erase key).get? key = none := by
  simp [get?, erase, List.find?_eq_none]

theorem get?_erase_of_ne [Std.LawfulEqOrd κ] (m : SortedMap κ ν) {key other : κ}
    (h : other ≠ key) : (m.erase key).get? other = m.get? other := by
  unfold get? erase
  congr 1
  rw [List.find?_filter]
  congr 1
  funext e
  by_cases he : compare other e.1 = .eq
  · have hother : other = e.1 := Std.LawfulEqOrd.eq_of_compare he
    have hkey : compare key e.1 ≠ .eq := fun hk =>
      h (hother.trans (Std.LawfulEqOrd.eq_of_compare hk).symm)
    simp [he, hkey]
  · simp [he]

/-! ## Extensionality -/

/-- The value of a key in a list of entries. -/
private def lookupIn (key : κ) (l : List (κ × ν)) : Option ν :=
  (l.find? fun e => compare key e.1 == .eq).map (·.2)

private theorem lookupIn_eq_none_of_lt [Std.TransOrd κ] {key : κ} {l : List (κ × ν)}
    (h : ∀ e ∈ l, compare key e.1 = .lt) : lookupIn key l = none := by
  have : l.find? (fun e => compare key e.1 == .eq) = none :=
    List.find?_eq_none.2 fun e he => by simp [h e he]
  simp [lookupIn, this]

private theorem lookupIn_cons_self [Std.TransOrd κ] (e : κ × ν) (l : List (κ × ν)) :
    lookupIn e.1 (e :: l) = some e.2 := by
  simp [lookupIn]

private theorem lookupIn_cons_of_ne {key : κ} {e : κ × ν} (h : compare key e.1 ≠ .eq)
    (l : List (κ × ν)) : lookupIn key (e :: l) = lookupIn key l := by
  unfold lookupIn
  rw [List.find?_cons_of_neg (by simpa using h)]

private theorem eq_of_lookupIn_eq [Std.TransOrd κ] [Std.LawfulEqOrd κ] {l₁ l₂ : List (κ × ν)}
    (h₁ : l₁.Pairwise fun a b => compare a.1 b.1 = .lt)
    (h₂ : l₂.Pairwise fun a b => compare a.1 b.1 = .lt)
    (h : ∀ key, lookupIn key l₁ = lookupIn key l₂) : l₁ = l₂ := by
  induction l₁ generalizing l₂ with
  | nil =>
    cases l₂ with
    | nil => rfl
    | cons e rest => simpa [lookupIn] using h e.1
  | cons e₁ rest₁ ih =>
    cases l₂ with
    | nil => simpa [lookupIn] using h e₁.1
    | cons e₂ rest₂ =>
      obtain ⟨hhead₁, htail₁⟩ := List.pairwise_cons.1 h₁
      obtain ⟨hhead₂, htail₂⟩ := List.pairwise_cons.1 h₂
      have hkey : compare e₁.1 e₂.1 = .eq := by
        cases hc : compare e₁.1 e₂.1 with
        | eq => rfl
        | lt =>
          have habsent : lookupIn e₁.1 (e₂ :: rest₂) = none :=
            lookupIn_eq_none_of_lt fun e he => by
              rcases List.mem_cons.1 he with rfl | he
              · exact hc
              · exact Std.TransCmp.lt_trans hc (hhead₂ e he)
          rw [← h e₁.1, lookupIn_cons_self] at habsent
          cases habsent
        | gt =>
          have hc' : compare e₂.1 e₁.1 = .lt := Std.OrientedCmp.lt_of_gt hc
          have habsent : lookupIn e₂.1 (e₁ :: rest₁) = none :=
            lookupIn_eq_none_of_lt fun e he => by
              rcases List.mem_cons.1 he with rfl | he
              · exact hc'
              · exact Std.TransCmp.lt_trans hc' (hhead₁ e he)
          rw [h e₂.1, lookupIn_cons_self] at habsent
          cases habsent
      have hfst : e₁.1 = e₂.1 := Std.LawfulEqOrd.eq_of_compare hkey
      have hsnd : e₁.2 = e₂.2 := by
        have := h e₁.1
        rw [lookupIn_cons_self, hfst, lookupIn_cons_self] at this
        exact Option.some.inj this
      have hrest : rest₁ = rest₂ := ih htail₁ htail₂ fun key => by
        by_cases hk : compare key e₁.1 = .eq
        · have hk' : key = e₁.1 := Std.LawfulEqOrd.eq_of_compare hk
          rw [lookupIn_eq_none_of_lt fun e he => hk' ▸ hhead₁ e he,
            lookupIn_eq_none_of_lt fun e he => hk'.trans hfst ▸ hhead₂ e he]
        · have hkey₂ : compare key e₂.1 ≠ .eq := hfst ▸ hk
          simpa [lookupIn_cons_of_ne hk, lookupIn_cons_of_ne hkey₂] using h key
      rw [Prod.ext hfst hsnd, hrest]

/-- Maps that give every key the same value are equal. -/
theorem ext_get? [Std.TransOrd κ] [Std.LawfulEqOrd κ] {a b : SortedMap κ ν}
    (h : ∀ key, a.get? key = b.get? key) : a = b := by
  cases a
  cases b
  congr
  exact eq_of_lookupIn_eq (by assumption) (by assumption) h

end SortedMap

end PortMessaging
