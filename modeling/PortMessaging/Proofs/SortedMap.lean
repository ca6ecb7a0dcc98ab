import Mathlib.Data.List.Nodup
import PortMessaging.SortedMap
import PortMessaging.Tally

/-!
# SortedMap — entries, changes in place, and sums

`SortedMap` proves what reading sees of an insertion and an erasure.  This module adds what the
theory of the registry and of the loopback service needs besides:

* an entry of the list is an answer of `get?`, and conversely (`get?_eq_some_iff`); the keys are those
  with an answer, in ascending order (`mem_keys_iff`, `ascending_keys`);
* `modify` is an insertion of the changed value (`modify_eq_insert`);
* a sum over all values changes with an insertion or an erasure by the values that come and go
  (`tally_values_insert`, `tally_values_erase`); the number of keys is the sum of ones;
* up to their order, the entries after an insertion are the new one and those of the other keys
  (`entries_insert_perm`);
* the entries of a map, collected, make up the map (`ofList_entries`), and of pairs that are collected
  the last one with a key decides (`get?_ofList`).
-/

namespace PortMessaging
namespace SortedMap

variable {κ ν : Type} [Ord κ] [Std.TransOrd κ] [Std.LawfulEqOrd κ]

/-! ## Entries -/

theorem find?_eq_of_mem {key : κ} {value : ν} {l : List (κ × ν)}
    (hl : l.Pairwise fun a b => compare a.1 b.1 = .lt) (h : (key, value) ∈ l) :
    l.find? (fun e => compare key e.1 == .eq) = some (key, value) := by
  induction l with
  | nil => cases h
  | cons e rest ih =>
    obtain ⟨hhead, htail⟩ := List.pairwise_cons.1 hl
    rcases List.mem_cons.1 h with rfl | hrest
    · simp
    · -- The head is below the key of a later entry, so the search passes it.
      have hgt : compare key e.1 = .gt := Std.OrientedCmp.gt_of_lt (hhead _ hrest)
      rw [List.find?_cons_of_neg (by simp [hgt])]
      exact ih htail hrest

/-- The answers of a map are its entries. -/
theorem get?_eq_some_iff {m : SortedMap κ ν} {key : κ} {value : ν} :
    m.get? key = some value ↔ (key, value) ∈ m.entries := by
  constructor
  · intro h
    obtain ⟨e, he, rfl⟩ := Option.map_eq_some_iff.1 h
    have hkey : key = e.1 := Std.LawfulEqOrd.eq_of_compare (by simpa using List.find?_some he)
    rw [hkey]
    exact List.mem_of_find?_eq_some he
  · intro h
    unfold get?
    rw [find?_eq_of_mem m.ascending h]
    rfl

theorem mem_values_iff {m : SortedMap κ ν} {value : ν} :
    value ∈ m.values ↔ ∃ key, m.get? key = some value := by
  unfold values
  constructor
  · intro h
    obtain ⟨e, he, rfl⟩ := List.mem_map.1 h
    exact ⟨e.1, get?_eq_some_iff.2 he⟩
  · rintro ⟨key, h⟩
    exact List.mem_map.2 ⟨(key, value), get?_eq_some_iff.1 h, rfl⟩

theorem mem_keys_iff {m : SortedMap κ ν} {key : κ} : key ∈ m.keys ↔ (m.get? key).isSome := by
  unfold keys
  constructor
  · intro h
    obtain ⟨e, he, rfl⟩ := List.mem_map.1 h
    have hget : m.get? e.1 = some e.2 := get?_eq_some_iff.2 he
    simp [hget]
  · intro h
    obtain ⟨value, hvalue⟩ := Option.isSome_iff_exists.1 h
    exact List.mem_map.2 ⟨(key, value), get?_eq_some_iff.1 hvalue, rfl⟩

omit [Std.TransOrd κ] [Std.LawfulEqOrd κ] in
theorem ascending_keys (m : SortedMap κ ν) : m.keys.Pairwise fun a b => compare a b = .lt :=
  List.pairwise_map.2 m.ascending

omit [Std.TransOrd κ] in
theorem nodup_keys (m : SortedMap κ ν) : m.keys.Nodup := by
  refine m.ascending_keys.imp fun {a b} hlt heq => ?_
  subst heq
  simp at hlt

theorem get?_insert [DecidableEq κ] (m : SortedMap κ ν) (key other : κ) (value : ν) :
    (m.insert key value).get? other = if other = key then some value else m.get? other := by
  by_cases h : other = key
  · rw [if_pos h, h, get?_insert_self]
  · rw [if_neg h, get?_insert_of_ne m h]

/-- A key without a value has nothing to erase. -/
theorem erase_eq_self {m : SortedMap κ ν} {key : κ} (h : m.get? key = none) : m.erase key = m := by
  apply ext_get?
  intro other
  by_cases hother : other = key
  · rw [hother, get?_erase_self, h]
  · exact get?_erase_of_ne m hother

/-! ## Changes in place -/

omit [Std.TransOrd κ] [Std.LawfulEqOrd κ] in
theorem get?_modify_self (m : SortedMap κ ν) (key : κ) (f : ν → ν) :
    (m.modify key f).get? key = (m.get? key).map f := by
  unfold get? modify
  simp only [List.find?_map, Option.map_map]
  -- A change in place leaves the keys, so the search stops where it stopped before.
  have hkey : ((fun e : κ × ν => compare key e.1 == .eq) ∘
      fun e => if compare key e.1 == .eq then (e.1, f e.2) else e) =
      fun e => compare key e.1 == .eq := by
    funext e
    by_cases he : compare key e.1 = .eq <;> simp [he]
  rw [hkey]
  cases hfind : m.entries.find? (fun e => compare key e.1 == .eq) with
  | none => rfl
  | some e =>
    have he : compare key e.1 = .eq := by simpa using List.find?_some hfind
    simp [he]

omit [Std.TransOrd κ] in
theorem get?_modify_of_ne (m : SortedMap κ ν) {key other : κ} (h : other ≠ key) (f : ν → ν) :
    (m.modify key f).get? other = m.get? other := by
  unfold get? modify
  simp only [List.find?_map, Option.map_map]
  have hkey : ((fun e : κ × ν => compare other e.1 == .eq) ∘
      fun e => if compare key e.1 == .eq then (e.1, f e.2) else e) =
      fun e => compare other e.1 == .eq := by
    funext e
    by_cases he : compare key e.1 = .eq <;> simp [he]
  rw [hkey]
  cases hfind : m.entries.find? (fun e => compare other e.1 == .eq) with
  | none => rfl
  | some e =>
    have hother : other = e.1 := Std.LawfulEqOrd.eq_of_compare (by simpa using List.find?_some hfind)
    -- What is found has the other key, and that one is not changed.
    have hne : compare key e.1 ≠ .eq := fun hk =>
      h (hother.trans (Std.LawfulEqOrd.eq_of_compare hk).symm)
    simp [hne]

/-- To change the value of a key is to insert the changed value. -/
theorem modify_eq_insert {m : SortedMap κ ν} {key : κ} {value : ν} (h : m.get? key = some value)
    (f : ν → ν) : m.modify key f = m.insert key (f value) := by
  apply ext_get?
  intro other
  by_cases hother : other = key
  · rw [hother, get?_modify_self, h, get?_insert_self]
    rfl
  · rw [get?_modify_of_ne m hother, get?_insert_of_ne m hother]

/-- A key without a value has nothing to change. -/
theorem modify_eq_self {m : SortedMap κ ν} {key : κ} (h : m.get? key = none) (f : ν → ν) :
    m.modify key f = m := by
  apply ext_get?
  intro other
  by_cases hother : other = key
  · rw [hother, get?_modify_self, h]
    rfl
  · exact get?_modify_of_ne m hother f

/-! ## Sums over all values -/

theorem tally_insertEntry (f : ν → Nat) (key : κ) (value : ν) {l : List (κ × ν)}
    (hl : l.Pairwise fun a b => compare a.1 b.1 = .lt) :
    tally (f ·.2) (insertEntry key value l) +
        ((l.find? fun e => compare key e.1 == .eq).map (·.2)).elim 0 f =
      tally (f ·.2) l + f value := by
  induction l with
  | nil => simp [insertEntry]
  | cons e rest ih =>
    obtain ⟨hhead, htail⟩ := List.pairwise_cons.1 hl
    have ih := ih htail
    unfold insertEntry
    -- The new entry stands before the head, takes its place, or goes further down.
    split
    next hlt =>
      -- A key below the head is below every key, so it had no value.
      have hnone : (e :: rest).find? (fun e => compare key e.1 == .eq) = none := by
        refine List.find?_eq_none.2 fun b hb => ?_
        rcases List.mem_cons.1 hb with rfl | hb
        · simp [hlt]
        · simp [Std.TransCmp.lt_trans hlt (hhead b hb)]
      rw [hnone]
      simp only [tally_cons, Option.map_none, Option.elim_none]
      omega
    next heq =>
      rw [List.find?_cons_of_pos (by simpa using heq)]
      simp only [tally_cons, Option.map_some, Option.elim_some]
      omega
    next hgt =>
      rw [List.find?_cons_of_neg (by simp [hgt])]
      simp only [tally_cons]
      omega

omit [Std.TransOrd κ] [Std.LawfulEqOrd κ] in
theorem tally_values (f : ν → Nat) (m : SortedMap κ ν) :
    tally f m.values = tally (f ·.2) m.entries := by
  unfold values
  induction m.entries with
  | nil => rfl
  | cons e rest ih => rw [List.map_cons, tally_cons, tally_cons, ih]

/-- An insertion adds the new value to a sum and takes the replaced one away. -/
theorem tally_values_insert (f : ν → Nat) (m : SortedMap κ ν) (key : κ) (value : ν) :
    tally f (m.insert key value).values + (m.get? key).elim 0 f = tally f m.values + f value := by
  rw [tally_values, tally_values]
  exact tally_insertEntry f key value m.ascending

omit [Std.TransOrd κ] in
theorem tally_filter_entry (f : ν → Nat) (key : κ) {l : List (κ × ν)}
    (hl : l.Pairwise fun a b => compare a.1 b.1 = .lt) :
    tally (f ·.2) (l.filter fun e => compare key e.1 != .eq) +
        ((l.find? fun e => compare key e.1 == .eq).map (·.2)).elim 0 f =
      tally (f ·.2) l := by
  induction l with
  | nil => rfl
  | cons e rest ih =>
    obtain ⟨hhead, htail⟩ := List.pairwise_cons.1 hl
    have ih := ih htail
    by_cases he : compare key e.1 = .eq
    · -- The keys after the head are greater, so none of them goes.
      have hkey : key = e.1 := Std.LawfulEqOrd.eq_of_compare he
      have hrest : rest.filter (fun e => compare key e.1 != .eq) = rest := by
        refine List.filter_eq_self.2 fun b hb => ?_
        simp [hkey, hhead b hb]
      rw [List.filter_cons_of_neg (by simp [he]), List.find?_cons_of_pos (by simpa using he), hrest]
      simp only [tally_cons, Option.map_some, Option.elim_some]
      omega
    · rw [List.filter_cons_of_pos (by simpa using he), List.find?_cons_of_neg (by simpa using he)]
      simp only [tally_cons]
      omega

omit [Std.TransOrd κ] in
/-- An erasure takes the value of the key away from a sum. -/
theorem tally_values_erase (f : ν → Nat) (m : SortedMap κ ν) (key : κ) :
    tally f (m.erase key).values + (m.get? key).elim 0 f = tally f m.values := by
  rw [tally_values, tally_values]
  exact tally_filter_entry f key m.ascending

omit [Std.TransOrd κ] [Std.LawfulEqOrd κ] in
theorem size_eq_tally (m : SortedMap κ ν) : m.size = tally (fun _ => 1) m.values := by
  unfold size values
  induction m.entries with
  | nil => rfl
  | cons e rest ih =>
    rw [List.length_cons, List.map_cons, tally_cons, ← ih]
    omega

theorem size_insert (m : SortedMap κ ν) (key : κ) (value : ν) :
    (m.insert key value).size = m.size + if (m.get? key).isSome then 0 else 1 := by
  have h := tally_values_insert (fun _ => 1) m key value
  rw [← size_eq_tally, ← size_eq_tally] at h
  cases hget : m.get? key with
  | none =>
    simp only [hget, Option.elim_none] at h
    simpa using h
  | some old =>
    simp only [hget, Option.elim_some] at h
    simpa using h

omit [Std.TransOrd κ] in
theorem size_erase (m : SortedMap κ ν) (key : κ) :
    (m.erase key).size + (if (m.get? key).isSome then 1 else 0) = m.size := by
  have h := tally_values_erase (fun _ => 1) m key
  rw [← size_eq_tally, ← size_eq_tally] at h
  cases hget : m.get? key with
  | none =>
    simp only [hget, Option.elim_none] at h
    simpa using h
  | some old =>
    simp only [hget, Option.elim_some] at h
    simpa using h

/-! ## Entries in any order -/

theorem perm_insertEntry (key : κ) (value : ν) {l : List (κ × ν)}
    (hl : l.Pairwise fun a b => compare a.1 b.1 = .lt) :
    (insertEntry key value l).Perm ((key, value) :: l.filter fun e => compare key e.1 != .eq) := by
  induction l with
  | nil => exact .refl _
  | cons e rest ih =>
    obtain ⟨hhead, htail⟩ := List.pairwise_cons.1 hl
    unfold insertEntry
    split
    next hlt =>
      -- The key is below all others, so no entry has it.
      have hkept : (e :: rest).filter (fun e => compare key e.1 != .eq) = e :: rest := by
        refine List.filter_eq_self.2 fun b hb => ?_
        rcases List.mem_cons.1 hb with rfl | hb
        · simp [hlt]
        · simp [Std.TransCmp.lt_trans hlt (hhead b hb)]
      rw [hkept]
    next heq =>
      have hkey : key = e.1 := Std.LawfulEqOrd.eq_of_compare heq
      have hkept : rest.filter (fun e => compare key e.1 != .eq) = rest := by
        refine List.filter_eq_self.2 fun b hb => ?_
        simp [hkey, hhead b hb]
      rw [List.filter_cons_of_neg (by simp [heq]), hkept]
    next hgt =>
      rw [List.filter_cons_of_pos (by simp [hgt])]
      exact ((ih htail).cons e).trans (.swap _ _ _)

/-- After an insertion there are the new entry and the entries of the other keys. -/
theorem entries_insert_perm (m : SortedMap κ ν) (key : κ) (value : ν) :
    (m.insert key value).entries.Perm ((key, value) :: (m.erase key).entries) :=
  perm_insertEntry key value m.ascending

/-! ## Collecting entries -/

omit [Std.TransOrd κ] [Std.LawfulEqOrd κ] in
theorem ext_entries {a b : SortedMap κ ν} (h : a.entries = b.entries) : a = b := by
  cases a
  cases b
  cases h
  rfl

omit [Std.LawfulEqOrd κ] in
/-- An entry above all others goes to the end. -/
theorem insertEntry_of_forall_lt {key : κ} {l : List (κ × ν)}
    (h : ∀ e ∈ l, compare e.1 key = .lt) (value : ν) :
    insertEntry key value l = l ++ [(key, value)] := by
  induction l with
  | nil => rfl
  | cons e rest ih =>
    have hgt : compare key e.1 = .gt := Std.OrientedCmp.gt_of_lt (h e List.mem_cons_self)
    rw [insertEntry, hgt, ih fun e he => h e (List.mem_cons_of_mem _ he)]
    rfl

omit [Std.LawfulEqOrd κ] in
theorem entries_foldl_insert (pairs : List (κ × ν)) (m : SortedMap κ ν)
    (h : (m.entries ++ pairs).Pairwise fun a b => compare a.1 b.1 = .lt) :
    (pairs.foldl (fun m pair => m.insert pair.1 pair.2) m).entries = m.entries ++ pairs := by
  induction pairs generalizing m with
  | nil => simp
  | cons pair pairs ih =>
    have hlast : (m.insert pair.1 pair.2).entries = m.entries ++ [pair] :=
      insertEntry_of_forall_lt (fun e he =>
        (List.pairwise_append.1 h).2.2 e he pair List.mem_cons_self) pair.2
    rw [List.foldl_cons, ih (m.insert pair.1 pair.2) (by simpa [hlast] using h), hlast]
    simp

omit [Std.LawfulEqOrd κ] in
/-- The entries of a map make up the map. -/
theorem ofList_entries (m : SortedMap κ ν) : ofList m.entries = m := by
  have hentries : (ofList m.entries).entries = m.entries :=
    entries_foldl_insert m.entries empty (by simpa [empty] using m.ascending)
  exact ext_entries hentries

/-- The value of a key in the last of some pairs that has it. -/
def lastOf? [DecidableEq κ] (pairs : List (κ × ν)) (key : κ) : Option ν :=
  (pairs.reverse.find? fun pair => pair.1 = key).map (·.2)

omit [Ord κ] [Std.TransOrd κ] [Std.LawfulEqOrd κ] in
/-- If every key comes once, there is no choice. -/
theorem lastOf?_eq_some_iff [DecidableEq κ] {pairs : List (κ × ν)}
    (honce : (pairs.map (·.1)).Nodup) {key : κ} {value : ν} :
    lastOf? pairs key = some value ↔ (key, value) ∈ pairs := by
  constructor
  · intro h
    obtain ⟨pair, hfind, rfl⟩ := Option.map_eq_some_iff.1 h
    have hkey : pair.1 = key := by simpa using List.find?_some hfind
    rw [← hkey]
    exact List.mem_reverse.1 (List.mem_of_find?_eq_some hfind)
  · intro h
    cases hfind : pairs.reverse.find? (fun pair => pair.1 = key) with
    | none =>
      have hne := List.find?_eq_none.1 hfind (key, value) (List.mem_reverse.2 h)
      simp at hne
    | some pair =>
      have hkey : pair.1 = key := by simpa using List.find?_some hfind
      have hmem : pair ∈ pairs := List.mem_reverse.1 (List.mem_of_find?_eq_some hfind)
      have hpair : pair = (key, value) := List.inj_on_of_nodup_map honce hmem h hkey
      simp [lastOf?, hfind, hpair]

theorem get?_foldl_insert [DecidableEq κ] (pairs : List (κ × ν)) (m : SortedMap κ ν) (key : κ) :
    (pairs.foldl (fun m pair => m.insert pair.1 pair.2) m).get? key =
      (lastOf? pairs key).or (m.get? key) := by
  induction pairs generalizing m with
  | nil => rfl
  | cons pair pairs ih =>
    rw [List.foldl_cons, ih, get?_insert]
    unfold lastOf?
    rw [List.reverse_cons, List.find?_append, Option.map_or, Option.or_assoc]
    congr 1
    by_cases hkey : key = pair.1
    · simp [hkey]
    · have hkey' : ¬ pair.1 = key := fun h => hkey h.symm
      simp [hkey, hkey']

theorem get?_ofList [DecidableEq κ] (pairs : List (κ × ν)) (key : κ) :
    (ofList pairs).get? key = lastOf? pairs key := by
  unfold ofList
  rw [get?_foldl_insert, get?_empty, Option.or_none]

end SortedMap
end PortMessaging
