import Mathlib.Data.List.Basic
import Mathlib.Data.List.Induction
import PortMessaging.Payload
import PortMessaging.Proofs.SortedMap

/-!
# PayloadEdits — a payload holds what was written last

A payload is made by edits: insertions (the builder-style ones too, which hand the payload on instead of
the value that they displace), removals and collections of pairs.  What such a history has left under a
key is told without any payload (`Payload.written?`): the latest edit that says something of the key
decides.

The main result is that the payload of a history answers every question as `written?` says
(`Payload.Holds`), in the ascending order of the keys' code points.  One edit is looked at first
(`get?_apply`), then a history by induction from its end (`get?_ofEdits`).
-/

namespace PortMessaging

/-- The code points of a text. -/
def codePoints (text : String) : List Nat := text.toList.map Char.toNat

/-- The order of keys is that of their code points. -/
theorem codePoints_lt_of_compare {a b : String} (h : compare a b = .lt) :
    codePoints a < codePoints b := by
  have hlt : a < b := compareOfLessAndEq_eq_lt.1 h
  exact List.map_lt (fun _ _ hchar => hchar) hlt

namespace Payload

variable {p q : Payload} {key : String} {value : PayloadValue}

/-! ## Histories -/

/-- What an edit says of a key: the value that it leaves there, that it leaves none, or nothing. -/
def Edit.says? (key : String) : Edit → Option (Option PayloadValue)
  | insert k value => if k = key then some (some value) else none
  | remove k => if k = key then some none else none
  | collect pairs => some (SortedMap.lastOf? pairs key)

/-- The value that was last written to a key and not removed since. -/
def written? (edits : List Edit) (key : String) : Option PayloadValue :=
  (edits.reverse.findSome? (Edit.says? key)).join

/-- The payload that edits make of the empty one. -/
def ofEdits (edits : List Edit) : Payload := edits.foldl (fun p edit => edit.apply p) .empty

theorem written?_concat (edits : List Edit) (edit : Edit) (key : String) :
    written? (edits ++ [edit]) key = (edit.says? key).getD (written? edits key) := by
  unfold written?
  rw [List.reverse_append, List.reverse_singleton, List.singleton_append, List.findSome?_cons]
  cases edit.says? key with
  | none => rfl
  | some said => rfl

theorem ofEdits_concat (edits : List Edit) (edit : Edit) :
    ofEdits (edits ++ [edit]) = edit.apply (ofEdits edits) := by
  unfold ofEdits
  rw [List.foldl_append]
  rfl

/-- After an edit a key has the value that the edit says, or the one that it had. -/
theorem get?_apply (edit : Edit) (p : Payload) (key : String) :
    (edit.apply p).get? key = (edit.says? key).getD (p.get? key) := by
  cases edit with
  | insert k value =>
    by_cases hkey : k = key
    · subst hkey
      simp [Edit.apply, Edit.says?]
    · simp [Edit.apply, Edit.says?, hkey, get?_insert_of_ne p (Ne.symm hkey)]
  | remove k =>
    by_cases hkey : k = key
    · subst hkey
      simp [Edit.apply, Edit.says?]
    · simp [Edit.apply, Edit.says?, hkey, get?_erase_of_ne p (Ne.symm hkey)]
  | collect pairs => exact SortedMap.get?_ofList pairs key

theorem get?_ofList (pairs : List (String × PayloadValue)) (key : String) :
    (ofList pairs).get? key = SortedMap.lastOf? pairs key :=
  SortedMap.get?_ofList pairs key

/-- The payload of a history holds under each key what was written there last. -/
theorem get?_ofEdits (edits : List Edit) (key : String) :
    (ofEdits edits).get? key = written? edits key := by
  induction edits using List.reverseRecOn with
  | nil => rfl
  | append_singleton edits edit ih => rw [ofEdits_concat, get?_apply, written?_concat, ih]

/-! ## Questions to a payload -/

/-- Payloads that give every key the same value are equal. -/
theorem eq_iff_get? : p = q ↔ ∀ key, p.get? key = q.get? key := by
  constructor
  · rintro rfl key
    rfl
  · intro h
    have hentries : p.entries = q.entries := SortedMap.ext_get? h
    cases p
    cases q
    exact congrArg Payload.mk hentries

theorem getText?_eq_some_iff {text : String} :
    p.getText? key = some text ↔ p.get? key = some (.text text) := by
  unfold getText?
  cases p.get? key with
  | none => simp
  | some value => cases value <;> simp

/-- The payload answers every question as a table of values says. -/
structure Holds (p : Payload) (value? : String → Option PayloadValue) : Prop where
  get : ∀ key, p.get? key = value? key
  getText : ∀ key text, p.getText? key = some text ↔ value? key = some (.text text)
  /-- What an insertion displaces is what the key had. -/
  insert : ∀ key value, (Edit.insert key value).displaced? p = value? key
  remove : ∀ key, (Edit.remove key).displaced? p = value? key
  entries : ∀ key value, (key, value) ∈ p.toList ↔ value? key = some value
  keys : ∀ key, key ∈ p.keys ↔ (value? key).isSome
  /-- Keys and entries come in the same order, that of the code points, and each key once. -/
  keysOfEntries : p.toList.map (·.1) = p.keys
  ascending : p.keys.Pairwise fun a b => codePoints a < codePoints b
  once : p.keys.Nodup
  size : p.size = p.keys.length
  isEmpty : p.isEmpty = true ↔ p.size = 0

/-- A payload answers every question as its own values say. -/
theorem holds_get? (p : Payload) : p.Holds p.get? where
  get _ := rfl
  getText _ _ := getText?_eq_some_iff
  insert _ _ := rfl
  remove _ := rfl
  entries _ _ := SortedMap.get?_eq_some_iff.symm
  keys _ := SortedMap.mem_keys_iff
  keysOfEntries := rfl
  ascending := p.entries.ascending_keys.imp codePoints_lt_of_compare
  once := p.entries.nodup_keys
  size := (List.length_map _).symm
  isEmpty := List.isEmpty_iff_length_eq_zero

/-- If every key comes once, the order of collected pairs does not matter. -/
theorem ofList_perm {pairs others : List (String × PayloadValue)} (hperm : pairs.Perm others)
    (honce : (pairs.map (·.1)).Nodup) : ofList pairs = ofList others := by
  have honce' : (others.map (·.1)).Nodup := (hperm.map _).nodup_iff.1 honce
  refine eq_iff_get?.2 fun key => Option.ext fun value => ?_
  have hpairs : (ofList pairs).get? key = some value ↔ (key, value) ∈ pairs := by
    rw [get?_ofList, SortedMap.lastOf?_eq_some_iff honce]
  have hothers : (ofList others).get? key = some value ↔ (key, value) ∈ others := by
    rw [get?_ofList, SortedMap.lastOf?_eq_some_iff honce']
  rw [hpairs, hothers]
  exact hperm.mem_iff

/-! ## Payloads of histories -/

/-- Whatever edits made a payload, it answers every question as what was last written to the keys says.
Two payloads are equal exactly if they give every key the same value, and so are what two lists of
pairs with distinct keys are collected into, if one is a permutation of the other. -/
theorem last_writes_over_edits (edits : List Edit) :
    (ofEdits edits).Holds (written? edits) ∧
    (∀ p, ofEdits edits = p ↔ ∀ key, (ofEdits edits).get? key = p.get? key) ∧
    (∀ pairs others : List (String × PayloadValue), pairs.Perm others → (pairs.map (·.1)).Nodup →
      ofEdits (edits ++ [.collect pairs]) = ofEdits (edits ++ [.collect others])) := by
  have hget : (ofEdits edits).get? = written? edits := funext (get?_ofEdits edits)
  refine ⟨?_, fun p => eq_iff_get?, ?_⟩
  · rw [← hget]
    exact (ofEdits edits).holds_get?
  · intro pairs others hperm honce
    rw [ofEdits_concat, ofEdits_concat]
    exact ofList_perm hperm honce

/-- A key that is overwritten, and two pairs that are collected after that in either order. -/
theorem last_writes_over_swappedPairs :
    let history : List Edit := [.insert "b" (.text "1"), .remove "a", .insert "b" (.text "2")]
    (ofEdits history).getText? "b" = some "2" ∧ (Edit.remove "a").displaced? (ofEdits history) = none ∧
      ofEdits (history ++ [.collect [("c", .bytes [0]), ("a", .texts [])]]) =
        ofEdits (history ++ [.collect [("a", .texts []), ("c", .bytes [0])]]) := by
  intro history
  have hall := last_writes_over_edits history
  exact ⟨(hall.1.getText "b" "2").2 (by decide), (hall.1.remove "a").trans (by decide),
    hall.2.2 _ _ (.swap _ _ _) (by decide)⟩

end Payload
end PortMessaging
