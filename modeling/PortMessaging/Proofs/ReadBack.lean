import PortMessaging.Payload
import PortMessaging.Port
import PortMessaging.Proofs.SortedMap

/-!
# ReadBack — writing and reading as inverse functions

A reader *takes back* what a writer makes if it answers every written value with that value.  Writers and
readers of lists are made of those of their items (`ReadsBack.list`), and the entries of a payload are
collected into the payload that they came from (`Payload.ofList_toList`).  Both data formats of the
library rest on these two facts.
-/

namespace PortMessaging

/-! ## Writers and readers -/

section ReadsBack

variable {α β : Type} {write : α → β} {read : β → Option α}

/-- Reading answers a written value with the value. -/
def ReadsBack (write : α → β) (read : β → Option α) : Prop :=
  ∀ a, read (write a) = some a

theorem ReadsBack.list (h : ReadsBack write read) (items : List α) :
    (items.map write).mapM read = some items := by
  induction items with
  | nil => rfl
  | cons item items ih => simp [h item, ih]

/-- Values that are written alike are equal. -/
theorem ReadsBack.injective (h : ReadsBack write read) : Function.Injective write := by
  intro a b heq
  have hread : some a = some b := by rw [← h a, heq, h b]
  exact Option.some.inj hread

end ReadsBack

/-! ## Numbers -/

theorem range_byte (b : UInt8) : (0 : Int) ≤ b.toNat ∧ (b.toNat : Int) ≤ 255 := by
  have := b.toNat_lt
  omega

theorem range_size (n : UInt64) : (0 : Int) ≤ n.toNat ∧ (n.toNat : Int) ≤ 18446744073709551615 := by
  have := n.toNat_lt
  omega

theorem range_id (id : PortId) :
    -2147483648 ≤ id.value.toInt ∧ id.value.toInt ≤ 2147483647 := by
  have hlow := id.value.le_toInt
  have hhigh := id.value.toInt_lt
  omega

/-- A byte is the byte of its number. -/
theorem ofInt_toNat_byte (b : UInt8) : UInt8.ofInt b.toNat = b := by
  have hrange := b.toNat_lt
  rw [UInt8.ofInt, Int.emod_eq_of_lt (by omega) (by omega)]
  exact UInt8.ofNat_toNat

/-- A size is the size of its number. -/
theorem ofInt_toNat_size (n : UInt64) : UInt64.ofInt n.toNat = n := by
  have hrange := n.toNat_lt
  rw [UInt64.ofInt, Int.emod_eq_of_lt (by omega) (by omega)]
  exact UInt64.ofNat_toNat

/-! ## Payloads -/

theorem Payload.ofList_toList (p : Payload) : ofList p.toList = p := by
  cases p with
  | mk entries => exact congrArg Payload.mk (SortedMap.ofList_entries entries)

end PortMessaging
