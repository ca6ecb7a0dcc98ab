/-!
# Tally — sums over a list

The sum of a measure over the items of a list, as it is used to count bindings and tasks.
-/

namespace PortMessaging

variable {α : Type}

/-- The sum of a measure over a list. -/
def tally (measure : α → Nat) : List α → Nat
  | [] => 0
  | a :: rest => measure a + tally measure rest

@[simp] theorem tally_nil (measure : α → Nat) : tally measure [] = 0 := rfl

@[simp] theorem tally_cons (measure : α → Nat) (a : α) (l : List α) :
    tally measure (a :: l) = measure a + tally measure l := rfl

@[simp] theorem tally_append (measure : α → Nat) (l m : List α) :
    tally measure (l ++ m) = tally measure l + tally measure m := by
  induction l with
  | nil => simp
  | cons a l ih => simp [ih, Nat.add_assoc]

theorem tally_map {β : Type} (measure : β → Nat) (f : α → β) (l : List α) :
    tally measure (l.map f) = tally (fun a => measure (f a)) l := by
  induction l with
  | nil => rfl
  | cons a l ih => rw [List.map_cons, tally_cons, tally_cons, ih]

theorem tally_eq_zero {measure : α → Nat} {l : List α} (h : ∀ a ∈ l, measure a = 0) :
    tally measure l = 0 := by
  induction l with
  | nil => rfl
  | cons a l ih =>
    obtain ⟨ha, hl⟩ := List.forall_mem_cons.1 h
    rw [tally_cons, ha, ih hl]

/-- A changed item changes the sum by the difference of its measures. -/
theorem tally_modify (measure : α → Nat) (f : α → α) {l : List α} {n : Nat} {a : α}
    (h : l[n]? = some a) :
    tally measure (l.modify n f) + measure a = tally measure l + measure (f a) := by
  induction l generalizing n with
  | nil => cases h
  | cons b l ih =>
    cases n with
    | zero =>
      cases h
      simp only [List.modify_zero_cons, tally_cons]
      omega
    | succ n =>
      have hrest := ih (n := n) h
      simp only [List.modify_succ_cons, tally_cons]
      omega

end PortMessaging
