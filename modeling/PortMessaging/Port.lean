/-!
# Port — identity and trust domain of a local port

A port is known by a 32-bit id that its transport hands out, and it lives in one of two trust
domains.  Only strictly positive ids name a port; the other values are representable, because
transports and callers may offer them, and are refused where they arrive.
-/

namespace PortMessaging

/-! ## Port ids -/

/-- The id of a local port, as a transport hands it out. -/
structure PortId where
  value : Int32
  deriving DecidableEq, Repr, Inhabited

namespace PortId

/-- An id can name a port exactly when it is strictly positive. -/
def isValid (id : PortId) : Bool := 0 < id.value

/-- The id as a decimal numeral. -/
def text (id : PortId) : String := toString id.value.toInt

instance : ToString PortId := ⟨text⟩

/-- Ids are ordered as signed numbers. -/
instance : Ord PortId := ⟨compareOn PortId.value⟩

theorem compare_def (a b : PortId) : compare a b = compare a.value b.value := rfl

instance : Std.TransOrd PortId where
  eq_swap := by
    intro a b
    simpa only [compare_def] using Std.OrientedCmp.eq_swap (a := a.value) (b := b.value)
  isLE_trans := by
    intro a b c hab hbc
    simp only [compare_def] at hab hbc ⊢
    exact Std.TransCmp.isLE_trans hab hbc

instance : Std.LawfulEqOrd PortId where
  compare_self := by
    intro a
    simp
  eq_of_compare := by
    intro a b h
    cases a
    cases b
    simpa [compare_def] using h

end PortId

/-! ## Trust domains -/

/-- The namespace a port lives in.  Trusted ports accept messages only from applications that
hold the same certificate; enforcing that is the transport's task. -/
inductive TrustDomain where
  | openToAll
  | trusted
  deriving DecidableEq, Repr, Inhabited

namespace TrustDomain

/-- The domain that a caller's trust flag selects. -/
def ofTrusted : Bool → TrustDomain
  | true => trusted
  | false => openToAll

def isTrusted : TrustDomain → Bool
  | trusted => true
  | openToAll => false

def other : TrustDomain → TrustDomain
  | openToAll => trusted
  | trusted => openToAll

def text : TrustDomain → String
  | openToAll => "open"
  | trusted => "trusted"

def ofText? (s : String) : Option TrustDomain :=
  if s = "open" then some openToAll
  else if s = "trusted" then some trusted
  else none

instance : ToString TrustDomain := ⟨text⟩

@[simp] theorem other_other (d : TrustDomain) : d.other.other = d := by
  cases d <;> rfl

@[simp] theorem ofTrusted_isTrusted (d : TrustDomain) : ofTrusted d.isTrusted = d := by
  cases d <;> rfl

@[simp] theorem isTrusted_ofTrusted (b : Bool) : (ofTrusted b).isTrusted = b := by
  cases b <;> rfl

@[simp] theorem ofText?_text (d : TrustDomain) : ofText? d.text = some d := by
  cases d <;> decide

theorem other_ne (d : TrustDomain) : d.other ≠ d := by
  cases d <;> decide

theorem eq_other_of_ne {d domain : TrustDomain} (h : d ≠ domain) : d = domain.other := by
  cases d with
  | openToAll =>
    cases domain with
    | openToAll => exact absurd rfl h
    | trusted => rfl
  | trusted =>
    cases domain with
    | openToAll => rfl
    | trusted => exact absurd rfl h

end TrustDomain

end PortMessaging
