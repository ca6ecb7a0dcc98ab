import PortMessaging.Error

/-!
# Address — where a message is sent

A remote port is addressed by the id of its application and the name under which that application
registered it.  Any two texts form an address; a sender refuses one with an empty part.
-/

namespace PortMessaging

/-- The application and the port name that a message is sent to. -/
structure RemoteAddress where
  app : String
  port : String
  deriving DecidableEq, Repr

namespace RemoteAddress

/-- The written form of an address. -/
def text (remote : RemoteAddress) : String := remote.app ++ ":" ++ remote.port

instance : ToString RemoteAddress := ⟨text⟩

/-- Refuses an address with an empty part; the application is looked at first. -/
def validate (remote : RemoteAddress) : Except PortError Unit :=
  if remote.app = "" then .error (.invalidParameter .remoteAppEmpty)
  else if remote.port = "" then .error (.invalidParameter .remotePortEmpty)
  else .ok ()

/-- An address is accepted exactly when both parts are present. -/
theorem validate_eq_ok_iff (remote : RemoteAddress) :
    remote.validate = .ok () ↔ remote.app ≠ "" ∧ remote.port ≠ "" := by
  unfold validate
  by_cases happ : remote.app = "" <;> by_cases hport : remote.port = "" <;> simp [happ, hport]

end RemoteAddress

end PortMessaging
