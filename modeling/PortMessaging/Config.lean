/-!
# Config — settings of one application's ports

Three settings, each with a default, so that any part of them may be left out wherever a
configuration is read.
-/

namespace PortMessaging

/-- The settings of one application's ports. -/
structure Config where
  /-- Sends with a larger payload leave a warning; the transport sets the hard limit. -/
  recommendedPayloadBytes : UInt64 := 4096
  /-- Whether transport codes without a meaning are handed through to the caller. -/
  passthroughUnmappedCodes : Bool := false
  /-- Whether the log of a delivery names the keys of its payload. -/
  logPayloadKeys : Bool := false
  deriving DecidableEq, Repr, Inhabited

namespace Config

def defaults : Config := {}

end Config

end PortMessaging
