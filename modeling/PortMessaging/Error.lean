import PortMessaging.Port

/-!
# Error — what a transport reports and what a caller sees

Transports answer with a small set of codes, and callers see a public error.  Both have a stable
number and a text.  A public error names its cause; the wording of every cause is fixed here, in
`PortError.message`, and nowhere else.
-/

namespace PortMessaging

/-! ## Transport codes -/

/-- A failure as a transport reports it. -/
inductive TransportCode where
  | io
  | outOfMemory
  | invalidParameter
  | portNotFound
  | certificateMismatch
  | tooLarge
  | unavailable
  /-- A code with no meaning known to this library. -/
  | other (raw : Int32)
  deriving DecidableEq, Repr

namespace TransportCode

def raw : TransportCode → Int32
  | io => -5
  | outOfMemory => -12
  | invalidParameter => -22
  | portNotFound => -2
  | certificateMismatch => -13
  | tooLarge => -7
  | unavailable => -11
  | other raw => raw

/-- Reads a numeric result.  Zero is success and positive numbers carry port ids, so neither is a
code; every negative number is one. -/
def ofRaw? (raw : Int32) : Option TransportCode :=
  if 0 ≤ raw then none
  else if raw = -5 then some io
  else if raw = -12 then some outOfMemory
  else if raw = -22 then some invalidParameter
  else if raw = -2 then some portNotFound
  else if raw = -13 then some certificateMismatch
  else if raw = -7 then some tooLarge
  else if raw = -11 then some unavailable
  else some (other raw)

/-- The text of a code, as it appears in the log. -/
def message : TransportCode → String
  | io => "transport I/O error"
  | outOfMemory => "transport out of memory"
  | invalidParameter => "transport rejected a parameter"
  | portNotFound => "port not found"
  | certificateMismatch => "certificate mismatch"
  | tooLarge => "message too large"
  | unavailable => "resource unavailable"
  | other raw => s!"transport code {raw.toInt}"

end TransportCode

/-! ## Public errors -/

/-- Why an argument is refused. -/
inductive ParameterFault where
  | portNameEmpty
  | listenerMissing
  | portIdNotPositive (id : PortId)
  | replyIdNotPositive (id : PortId)
  | remoteAppEmpty
  | remotePortEmpty
  | payloadMissing
  | rejectedByTransport
  /-- A reason in the words of whoever raised the error. -/
  | described (reason : String)
  deriving DecidableEq, Repr

namespace ParameterFault

/-- The wording of a refused argument. -/
def text : ParameterFault → String
  | portNameEmpty => "port name is empty"
  | listenerMissing => "listener is missing"
  | portIdNotPositive id => s!"port id {id} is not positive"
  | replyIdNotPositive id => s!"local port id {id} is not positive"
  | remoteAppEmpty => "remote application id is empty"
  | remotePortEmpty => "remote port name is empty"
  | payloadMissing => "payload is missing"
  | rejectedByTransport => "rejected by transport"
  | described reason => reason

end ParameterFault

/-- Which port is missing. -/
inductive MissingPort where
  /-- No active port of the domain has the id. -/
  | inDomain (domain : TrustDomain) (id : PortId)
  /-- No active port of either domain has the id. -/
  | inEither (id : PortId)
  | reportedByTransport
  /-- A port in the words of whoever raised the error. -/
  | described (port : String)
  deriving DecidableEq, Repr

namespace MissingPort

/-- The wording of a missing port. -/
def text : MissingPort → String
  | inDomain domain id => s!"{domain} local port {id}"
  | inEither id => s!"local port {id}"
  | reportedByTransport => "reported by transport"
  | described port => port

end MissingPort

/-- A failure as a caller of the library sees it. -/
inductive PortError where
  | io
  | outOfMemory
  | invalidParameter (fault : ParameterFault)
  | portNotFound (port : MissingPort)
  | certificateMismatch
  | tooLarge
  | unavailable
  /-- A transport code without a meaning, handed through as it is. -/
  | unrecognized (raw : Int32)
  deriving DecidableEq, Repr

namespace PortError

/-- The stable number of an error; an error that has a transport code shares its number. -/
def code : PortError → Int32
  | io => TransportCode.io.raw
  | outOfMemory => TransportCode.outOfMemory.raw
  | invalidParameter _ => TransportCode.invalidParameter.raw
  | portNotFound _ => TransportCode.portNotFound.raw
  | certificateMismatch => TransportCode.certificateMismatch.raw
  | tooLarge => TransportCode.tooLarge.raw
  | unavailable => TransportCode.unavailable.raw
  | unrecognized raw => raw

def message : PortError → String
  | io => "IO error"
  | outOfMemory => "Out of memory"
  | invalidParameter fault => "Invalid parameter: " ++ fault.text
  | portNotFound port => "Port not found: " ++ port.text
  | certificateMismatch => "Certificate does not match"
  | tooLarge => "Message size exceeded the maximum limit"
  | unavailable => "Resource temporarily unavailable"
  | unrecognized raw => s!"Unrecognized transport code: {raw.toInt}"

end PortError

end PortMessaging
