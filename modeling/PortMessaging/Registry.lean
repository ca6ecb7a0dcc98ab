import PortMessaging.Listener
import PortMessaging.Translator
import PortMessaging.Transport

/-!
# Registry — the local ports of one application

The registry holds every active port of an application: its id, name, domain and listener.  Ids come
from the transport, which need not be honest, so an id is checked before it is used: it has to be
positive and must not be active in the other domain.  A name stands for one id in its domain.

`register` and `unregister` work on the registry and the transport together (`Effect.beside`,
`Effect.modifyHeld`); they are all that changes a registry.  The views (`lookup`, `nameOf?`, …) only
read.
-/

namespace PortMessaging

/-- Whether a port can be reached. -/
inductive PortState where
  | active
  /-- Seen only on the entry that `unregister` hands back. -/
  | retired
  deriving DecidableEq, Repr

structure PortEntry where
  id : PortId
  name : String
  domain : TrustDomain
  listener : Listener
  state : PortState
  deriving DecidableEq, Repr

/-- The active ports of one application, by id, a table for each domain. -/
structure Registry where
  openPorts : SortedMap PortId PortEntry
  trustedPorts : SortedMap PortId PortEntry
  deriving DecidableEq, Repr

namespace Registry

variable {σ : Type}

def empty : Registry := ⟨.empty, .empty⟩

instance : Inhabited Registry := ⟨empty⟩

/-! ## Views -/

/-- The ports of a domain, by id. -/
def table (registry : Registry) : TrustDomain → SortedMap PortId PortEntry
  | .openToAll => registry.openPorts
  | .trusted => registry.trustedPorts

/-- The port with an id in a domain. -/
def lookup (registry : Registry) (id : PortId) (domain : TrustDomain) : Option PortEntry :=
  (registry.table domain).get? id

/-- The port with an id in whichever domain holds it. -/
def lookupEither (registry : Registry) (id : PortId) : Option PortEntry :=
  (registry.lookup id .openToAll).or (registry.lookup id .trusted)

/-- The name of the port with an id. -/
def nameOf? (registry : Registry) (id : PortId) : Option String :=
  (registry.lookupEither id).map (·.name)

/-- The domain of the port with an id. -/
def domainOf? (registry : Registry) (id : PortId) : Option TrustDomain :=
  (registry.lookupEither id).map (·.domain)

/-- The ports of a domain in the order of their ids. -/
def activePorts (registry : Registry) (domain : TrustDomain) : List PortEntry :=
  (registry.table domain).values

/-- The number of ports in both domains. -/
def activeCount (registry : Registry) : Nat :=
  registry.openPorts.size + registry.trustedPorts.size

/-- The id that a name stands for in a domain. -/
def idOfName? (registry : Registry) (name : String) (domain : TrustDomain) : Option PortId :=
  ((registry.activePorts domain).find? (·.name == name)).map (·.id)

/-- The written form of a registry tells the sizes of its tables. -/
def text (registry : Registry) : String :=
  let sizes := s!"open: {registry.openPorts.size}, trusted: {registry.trustedPorts.size}"
  "PortRegistry \x7b " ++ sizes ++ " \x7d"

/-! ## Changes of a table -/

/-- Changes the table of a domain. -/
def modifyTable (registry : Registry) (domain : TrustDomain)
    (f : SortedMap PortId PortEntry → SortedMap PortId PortEntry) : Registry :=
  match domain with
  | .openToAll => { registry with openPorts := f registry.openPorts }
  | .trusted => { registry with trustedPorts := f registry.trustedPorts }

def add (registry : Registry) (id : PortId) (name : String) (domain : TrustDomain)
    (listener : Listener) : Registry :=
  registry.modifyTable domain (·.insert id ⟨id, name, domain, listener, .active⟩)

/-- Gives the port with an id another listener. -/
def rebind (registry : Registry) (id : PortId) (domain : TrustDomain) (listener : Listener) :
    Registry :=
  registry.modifyTable domain (·.modify id fun entry => { entry with listener := listener })

def erase (registry : Registry) (id : PortId) (domain : TrustDomain) : Registry :=
  registry.modifyTable domain (·.erase id)

@[simp] theorem table_modifyTable_self (registry : Registry) (domain : TrustDomain)
    (f : SortedMap PortId PortEntry → SortedMap PortId PortEntry) :
    (registry.modifyTable domain f).table domain = f (registry.table domain) := by
  cases domain <;> rfl

@[simp] theorem table_modifyTable_other (registry : Registry) (domain : TrustDomain)
    (f : SortedMap PortId PortEntry → SortedMap PortId PortEntry) :
    (registry.modifyTable domain f).table domain.other = registry.table domain.other := by
  cases domain <;> rfl

/-! ## Registration -/

/-- Why an id that the transport answered cannot be used for a port of a domain. -/
def refusal? (registry : Registry) (domain : TrustDomain) (id : PortId) : Option String :=
  if !id.isValid then some "Transport returned a non-positive port id"
  else if (registry.lookup id domain.other).isSome then
    some "Transport returned an id already active in the other domain"
  else none

/-- Hands a fresh binding back that the registry cannot use.  A binding that existed before belongs
to whoever made it. -/
def releaseRejected (transport : Transport σ) (outcome : BindOutcome) :
    Effect (Registry × σ) Unit := do
  match outcome with
  | .existing _ => return ()
  | .created id =>
    match ← Effect.beside (transport.unbind id) with
    | .ok () => return ()
    | .error code =>
      Effect.log .warn "Failed to release rejected port binding"
        [("port_id", .text id.text), ("error", .text code.message)]

/-- Retires the port that had a name under another id. -/
def evictStale (transport : Transport σ) (name : String) (domain : TrustDomain) (id : PortId) :
    Effect (Registry × σ) Unit := do
  let registry ← Effect.held
  match (registry.idOfName? name domain).filter (· != id) with
  | none => return ()
  | some stale => do
    Effect.log .warn "Replacing stale port entry"
      [("domain", .text domain.text), ("port", .text name), ("stale_id", .text stale.text),
        ("port_id", .text id.text)]
    match ← Effect.beside (transport.unbind stale) with
    | .ok () => pure ()
    | .error code =>
      Effect.log .warn "Failed to release stale port binding"
        [("domain", .text domain.text), ("port_id", .text stale.text),
          ("error", .text code.message)]
    -- The old entry goes even if the transport kept its binding: the name has moved on.
    Effect.modifyHeld (·.erase stale domain)

/-- Puts a listener under an id: an active port gets it in place of its own, otherwise a port is
added. -/
def seat (name : String) (domain : TrustDomain) (listener : Listener) (outcome : BindOutcome) :
    Effect (Registry × σ) Unit := do
  let id := outcome.id
  let fields : List (String × LogValue) :=
    [("domain", .text domain.text), ("port", .text name), ("port_id", .text id.text)]
  let registry ← Effect.held
  match registry.lookup id domain with
  | some _ => do
    -- Only the listener changes: an active id keeps the name that it has.
    Effect.modifyHeld (·.rebind id domain listener)
    Effect.log .info "Rebound local port listener" fields
  | none => do
    match outcome with
    | .existing _ => Effect.log .debug "Transport binding adopted by registry" fields
    | .created _ => pure ()
    Effect.modifyHeld (·.add id name domain listener)
    Effect.log .info "Registered local port" fields

/-- Takes the binding of a name into the registry, or refuses it. -/
def accept (transport : Transport σ) (name : String) (domain : TrustDomain) (listener : Listener)
    (outcome : BindOutcome) : Effect (Registry × σ) (Except PortError PortId) := do
  let id := outcome.id
  let registry ← Effect.held
  match registry.refusal? domain id with
  | some reason => do
    Effect.log .error reason
      [("domain", .text domain.text), ("port", .text name), ("port_id", .text id.text)]
    releaseRejected transport outcome
    return .error .io
  | none => do
    evictStale transport name domain id
    seat name domain listener outcome
    return .ok id

/-- Registers a name in a domain with a listener and tells the id of the port.  A name that is
active keeps its id and gets the new listener. -/
def register (translator : Translator) (transport : Transport σ) (name : String)
    (domain : TrustDomain) (listener : Option Listener) :
    Effect (Registry × σ) (Except PortError PortId) := do
  if name = "" then do
    Effect.log .warn "Rejected port registration: empty name" [("domain", .text domain.text)]
    return .error (.invalidParameter .portNameEmpty)
  else
    match listener with
    | none => do
      Effect.log .warn "Rejected port registration: no listener"
        [("domain", .text domain.text), ("port", .text name)]
      return .error (.invalidParameter .listenerMissing)
    | some listener => do
      let answer ← Effect.beside (transport.bind name domain)
      match ← translator.result answer with
      | .error e => return .error e
      | .ok outcome => accept transport name domain listener outcome

/-! ## Unregistration -/

/-- Takes an active port out, once the transport has released its id. -/
def retire (translator : Translator) (transport : Transport σ) (entry : PortEntry) (id : PortId)
    (domain : TrustDomain) : Effect (Registry × σ) (Except PortError PortEntry) := do
  -- The transport comes first: an entry whose release fails stays active.
  let answer ← Effect.beside (transport.unbind id)
  match ← translator.result answer with
  | .error e => return .error e
  | .ok () => do
    Effect.modifyHeld (·.erase id domain)
    Effect.log .info "Unregistered local port"
      [("domain", .text domain.text), ("port", .text entry.name), ("port_id", .text id.text)]
    return .ok { entry with state := .retired }

/-- Unregisters the port with an id in a domain and hands its entry back.  A port of the other
domain is as good as missing. -/
def unregister (translator : Translator) (transport : Transport σ) (id : PortId)
    (domain : TrustDomain) : Effect (Registry × σ) (Except PortError PortEntry) := do
  let fields : List (String × LogValue) :=
    [("domain", .text domain.text), ("port_id", .text id.text)]
  if !id.isValid then do
    Effect.log .warn "Rejected unregister: id must be positive" fields
    return .error (.invalidParameter (.portIdNotPositive id))
  else do
    let registry ← Effect.held
    match registry.lookup id domain with
    | none => do
      if (registry.lookup id domain.other).isSome then
        Effect.log .warn "Rejected unregister across trust domains" fields
      else
        Effect.log .warn "Rejected unregister: port not registered" fields
      return .error (.portNotFound (.inDomain domain id))
    | some entry => retire translator transport entry id domain

end Registry

end PortMessaging
