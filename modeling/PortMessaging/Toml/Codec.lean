import PortMessaging.Config
import PortMessaging.Toml.Reader

/-!
# Toml.Codec — a configuration as a TOML document

Each setting is a key of the document.  Reading takes any document: settings that are missing have
their defaults, other keys are passed over, and only a setting of the wrong type is refused.
Writing puts one setting on a line, in order; a size that a TOML integer cannot hold has no written
form.
-/

namespace PortMessaging

namespace Toml

def size? : Toml → Option UInt64
  | .integer n => if 0 ≤ n ∧ n ≤ 18446744073709551615 then some (UInt64.ofInt n) else none
  | _ => none

def boolean? : Toml → Option Bool
  | .boolean b => some b
  | _ => none

end Toml

namespace Config

/-- Reads the settings among the entries of a document. -/
def ofEntries? (entries : Toml.Entries) : Option Config := do
  let bytes ← (entries.lookup "recommended_payload_bytes").elim
    (some defaults.recommendedPayloadBytes) Toml.size?
  let passthrough ← (entries.lookup "passthrough_unmapped_codes").elim
    (some defaults.passthroughUnmappedCodes) Toml.boolean?
  let keys ← (entries.lookup "log_payload_keys").elim (some defaults.logPayloadKeys) Toml.boolean?
  return ⟨bytes, passthrough, keys⟩

/-- Reads a configuration from the text of a document. -/
def ofToml? (text : String) : Option Config := (Toml.parse? text).bind ofEntries?

/-- The text of a configuration. -/
def toToml? (config : Config) : Option String :=
  let n := config.recommendedPayloadBytes.toNat
  if n ≤ 9223372036854775807 then
    some (s!"recommended_payload_bytes = {n}\n" ++
      s!"passthrough_unmapped_codes = {config.passthroughUnmappedCodes}\n" ++
      s!"log_payload_keys = {config.logPayloadKeys}\n")
  else none

end Config

end PortMessaging
