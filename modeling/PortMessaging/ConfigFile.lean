import PortMessaging.Effect
import PortMessaging.Toml.Codec

/-!
# ConfigFile — settings kept in a file

Where the configuration file of a user is, and what is read from it.  A file that is missing,
cannot be read or does not hold a configuration never stops anything: the defaults take its place,
and the log tells why.  The module works on the contents of a file; getting at them is left to the
outer layer.
-/

namespace PortMessaging

/-- What is found at the place of a file. -/
inductive FileContents where
  | missing
  /-- There is something, but no file that can be read. -/
  | unreadable
  | bytes (contents : List UInt8)
  deriving DecidableEq, Repr

namespace ConfigFile

/-- Appends a name to the text of a path. -/
def join (path name : String) : String :=
  if path.toList.getLast? = some '/' then path ++ name else path ++ "/" ++ name

/-- The directory of the library's files, in a user's home. -/
def homeDirectory (home : String) : String := join home ".msgport"

/-- The configuration file, in a user's home. -/
def defaultPath (home : String) : String := join (homeDirectory home) "config.toml"

/-- The configuration that is in force for the file found at a path. -/
def load {σ : Type} (path : String) (contents : FileContents) : Effect σ Config := do
  let note (level : LogLevel) (message : String) : Effect σ Unit :=
    Effect.log level message [("path", .text path)]
  match contents with
  | .missing => do
    note .info "Config file not found, using defaults"
    return Config.defaults
  | .unreadable => do
    note .warn "Failed to read config file, using defaults"
    return Config.defaults
  | .bytes contents =>
    match String.fromUTF8? ⟨contents.toArray⟩ with
    | none => do
      note .warn "Failed to read config file, using defaults"
      return Config.defaults
    | some text =>
      match Config.ofToml? text with
      | none => do
        note .warn "Failed to parse config, using defaults"
        return Config.defaults
      | some config => do
        note .info "Loaded configuration"
        return config

end ConfigFile

end PortMessaging
