import PortMessaging.Effect
import PortMessaging.Error

/-!
# Translator — from transport codes to public errors

Every known transport code has one public error.  A code without a meaning becomes an input/output
error and leaves a warning, unless the translator hands such codes through; then the raw number is
kept in the error.
-/

namespace PortMessaging

/-- Turns transport codes into public errors. -/
structure Translator where
  /-- Whether codes without a meaning are handed through. -/
  passthrough : Bool
  deriving DecidableEq, Repr

namespace Translator

variable {σ α : Type}

/-- The public error of a transport code. -/
def errorOf (translator : Translator) : TransportCode → PortError
  | .io => .io
  | .outOfMemory => .outOfMemory
  | .invalidParameter => .invalidParameter .rejectedByTransport
  | .portNotFound => .portNotFound .reportedByTransport
  | .certificateMismatch => .certificateMismatch
  | .tooLarge => .tooLarge
  | .unavailable => .unavailable
  | .other raw => if translator.passthrough then .unrecognized raw else .io

/-- Translates a code, with a warning if its meaning is lost. -/
def translate (translator : Translator) (code : TransportCode) : Effect σ PortError := do
  match code, translator.passthrough with
  | .other raw, false =>
    Effect.log .warn "Unmapped transport code, reporting IO error" [("code", .number raw.toInt)]
  | _, _ => pure ()
  return translator.errorOf code

/-- Translates the failure of a transport's answer. -/
def result (translator : Translator) : Except TransportCode α → Effect σ (Except PortError α)
  | .ok a => return .ok a
  | .error code => do return .error (← translator.translate code)

/-- Translates a numeric answer, in which a negative number is a failure. -/
def resultOfRaw (translator : Translator) (raw : Int32) : Effect σ (Except PortError Unit) :=
  match TransportCode.ofRaw? raw with
  | none => return .ok ()
  | some code => translator.result (.error code)

end Translator

end PortMessaging
