import Mathlib.Algebra.Group.Nat.Defs
import Mathlib.Data.List.Nodup
import PortMessaging.Proofs.ReadBack
import PortMessaging.Proofs.TomlLines

/-!
# ConfigDocuments — what a document does not set keeps its default

A configuration may be written in part: any of its settings, in any order, one on a line.  Read back, such a
document gives the values that stand in it and the defaults of the settings that do not
(`written_settings_overlay_defaults`).  The text that the library writes for a configuration is the document
with all settings, so it gives the configuration back; the empty document gives the defaults.

All this holds of sizes up to the largest TOML integer.
-/

namespace PortMessaging

/-- The settings that a configuration has. -/
inductive Setting where
  | recommendedPayloadBytes
  | passthroughUnmappedCodes
  | logPayloadKeys
  deriving DecidableEq, Repr

namespace Setting

def key : Setting → String
  | recommendedPayloadBytes => "recommended_payload_bytes"
  | passthroughUnmappedCodes => "passthrough_unmapped_codes"
  | logPayloadKeys => "log_payload_keys"

theorem key_injective : Function.Injective key := by
  intro a b h
  cases a <;> cases b <;> revert h <;> decide

theorem bare_key (setting : Setting) : Toml.Bare setting.key.toList := by
  cases setting with
  | recommendedPayloadBytes => exact ⟨List.all_eq_true.1 (by decide), by decide⟩
  | passthroughUnmappedCodes => exact ⟨List.all_eq_true.1 (by decide), by decide⟩
  | logPayloadKeys => exact ⟨List.all_eq_true.1 (by decide), by decide⟩

end Setting

namespace Config

open Toml (LineBreak)

/-! ## Documents -/

/-- The line of a setting. -/
def line (config : Config) : Setting → String
  | .recommendedPayloadBytes =>
    s!"recommended_payload_bytes = {config.recommendedPayloadBytes.toNat}"
  | .passthroughUnmappedCodes =>
    s!"passthrough_unmapped_codes = {config.passthroughUnmappedCodes}"
  | .logPayloadKeys => s!"log_payload_keys = {config.logPayloadKeys}"

/-- The document that has the lines of some settings, in this order.  A document that is closed has a line
break after its last line as well. -/
def document (config : Config) (lineBreak : LineBreak) (closed : Bool) (settings : List Setting) :
    String :=
  lineBreak.text.intercalate (settings.map config.line) ++ if closed then lineBreak.text else ""

/-- The configuration with the defaults in place of all settings but the given ones. -/
def overlay (config : Config) (settings : List Setting) : Config where
  recommendedPayloadBytes :=
    if .recommendedPayloadBytes ∈ settings then config.recommendedPayloadBytes
    else defaults.recommendedPayloadBytes
  passthroughUnmappedCodes :=
    if .passthroughUnmappedCodes ∈ settings then config.passthroughUnmappedCodes
    else defaults.passthroughUnmappedCodes
  logPayloadKeys :=
    if .logPayloadKeys ∈ settings then config.logPayloadKeys else defaults.logPayloadKeys

/-! ## Lines as assignments -/

def settingText (config : Config) : Setting → String
  | .recommendedPayloadBytes => toString config.recommendedPayloadBytes.toNat
  | .passthroughUnmappedCodes => toString config.passthroughUnmappedCodes
  | .logPayloadKeys => toString config.logPayloadKeys

def settingValue (config : Config) : Setting → Toml
  | .recommendedPayloadBytes => .integer config.recommendedPayloadBytes.toNat
  | .passthroughUnmappedCodes => .boolean config.passthroughUnmappedCodes
  | .logPayloadKeys => .boolean config.logPayloadKeys

/-- The assignment of a setting. -/
def field (config : Config) (setting : Setting) : Toml.Field :=
  ⟨setting.key, config.settingText setting, config.settingValue setting⟩

theorem line_field (config : Config) (setting : Setting) :
    (config.field setting).line = config.line setting := by
  cases setting <;> rfl

theorem document_eq (config : Config) (lineBreak : LineBreak) (closed : Bool)
    (settings : List Setting) :
    config.document lineBreak closed settings =
      Toml.document lineBreak closed (settings.map config.field) := by
  simp [document, Toml.document, Function.comp_def, line_field]

variable {config : Config}

theorem written_field (hsize : config.recommendedPayloadBytes.toNat ≤ 9223372036854775807)
    (setting : Setting) : (config.field setting).Written := by
  refine ⟨setting.bare_key, ?_⟩
  cases setting with
  | recommendedPayloadBytes => exact Toml.reads_integer hsize
  | passthroughUnmappedCodes => exact Toml.reads_boolean _
  | logPayloadKeys => exact Toml.reads_boolean _

/-! ## Settings of a document -/

theorem lookup_entriesOf (config : Config) (setting : Setting) (settings : List Setting) :
    (Toml.entriesOf (settings.map config.field)).lookup setting.key =
      if setting ∈ settings then some (config.settingValue setting) else none := by
  induction settings with
  | nil => rfl
  | cons other settings ih =>
    have hcons : Toml.entriesOf ((other :: settings).map config.field) =
        (other.key, config.settingValue other) :: Toml.entriesOf (settings.map config.field) := rfl
    rw [hcons, List.lookup_cons]
    by_cases hsame : setting = other
    · subst hsame
      simp
    · have hkey : (setting.key == other.key) = false := by
        simpa using mt (fun h => Setting.key_injective h) hsame
      simp [hkey, ih, hsame]

theorem size?_settingValue (config : Config) :
    Toml.size? (config.settingValue .recommendedPayloadBytes) =
      some config.recommendedPayloadBytes := by
  have hrange := config.recommendedPayloadBytes.toNat_lt
  simp only [settingValue, Toml.size?]
  rw [if_pos (by omega), ofInt_toNat_size]

/-- The assignments of settings are read as the configuration that has these settings. -/
theorem ofEntries?_entriesOf (config : Config) (settings : List Setting) :
    ofEntries? (Toml.entriesOf (settings.map config.field)) = some (config.overlay settings) := by
  generalize hentries : Toml.entriesOf (settings.map config.field) = entries
  have hlookup (setting : Setting) : entries.lookup setting.key =
      if setting ∈ settings then some (config.settingValue setting) else none := by
    rw [← hentries]
    exact config.lookup_entriesOf setting settings
  have hbytes : (entries.lookup "recommended_payload_bytes").elim
      (some defaults.recommendedPayloadBytes) Toml.size? =
        some (config.overlay settings).recommendedPayloadBytes := by
    rw [show "recommended_payload_bytes" = Setting.recommendedPayloadBytes.key from rfl, hlookup]
    unfold overlay
    split
    next => exact config.size?_settingValue
    next => rfl
  have hcodes : (entries.lookup "passthrough_unmapped_codes").elim
      (some defaults.passthroughUnmappedCodes) Toml.boolean? =
        some (config.overlay settings).passthroughUnmappedCodes := by
    rw [show "passthrough_unmapped_codes" = Setting.passthroughUnmappedCodes.key from rfl, hlookup]
    unfold overlay
    split <;> rfl
  have hkeys : (entries.lookup "log_payload_keys").elim (some defaults.logPayloadKeys)
      Toml.boolean? = some (config.overlay settings).logPayloadKeys := by
    rw [show "log_payload_keys" = Setting.logPayloadKeys.key from rfl, hlookup]
    unfold overlay
    split <;> rfl
  unfold ofEntries?
  rw [hbytes, hcodes, hkeys]
  rfl

theorem ofToml?_document (hsize : config.recommendedPayloadBytes.toNat ≤ 9223372036854775807)
    (lineBreak : LineBreak) (closed : Bool) {settings : List Setting} (hsettings : settings.Nodup) :
    ofToml? (config.document lineBreak closed settings) = some (config.overlay settings) := by
  have hwritten : ∀ field ∈ settings.map config.field, field.Written := by
    intro field hfield
    obtain ⟨setting, -, rfl⟩ := List.mem_map.1 hfield
    exact written_field hsize setting
  have hkeys : ((settings.map config.field).map (·.key)).Nodup := by
    rw [List.map_map]
    exact List.Nodup.map Setting.key_injective hsettings
  unfold ofToml?
  rw [document_eq, Toml.parse?_document hwritten hkeys]
  exact config.ofEntries?_entriesOf settings

theorem intercalate_three (a b c lineBreak : String) :
    lineBreak.intercalate [a, b, c] ++ lineBreak =
      a ++ lineBreak ++ (b ++ lineBreak) ++ (c ++ lineBreak) := by
  simp only [String.intercalate_cons_cons, String.intercalate_singleton, String.append_assoc]

/-- The written form of a configuration is the document with all settings. -/
theorem toToml?_eq (hsize : config.recommendedPayloadBytes.toNat ≤ 9223372036854775807) :
    config.toToml? = some (config.document .lineFeed true
      [.recommendedPayloadBytes, .passthroughUnmappedCodes, .logPayloadKeys]) := by
  unfold toToml?
  extract_lets n
  split
  next => exact congrArg some (intercalate_three (config.line .recommendedPayloadBytes)
      (config.line .passthroughUnmappedCodes) (config.line .logPayloadKeys) "\n").symm
  next h => exact absurd hsize h

/-- A document with the lines of some settings, whichever and in whatever order, is read as the values that
stand on these lines and the defaults of the other settings.  So the written form of a configuration is read
as the configuration, and the empty document as the defaults. -/
theorem written_settings_overlay_defaults (config : Config)
    (hsize : config.recommendedPayloadBytes.toNat ≤ 2 ^ 63 - 1) :
    (∀ lineBreak closed settings, settings.Nodup →
      ofToml? (config.document lineBreak closed settings) = some (config.overlay settings)) ∧
    (∃ text, config.toToml? = some text ∧ ofToml? text = some config) ∧
    ofToml? "" = some defaults := by
  refine ⟨fun lineBreak closed settings => ofToml?_document hsize lineBreak closed, ?_, ?_⟩
  · refine ⟨_, toToml?_eq hsize, ?_⟩
    rw [ofToml?_document hsize .lineFeed true (by decide)]
    rfl
  · exact ofToml?_document hsize .lineFeed false List.nodup_nil

/-- Two settings of three, in another order than the library writes them, with the largest size. -/
theorem largest_size_overlays_defaults :
    (9223372036854775807 : UInt64).toNat ≤ 2 ^ 63 - 1 ∧
    ofToml? "log_payload_keys = true\nrecommended_payload_bytes = 9223372036854775807" =
      some ⟨9223372036854775807, false, true⟩ := by
  refine ⟨by decide, ?_⟩
  have hread := written_settings_overlay_defaults ⟨9223372036854775807, true, true⟩ (by decide)
  exact hread.1 .lineFeed false [.logPayloadKeys, .recommendedPayloadBytes] (by decide)

end Config
end PortMessaging
