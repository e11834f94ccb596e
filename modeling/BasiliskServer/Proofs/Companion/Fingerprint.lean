import BasiliskServer.Companion.Config
import BasiliskServer.Proofs.Json.RoundTrip

/-!
# What fingerprints tell apart

The fingerprint of a configuration is read back as the four parts that the process depends on
(`Config.parse_fingerprint`). So two configurations have the same fingerprint exactly if they agree
in these parts, whatever characters their texts hold (`Config.fingerprint_eq_iff`): no argument can be
written so that it is taken for two arguments, for a flag or for the end of a list.
-/

namespace BasiliskServer.Companion.Config

open Json (Value)

/-- The parts of a configuration that the process depends on. -/
def essentials (config : Config) : Value :=
  .object
    [("args", .strings config.args),
     ("compileCommandsDir", .string config.compileCommandsDir),
     ("fallbackFlags", .strings config.fallbackFlags),
     ("path", .string config.path)]

theorem fingerprint_eq_renderAscii (config : Config) :
    config.fingerprint = Json.renderAscii config.essentials :=
  rfl

theorem plain_essentials (config : Config) : config.essentials.Plain := by
  simp [essentials]

/-- There are two levels of lists and objects, and no integers. -/
theorem excess?_essentials (config : Config) (depth : Nat) :
    config.essentials.excess? (depth + 2) = none := by
  simp [essentials, Value.excess?, Json.fieldsExcess?]

theorem essentials_eq_iff {config other : Config} :
    config.essentials = other.essentials ↔
      config.path = other.path ∧ config.args = other.args ∧
      config.compileCommandsDir = other.compileCommandsDir ∧
      config.fallbackFlags = other.fallbackFlags := by
  simp only [essentials, Value.object.injEq, List.cons.injEq, Prod.mk.injEq, Value.string.injEq,
    Value.strings_inj, true_and, and_true]
  constructor
  · rintro ⟨hargs, hdirectory, hflags, hpath⟩
    exact ⟨hpath, hargs, hdirectory, hflags⟩
  · rintro ⟨hpath, hargs, hdirectory, hflags⟩
    exact ⟨hargs, hdirectory, hflags, hpath⟩

/-- Reading a fingerprint gives the parts back that the process depends on. -/
theorem parse_fingerprint (config : Config) :
    Json.parse 2 config.fingerprint = .ok config.essentials := by
  rw [fingerprint_eq_renderAscii]
  exact Json.parse_renderAscii config.plain_essentials (config.excess?_essentials 0)

/-- Fingerprints agree exactly if the program, its arguments, the directory of compile commands and the
flags do. -/
theorem fingerprint_eq_iff {config other : Config} :
    config.fingerprint = other.fingerprint ↔
      config.path = other.path ∧ config.args = other.args ∧
      config.compileCommandsDir = other.compileCommandsDir ∧
      config.fallbackFlags = other.fallbackFlags := by
  rw [← essentials_eq_iff]
  constructor
  · intro h
    -- The same text cannot be read as two different things.
    have hparse := parse_fingerprint config
    rw [h, parse_fingerprint other] at hparse
    exact (Except.ok.inj hparse).symm
  · intro h
    rw [fingerprint_eq_renderAscii, h, ← fingerprint_eq_renderAscii]

end BasiliskServer.Companion.Config
