import LoadScenario.Decode.Config
import LoadScenario.Toml.Grammar

/-!
# Configuration files

A configuration file is TOML. Reading one fails for a file that cannot be read,
for a text that is no TOML or does not decode into a configuration (the report
points into the text), and for a configuration that does not validate. A
configuration given as JSON data is decoded the same way, without places.
-/

namespace LoadScenario

namespace EngineConfig

/-- The configuration written in a TOML text, checked. -/
def ofToml (text : String) : Except ConfigError EngineConfig := do
  let root ← (Toml.parse text).mapError fun e => .parse (e.render text)
  let c ← (decode root.toDatum).mapError fun f =>
    .parse (Toml.Error.render { message := f.error.message .toml, span := f.span } text)
  c.validate
  pure c

/-- The configuration in a file, given its contents or why they could not be read. -/
def load (contents : Except String String) : Except ConfigError EngineConfig :=
  match contents with
  | .ok text => ofToml text
  | .error m => .error (.io m)

/-- The configuration written as JSON data, not yet checked. -/
def ofJson (v : Value) : Except DecodeError EngineConfig :=
  (decode (Datum.ofValue v)).mapError (·.error)

end EngineConfig

end LoadScenario
