import PluginWrapper.Event
import PluginWrapper.Json

/-!
Log records: events as they are reported, with a level, a target that names the reporting part, a
message and named fields.
-/

namespace PluginWrapper

structure LogRecord where
  level : Level
  target : String
  message : String
  fields : List (String × Value)

def Event.record : Event → LogRecord
  | .configurationLoaded file options level =>
    ⟨.debug, "cubegen::cli", "Configuration loaded",
      [("config_file", .str (shownFile file)), ("options", .int options),
        ("level", .str level.text)]⟩
  | .unrecognizedOption key =>
    ⟨.warn, "cubegen::cli", "Unrecognized processor option", [("option", .str key)]⟩
  | .generating element annotation pluginId dependencies =>
    ⟨.debug, "cubegen_core::processor", "Generating plugin wrapper",
      [("element", .str element), ("annotation", .str annotation), ("plugin_id", .str pluginId),
        ("dependencies", .int dependencies)]⟩
  | .wroteSource artifact bytes =>
    ⟨.debug, "cubegen_core::emit", "Wrote plugin source",
      [("artifact", .str artifact), ("bytes", .int bytes)]⟩
  | .wroteResource artifact =>
    ⟨.debug, "cubegen_core::emit", "Wrote language resource", [("artifact", .str artifact)]⟩
  | .roundComplete modules cores =>
    ⟨.info, "cubegen_core::processor", "Plugin generation round complete",
      [("modules", .int modules), ("cores", .int cores)]⟩
  | .finalRound =>
    ⟨.debug, "cubegen_core::processor", "Final processing round, nothing to generate", []⟩
where
  shownFile : Option String → String
    | none => "None"
    | some path => "Some(" ++ Text.quoted path ++ ")"

namespace LogRecord

/-- The record as a document; the message is one of the fields. -/
def toValue (r : LogRecord) : Value :=
  .map [("level", .str r.level.label), ("fields", .map (("message", .str r.message) :: r.fields)),
    ("target", .str r.target)]

def shown : Value → String
  | .str s => s
  | v => Json.render .onOneLine 0 v

def colour : Level → String
  | .error => "31"
  | .warn => "33"
  | .info => "32"
  | .debug => "34"
  | .trace => "35"

/-- The record on a line of text. In colours, the target and the names of the fields are bold. -/
def line (coloured : Bool) (r : LogRecord) : String :=
  let sequence (codes : String) := if coloured then "\x1b[" ++ codes ++ "m" else ""
  let plain := sequence (colour r.level)
  let bold (s : String) := sequence ("1;" ++ colour r.level) ++ s ++ sequence "0" ++ plain
  let field : String × Value → String := fun (name, v) => bold name ++ ": " ++ shown v
  plain ++ r.level.label ++ " " ++ bold r.target ++ ": " ++
    ", ".intercalate (r.message :: r.fields.map field) ++ sequence "0"

end LogRecord

end PluginWrapper
