import Roaming.Config.Json

namespace Roaming

/-! Configurations from texts and files, read completely and then checked. -/

inductive ConfigError
  | unreadable (fault : Json.Fault)
  | invalid (defect : Config.Defect)
deriving DecidableEq

def ConfigError.message : ConfigError → String
  | .unreadable fault => "error parsing station configuration: " ++ fault.message
  | .invalid defect => "invalid station configuration: " ++ defect.message

/-- Why a configuration file was not loaded. -/
inductive LoadError
  | missing
  | unreadable (fault : Json.Fault)
  | invalid (defect : Config.Defect)
deriving DecidableEq

def LoadError.message (path : String) : LoadError → String
  | .missing => "could not open the config file " ++ path
  | .unreadable _ => "could not deserialize the config file " ++ path
  | .invalid _ => "invalid config file " ++ path

namespace Config

def check (config : Config) : Except ConfigError Config :=
  match config.defect? with
  | none => .ok config
  | some defect => .error (.invalid defect)

/-- Reads a configuration without checking it. -/
def read (text : String) : Except ConfigError Config :=
  match parse (Json.inputOf text) with
  | .ok config => .ok config
  | .error fault => .error (.unreadable fault)

def ofJson (text : String) : Except ConfigError Config := do
  let config ← read text
  config.check

/-- Loads what a file holds, if there is such a file. -/
def load (contents : Option (List UInt8)) : Except LoadError Config :=
  match contents with
  | none => .error .missing
  | some octets =>
      match parse (Text.decode octets) with
      | .error fault => .error (.unreadable fault)
      | .ok config =>
          match config.defect? with
          | none => .ok config
          | some defect => .error (.invalid defect)

end Config

end Roaming
