import Roaming.Config.Field
import Roaming.Json.Value

namespace Roaming.Config

/-! Configurations as JSON: an object of named fields, or their values in order.  Fields that are
left out keep their defaults. -/

open Roaming.Json

/-! Writing. -/

def writeBoolean (value : Bool) : List Char :=
  (if value then "true" else "false").toList

def writeOctets (values : List UInt8) : List Char :=
  '[' :: [','].intercalate (values.map fun value => Nat.toDigits 10 value.toNat) ++
    [']']

def Slot.write (config : Config) : Slot → List Char
  | .text part => writeText (part.get config)
  | .boolean part => writeBoolean (part.get config)
  | .long part => Nat.toDigits 10 (part.get config).toNat
  | .word part => Nat.toDigits 10 (part.get config).toNat
  | .octets part => writeOctets (part.get config)

def writeField (config : Config) (field : Field) : List Char :=
  writeText field.name ++ ':' :: field.slot.write config

def write (config : Config) : List Char :=
  '\x7b' :: [','].intercalate (Field.all.map config.writeField) ++ ['\x7d']

def toJson (config : Config) : String :=
  String.ofList config.write

/-! Reading. -/

def Slot.read (config : Config) (input : Input) :
    Slot → Except Fault (Config × Input)
  | .text part => do
      let (value, rest) ← readString input
      .ok (part.set config value, rest)
  | .boolean part => do
      let (value, rest) ← readBoolean input
      .ok (part.set config value, rest)
  | .long part => do
      let (value, rest) ← readNat 64 input
      .ok (part.set config (UInt64.ofNat value), rest)
  | .word part => do
      let (value, rest) ← readNat 32 input
      .ok (part.set config (UInt32.ofNat value), rest)
  | .octets part => do
      let (value, rest) ← readOctets input
      .ok (part.set config value, rest)

/-- Reads keys and values.  A field may be given only while it is among those left. -/
def readFields (left : List Field) (first : Bool) (config : Config)
    (input : Input) : Except Fault (Config × Input) := do
  match ← nextKey first input with
  | .ended rest => .ok (config, rest)
  | .item input =>
      let (name, rest) ← readText input
      match Field.ofName? name with
      | none => .error (.unknownField name (Field.all.map Field.name))
      | some field =>
          if _ : field ∈ left then
            let rest ← readColon rest
            let (config, rest) ← field.slot.read config rest
            readFields (left.erase field) false config rest
          else .error (.duplicateField name)
termination_by left.length
decreasing_by
  have := List.length_erase_of_mem ‹field ∈ left›
  have := List.length_pos_of_mem ‹field ∈ left›
  omega

/-- Reads values in the order of the fields; the last may be left out. -/
def readValues (first : Bool) (config : Config) (input : Input) :
    List Field → Except Fault (Config × Input)
  | [] =>
      match skipBlank input with
      | [] => .error .truncated
      | .char ']' :: rest => .ok (config, rest)
      | _ => .error .malformed
  | field :: fields => do
      match ← nextElement first input with
      | .ended rest => .ok (config, rest)
      | .item input =>
          let (config, rest) ← field.slot.read config input
          readValues false config rest fields

def readConfig (input : Input) : Except Fault (Config × Input) :=
  match skipBlank input with
  | .char '\x7b' :: rest => readFields Field.all true {} rest
  | .char '[' :: rest => readValues true {} rest Field.all
  | input => .error (mismatch .config input)

/-- Nothing may follow a configuration but blanks. -/
def parse (input : Input) : Except Fault Config := do
  let (config, rest) ← readConfig input
  if (skipBlank rest).isEmpty then .ok config else .error .malformed

end Roaming.Config
