import Roaming.Config.Load
import Roaming.Proofs.JsonValues

namespace Roaming

/-! Configurations that are read back as they were written. -/

open Json

namespace Json

private theorem nextKey_writeText (first : Bool) (name : String) (rest : Input) :
    nextKey first (symbols (comma first ++ writeText name) ++ rest) =
      .ok (.item (symbols (writeText name) ++ rest).tail) := by
  cases first <;> rfl

theorem readColon_colon (rest : Input) :
    readColon (.char ':' :: rest) = .ok rest := rfl

end Json

namespace Config

private theorem readOctets_writeOctets (values : List UInt8) (rest : Input) :
    readOctets (symbols (writeOctets values) ++ rest) =
      .ok (values, rest) := by
  have hwritten : symbols (writeOctets values) ++ rest = .char '[' ::
      (symbols (listed true (decimals values)) ++ .char ']' :: rest) := by
    rw [writeOctets, ← decimals, intercalate_eq_listed]
    simp
  have hfuel := length_le_listed values true
  rw [hwritten, readOctets, skipBlank_cons (by decide)]
  refine readElements_decimals ?_ true rest
  simp only [List.length_append, symbols, List.length_map, List.length_cons]
  omega

/-- A configuration with one part taken from another. -/
def Slot.copy (source config : Config) : Slot → Config
  | .text part => part.set config (part.get source)
  | .boolean part => part.set config (part.get source)
  | .long part => part.set config (part.get source)
  | .word part => part.set config (part.get source)
  | .octets part => part.set config (part.get source)

/-- Whatever a part is, it is read back as it was written. -/
private theorem Slot.read_write (source config : Config) (slot : Slot) {rest : Input}
    (hrest : EndsNumber rest) :
    slot.read config (symbols (slot.write source) ++ rest) =
      .ok (slot.copy source config, rest) := by
  cases slot with
  | text part =>
      have hread : readString (symbols (writeText (part.get source)) ++ rest) =
          .ok (part.get source, rest) := readText_writeText (part.get source) rest
      simp only [Slot.read, Slot.write, hread, bind, Except.bind, Slot.copy]
  | boolean part =>
      have hread := readBoolean_word (part.get source) rest
      simp only [Slot.read, Slot.write, writeBoolean, hread, bind, Except.bind,
        Slot.copy]
  | long part =>
      have hread := readNat_toDigits 64 (by decide)
        (part.get source).toNat_lt hrest
      simp only [Slot.read, Slot.write, hread, bind, Except.bind, Slot.copy,
        UInt64.ofNat_toNat]
  | word part =>
      have hread := readNat_toDigits 32 (by decide)
        (part.get source).toNat_lt hrest
      simp only [Slot.read, Slot.write, hread, bind, Except.bind, Slot.copy,
        UInt32.ofNat_toNat]
  | octets part =>
      have hread := readOctets_writeOctets (part.get source) rest
      simp only [Slot.read, Slot.write, hread, bind, Except.bind, Slot.copy]

def Field.copy (source config : Config) (field : Field) : Config :=
  field.slot.copy source config

/-- Fields are read back one by one, each into what has been read before. -/
private theorem readFields_writeField (source config : Config) (left : List Field)
    (first : Bool) (rest : Input) :
    readFields left first config (symbols
      (listed first (left.map source.writeField)) ++ .char '\x7d' :: rest) =
        .ok (left.foldl (Field.copy source) config, rest) := by
  induction left generalizing config first with
  | nil =>
      change readFields [] first config (.char '\x7d' :: rest) = _
      rw [readFields]
      rfl
  | cons field left ih =>
      let later := symbols (listed false (left.map source.writeField)) ++
        .char '\x7d' :: rest
      let value := symbols (field.slot.write source) ++ later
      have hinput : symbols (listed first
            ((field :: left).map source.writeField)) ++ .char '\x7d' :: rest =
          symbols (comma first ++ writeText field.name) ++
            .char ':' :: value := by
        simp [listed, writeField, later, value]
      have hvalue := field.slot.read_write source config
        (endsNumber_listed (left.map source.writeField) (.inr rfl) rest)
      have hlater := ih (field.copy source config) false
      rw [hinput, readFields, nextKey_writeText]
      simp only [bind, Except.bind, readText_writeText, Field.ofName?_name,
        List.mem_cons_self, dif_pos, readColon_colon]
      simp only [value, later, hvalue, List.erase_cons_head]
      exact hlater

/-- A configuration is what its fields are. -/
private theorem foldl_copy (source config : Config) :
    Field.all.foldl (Field.copy source) config = source := by
  simp only [Field.all, List.foldl_cons, List.foldl_nil, Field.copy,
    Field.slot, Slot.copy]

private theorem read_toJson (config : Config) : read config.toJson = .ok config := by
  have hinput : Json.inputOf config.toJson = .char '\x7b' :: (symbols
      (listed true (Field.all.map config.writeField)) ++ [.char '\x7d']) := by
    change symbols (String.ofList config.write).toList = _
    rw [String.toList_ofList, write, intercalate_eq_listed]
    simp
  have hconfig : readConfig (.char '\x7b' :: (symbols
      (listed true (Field.all.map config.writeField)) ++ [.char '\x7d'])) =
        .ok (config, []) := by
    rw [readConfig, skipBlank_cons (by decide)]
    simp only [readFields_writeField, foldl_copy]
  rw [read, hinput, parse, hconfig]
  rfl

/-- Every configuration, whatever it holds, is read back from its written form as it was, and then
checked: it is accepted, or refused for its first defect. -/
theorem ofJson_toJson (config : Config) :
    ofJson config.toJson =
      match config.defect? with
      | none => .ok config
      | some defect => .error (.invalid defect) := by
  rw [ofJson, read_toJson]
  rfl

end Config

end Roaming
