import Roaming.Json.Number

namespace Roaming.Json

/-! Reading a value of a known type. -/

open Roaming.Text

/-- Reads the rest of a word that its first letter announces. -/
def readWord : List Char → Input → Except Fault Input
  | [], input => .ok input
  | _ :: _, [] => .error .truncated
  | letter :: letters, symbol :: rest =>
      if symbol = .char letter then readWord letters rest
      else .error .malformed

/-- What kind of value the input starts with.  Words, numbers and strings are read to their end,
so that faults inside them come first. -/
def readFound (input : Input) : Except Fault Found :=
  match input with
  | [] => .error .truncated
  | .malformed _ :: _ => .error .malformed
  | .char c :: rest =>
      if c = 'n' then do
        let _ ← readWord ['u', 'l', 'l'] rest
        .ok .null
      else if c = 't' then do
        let _ ← readWord ['r', 'u', 'e'] rest
        .ok (.boolean true)
      else if c = 'f' then do
        let _ ← readWord ['a', 'l', 's', 'e'] rest
        .ok (.boolean false)
      else if c = '-' then do
        let (number, _) ← readNumber false rest
        .ok number.found
      else if c.isDigit then do
        let (number, _) ← readNumber true input
        .ok number.found
      else if c = '"' then do
        let (text, _) ← readText rest
        .ok (.text text)
      else if c = '[' then .ok .sequence
      else if c = '\x7b' then .ok .map
      else .error .malformed

def mismatch (expected : Expected) (input : Input) : Fault :=
  match readFound input with
  | .ok found => .wrongType found expected
  | .error fault => fault

def readString (input : Input) : Except Fault (String × Input) :=
  match skipBlank input with
  | .char '"' :: rest => readText rest
  | input => .error (mismatch .text input)

def readBoolean (input : Input) : Except Fault (Bool × Input) :=
  match skipBlank input with
  | .char 't' :: rest => do
      let rest ← readWord ['r', 'u', 'e'] rest
      .ok (true, rest)
  | .char 'f' :: rest => do
      let rest ← readWord ['a', 'l', 's', 'e'] rest
      .ok (false, rest)
  | input => .error (mismatch .boolean input)

/-- The natural number meant, if it has no more than `bits` bits. -/
def Number.toNat (bits : Nat) : Number → Except Fault Nat
  | .integer (.ofNat value) =>
      if value < Nat.pow 2 bits then .ok value
      else .error (.outOfRange value (.word bits))
  | .integer value => .error (.outOfRange value (.word bits))
  | .float x => .error (.wrongType (.float x) (.word bits))

def readNat (bits : Nat) (input : Input) : Except Fault (Nat × Input) :=
  match skipBlank input with
  | .char '-' :: rest => do
      let (number, rest) ← readNumber false rest
      let value ← number.toNat bits
      .ok (value, rest)
  | input =>
      if startsWithDigit input then do
        let (number, rest) ← readNumber true input
        let value ← number.toNat bits
        .ok (value, rest)
      else .error (mismatch (.word bits) input)

/-- Where an element or a key begins, or what follows the end. -/
inductive Next
  | item (input : Input)
  | ended (rest : Input)

/-- Steps to the next element of a sequence, over a comma unless it is the first. -/
def nextElement (first : Bool) (input : Input) : Except Fault Next :=
  match skipBlank input with
  | [] => .error .truncated
  | .char ']' :: rest => .ok (.ended rest)
  | symbol :: rest =>
      if first then .ok (.item (symbol :: rest))
      else if symbol = .char ',' then
        match skipBlank rest with
        | [] => .error .truncated
        | .char ']' :: _ => .error .malformed
        | rest => .ok (.item rest)
      else .error .malformed

/-- Reads octets up to the closing bracket, at most as many as `fuel` allows. -/
def readElements : (fuel : Nat) → (first : Bool) → Input →
    Except Fault (List UInt8 × Input)
  | 0, _, _ => .error .malformed
  | fuel + 1, first, input => do
      match ← nextElement first input with
      | .ended rest => .ok ([], rest)
      | .item input =>
          let (value, rest) ← readNat 8 input
          let (values, rest) ← readElements fuel false rest
          .ok (UInt8.ofNat value :: values, rest)

/-- Every octet takes up at least one symbol. -/
def readOctets (input : Input) : Except Fault (List UInt8 × Input) :=
  match skipBlank input with
  | .char '[' :: rest => readElements (rest.length + 1) true rest
  | input => .error (mismatch .sequence input)

/-- Steps to the next key of an object, behind its opening quote. -/
def nextKey (first : Bool) (input : Input) : Except Fault Next :=
  match skipBlank input with
  | [] => .error .truncated
  | .char '\x7d' :: rest => .ok (.ended rest)
  | .char '"' :: rest => if first then .ok (.item rest) else .error .malformed
  | .char ',' :: rest =>
      if first then .error .malformed
      else match skipBlank rest with
        | [] => .error .truncated
        | .char '"' :: rest => .ok (.item rest)
        | _ => .error .malformed
  | _ => .error .malformed

def readColon (input : Input) : Except Fault Input :=
  match skipBlank input with
  | [] => .error .truncated
  | .char ':' :: rest => .ok rest
  | _ => .error .malformed

end Roaming.Json
