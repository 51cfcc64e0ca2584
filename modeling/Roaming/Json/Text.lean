import Roaming.Json.Fault
import Roaming.Text.Utf8

namespace Roaming.Json

/-! JSON strings, written with as few escapes as possible and read with all of them. -/

open Roaming.Text

abbrev Input := List Symbol

def inputOf (text : String) : Input :=
  text.toList.map .char

def isBlank : Symbol → Bool
  | .char c => c == ' ' || c == '\n' || c == '\t' || c == '\r'
  | .malformed _ => false

def skipBlank (input : Input) : Input :=
  input.dropWhile isBlank

/-! Writing. -/

def escape (c : Char) : List Char :=
  if c = '"' then ['\\', '"']
  else if c = '\\' then ['\\', '\\']
  else if c = '\x08' then ['\\', 'b']
  else if c = '\t' then ['\\', 't']
  else if c = '\n' then ['\\', 'n']
  else if c = '\x0c' then ['\\', 'f']
  else if c = '\r' then ['\\', 'r']
  else if c.toNat < 0x20 then '\\' :: 'u' :: hex 4 c.toNat
  else [c]

def writeText (text : String) : List Char :=
  '"' :: text.toList.flatMap escape ++ ['"']

/-! Reading. -/

def hexValue? (c : Char) : Option Nat :=
  if '0' ≤ c && c ≤ '9' then some (c.toNat - '0'.toNat)
  else if 'a' ≤ c && c ≤ 'f' then some (c.toNat - 'a'.toNat + 10)
  else if 'A' ≤ c && c ≤ 'F' then some (c.toNat - 'A'.toNat + 10)
  else none

def hexDigit? : Symbol → Option Nat
  | .char c => hexValue? c
  | .malformed _ => none

def fourHexDigits? : Input → Option (Nat × Input)
  | a :: b :: c :: d :: rest => do
      let a ← hexDigit? a
      let b ← hexDigit? b
      let c ← hexDigit? c
      let d ← hexDigit? d
      some (((a * 16 + b) * 16 + c) * 16 + d, rest)
  | _ => none

/-- Fewer than four octets cannot hold the digits of a code unit. -/
def readCodeUnit (input : Input) : Except Fault (Nat × Input) :=
  match fourHexDigits? input with
  | some unit => .ok unit
  | none =>
      if ((input.take 4).map Symbol.size).foldl (· + ·) 0 < 4 then .error .truncated
      else .error .malformed

def isLeading (unit : Nat) : Bool := 0xd800 ≤ unit && unit ≤ 0xdbff

def isTrailing (unit : Nat) : Bool := 0xdc00 ≤ unit && unit ≤ 0xdfff

def pairedValue (leading trailing : Nat) : Nat :=
  0x10000 + (leading - 0xd800) * 0x400 + (trailing - 0xdc00)

def readTrailing (leading : Nat) : Input → Except Fault (Char × Input)
  | [] => .error .truncated
  | [.char '\\'] => .error .truncated
  | .char '\\' :: .char 'u' :: rest => do
      let (unit, rest) ← readCodeUnit rest
      if isTrailing unit then .ok (Char.ofNat (pairedValue leading unit), rest)
      else .error .malformed
  | _ => .error .malformed

/-- A leading surrogate needs a trailing one behind it. -/
def readCodePoint (input : Input) : Except Fault (Char × Input) := do
  let (unit, rest) ← readCodeUnit input
  if isTrailing unit then .error .malformed
  else if isLeading unit then readTrailing unit rest
  else .ok (Char.ofNat unit, rest)

def unescape? (c : Char) : Option Char :=
  if c = '"' || c = '\\' || c = '/' then some c
  else if c = 'b' then some '\x08'
  else if c = 'f' then some '\x0c'
  else if c = 'n' then some '\n'
  else if c = 'r' then some '\r'
  else if c = 't' then some '\t'
  else none

def readEscape : Input → Except Fault (Char × Input)
  | [] => .error .truncated
  | .malformed _ :: _ => .error .malformed
  | .char c :: rest =>
      match unescape? c with
      | some meaning => .ok (meaning, rest)
      | none => if c = 'u' then readCodePoint rest else .error .malformed

private theorem fourHexDigits?_length {input rest : Input} {unit : Nat}
    (h : fourHexDigits? input = some (unit, rest)) :
    rest.length < input.length := by
  match input, h with
  | a :: b :: c :: d :: tail, h =>
      simp only [fourHexDigits?, Option.bind_eq_bind,
        Option.bind_eq_some_iff, Option.some.injEq, Prod.mk.injEq] at h
      obtain ⟨_, _, _, _, _, _, _, _, _, rfl⟩ := h
      simp only [List.length_cons]
      omega

private theorem readCodeUnit_length {input rest : Input} {unit : Nat}
    (h : readCodeUnit input = .ok (unit, rest)) :
    rest.length < input.length := by
  unfold readCodeUnit at h
  split at h
  · next found =>
      cases h
      exact fourHexDigits?_length found
  · split at h <;> cases h

private theorem readTrailing_length {input rest : Input} {leading : Nat} {c : Char}
    (h : readTrailing leading input = .ok (c, rest)) :
    rest.length < input.length := by
  unfold readTrailing at h
  split at h
  · cases h
  · cases h
  · next tail =>
      cases found : readCodeUnit tail with
      | error fault => simp [found, bind, Except.bind] at h
      | ok result =>
          obtain ⟨unit, after⟩ := result
          have shorter := readCodeUnit_length found
          simp only [found, bind, Except.bind] at h
          split at h
          · simp only [Except.ok.injEq, Prod.mk.injEq] at h
            obtain ⟨_, rfl⟩ := h
            simp only [List.length_cons]
            omega
          · cases h
  · cases h

private theorem readCodePoint_length {input rest : Input} {c : Char}
    (h : readCodePoint input = .ok (c, rest)) :
    rest.length < input.length := by
  unfold readCodePoint at h
  cases found : readCodeUnit input with
  | error fault => simp [found, bind, Except.bind] at h
  | ok result =>
      obtain ⟨unit, after⟩ := result
      have shorter := readCodeUnit_length found
      simp only [found, bind, Except.bind] at h
      split at h
      · cases h
      · split at h
        · have := readTrailing_length h
          omega
        · simp only [Except.ok.injEq, Prod.mk.injEq] at h
          obtain ⟨_, rfl⟩ := h
          exact shorter

theorem readEscape_length {input rest : Input} {c : Char}
    (h : readEscape input = .ok (c, rest)) : rest.length < input.length := by
  unfold readEscape at h
  split at h
  · cases h
  · cases h
  · split at h
    · cases h
      simp
    · split at h
      · have := readCodePoint_length h
        simp only [List.length_cons]
        omega
      · cases h

/-- The symbols up to the closing quote. -/
def readSymbols : Input → Except Fault (List Symbol × Input)
  | [] => .error .truncated
  | .malformed size :: rest => do
      let (symbols, rest) ← readSymbols rest
      .ok (.malformed size :: symbols, rest)
  | .char c :: rest =>
      if c = '"' then .ok ([], rest)
      else if c = '\\' then
        match found : readEscape rest with
        | .error fault => .error fault
        | .ok (meaning, after) => do
            have : after.length < rest.length := readEscape_length found
            let (symbols, after) ← readSymbols after
            .ok (.char meaning :: symbols, after)
      else if c.toNat < 0x20 then .error .malformed
      else do
        let (symbols, rest) ← readSymbols rest
        .ok (.char c :: symbols, rest)
termination_by input => input.length

/-- Reads a string behind its opening quote. -/
def readText (input : Input) : Except Fault (String × Input) := do
  let (symbols, rest) ← readSymbols input
  match symbols.mapM Symbol.char? with
  | some chars => .ok (String.ofList chars, rest)
  | none => .error .malformed

end Roaming.Json
