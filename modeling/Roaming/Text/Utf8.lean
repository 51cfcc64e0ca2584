namespace Roaming.Text

/-! Octets read as UTF-8.  Where a sequence breaks off, the longest part that could still have been
completed counts as one malformed symbol. -/

inductive Symbol
  | char (c : Char)
  | malformed (length : Nat)
deriving DecidableEq

namespace Symbol

/-- The number of octets. -/
def size : Symbol → Nat
  | .char c => c.utf8Size
  | .malformed length => length

def char? : Symbol → Option Char
  | .char c => some c
  | .malformed _ => none

/-- Malformed symbols are replaced. -/
def toChar : Symbol → Char
  | .char c => c
  | .malformed _ => '\ufffd'

end Symbol

/-- A sequence that has begun and the octets that may come next. -/
structure Opened where
  value : Nat
  size : Nat
  missing : Nat
  low : UInt8 := 0x80
  high : UInt8 := 0xbf

def openWith (octet : UInt8) : List Symbol × Option Opened :=
  let value := octet.toNat
  if octet < 0x80 then ([.char (Char.ofNat value)], none)
  else if octet < 0xc2 then ([.malformed 1], none)
  else if octet < 0xe0 then ([], some ⟨value % 32, 1, 1, 0x80, 0xbf⟩)
  else if octet = 0xe0 then ([], some ⟨value % 16, 1, 2, 0xa0, 0xbf⟩)
  else if octet = 0xed then ([], some ⟨value % 16, 1, 2, 0x80, 0x9f⟩)
  else if octet < 0xf0 then ([], some ⟨value % 16, 1, 2, 0x80, 0xbf⟩)
  else if octet = 0xf0 then ([], some ⟨value % 8, 1, 3, 0x90, 0xbf⟩)
  else if octet < 0xf4 then ([], some ⟨value % 8, 1, 3, 0x80, 0xbf⟩)
  else if octet = 0xf4 then ([], some ⟨value % 8, 1, 3, 0x80, 0x8f⟩)
  else ([.malformed 1], none)

def feed (opened : Option Opened) (octet : UInt8) :
    List Symbol × Option Opened :=
  match opened with
  | none => openWith octet
  | some opened =>
      if opened.low ≤ octet && octet ≤ opened.high then
        let value := opened.value * 64 + octet.toNat % 64
        match opened.missing with
        | missing + 2 =>
            ([], some { value, size := opened.size + 1, missing := missing + 1 })
        | _ => ([.char (Char.ofNat value)], none)
      else
        let (symbols, next) := openWith octet
        (.malformed opened.size :: symbols, next)

def decodeFrom : Option Opened → List UInt8 → List Symbol
  | none, [] => []
  | some opened, [] => [.malformed opened.size]
  | opened, octet :: octets =>
      let (symbols, next) := feed opened octet
      symbols ++ decodeFrom next octets

def decode (octets : List UInt8) : List Symbol :=
  decodeFrom none octets

def lossy (octets : List UInt8) : String :=
  String.ofList ((decode octets).map Symbol.toChar)

end Roaming.Text
