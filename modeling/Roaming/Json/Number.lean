import Roaming.Json.Text

namespace Roaming.Json

/-! JSON numbers.  Whole numbers of up to 64 bits are kept as they are; all others become binary
fractions. -/

open Roaming.Text

inductive Number
  | integer (value : Int)
  | float (value : Float)
deriving DecidableEq

def Number.found : Number → Found
  | .integer value => .integer value
  | .float value => .float value

def mostUnsigned : Nat := Nat.pow 2 64 - 1

/-- The size of the least negative integer. -/
def mostNegative : Nat := Nat.pow 2 63

def mostExponent : Nat := Nat.pow 2 31 - 1

def digit? : Symbol → Option Nat
  | .char c => if c.isDigit then some (c.toNat - '0'.toNat) else none
  | .malformed _ => none

def startsWithDigit (input : Input) : Bool :=
  (input.head?.bind digit?).isSome

def startsWithExponent : Input → Bool
  | .char c :: _ => c == 'e' || c == 'E'
  | _ => false

/-- Takes up digits, and counts them, as long as the value stays within the bound. -/
def accumulate (bound : Nat) : (value count : Nat) → Input → Nat × Nat × Input
  | value, count, [] => (value, count, [])
  | value, count, symbol :: rest =>
      match digit? symbol with
      | none => (value, count, symbol :: rest)
      | some digit =>
          if value * 10 + digit ≤ bound then
            accumulate bound (value * 10 + digit) (count + 1) rest
          else (value, count, symbol :: rest)

def skipDigits : (count : Nat) → Input → Nat × Input
  | count, [] => (count, [])
  | count, symbol :: rest =>
      match digit? symbol with
      | none => (count, symbol :: rest)
      | some _ => skipDigits (count + 1) rest

def powerOfTen (exponent : Nat) : Float :=
  Float.ofScientific 1 false exponent

/-- Divides by a power of ten in steps that are representable. -/
def divide (x : Float) (exponent : Nat) : Float :=
  if exponent ≤ 308 then x / powerOfTen exponent
  else if x == 0 then x
  else divide (x / powerOfTen 308) (exponent - 308)
termination_by exponent

def negateUnless (positive : Bool) (x : Float) : Float :=
  if positive then x else -x

/-- Numbers beyond the largest fraction are refused. -/
def scale (positive : Bool) (significand : Nat) (exponent : Int) :
    Except Fault Float :=
  let x := Float.ofNat significand
  match exponent with
  | .negSucc count => .ok (negateUnless positive (divide x (count + 1)))
  | .ofNat count =>
      if count ≤ 308 then
        let scaled := x * powerOfTen count
        if scaled.isInf then .error .malformed
        else .ok (negateUnless positive scaled)
      else if x == 0 then .ok (negateUnless positive x)
      else .error .malformed

/-- Reads the digits of an exponent; one that is too large is no number unless the value is zero
all the same. -/
def readExponentDigits (positive : Bool) (significand : Nat) (exponent : Int)
    (up : Bool) (input : Input) : Except Fault (Float × Input) :=
  if input.isEmpty then .error .truncated
  else if !startsWithDigit input then .error .malformed
  else
    let (power, _, rest) := accumulate mostExponent 0 0 input
    if startsWithDigit rest then
      if significand != 0 && up then .error .malformed
      else .ok (negateUnless positive 0, (skipDigits 0 rest).2)
    else do
      let x ← scale positive significand
        (if up then exponent + power else exponent - power)
      .ok (x, rest)

/-- Reads an exponent behind its letter. -/
def readExponent (positive : Bool) (significand : Nat) (exponent : Int) :
    Input → Except Fault (Float × Input)
  | .char '+' :: rest =>
      readExponentDigits positive significand exponent true rest
  | .char '-' :: rest =>
      readExponentDigits positive significand exponent false rest
  | input => readExponentDigits positive significand exponent true input

def readScale (positive : Bool) (significand : Nat) (exponent : Int)
    (input : Input) : Except Fault (Float × Input) :=
  if startsWithExponent input then
    readExponent positive significand exponent input.tail
  else do
    let x ← scale positive significand exponent
    .ok (x, input)

/-- Reads decimal places behind the point.  Places that no longer fit are ignored. -/
def readPlaces (positive : Bool) (significand : Nat) (exponent : Int)
    (input : Input) : Except Fault (Float × Input) :=
  let (significand, count, rest) := accumulate mostUnsigned significand 0 input
  if startsWithDigit rest then
    readScale positive significand (exponent - count) (skipDigits 0 rest).2
  else if count = 0 then
    if rest.isEmpty then .error .truncated else .error .malformed
  else readScale positive significand (exponent - count) rest

def readFraction (positive : Bool) (significand : Nat) (exponent : Int) :
    Input → Except Fault (Float × Input)
  | .char '.' :: rest => readPlaces positive significand exponent rest
  | input => readScale positive significand exponent input

def startsFraction : Input → Bool
  | .char '.' :: _ => true
  | input => startsWithExponent input

/-- A whole number, or a fraction if it is a negative zero or too far below. -/
def whole (positive : Bool) (significand : Nat) : Number :=
  if positive then .integer significand
  else if significand = 0 ∨ mostNegative < significand then
    .float (-Float.ofNat significand)
  else .integer (-significand)

def readFloat (positive : Bool) (significand : Nat) (exponent : Int)
    (input : Input) : Except Fault (Number × Input) := do
  let (x, rest) ← readFraction positive significand exponent input
  .ok (.float x, rest)

/-- Reads a number behind its sign. -/
def readNumber (positive : Bool) (input : Input) : Except Fault (Number × Input) :=
  if input.isEmpty then .error .truncated
  else if !startsWithDigit input then .error .malformed
  else
    let (significand, rest) :=
      if input.head? = some (.char '0') then (0, input.tail)
      else
        let (significand, _, rest) := accumulate mostUnsigned 0 0 input
        (significand, rest)
    if startsWithDigit rest then
      if significand = 0 then .error .malformed
      else
        let (count, rest) := skipDigits 0 rest
        readFloat positive significand count rest
    else if startsFraction rest then readFloat positive significand 0 rest
    else .ok (whole positive significand, rest)

end Roaming.Json
