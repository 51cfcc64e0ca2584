import Roaming.Decimal.Shortest

namespace Roaming.Decimal

/-! The text of a finite number: positional with at least one place, or with an exponent if that
lies outside the bounds. -/

structure Layout where
  leastPositional : Int
  mostPositional : Int

/-- The first digit of a positional number lies between the fifth place and the sixteenth digit. -/
def Layout.usual : Layout := ⟨-5, 15⟩

def withPoint (whole places : List Char) : List Char :=
  whole ++ '.' :: (if places.isEmpty then ['0'] else places)

def positional (digits : List Char) (exponent : Int) : List Char :=
  match exponent with
  | .ofNat count =>
      let whole := digits.take (count + 1)
      withPoint (whole ++ List.replicate (count + 1 - whole.length) '0')
        (digits.drop (count + 1))
  | .negSucc count => withPoint ['0'] (List.replicate count '0' ++ digits)

def signed (exponent : Int) : List Char :=
  (if exponent < 0 then '-' else '+') :: Nat.toDigits 10 exponent.natAbs

def scientific (digits : List Char) (exponent : Int) : List Char :=
  let mantissa := match digits with
    | [] => []
    | [digit] => [digit]
    | digit :: places => digit :: '.' :: places
  mantissa ++ 'e' :: signed exponent

def Layout.magnitude (layout : Layout) (x : Float) : List Char :=
  let numeral := shortest x
  let digits := Nat.toDigits 10 numeral.digits
  let exponent := numeral.exponent + digits.length - 1
  if layout.leastPositional ≤ exponent ∧ exponent ≤ layout.mostPositional then
    positional digits exponent
  else scientific digits exponent

def Layout.text (layout : Layout) (x : Float) : String :=
  let sign := if x.toBits.toNat / Nat.pow 2 63 % 2 = 1 then ['-'] else []
  let magnitude :=
    if x.toBits.toNat % Nat.pow 2 63 = 0 then ['0', '.', '0'] else layout.magnitude x
  String.ofList (sign ++ magnitude)

end Roaming.Decimal
