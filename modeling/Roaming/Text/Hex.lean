namespace Roaming.Text

/-! Numbers in hexadecimal, with lower-case digits. -/

/-- The lowest `width` digits, the highest of them first. -/
def hex : (width : Nat) → (value : Nat) → List Char
  | 0, _ => []
  | width + 1, value =>
      hex width (value / 16) ++ [Nat.digitChar (value % 16)]

@[simp] theorem length_hex (width value : Nat) :
    (hex width value).length = width := by
  induction width generalizing value with
  | zero => rfl
  | succ width ih => simp [hex, ih]

/-- The digits without leading zeros; at least one. -/
def shortestHex (value : Nat) : List Char :=
  Nat.toDigits 16 value

end Roaming.Text
