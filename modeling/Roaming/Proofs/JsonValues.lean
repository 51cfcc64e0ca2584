import Mathlib.Tactic.SplitIfs
import Roaming.Json.Value

namespace Roaming.Json

/-! Values that are read back as they were written, whatever follows them. -/

open Roaming.Text

/-- Characters, as a reader meets them. -/
def symbols (chars : List Char) : Input :=
  chars.map .char

@[simp] theorem symbols_nil : symbols [] = [] := rfl

@[simp] theorem symbols_cons (c : Char) (chars : List Char) :
    symbols (c :: chars) = .char c :: symbols chars := rfl

@[simp] theorem symbols_append (first second : List Char) :
    symbols (first ++ second) = symbols first ++ symbols second :=
  List.map_append

private theorem mapM_char?_symbols (chars : List Char) :
    (symbols chars).mapM Symbol.char? = some chars := by
  induction chars with
  | nil => rfl
  | cons c chars ih => simp [Symbol.char?, ih]

/-! Strings. -/

private theorem hexDigit?_digitChar {value : Nat} (hvalue : value < 16) :
    hexDigit? (.char (Nat.digitChar value)) = some value := by
  revert hvalue
  revert value
  decide

/-- The four digits of a code unit are read back. -/
private theorem readCodeUnit_hex {value : Nat} (hvalue : value < 65536) (rest : Input) :
    readCodeUnit (symbols (hex 4 value) ++ rest) = .ok (value, rest) := by
  have hdigit (value : Nat) :
      hexDigit? (.char (Nat.digitChar (value % 16))) = some (value % 16) :=
    hexDigit?_digitChar (Nat.mod_lt value (by decide))
  have hfour : fourHexDigits? (symbols (hex 4 value) ++ rest) =
      some (value, rest) := by
    simp only [hex, List.nil_append, List.cons_append, symbols_cons,
      symbols_nil, fourHexDigits?, hdigit, Option.bind_eq_bind,
      Option.bind_some, Option.some.injEq, Prod.mk.injEq, and_true]
    omega
  rw [readCodeUnit, hfour]

private theorem readEscape_hex {c : Char} (hcontrol : c.toNat < 0x20) (rest : Input) :
    readEscape (symbols ('u' :: hex 4 c.toNat) ++ rest) = .ok (c, rest) := by
  have hunit := readCodeUnit_hex (show c.toNat < 65536 by omega) rest
  have hleading : isLeading c.toNat = false := by
    simp only [isLeading]
    grind
  have htrailing : isTrailing c.toNat = false := by
    simp only [isTrailing]
    grind
  have hescape : readEscape (symbols ('u' :: hex 4 c.toNat) ++ rest) =
      readCodePoint (symbols (hex 4 c.toNat) ++ rest) := rfl
  rw [hescape, readCodePoint, hunit]
  simp [bind, Except.bind, hleading, htrailing]

/-- A backslash stands for what its escape means. -/
private theorem readSymbols_escaped {input after rest : Input} {meaning : Char}
    {read : List Symbol}
    (hescape : readEscape input = .ok (meaning, after))
    (hread : readSymbols after = .ok (read, rest)) :
    readSymbols (.char '\\' :: input) = .ok (.char meaning :: read, rest) := by
  rw [readSymbols, if_neg (by decide), if_pos rfl]
  split
  · next fault hfault =>
      cases hfault.symm.trans hescape
  · next other later hother =>
      obtain ⟨rfl, rfl⟩ := Prod.mk.inj (Except.ok.inj (hother.symm.trans hescape))
      rw [hread]
      rfl

/-- How a character stands in a string: as it is, or behind a backslash. -/
inductive Escaped (c : Char) : List Char → Prop
  | plain (hquote : c ≠ '"') (hbackslash : c ≠ '\\')
      (hprinted : ¬c.toNat < 0x20) : Escaped c [c]
  | behind {chars : List Char}
      (hread : ∀ rest, readEscape (symbols chars ++ rest) = .ok (c, rest)) :
      Escaped c ('\\' :: chars)

private theorem escaped_escape (c : Char) : Escaped c (escape c) := by
  unfold escape
  split_ifs with hquote hbackslash hback htab hline hpage hreturn hcontrol
  · exact .behind fun _ => by rw [hquote]; rfl
  · exact .behind fun _ => by rw [hbackslash]; rfl
  · exact .behind fun _ => by rw [hback]; rfl
  · exact .behind fun _ => by rw [htab]; rfl
  · exact .behind fun _ => by rw [hline]; rfl
  · exact .behind fun _ => by rw [hpage]; rfl
  · exact .behind fun _ => by rw [hreturn]; rfl
  · exact .behind (readEscape_hex hcontrol)
  · exact .plain hquote hbackslash hcontrol

private theorem readSymbols_escape (c : Char) {input rest : Input}
    {read : List Symbol} (hread : readSymbols input = .ok (read, rest)) :
    readSymbols (symbols (escape c) ++ input) =
      .ok (.char c :: read, rest) := by
  have hescaped := escaped_escape c
  generalize escape c = chars at hescaped
  cases hescaped with
  | plain hquote hbackslash hprinted =>
      change readSymbols (.char c :: input) = _
      rw [readSymbols, if_neg hquote, if_neg hbackslash, if_neg hprinted,
        hread]
      rfl
  | behind hescape => exact readSymbols_escaped (hescape input) hread

private theorem readSymbols_escapes (chars : List Char) (rest : Input) :
    readSymbols (symbols (chars.flatMap escape ++ ['"']) ++ rest) =
      .ok (symbols chars, rest) := by
  induction chars with
  | nil =>
      change readSymbols (.char '"' :: rest) = _
      rw [readSymbols, if_pos rfl]
      rfl
  | cons c chars ih =>
      rw [List.flatMap_cons, List.append_assoc, symbols_append,
        List.append_assoc]
      exact readSymbols_escape c ih

/-- A string is read back behind its opening quote. -/
theorem readText_writeText (text : String) (rest : Input) :
    readText (symbols (writeText text) ++ rest).tail = .ok (text, rest) := by
  change readText (symbols (text.toList.flatMap escape ++ ['"']) ++ rest) = _
  rw [readText, readSymbols_escapes]
  simp [bind, Except.bind, mapM_char?_symbols]

/-! Numbers. -/

private theorem startsWithDigit_cons (symbol : Symbol) (rest : Input) :
    startsWithDigit (symbol :: rest) = (digit? symbol).isSome := rfl

private theorem digit?_of_isDigit {c : Char} (hdigit : c.isDigit = true) :
    digit? (.char c) = some (c.toNat - '0'.toNat) :=
  if_pos hdigit

private theorem le_ofDigitChars (chars : List Char) (value : Nat) :
    value ≤ Nat.ofDigitChars 10 chars value := by
  rw [Nat.ofDigitChars_eq_ofDigitChars_zero]
  exact Nat.le_add_right_of_le
    (Nat.le_mul_of_pos_left value (Nat.pow_pos (by decide)))

/-- Digits are taken up to their end if their value does not exceed the bound. -/
private theorem accumulate_digits {chars : List Char} (bound value : Nat)
    (hdigits : ∀ c ∈ chars, c.isDigit = true)
    (hbound : Nat.ofDigitChars 10 chars value ≤ bound) (count : Nat)
    {rest : Input} (hrest : startsWithDigit rest = false) :
    accumulate bound value count (symbols chars ++ rest) =
      (Nat.ofDigitChars 10 chars value, count + chars.length, rest) := by
  induction chars generalizing value count with
  | nil =>
      cases rest with
      | nil => rfl
      | cons symbol rest =>
          have hnone : digit? symbol = none := by
            simpa [startsWithDigit_cons] using hrest
          simp [accumulate, hnone]
  | cons c chars ih =>
      obtain ⟨hdigit, hdigits⟩ := List.forall_mem_cons.mp hdigits
      rw [Nat.ofDigitChars_cons, Nat.mul_comm] at hbound ⊢
      have hfits := Nat.le_trans (le_ofDigitChars chars _) hbound
      rw [symbols_cons, List.cons_append, accumulate, digit?_of_isDigit hdigit]
      simp only [if_pos hfits]
      rw [ih _ hdigits hbound, List.length_cons]
      congr 2
      omega

private theorem isDigit_toDigits (value : Nat) :
    ∀ c ∈ Nat.toDigits 10 value, c.isDigit = true := fun _ hc =>
  Nat.isDigit_of_mem_toDigits (by decide) (by decide) hc

/-- Only zero is written with a zero in front. -/
private theorem toDigits_front (value : Nat) :
    ∃ c chars, Nat.toDigits 10 value = c :: chars ∧
      (c = '0' → value = 0 ∧ chars = []) := by
  induction value using Nat.strongRecOn with
  | ind value ih =>
    by_cases hsingle : value < 10
    · have hzero : ∀ value < 10,
          Nat.digitChar value = '0' → value = 0 := by decide
      exact ⟨_, [], Nat.toDigits_of_lt_base hsingle,
        fun hc => ⟨hzero value hsingle hc, rfl⟩⟩
    · obtain ⟨c, chars, hchars, hfront⟩ := ih (value / 10) (by omega)
      refine ⟨c, chars ++ [Nat.digitChar (value % 10)], ?_, fun hc => ?_⟩
      · rw [Nat.toDigits_of_base_le (by decide) (Nat.le_of_not_lt hsingle),
          hchars, List.cons_append]
      · have := (hfront hc).1
        omega

/-- What cannot go on with a number that has just ended. -/
structure EndsNumber (rest : Input) : Prop where
  digit : startsWithDigit rest = false
  fraction : startsFraction rest = false

private theorem readNumber_toDigits {value : Nat} (hvalue : value ≤ mostUnsigned)
    {rest : Input} (hrest : EndsNumber rest) :
    readNumber true (symbols (Nat.toDigits 10 value) ++ rest) =
      .ok (.integer value, rest) := by
  obtain ⟨c, chars, hchars, hfront⟩ := toDigits_front value
  have hdigits := isDigit_toDigits value
  have hread := accumulate_digits mostUnsigned 0 hdigits
    (by rwa [Nat.ofDigitChars_ten_toDigits]) 0 hrest.digit
  rw [Nat.ofDigitChars_ten_toDigits] at hread
  have hstarts : startsWithDigit (.char c :: (symbols chars ++ rest)) = true := by
    rw [startsWithDigit_cons, digit?_of_isDigit (hdigits c (by simp [hchars]))]
    rfl
  rw [hchars] at hread ⊢
  rw [symbols_cons, List.cons_append] at hread ⊢
  unfold readNumber
  rw [hstarts, hread]
  by_cases hzero : c = '0'
  · obtain ⟨rfl, rfl⟩ := hfront hzero
    simp [hzero, hrest.digit, hrest.fraction, whole]
  · simp [hzero, hrest.digit, hrest.fraction, whole]

theorem skipBlank_cons {symbol : Symbol} (hprinted : isBlank symbol = false)
    (rest : Input) : skipBlank (symbol :: rest) = symbol :: rest :=
  List.dropWhile_cons_of_neg (by simp [hprinted])

private theorem isBlank_of_isDigit {c : Char} (hdigit : c.isDigit = true) :
    isBlank (.char c) = false := by
  simp only [isBlank, Bool.or_eq_false_iff, beq_eq_false_iff_ne]
  refine ⟨⟨⟨?_, ?_⟩, ?_⟩, ?_⟩ <;> rintro rfl <;> cases hdigit

private theorem toNat_integer {bits value : Nat} (hvalue : value < Nat.pow 2 bits) :
    (Number.integer value).toNat bits = .ok value :=
  if_pos hvalue

/-- A number is read back if it has no more bits than are asked for, and nothing follows that could
be part of it. -/
theorem readNat_toDigits (bits : Nat) {value : Nat} (hbits : bits ≤ 64)
    (hvalue : value < Nat.pow 2 bits) {rest : Input}
    (hrest : EndsNumber rest) :
    readNat bits (symbols (Nat.toDigits 10 value) ++ rest) =
      .ok (value, rest) := by
  have hmost : value ≤ mostUnsigned :=
    Nat.le_pred_of_lt (Nat.lt_of_lt_of_le hvalue
      (Nat.pow_le_pow_right (by decide) hbits))
  have hread := readNumber_toDigits hmost hrest
  obtain ⟨c, chars, hchars, _⟩ := toDigits_front value
  have hdigit := isDigit_toDigits value c (by simp [hchars])
  rw [hchars, symbols_cons, List.cons_append] at hread ⊢
  unfold readNat
  rw [skipBlank_cons (isBlank_of_isDigit hdigit)]
  split
  · next hminus =>
      obtain rfl := Symbol.char.inj (List.cons.inj hminus).1
      cases hdigit
  · rw [startsWithDigit_cons, digit?_of_isDigit hdigit, hread]
    simp only [bind, Except.bind, toNat_integer hvalue]
    rfl

/-! Lists of octets and truth values. -/

/-- The comma in front of every item but the first. -/
def comma (first : Bool) : List Char :=
  if first then [] else [',']

def listed (first : Bool) : List (List Char) → List Char
  | [] => []
  | item :: items => comma first ++ item ++ listed false items

theorem intercalate_eq_listed (items : List (List Char)) :
    [','].intercalate items = listed true items := by
  have hlater (item : List Char) (items : List (List Char)) :
      [','].intercalate (item :: items) = item ++ listed false items := by
    induction items generalizing item with
    | nil => simp [List.intercalate, listed]
    | cons next items ih =>
        have hnext := ih next
        simp only [List.intercalate] at hnext ⊢
        simp [listed, comma, hnext]
  cases items with
  | nil => rfl
  | cons item items => exact hlater item items

private theorem nextElement_comma (first : Bool) {c : Char} {rest : Input}
    (hprinted : isBlank (.char c) = false) (hopen : c ≠ ']') :
    nextElement first (symbols (comma first) ++ .char c :: rest) =
      .ok (.item (.char c :: rest)) := by
  have hskip := skipBlank_cons hprinted rest
  cases first with
  | true =>
      change nextElement true (.char c :: rest) = _
      simp [nextElement, hskip, hopen]
  | false =>
      change nextElement false (.char ',' :: .char c :: rest) = _
      have hblank : isBlank (.char ',') = false := rfl
      have hcomma := skipBlank_cons hblank (.char c :: rest)
      simp [nextElement, hcomma, hskip, hopen]

private theorem nextElement_closed (first : Bool) (rest : Input) :
    nextElement first (.char ']' :: rest) = .ok (.ended rest) := by
  simp [nextElement, skipBlank, isBlank]

private theorem nextElement_toDigits (first : Bool) (value : Nat) (rest : Input) :
    nextElement first
      (symbols (comma first ++ Nat.toDigits 10 value) ++ rest) =
        .ok (.item (symbols (Nat.toDigits 10 value) ++ rest)) := by
  obtain ⟨c, chars, hchars, _⟩ := toDigits_front value
  have hdigit := isDigit_toDigits value c (by simp [hchars])
  rw [hchars, symbols_append, List.append_assoc]
  refine nextElement_comma first (isBlank_of_isDigit hdigit) ?_
  rintro rfl
  cases hdigit

def decimals (values : List UInt8) : List (List Char) :=
  values.map fun value => Nat.toDigits 10 value.toNat

theorem endsNumber_listed (items : List (List Char)) {c : Char}
    (hclosed : c = ']' ∨ c = '\x7d') (rest : Input) :
    EndsNumber (symbols (listed false items) ++ .char c :: rest) := by
  cases items with
  | nil => rcases hclosed with rfl | rfl <;> exact ⟨rfl, rfl⟩
  | cons item items => exact ⟨rfl, rfl⟩

theorem readElements_decimals {values : List UInt8} {fuel : Nat}
    (hfuel : values.length < fuel) (first : Bool) (rest : Input) :
    readElements fuel first
      (symbols (listed first (decimals values)) ++ .char ']' :: rest) =
        .ok (values, rest) := by
  induction values generalizing fuel first with
  | nil =>
      obtain ⟨fuel, rfl⟩ := Nat.exists_eq_succ_of_ne_zero
        (Nat.ne_zero_of_lt hfuel)
      change readElements (fuel + 1) first (.char ']' :: rest) = _
      rw [readElements, nextElement_closed]
      rfl
  | cons value values ih =>
      obtain ⟨fuel, rfl⟩ := Nat.exists_eq_succ_of_ne_zero
        (Nat.ne_zero_of_lt hfuel)
      have hread := readNat_toDigits 8 (by decide) value.toNat_lt
        (endsNumber_listed (decimals values) (.inl rfl) rest)
      have hrest := ih (Nat.lt_of_succ_lt_succ hfuel) false
      change readElements (fuel + 1) first (symbols (comma first ++
        Nat.toDigits 10 value.toNat ++ listed false (decimals values)) ++ _) = _
      rw [symbols_append, List.append_assoc, readElements,
        nextElement_toDigits]
      simp only [bind, Except.bind, hread, hrest, UInt8.ofNat_toNat]

theorem length_le_listed (values : List UInt8) (first : Bool) :
    values.length ≤ (listed first (decimals values)).length := by
  induction values generalizing first with
  | nil => exact Nat.le_refl 0
  | cons value values ih =>
      have hrest := ih false
      have hsome := Nat.length_toDigits_pos (b := 10) (n := value.toNat)
      simp only [decimals, List.map_cons, listed, List.length_append,
        List.length_cons] at hrest ⊢
      omega

theorem readBoolean_word (value : Bool) (rest : Input) :
    readBoolean (symbols (if value then "true" else "false").toList ++ rest) =
      .ok (value, rest) := by
  cases value <;> rfl

end Roaming.Json
