import Mathlib.Data.Prod.Lex
import Mathlib.Order.Compare
import Roaming.Link.Sap

namespace Roaming

/-! The order of signals, among which are infinite ones and some that are no numbers, and what a
candidate makes of the ranking that it is held against. -/

namespace Ranking

open Float.Model in
/-- Where a number stands among all numbers: by its kind, and then by exponent and mantissa. -/
def place? : UnpackedFloat → Option (Int ×ₗ Int ×ₗ Int)
  | .notANumber => none
  | .infinity .negative => some (toLex (-2, toLex (0, 0)))
  | .finite .negative mantissa exponent _ =>
      some (toLex (-1, toLex (-exponent, -mantissa)))
  | .zero _ => some (toLex (0, toLex (0, 0)))
  | .finite .positive mantissa exponent _ =>
      some (toLex (1, toLex (exponent, mantissa)))
  | .infinity .positive => some (toLex (2, toLex (0, 0)))

open Float.Model in
theorem unpacked_lt_iff (first second : UnpackedFloat) :
    first.lt second = true ↔
      ∃ low ∈ place? first, ∃ high ∈ place? second, low < high := by
  have hsigns : compare UnpackedFloat.Sign.negative .positive = .lt := rfl
  -- Two numbers of one sign compare by exponent and mantissa, all others by their kinds.
  rcases first with (_ | _) | _ | _ | ⟨_ | _, _, _, _⟩ <;>
    rcases second with (_ | _) | _ | _ | ⟨_ | _, _, _, _⟩ <;>
    dsimp only [place?, UnpackedFloat.lt, UnpackedFloat.compare] <;>
    simp [hsigns, Prod.Lex.toLex_lt_toLex, Ordering.then_eq_lt,
      Ordering.then_eq_gt, compare_lt_iff_lt, compare_gt_iff_gt]

section Order

variable {first second third : Float}

theorem lt_iff : first < second ↔
    ∃ low ∈ place? first.toModel.unpack, ∃ high ∈ place? second.toModel.unpack,
      low < high := by
  rw [← unpacked_lt_iff]
  exact decide_eq_true_iff

/-- This holds of every value, also of one that is not a number. -/
private theorem not_lt_self (signal : Float) : ¬signal < signal := by
  rw [lt_iff]
  rintro ⟨low, hlow, high, hhigh, hless⟩
  obtain rfl := Option.mem_unique hlow hhigh
  exact lt_irrefl low hless

theorem lt_trans (hfirst : first < second) (hsecond : second < third) :
    first < third := by
  obtain ⟨low, hlow, middle, hmiddle, hless⟩ := lt_iff.mp hfirst
  obtain ⟨same, hsame, high, hhigh, hmore⟩ := lt_iff.mp hsecond
  obtain rfl := Option.mem_unique hmiddle hsame
  exact lt_iff.mpr ⟨low, hlow, high, hhigh, hless.trans hmore⟩

theorem isNaN_of_lt (hless : first < second) : second.isNaN = false := by
  obtain ⟨_, _, high, hhigh, _⟩ := lt_iff.mp hless
  change second.toModel.unpack.isNaN = false
  cases hunpacked : second.toModel.unpack with
  | notANumber =>
      rw [hunpacked] at hhigh
      cases hhigh
  | infinity | zero | finite => rfl

private theorem lowest_le_place {value : Float.Model.UnpackedFloat}
    {place : Int ×ₗ Int ×ₗ Int} (hplace : place ∈ place? value) :
    toLex (-2, toLex (0, 0)) ≤ place := by
  cases value with
  | notANumber => cases hplace
  | zero =>
      obtain rfl := Option.some.inj hplace
      simp [Prod.Lex.toLex_le_toLex]
  | infinity sign | finite sign =>
      cases sign <;> obtain rfl := Option.some.inj hplace <;>
        simp [Prod.Lex.toLex_le_toLex]

theorem not_lt_lowestSignal : ¬first < lowestSignal := by
  have hlowest : lowestSignal.toModel.unpack = .infinity .negative := rfl
  rw [lt_iff, hlowest]
  rintro ⟨low, hlow, high, hhigh, hless⟩
  obtain rfl := Option.some.inj hhigh
  exact absurd hless (not_lt_of_ge (lowest_le_place hlow))

end Order

theorem toNat_successor (count : UInt32) :
    (successor count).toNat = min (count.toNat + 1) mostStations.toNat := by
  have hmost : mostStations.toNat = 4294967295 := rfl
  have hbound := count.toNat_lt
  unfold successor
  split
  · next hless =>
      rw [UInt32.lt_iff_toNat_lt] at hless
      rw [UInt32.toNat_add, UInt32.toNat_one]
      omega
  · next hmore =>
      rw [UInt32.lt_iff_toNat_lt] at hmore
      omega

def takes (ranking : Ranking) (detected : DetectedLink) : Bool :=
  ranking.improves detected.signal detected.stations

/-- What a detected link makes of the ranking that it is held against. -/
def judge (ranking : Ranking) (detected : DetectedLink) : Ranking :=
  (ranking.accept detected.signal detected.stations).2

section Judge

variable {ranking : Ranking} {detected : DetectedLink}

theorem judge_of_takes (htakes : ranking.takes detected = true) :
    ranking.judge detected =
      ⟨detected.signal, successor detected.stations⟩ :=
  congrArg Prod.snd (if_pos htakes)

theorem judge_of_not_takes (htakes : ranking.takes detected = false) :
    ranking.judge detected = ranking :=
  congrArg Prod.snd (if_neg (Bool.not_eq_true _ ▸ htakes))

/-- A candidate that is taken beats the best one so far, and so it never leaves the record as it
was. -/
theorem judge_ne_iff :
    ranking.judge detected ≠ ranking ↔ ranking.takes detected = true := by
  cases htakes : ranking.takes detected with
  | false => simp [judge_of_not_takes htakes]
  | true =>
      simp only [iff_true]
      rw [judge_of_takes htakes]
      rintro rfl
      have hless := (Bool.and_eq_true_iff.mp htakes).1
      exact not_lt_self detected.signal (of_decide_eq_true hless)

end Judge

end Ranking

private theorem Sap.ranking_publish (sap : Sap) (event : LinkEvent) :
    (sap.publish event).ranking? = sap.ranking? := by
  unfold publish
  split <;> rfl

theorem Sap.ranking_detect (sap : Sap) (source : MihfId)
    (detected : DetectedLink) :
    (sap.detect source detected).2.ranking? =
      sap.ranking?.map fun ranking => ranking.judge detected := by
  unfold detect
  cases hmedium : sap.medium with
  | wifi ranking =>
      simp only [ranking_publish]
      simp [ranking?, hmedium, Ranking.judge]
  | ethernet => simp [ranking?, hmedium]

end Roaming
