import Roaming.Frame.Measurement
import Roaming.Proofs.Histories

namespace Roaming

/-! The measurements of a frame are kept in one list, and yet are found as if each kind had a place
of its own. -/

namespace Measurements

inductive Call
  /-- Be it to the list itself or to a copy of it. -/
  | add (measurement : Measurement)
  | peek (kind : Measurement.Kind)
  | remove (kind : Measurement.Kind)

namespace Call

def kind : Call → Measurement.Kind
  | .add measurement => measurement.kind
  | .peek kind | .remove kind => kind

/-- What the place of a kind comes to, if it is a call for this kind. -/
def fill (held : Option Measurement) : Call → Option Measurement
  | .add measurement => some measurement
  | .peek _ => held
  | .remove _ => none

/-- Whether a call takes away what has been added of a kind before. -/
def clears (kind : Measurement.Kind) : Call → Bool
  | .add measurement => decide (measurement.kind = kind)
  | .peek _ => false
  | .remove removed => decide (removed = kind)

theorem fill_eq_some {held : Option Measurement} {measurement : Measurement}
    (call : Call) (kind : Measurement.Kind) :
    (if call.kind = kind then call.fill held else held) = some measurement ↔
      call = .add measurement ∧ measurement.kind = kind ∨
        held = some measurement ∧ call.clears kind = false := by
  cases call with
  | add added =>
      by_cases hkind : added.kind = kind
      · simp only [Call.kind, fill, clears, hkind, if_true, decide_true,
          Option.some.injEq, add.injEq, reduceCtorEq, and_false, or_false]
        exact (and_iff_left_of_imp fun hsame => hsame ▸ hkind).symm
      · simp only [Call.kind, fill, clears, hkind, if_false, decide_false,
          add.injEq, and_true]
        refine (or_iff_right ?_).symm
        rintro ⟨rfl, hsame⟩
        exact hkind hsame
  | peek asked => simp [fill, clears]
  | remove removed =>
      by_cases hkind : removed = kind <;> simp [Call.kind, fill, clears, hkind]

end Call

def after (measurements : Measurements) : Call → Measurements
  | .add measurement => measurements.add measurement
  | .peek _ => measurements
  | .remove kind => (measurements.remove kind).2

def run (calls : List Call) : Measurements :=
  calls.foldl after []

/-- A measurement that has been added, and neither replaced nor removed since. -/
def Stands (calls : List Call) (measurement : Measurement) : Prop :=
  ∃ earlier call later, calls = earlier ++ call :: later ∧
    call = .add measurement ∧
    ∀ other ∈ later, other.clears measurement.kind = false

def Distinct (measurements : Measurements) : Prop :=
  (measurements.map Measurement.kind).Nodup

section Find

variable {measurements : Measurements} {measurement : Measurement}
  {kind other : Measurement.Kind}

theorem hasKind_iff : hasKind kind measurement = true ↔
    measurement.kind = kind :=
  decide_eq_true_iff

theorem get?_eq_none : measurements.get? kind = none ↔
    kind ∉ measurements.map Measurement.kind := by
  simp [get?, hasKind_iff]

theorem get?_add_self (measurements : Measurements)
    (measurement : Measurement) :
    (measurements.add measurement).get? measurement.kind =
      some measurement := by
  have hreplaced : List.find? (hasKind measurement.kind)
      (measurements.filter fun former =>
        !hasKind measurement.kind former) = none := by
    rw [List.find?_eq_none]
    intro former hformer hkind
    have hother := (List.mem_filter.mp hformer).2
    rw [hkind] at hother
    cases hother
  have hadded : hasKind measurement.kind measurement = true :=
    hasKind_iff.mpr rfl
  rw [get?, add, List.find?_append, hreplaced, Option.none_or,
    List.find?_singleton, if_pos hadded]

theorem get?_add_of_ne (hother : measurement.kind ≠ kind) :
    (measurements.add measurement).get? kind = measurements.get? kind := by
  have hunseen : hasKind kind measurement = false :=
    eq_false_of_ne_true fun hkind => hother (hasKind_iff.mp hkind)
  have hkept : (fun former => decide
      ((!hasKind measurement.kind former) = true ∧
        hasKind kind former = true)) = hasKind kind := by
    funext former
    rw [Bool.eq_iff_iff, decide_eq_true_iff, and_iff_right_iff_imp,
      Bool.not_eq_true', hasKind_iff]
    intro hformer
    exact eq_false_of_ne_true fun hkind =>
      hother ((hasKind_iff.mp hkind).symm.trans hformer)
  rw [get?, add, List.find?_append, List.find?_filter, hkept,
    List.find?_singleton, hunseen]
  exact Option.or_none

theorem get?_erase_of_ne (hother : kind ≠ other) :
    (measurements.erase kind).get? other = measurements.get? other := by
  unfold erase get?
  induction measurements with
  | nil => rfl
  | cons first measurements ih =>
      by_cases hfirst : first.kind = kind
      · have hunseen : hasKind other first = false :=
          eq_false_of_ne_true fun hkind =>
            hother (hfirst.symm.trans (hasKind_iff.mp hkind))
        rw [List.eraseP_cons_of_pos (hasKind_iff.mpr hfirst),
          List.find?_cons_of_neg (by simp [hunseen])]
      · rw [List.eraseP_cons_of_neg fun hkind =>
          hfirst (hasKind_iff.mp hkind), List.find?_cons, List.find?_cons, ih]

theorem Distinct.get?_erase (hdistinct : measurements.Distinct) :
    (measurements.erase kind).get? kind = none := by
  rw [get?_eq_none]
  unfold erase
  induction measurements with
  | nil => exact List.not_mem_nil
  | cons first measurements ih =>
      obtain ⟨hfresh, hrest⟩ := List.nodup_cons.mp hdistinct
      by_cases hfirst : first.kind = kind
      · rw [List.eraseP_cons_of_pos (hasKind_iff.mpr hfirst)]
        exact hfirst ▸ hfresh
      · rw [List.eraseP_cons_of_neg fun hkind =>
          hfirst (hasKind_iff.mp hkind), List.map_cons, List.mem_cons]
        rintro (hkind | hkind)
        · exact hfirst hkind.symm
        · exact ih hrest hkind

theorem Distinct.erase (hdistinct : measurements.Distinct)
    (kind : Measurement.Kind) : Distinct (measurements.erase kind) :=
  (List.eraseP_sublist.map Measurement.kind).nodup hdistinct

theorem Distinct.add (hdistinct : measurements.Distinct)
    (measurement : Measurement) : Distinct (measurements.add measurement) := by
  unfold Distinct Measurements.add
  rw [List.map_append, List.nodup_append]
  refine ⟨(List.filter_sublist.map Measurement.kind).nodup hdistinct,
    List.pairwise_singleton _ _, ?_⟩
  intro kind hkept added hadded hsame
  obtain ⟨former, hformer, rfl⟩ := List.mem_map.mp hkept
  rw [List.mem_singleton.mp hadded] at hsame
  have hother := (List.mem_filter.mp hformer).2
  rw [hasKind_iff.mpr hsame] at hother
  cases hother

theorem Distinct.after (hdistinct : measurements.Distinct) (call : Call) :
    Distinct (measurements.after call) := by
  cases call with
  | add measurement => exact hdistinct.add measurement
  | peek kind => exact hdistinct
  | remove kind => exact hdistinct.erase kind

/-- Each kind has a place of its own, which calls for other kinds leave alone. -/
theorem Distinct.get?_after (hdistinct : measurements.Distinct) (call : Call)
    (kind : Measurement.Kind) : (measurements.after call).get? kind =
      if call.kind = kind then call.fill (measurements.get? kind)
      else measurements.get? kind := by
  split
  · next hkind =>
      subst hkind
      cases call with
      | add measurement => exact get?_add_self measurements measurement
      | peek kind => rfl
      | remove kind => exact hdistinct.get?_erase
  · next hkind =>
      cases call with
      | add measurement => exact get?_add_of_ne hkind
      | peek kind => rfl
      | remove kind => exact get?_erase_of_ne hkind

end Find

section Run

variable {calls : List Call} {call : Call} {measurement : Measurement}
  {kind : Measurement.Kind}

theorem run_concat (calls : List Call) (call : Call) :
    run (calls ++ [call]) = (run calls).after call :=
  List.foldl_append

theorem distinct_run (calls : List Call) : (run calls).Distinct := by
  induction calls using List.reverseRecOn with
  | nil => exact List.nodup_nil
  | append_singleton calls call ih =>
      rw [run_concat]
      exact ih.after call

theorem not_stands_nil : ¬Stands [] measurement := by
  rintro ⟨earlier, call, later, hcalls, _⟩
  simp at hcalls

theorem stands_concat : Stands (calls ++ [call]) measurement ↔
    call = .add measurement ∨
      Stands calls measurement ∧ call.clears measurement.kind = false :=
  split_concat_iff

/-- What is found of a kind is the measurement of this kind that stands. -/
theorem get?_run : (run calls).get? kind = some measurement ↔
    measurement.kind = kind ∧ Stands calls measurement := by
  induction calls using List.reverseRecOn with
  | nil => exact iff_of_false nofun fun hstands => not_stands_nil hstands.2
  | append_singleton calls call ih =>
      rw [run_concat, (distinct_run calls).get?_after, Call.fill_eq_some, ih,
        stands_concat]
      constructor
      · rintro (⟨hadded, rfl⟩ | ⟨⟨rfl, hstands⟩, hkept⟩)
        · exact ⟨rfl, .inl hadded⟩
        · exact ⟨rfl, .inr ⟨hstands, hkept⟩⟩
      · rintro ⟨rfl, hadded | ⟨hstands, hkept⟩⟩
        · exact .inl ⟨hadded, rfl⟩
        · exact .inr ⟨⟨rfl, hstands⟩, hkept⟩

/-- What is found of a kind is as if there had been no calls for other kinds. -/
theorem get?_run_filter (calls : List Call) (kind : Measurement.Kind) :
    (run (calls.filter fun call => call.kind = kind)).get? kind =
      (run calls).get? kind := by
  induction calls using List.reverseRecOn with
  | nil => rfl
  | append_singleton calls call ih =>
      rw [List.filter_append, run_concat, (distinct_run calls).get?_after]
      by_cases hkind : call.kind = kind
      · have hlast : [call].filter (fun other => other.kind = kind) = [call] := by
          simp [hkind]
        rw [hlast, run_concat, (distinct_run _).get?_after, if_pos hkind,
          if_pos hkind, ih]
      · have hlast : [call].filter (fun other => other.kind = kind) = [] := by
          simp [hkind]
        rw [hlast, List.append_nil, if_neg hkind, ih]

end Run

section Readings

variable {measurements : Measurements}

theorem signal?_eq_some {dBm : Float} : measurements.signal? = some dBm ↔
    measurements.get? .signal = some (.signal dBm) := by
  unfold signal?
  split
  · next found hfound => simp [hfound]
  · next hother => exact iff_of_false nofun (hother dBm)

theorem snr?_eq_some {dB : Float} : measurements.snr? = some dB ↔
    measurements.get? .snr = some (.snr dB) := by
  unfold snr?
  split
  · next found hfound => simp [hfound]
  · next hother => exact iff_of_false nofun (hother dB)

theorem stations?_eq_some {count : UInt32} :
    measurements.stations? = some count ↔
      measurements.get? .stations = some (.stations count) := by
  unfold stations?
  split
  · next found hfound => simp [hfound]
  · next hother => exact iff_of_false nofun (hother count)

theorem isEmpty_iff : measurements.isEmpty = true ↔
    measurements.signal? = none ∧ measurements.snr? = none ∧
      measurements.stations? = none := by
  cases measurements with
  | nil => exact iff_of_true rfl ⟨rfl, rfl, rfl⟩
  | cons first measurements =>
      refine iff_of_false nofun ?_
      rintro ⟨hsignal, hsnr, hstations⟩
      cases first with
      | signal dBm => exact Option.some_ne_none dBm hsignal
      | snr dB => exact Option.some_ne_none dB hsnr
      | stations count => exact Option.some_ne_none count hstations

end Readings

end Measurements

open Measurements in
/-- After any calls there is at most one measurement of a kind: the one of this kind added last,
unless it has been removed since.  It is what each way of reading tells.  Only removing detaches it,
and calls for other kinds make no difference.  The list is empty if and only if nothing is found of
any kind. -/
theorem measurements_have_places (calls : List Call) :
    let reached := run calls
    (reached.map Measurement.kind).Nodup ∧
    (∀ kind measurement, reached.get? kind = some measurement ↔
      measurement.kind = kind ∧ Stands calls measurement) ∧
    (∀ dBm, reached.signal? = some dBm ↔ Stands calls (.signal dBm)) ∧
    (∀ dB, reached.snr? = some dB ↔ Stands calls (.snr dB)) ∧
    (∀ count, reached.stations? = some count ↔
      Stands calls (.stations count)) ∧
    (∀ kind, (reached.remove kind).1 = reached.get? kind ∧
      (reached.remove kind).2.get? kind = none) ∧
    (∀ kind, reached.after (.peek kind) = reached) ∧
    (∀ kind, (run (calls.filter fun call => call.kind = kind)).get? kind =
      reached.get? kind) ∧
    (reached.isEmpty = true ↔ reached.signal? = none ∧ reached.snr? = none ∧
      reached.stations? = none) := by
  intro reached
  have hdistinct := distinct_run calls
  have hfound {kind measurement} : reached.get? kind = some measurement ↔
      measurement.kind = kind ∧ Stands calls measurement := get?_run
  refine ⟨hdistinct, fun _ _ => hfound, fun dBm => ?_, fun dB => ?_,
    fun count => ?_, fun _ => ⟨rfl, hdistinct.get?_erase⟩, fun _ => rfl,
    get?_run_filter calls, isEmpty_iff⟩
  · rw [signal?_eq_some, hfound]
    exact and_iff_right rfl
  · rw [snr?_eq_some, hfound]
    exact and_iff_right rfl
  · rw [stations?_eq_some, hfound]
    exact and_iff_right rfl

end Roaming
