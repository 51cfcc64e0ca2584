import Mathlib.Data.List.Induction

namespace Roaming

/-! Histories, which grow at their end. -/

/-- The last thing shown is that of the last step, unless it shows none. -/
theorem getLast?_filterMap_concat {α β : Type} (shown? : α → Option β)
    (past : List α) (last : α) :
    ((past ++ [last]).filterMap shown?).getLast? =
      (shown? last).or (past.filterMap shown?).getLast? := by
  cases hshown : shown? last <;> simp [hshown]

/-- An event since which something holds either comes last itself, or comes before an event of which
this holds too. -/
theorem split_concat_iff {α : Type} {happened : List α → α → Prop}
    {holds : α → Prop} {past : List α} {last : α} :
    (∃ earlier event later, past ++ [last] = earlier ++ event :: later ∧
        happened earlier event ∧ ∀ other ∈ later, holds other) ↔
      happened past last ∨
        (∃ earlier event later, past = earlier ++ event :: later ∧
          happened earlier event ∧ ∀ other ∈ later, holds other) ∧
        holds last := by
  constructor
  · rintro ⟨earlier, event, later, hsplit, hevent, hlater⟩
    cases later using List.reverseRecOn with
    | nil =>
        obtain ⟨rfl, hsame⟩ := List.append_inj' hsplit rfl
        exact .inl (List.singleton_inj.mp hsame ▸ hevent)
    | append_singleton later final =>
        rw [← List.cons_append, ← List.append_assoc] at hsplit
        obtain ⟨rfl, hsame⟩ := List.append_inj' hsplit rfl
        obtain rfl := List.singleton_inj.mp hsame
        refine .inr ⟨⟨earlier, event, later, rfl, hevent, ?_⟩,
          hlater last (by simp)⟩
        exact fun other hother => hlater other (List.mem_append_left _ hother)
  · rintro (hlast | ⟨⟨earlier, event, later, rfl, hevent, hlater⟩, hholds⟩)
    · exact ⟨past, last, [], rfl, hlast, by simp⟩
    · refine ⟨earlier, event, later ++ [last], by simp, hevent, ?_⟩
      intro other hother
      rcases List.mem_append.mp hother with hother | hother
      · exact hlater other hother
      · exact List.mem_singleton.mp hother ▸ hholds

end Roaming
