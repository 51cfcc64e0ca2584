import Roaming.Time

namespace Roaming

/-! The events that wait on a clock, kept under two keys: by their deadlines, in which order they
are released, and by their numbers, with which they are cancelled.  Events are removed under both,
and both maps hold the same events whatever is done. -/

structure EventId where
  index : Nat
deriving DecidableEq

theorem lookup_filter {Value : Type} (kept : EventId → Bool)
    (entries : List (EventId × Value)) (id : EventId) :
    (entries.filter fun entry => kept entry.1).lookup id =
      if kept id then entries.lookup id else none := by
  induction entries with
  | nil => simp
  | cons entry entries ih =>
      obtain ⟨first, value⟩ := entry
      by_cases hsame : id = first
      · subst hsame
        cases hkept : kept id with
        | false => simpa [hkept] using ih
        | true => simp [hkept]
      · have hother : (id == first) = false := beq_eq_false_iff_ne.mpr hsame
        cases hkept : kept first <;> simp [hkept, List.lookup_cons, hother, ih]

theorem lookup_replace {Value : Type} (id : EventId) (value : Value)
    (entries : List (EventId × Value)) (other : EventId) :
    ((id, value) :: entries.filter fun entry => entry.1 ≠ id).lookup other =
      if other = id then some value else entries.lookup other := by
  by_cases hother : other = id
  · simp [hother]
  · have hfilter := lookup_filter (· ≠ id) entries other
    simpa [List.lookup_cons, hother, beq_eq_false_iff_ne.mpr hother] using
      hfilter

structure Agenda where
  /-- In the order of release. -/
  pending : List (Time × EventId)
  deadlines : List (EventId × Time)
deriving DecidableEq

namespace Agenda

/-- The order of release. -/
def Precedes (first second : Time × EventId) : Prop :=
  first.1 < second.1 ∨
    first.1 = second.1 ∧ first.2.index < second.2.index

instance (first second : Time × EventId) : Decidable (Precedes first second) :=
  inferInstanceAs (Decidable (_ ∨ _))

/-- Places an event in the order of release, unless it is there already. -/
def enqueue (event : Time × EventId) :
    List (Time × EventId) → List (Time × EventId)
  | [] => [event]
  | first :: events =>
      if Precedes event first then event :: first :: events
      else if event = first then first :: events
      else first :: enqueue event events

def empty : Agenda := ⟨[], []⟩

def deadline? (agenda : Agenda) (id : EventId) : Option Time :=
  agenda.deadlines.lookup id

def insert (agenda : Agenda) (deadline : Time) (id : EventId) : Agenda where
  pending := enqueue (deadline, id) agenda.pending
  deadlines := (id, deadline) ::
    agenda.deadlines.filter fun entry => entry.1 ≠ id

def remove (agenda : Agenda) (deadline : Time) (id : EventId) : Agenda where
  pending := agenda.pending.erase (deadline, id)
  deadlines := agenda.deadlines.filter fun entry => entry.1 ≠ id

/-- The number tells the deadline, and both together the place in the order of release. -/
def cancel (agenda : Agenda) (id : EventId) : Agenda :=
  match agenda.deadline? id with
  | none => agenda
  | some deadline => agenda.remove deadline id

/-- Removes the event that comes first. -/
def pop (agenda : Agenda) : Agenda :=
  match agenda.pending with
  | [] => agenda
  | (deadline, id) :: _ => agenda.remove deadline id

/-- Both maps hold the same events, none of them with a number still to be issued. -/
structure Mirrored (agenda : Agenda) (issued : Nat) : Prop where
  sorted : agenda.pending.Pairwise Precedes
  mirrors : ∀ deadline id,
    (deadline, id) ∈ agenda.pending ↔ agenda.deadline? id = some deadline
  issued : ∀ event ∈ agenda.pending, event.2.index ≤ issued

section Precedes

variable {first second third event other : Time × EventId}
  {events : List (Time × EventId)}

theorem Precedes.le (hprecedes : Precedes first second) :
    first.1 ≤ second.1 := by
  rcases hprecedes with hlt | ⟨heq, _⟩
  · exact Nat.le_of_lt hlt
  · exact Nat.le_of_eq (congrArg Time.nanos heq)

private theorem Precedes.ne (hprecedes : Precedes first second) : first ≠ second := by
  rintro rfl
  rcases hprecedes with hlt | ⟨_, hless⟩
  · exact Nat.lt_irrefl _ hlt
  · exact Nat.lt_irrefl _ hless

private theorem Precedes.trans (hfirst : Precedes first second)
    (hsecond : Precedes second third) : Precedes first third := by
  rcases hfirst with hlt | ⟨heq, hless⟩
  · exact .inl (Nat.lt_of_lt_of_le hlt hsecond.le)
  · rw [Precedes, heq]
    exact hsecond.imp_right fun ⟨hsame, hmore⟩ =>
      ⟨hsame, Nat.lt_trans hless hmore⟩

private theorem Precedes.of_not (hnot : ¬Precedes first second)
    (hne : first ≠ second) : Precedes second first := by
  obtain ⟨hge, hties⟩ := not_or.mp hnot
  rcases Nat.lt_or_eq_of_le (Nat.not_lt.mp hge) with hlt | heq
  · exact .inl hlt
  · have htime : first.1 = second.1 := Time.ext heq.symm
    refine .inr ⟨htime.symm, Nat.lt_of_le_of_ne ?_ fun hindex => hne ?_⟩
    · exact Nat.not_lt.mp fun hless => hties ⟨htime, hless⟩
    · exact Prod.ext htime (congrArg EventId.mk hindex.symm)

theorem mem_enqueue :
    other ∈ enqueue event events ↔ other = event ∨ other ∈ events := by
  induction events with
  | nil => simp [enqueue]
  | cons first events ih =>
      rw [enqueue]
      split
      · exact List.mem_cons
      · split
        · next hsame =>
            rw [← hsame, List.mem_cons]
            exact or_self_left.symm
        · rw [List.mem_cons, ih, List.mem_cons]
          exact or_left_comm

theorem filter_enqueue {wanted : Time × EventId → Bool}
    (hunwanted : wanted event = false) (events : List (Time × EventId)) :
    (enqueue event events).filter wanted = events.filter wanted := by
  induction events with
  | nil => simp [enqueue, hunwanted]
  | cons first events ih =>
      rw [enqueue]
      split
      · rw [List.filter_cons_of_neg (by simp [hunwanted])]
      · split
        · rfl
        · rw [List.filter_cons, List.filter_cons, ih]

private theorem pairwise_enqueue (hsorted : events.Pairwise Precedes)
    (event : Time × EventId) : (enqueue event events).Pairwise Precedes := by
  induction events with
  | nil => exact List.pairwise_singleton ..
  | cons first events ih =>
      obtain ⟨hfirst, hrest⟩ := List.pairwise_cons.mp hsorted
      rw [enqueue]
      split
      · next hbefore =>
          refine List.pairwise_cons.mpr ⟨fun other hother => ?_, hsorted⟩
          rcases List.mem_cons.mp hother with rfl | hother
          · exact hbefore
          · exact hbefore.trans (hfirst other hother)
      · next hnot =>
          split
          · exact hsorted
          · next hne =>
              refine List.pairwise_cons.mpr ⟨fun other hother => ?_, ih hrest⟩
              rcases mem_enqueue.mp hother with rfl | hother
              · exact .of_not hnot hne
              · exact hfirst other hother

end Precedes

/-- The events whose numbers are to be kept, under both keys. -/
def keep (agenda : Agenda) (kept : EventId → Bool) : Agenda where
  pending := agenda.pending.filter fun event => kept event.2
  deadlines := agenda.deadlines.filter fun entry => kept entry.1

theorem keep_all (agenda : Agenda) : agenda.keep (fun _ => true) = agenda := by
  rw [keep, List.filter_eq_self.mpr fun _ _ => rfl,
    List.filter_eq_self.mpr fun _ _ => rfl]

theorem keep_keep (agenda : Agenda) (first second : EventId → Bool) :
    (agenda.keep first).keep second =
      agenda.keep fun id => second id && first id := by
  simp only [keep, List.filter_filter]

private theorem deadline?_keep (agenda : Agenda) (kept : EventId → Bool)
    (id : EventId) :
    (agenda.keep kept).deadline? id =
      if kept id then agenda.deadline? id else none :=
  lookup_filter ..

private theorem deadline?_insert (agenda : Agenda) (deadline : Time)
    (id other : EventId) :
    (agenda.insert deadline id).deadline? other =
      if other = id then some deadline else agenda.deadline? other :=
  lookup_replace ..

namespace Mirrored

variable {agenda : Agenda} {issued : Nat} {deadline : Time} {id : EventId}

theorem empty : Agenda.empty.Mirrored 0 where
  sorted := .nil
  mirrors _ _ := iff_of_false List.not_mem_nil nofun
  issued _ := nofun

private theorem fresh (hmirrored : agenda.Mirrored issued) (deadline : Time) :
    (deadline, ⟨issued + 1⟩) ∉ agenda.pending :=
  fun hevent => Nat.not_succ_le_self _ (hmirrored.issued _ hevent)

/-- No number stands at two deadlines. -/
theorem unique (hmirrored : agenda.Mirrored issued) {first second : Time}
    (hfirst : (first, id) ∈ agenda.pending)
    (hsecond : (second, id) ∈ agenda.pending) : first = second := by
  rw [hmirrored.mirrors] at hfirst hsecond
  exact Option.some.inj (hfirst.symm.trans hsecond)

theorem nodup (hmirrored : agenda.Mirrored issued) : agenda.pending.Nodup :=
  hmirrored.sorted.imp Precedes.ne

theorem distinct (hmirrored : agenda.Mirrored issued) :
    (agenda.pending.map Prod.snd).Nodup := by
  refine List.pairwise_map.mpr (hmirrored.nodup.imp_of_mem ?_)
  rintro ⟨first, _⟩ ⟨second, id⟩ hfirst hsecond hne rfl
  exact hne (Prod.ext (hmirrored.unique hfirst hsecond) rfl)

theorem insert (hmirrored : agenda.Mirrored issued) (deadline : Time) :
    (agenda.insert deadline ⟨issued + 1⟩).Mirrored (issued + 1) where
  sorted := pairwise_enqueue hmirrored.sorted _
  mirrors other id := by
    rw [deadline?_insert, Agenda.insert, mem_enqueue, Prod.mk.injEq]
    split
    · next hnew =>
        rw [hnew, Option.some_inj]
        constructor
        · rintro (⟨rfl, _⟩ | hevent)
          · rfl
          · exact absurd hevent (hmirrored.fresh other)
        · rintro rfl
          exact .inl ⟨rfl, rfl⟩
    · next hold => simp [hold, hmirrored.mirrors]
  issued event hevent := by
    rcases mem_enqueue.mp hevent with rfl | hevent
    · exact Nat.le_refl _
    · exact Nat.le_succ_of_le (hmirrored.issued event hevent)

theorem keep (hmirrored : agenda.Mirrored issued) (kept : EventId → Bool) :
    (agenda.keep kept).Mirrored issued where
  sorted := hmirrored.sorted.filter _
  mirrors deadline id := by
    rw [deadline?_keep, Agenda.keep, List.mem_filter, hmirrored.mirrors]
    cases kept id <;> simp
  issued event hevent := hmirrored.issued event (List.mem_filter.mp hevent).1

/-- What is known under its number has its place in the order of release. -/
private theorem exists_deadline (hmirrored : agenda.Mirrored issued)
    {entry : EventId × Time} (hentry : entry ∈ agenda.deadlines) :
    ∃ deadline, (deadline, entry.1) ∈ agenda.pending := by
  cases hdeadline : agenda.deadline? entry.1 with
  | none =>
      have hother := List.lookup_eq_none_iff.mp hdeadline entry hentry
      exact absurd rfl (bne_iff_ne.mp hother)
  | some deadline =>
      exact ⟨deadline, (hmirrored.mirrors deadline entry.1).mpr hdeadline⟩

theorem keep_congr (hmirrored : agenda.Mirrored issued)
    {first second : EventId → Bool}
    (hsame : ∀ event ∈ agenda.pending, first event.2 = second event.2) :
    agenda.keep first = agenda.keep second := by
  have hpending : (agenda.pending.filter fun event => first event.2) =
      agenda.pending.filter fun event => second event.2 :=
    List.filter_congr hsame
  have hdeadlines : (agenda.deadlines.filter fun entry => first entry.1) =
      agenda.deadlines.filter fun entry => second entry.1 := by
    refine List.filter_congr fun entry hentry => ?_
    obtain ⟨deadline, hevent⟩ := hmirrored.exists_deadline hentry
    exact hsame _ hevent
  rw [Agenda.keep, hpending, hdeadlines]
  rfl

/-- To remove an event from its place takes off all that has its number. -/
private theorem remove_eq_keep (hmirrored : agenda.Mirrored issued)
    (hevent : (deadline, id) ∈ agenda.pending) :
    agenda.remove deadline id = agenda.keep (· ≠ id) := by
  have hpending : agenda.pending.erase (deadline, id) =
      agenda.pending.filter fun event => event.2 ≠ id := by
    rw [hmirrored.nodup.erase_eq_filter]
    refine List.filter_congr fun ⟨other, number⟩ hother => ?_
    have hsame : (other, number) = (deadline, id) ↔ number = id := by
      rw [Prod.mk.injEq]
      refine and_iff_right_of_imp ?_
      rintro rfl
      exact hmirrored.unique hother hevent
    rw [Bool.eq_iff_iff, bne_iff_ne, decide_eq_true_iff, Ne, hsame]
  rw [remove, hpending]
  rfl

theorem cancel_eq_keep (hmirrored : agenda.Mirrored issued) (id : EventId) :
    agenda.cancel id = agenda.keep (· ≠ id) := by
  rw [cancel]
  cases hdeadline : agenda.deadline? id with
  | none =>
      refine agenda.keep_all.symm.trans
        (hmirrored.keep_congr fun event hevent => ?_)
      have hother : event.2 ≠ id := by
        rintro rfl
        have hsome := (hmirrored.mirrors event.1 event.2).mp hevent
        cases hdeadline.symm.trans hsome
      exact (decide_eq_true hother).symm
  | some deadline =>
      exact hmirrored.remove_eq_keep ((hmirrored.mirrors deadline id).mpr hdeadline)

theorem cancel (hmirrored : agenda.Mirrored issued) (id : EventId) :
    (agenda.cancel id).Mirrored issued := by
  rw [hmirrored.cancel_eq_keep]
  exact hmirrored.keep _

theorem pop_eq_keep (hmirrored : agenda.Mirrored issued)
    {events : List (Time × EventId)}
    (hpending : agenda.pending = (deadline, id) :: events) :
    agenda.pop = agenda.keep (· ≠ id) := by
  have hevent : (deadline, id) ∈ agenda.pending := by simp [hpending]
  rw [← hmirrored.remove_eq_keep hevent, Agenda.pop, hpending]

theorem pop (hmirrored : agenda.Mirrored issued) :
    agenda.pop.Mirrored issued := by
  cases hpending : agenda.pending with
  | nil => simpa only [Agenda.pop, hpending] using hmirrored
  | cons event events =>
      rw [hmirrored.pop_eq_keep hpending]
      exact hmirrored.keep _

end Mirrored

end Agenda

end Roaming
