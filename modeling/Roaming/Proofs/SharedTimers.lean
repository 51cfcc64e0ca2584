import Mathlib.Data.List.Induction
import Roaming.Proofs.TimerPool

namespace Roaming

/-! Users who share a clock, and name none but their own events, do not get in the way of each
other. -/

namespace TimerPool

variable {User Payload : Type} [DecidableEq User]

section Run

variable {steps : List (Step User Payload)} {step : Step User Payload}
  {user : User} {id : EventId} {payload : Payload}

private theorem mem_taken : id ∈ taken steps user ↔ .take user id ∈ steps := by
  rw [taken, List.mem_filterMap]
  constructor
  · rintro ⟨former, hformer, htaken⟩
    cases former with
    | take taker other =>
        rw [Step.taken?, Option.ite_none_right_eq_some] at htaken
        obtain ⟨rfl, hid⟩ := htaken
        obtain rfl := Option.some.inj hid
        exact hformer
    | scheduleAt | scheduleAfter | cancel | cancelAll | advanceUntil
    | advanceBy | advanceToNext => cases htaken
  · exact fun hformer => ⟨.take user id, hformer, if_pos rfl⟩

private theorem mem_entries_of_live (hlive : Live steps user id payload) :
    ⟨user, id, payload⟩ ∈ entries steps := by
  obtain ⟨before, former, later, rfl, hentry, _⟩ := hlive
  rw [entries, entriesFrom_append, entriesFrom]
  refine List.mem_append_right _ (List.mem_append_left _ ?_)
  exact Option.mem_toList.mpr hentry

private theorem mem_issued_concat (hid : id ∈ issued steps user) :
    id ∈ issued (steps ++ [step]) user := by
  obtain ⟨entry, hentry, hown⟩ := mem_issued.mp hid
  refine mem_issued.mpr ⟨entry, ?_, hown⟩
  rw [entries_concat]
  exact List.mem_append_left _ hentry

/-- The pool bears out what its users have done. -/
structure Faithful (steps : List (Step User Payload)) : Prop where
  inOrder : (entries steps).Pairwise fun first second =>
    first.id.index < second.id.index
  scheduled : ∀ entry ∈ entries steps,
    entry.id.index ≤ (run steps).clock.issued
  held : ∀ user id payload,
    ((run steps).timers user).lookup? id = some payload ↔
      Live steps user id payload
  waiting : ∀ user, ∀ event ∈ (run steps).clock.pending,
    event.2 ∈ issued steps user →
    ((run steps).timers user).lookup? event.2 = none →
    event.2 ∈ taken steps user

namespace Faithful

variable (hfaithful : Faithful steps)

include hfaithful

private theorem issued_le (hid : id ∈ issued steps user) :
    id.index ≤ (run steps).clock.issued := by
  obtain ⟨entry, hentry, _, rfl⟩ := mem_issued.mp hid
  exact hfaithful.scheduled entry hentry

private theorem next_not_issued (user : User) :
    ⟨(run steps).clock.issued + 1⟩ ∉ issued steps user :=
  fun hissued => Nat.not_succ_le_self _ (hfaithful.issued_le hissued)

private theorem mem_issued_of_lookup
    (hlookup : ((run steps).timers user).lookup? id = some payload) :
    id ∈ issued steps user :=
  mem_issued.mpr ⟨_, mem_entries_of_live
    ((hfaithful.held user id payload).mp hlookup), rfl, rfl⟩

private theorem fresh : (run steps).Fresh :=
  fun _ _ _ hlookup => hfaithful.issued_le
    (hfaithful.mem_issued_of_lookup hlookup)

private theorem distinct : ((entries steps).map Entry.id).Nodup := by
  refine List.pairwise_map.mpr (hfaithful.inOrder.imp ?_)
  intro first second hlt hsame
  exact absurd (congrArg EventId.index hsame) (Nat.ne_of_lt hlt)

/-- No event has been scheduled by two users. -/
private theorem owner_unique {other : User} (hid : id ∈ issued steps user)
    (hother : id ∈ issued steps other) : user = other := by
  obtain ⟨entry, hentry, rfl, hown⟩ := mem_issued.mp hid
  obtain ⟨foreign, hforeign, rfl, hsame⟩ := mem_issued.mp hother
  exact congrArg Entry.user (List.inj_on_of_nodup_map hfaithful.distinct
    hentry hforeign (hown.trans hsame.symm))

/-- What is scheduled by one user can be taken off without regard to what another waits for. -/
private theorem filter_foreign {other : User} (hother : other ≠ user)
    {events : List (Time × EventId)} {gone : Time × EventId → Prop}
    [DecidablePred gone]
    (hgone : ∀ event ∈ events, gone event → event.2 ∈ issued steps user) :
    ((events.filter fun event => ¬gone event).filter fun event =>
        event.2 ∈ issued steps other) =
      events.filter fun event => event.2 ∈ issued steps other := by
  rw [List.filter_filter]
  refine List.filter_congr fun event hevent => ?_
  by_cases hown : event.2 ∈ issued steps other
  · have hkept : ¬gone event := fun hlost =>
      hother (hfaithful.owner_unique hown (hgone event hevent hlost))
    simp [hown, hkept]
  · simp [hown]

private theorem waiting_concat {event : Time × EventId}
    (hevent : event ∈ (run (steps ++ [step])).clock.pending)
    (hown : event.2 ∈ issued (steps ++ [step]) user)
    (hnone : ((run (steps ++ [step])).timers user).lookup? event.2 = none) :
    event.2 ∈ taken (steps ++ [step]) user := by
  rw [run_concat] at hevent hnone
  obtain ⟨entry, hentry, rfl, hid⟩ := mem_issued.mp hown
  rw [entries_concat] at hentry
  rcases List.mem_append.mp hentry with hformer | hnew
  · have hissued : event.2 ∈ issued steps entry.user :=
      mem_issued.mpr ⟨entry, hformer, rfl, hid⟩
    have hbefore : event ∈ (run steps).clock.pending := by
      refine (pending_after hevent).resolve_right fun hnext => ?_
      exact hfaithful.next_not_issued _ (hnext ▸ hissued)
    cases hlookup : ((run steps).timers entry.user).lookup? event.2 with
    | none =>
        have htaken := hfaithful.waiting _ event hbefore hissued hlookup
        exact mem_taken.mpr (List.mem_append_left _ (mem_taken.mp htaken))
    | some payload =>
        -- Of what revokes the payload, only taking it leaves the event on the clock.
        have hrevokes : step.Revokes entry.user event.2 := by
          by_contra hkept
          have hstill := (lookup?_after hfaithful.fresh).mpr
            (.inr ⟨hlookup, hkept⟩)
          cases hnone.symm.trans hstill
        rcases hrevokes with rfl | rfl | rfl
        · exact absurd rfl (Clock.mem_pending_cancel.mp hevent).2
        · rw [clock_cancelAll] at hevent
          have habsent := of_decide_eq_true (List.mem_filter.mp hevent).2
          cases (Timer.lookup?_eq_none.mpr habsent).symm.trans hlookup
        · exact mem_taken.mpr (List.mem_append_right _ (List.mem_singleton_self _))
  · have hstored := (lookup?_after hfaithful.fresh).mpr
      (.inl (Option.mem_toList.mp hnew))
    rw [hid] at hstored
    cases hnone.symm.trans hstored

private theorem concat (step : Step User Payload) : Faithful (steps ++ [step]) where
  inOrder := by
    rw [entries_concat]
    refine List.pairwise_append.mpr ⟨hfaithful.inOrder, ?_, ?_⟩
    · cases (run steps).entered? step <;> simp
    · intro former hformer entry hentry
      rw [(id_of_entry (Option.mem_toList.mp hentry)).1]
      exact Nat.lt_succ_of_le (hfaithful.scheduled former hformer)
  scheduled entry hentry := by
    rw [entries_concat] at hentry
    rw [run_concat]
    rcases List.mem_append.mp hentry with hformer | hnew
    · exact Nat.le_trans (hfaithful.scheduled entry hformer)
        TimerPool.issued_le
    · obtain ⟨hid, hissued⟩ := id_of_entry (Option.mem_toList.mp hnew)
      exact Nat.le_of_eq ((congrArg EventId.index hid).trans hissued.symm)
  held user id payload := by
    rw [run_concat, lookup?_after hfaithful.fresh, hfaithful.held, live_concat]
  waiting _ _ := hfaithful.waiting_concat

end Faithful

theorem faithful_run (steps : List (Step User Payload)) : Faithful steps := by
  induction steps using List.reverseRecOn with
  | nil =>
      refine ⟨.nil, by simp [entries, entriesFrom], ?_,
        by simp [run, start, Clock.start, Agenda.empty]⟩
      simp [run, start, Live, Timer.empty, Timer.lookup?]
  | append_singleton steps step ih => exact ih.concat step

/-- The event has been scheduled by the user, and its payload is gone. -/
def Spent (steps : List (Step User Payload)) (user : User) (id : EventId) :
    Prop :=
  id ∈ issued steps user ∧ ((run steps).timers user).lookup? id = none

private theorem Spent.concat (hspent : Spent steps user id)
    (step : Step User Payload) : Spent (steps ++ [step]) user id := by
  obtain ⟨hissued, hnone⟩ := hspent
  have hfaithful := faithful_run steps
  refine ⟨mem_issued_concat hissued, Option.eq_none_iff_forall_ne_some.mpr ?_⟩
  intro payload hlookup
  rw [run_concat, lookup?_after hfaithful.fresh, hnone] at hlookup
  rcases hlookup with hentry | ⟨hstored, _⟩
  · have hnext : id = _ := (id_of_entry hentry).1
    exact hfaithful.next_not_issued user (hnext ▸ hissued)
  · cases hstored

private theorem Spent.append (hspent : Spent steps user id)
    (later : List (Step User Payload)) : Spent (steps ++ later) user id := by
  induction later using List.reverseRecOn with
  | nil => rwa [List.append_nil]
  | append_singleton later step ih =>
      rw [← List.append_assoc]
      exact ih.concat step

private theorem spent_of_revokes (hissued : id ∈ issued steps user)
    (hrevokes : step.Revokes user id) : Spent (steps ++ [step]) user id := by
  refine ⟨mem_issued_concat hissued, Option.eq_none_iff_forall_ne_some.mpr ?_⟩
  intro payload hlookup
  rw [run_concat, lookup?_after (faithful_run steps).fresh] at hlookup
  rcases hlookup with hentry | ⟨_, hkept⟩
  · rcases hrevokes with rfl | rfl | rfl <;> cases hentry
  · exact hkept hrevokes

private theorem spent_of_taken (hfair : Fair steps) (htaken : id ∈ taken steps user) :
    Spent steps user id := by
  induction hfair with
  | start => cases htaken
  | concat hfair hstep ih =>
      rcases List.mem_append.mp (mem_taken.mp htaken) with hformer | hlast
      · exact (ih (mem_taken.mpr hformer)).concat _
      · obtain rfl := List.mem_singleton.mp hlast
        exact spent_of_revokes hstep (.inr (.inr rfl))

/-- All events of a user are taken off the clock but those whose payloads it has got already. -/
private theorem cancelAll_of_fair (hfair : Fair steps) (user : User) :
    ((run steps).after (.cancelAll user)).clock =
      (run steps).clock.keep fun id =>
        id ∉ issued steps user ∨ id ∈ taken steps user := by
  have hfaithful := faithful_run steps
  have hkept : ∀ event ∈ (run steps).clock.pending,
      event.2 ∉ ((run steps).timers user).events.map Prod.fst ↔
        event.2 ∉ issued steps user ∨ event.2 ∈ taken steps user := by
    intro event hevent
    rw [← Timer.lookup?_eq_none]
    constructor
    · intro hnone
      by_cases hown : event.2 ∈ issued steps user
      · exact .inr (hfaithful.waiting user event hevent hown hnone)
      · exact .inl hown
    · rintro (hforeign | htaken)
      · refine Option.eq_none_iff_forall_ne_some.mpr fun payload hlookup => ?_
        exact hforeign (hfaithful.mem_issued_of_lookup hlookup)
      · exact (spent_of_taken hfair htaken).2
  rw [clock_cancelAll]
  exact Clock.keep_congr fun event hevent =>
    decide_eq_decide.mpr (hkept event hevent)

end Run

private theorem undisturbed_after {steps : List (Step User Payload)}
    {step : Step User Payload} {user other : User}
    (hfair : step.Fair (issued steps)) (hstep : step.user? = some user)
    (hother : other ≠ user) :
    (run steps).Undisturbed other (issued steps other)
      ((run steps).after step) := by
  have hfaithful := faithful_run steps
  have htimer : ((run steps).after step).timers other =
      (run steps).timers other :=
    timers_of_ne fun hsame => hother (Option.some.inj (hsame.symm.trans hstep))
  cases step with
  | scheduleAt owner deadline payload | scheduleAfter owner deadline payload =>
      exact undisturbed_of htimer rfl (Agenda.filter_enqueue
        (decide_eq_false (hfaithful.next_not_issued other)) _)
  | cancel owner id =>
      obtain rfl := Option.some.inj hstep
      have hclock : ((run steps).after (.cancel owner id)).clock =
          (run steps).clock.keep (· ≠ id) := Clock.cancel_eq_keep ..
      refine undisturbed_of htimer rfl ?_
      rw [hclock]
      refine hfaithful.filter_foreign hother fun event _ hid => ?_
      rw [hid]
      exact hfair
  | cancelAll owner =>
      obtain rfl := Option.some.inj hstep
      have hclock : ((run steps).after (.cancelAll owner)).clock =
          (run steps).clock.keep (· ∉ ((run steps).timers owner).events.map
            Prod.fst) := clock_cancelAll
      refine undisturbed_of htimer (by rw [hclock]; rfl) ?_
      rw [hclock]
      refine hfaithful.filter_foreign hother fun event _ hheld => ?_
      obtain ⟨payload, hlookup⟩ := Option.ne_none_iff_exists'.mp fun hnone =>
        Timer.lookup?_eq_none.mp hnone hheld
      exact hfaithful.mem_issued_of_lookup hlookup
  | take => exact undisturbed_of htimer rfl rfl
  | advanceUntil | advanceBy | advanceToNext => cases hstep

/-- Users who share a clock and name none but their own events do not interfere, whatever they do
and however the clock goes on.  A user gets the payload of an event exactly if it has scheduled the
event with it and has not revoked it since; so it gets none twice, and none that it has cancelled.
Cancelling takes just the event off the clock, or all events of the user but those whose payloads it
has got already.  No step of one user changes what another gets, nor that one's events on the clock,
their deadlines or the order of their release. -/
theorem timers_share_clock (steps : List (Step User Payload))
    (hfair : Fair steps) :
    let pool := run steps
    ((entries steps).map Entry.id).Nodup ∧
    (∀ user id payload,
      ((pool.timers user).take id).1 = some payload ↔
        Live steps user id payload) ∧
    (∀ before step later user id, steps = before ++ step :: later →
      id ∈ issued before user → step.Revokes user id →
      ((pool.timers user).take id).1 = none) ∧
    (∀ user id, (pool.after (.cancel user id)).clock =
      pool.clock.keep (· ≠ id)) ∧
    (∀ user, (pool.after (.cancelAll user)).clock =
      pool.clock.keep fun id =>
        id ∉ issued steps user ∨ id ∈ taken steps user) ∧
    (∀ step user other, step.Fair (issued steps) →
      step.user? = some user → other ≠ user →
      pool.Undisturbed other (issued steps other) (pool.after step)) := by
  intro pool
  have hfaithful := faithful_run steps
  refine ⟨hfaithful.distinct, hfaithful.held, ?_,
    fun _ id => pool.clock.cancel_eq_keep id, cancelAll_of_fair hfair,
    fun _ _ _ => undisturbed_after⟩
  rintro before step later user id rfl hissued hrevokes
  have hspent := (spent_of_revokes hissued hrevokes).append later
  rw [List.append_assoc] at hspent
  exact hspent.2

end TimerPool

namespace Sample

open TimerPool

/-- Two users schedule events; the one gets its first payload, and the other cancels. -/
def sharing : List (Step Bool Nat) :=
  [.scheduleAt false (.ofNanos 5) 8, .scheduleAfter true ⟨5⟩ 9,
    .scheduleAt false (.ofNanos 7) 10, .advanceToNext, .take false ⟨1⟩,
    .cancel true ⟨2⟩]

private theorem fair_sharing : Fair sharing := by
  change Fair ([] ++ [_] ++ [_] ++ [_] ++ [_] ++ [_] ++ [_])
  refine .concat (.concat (.concat (.concat (.concat (.concat .start
    trivial) trivial) trivial) trivial) ?_) ?_
  · change _ ∈ issued _ _
    decide
  · change _ ∈ issued _ _
    decide

end Sample

open TimerPool Sample in
theorem TimerPool.timers_share_clock_sample :
    let pool := run sharing
    Fair sharing ∧
      ((pool.timers false).take ⟨1⟩).1 = none ∧
      ((pool.timers true).take ⟨2⟩).1 = none ∧
      ((pool.timers false).take ⟨3⟩).1 = some 10 ∧
      (pool.after (.cancelAll false)).clock.pending = [] ∧
      pool.Undisturbed false [⟨1⟩, ⟨3⟩] (pool.after (.cancelAll true)) := by
  intro pool
  obtain ⟨_, htake, hrevoked, _, hcancelAll, hundisturbed⟩ :=
    timers_share_clock sharing fair_sharing
  refine ⟨fair_sharing, ?_, ?_, ?_, ?_, ?_⟩
  · exact hrevoked (sharing.take 4) _ [.cancel true ⟨2⟩] false ⟨1⟩ rfl
      (by decide) (.inr (.inr rfl))
  · exact hrevoked (sharing.take 5) _ [] true ⟨2⟩ rfl (by decide) (.inl rfl)
  · refine (htake false ⟨3⟩ 10).mpr
      ⟨sharing.take 2, _, sharing.drop 3, rfl, rfl, ?_⟩
    simp [sharing, Step.Revokes]
  · rw [hcancelAll]
    decide
  · exact hundisturbed (.cancelAll true) true false trivial rfl (by decide)

/-- A payload can be taken before its event is released.  Cancelling all then passes over the event,
since only the payloads tell a timer which events are its own. -/
theorem TimerPool.early_take_outlasts_cancelAll_sample :
    let steps : List (Step Unit Nat) :=
      [.scheduleAt () (.ofNanos 5) 8, .take () ⟨1⟩]
    Fair steps ∧ issued steps () = [⟨1⟩] ∧
      (run (steps ++ [.cancelAll ()])).clock.pending =
        [(.ofNanos 5, ⟨1⟩)] := by
  intro steps
  refine ⟨?_, by decide, by decide⟩
  change Fair ([] ++ [_] ++ [_])
  refine .concat (.concat .start trivial) ?_
  change _ ∈ issued _ _
  decide

end Roaming
