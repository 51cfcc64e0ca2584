import Roaming.Proofs.Run
import Roaming.Session

namespace Roaming

/-! Runs of a session, and the moves that they come to for its station and its clock. -/

namespace Session

inductive Step
  | perform (operation : Operation)
  | advance (bound : Time)
  | withhold (bound : Time)
  | schedule (deadline : Time)
  | cancel (id : EventId)
  | observe (listener : Listener)
  | decideBy (source : MihfId) (policy : Policy)
  | install (sap : Sap)
  /-- Somebody takes the events that a service access point has published. -/
  | collect (index : Nat)
  /-- Somebody else makes changes to a service access point. -/
  | meddle (index : Nat) (change : Sap → Sap)
  | dropStream

namespace Step

/-- What a step has the station or the clock do, under the answers that the judge has for it. -/
def move? (decision : Decision) : Step → Option Move
  | .perform operation => some (.perform decision operation)
  | .advance bound => some (.advance bound)
  | .withhold bound => some (.withhold bound)
  | .schedule deadline => some (.schedule deadline)
  | .cancel id => some (.cancel id)
  | _ => none

/-- What a step has the station listen for on behalf of others. -/
def listeners : Step → List Listener
  | .observe listener => [listener]
  | .decideBy source _ => [.detected source]
  | .install sap => [.detected sap.owner, .up, .down, .lost]
  | _ => []

def moves (decision : Decision) (step : Step) : List Move :=
  (step.move? decision).toList ++
    step.listeners.map fun listener => .perform decision (.register listener)

theorem moves_of_move {decision : Decision} {step : Step} {move : Move}
    (hmove : step.move? decision = some move) :
    step.moves decision = [move] := by
  cases step with
  | perform _ | advance _ | withhold _ | schedule _ | cancel _ =>
      obtain rfl := Option.some.inj hmove
      rfl
  | observe _ | decideBy _ _ | install _ | collect _ | meddle _ _
  | dropStream => cases hmove

end Step

def report (session : Session) : Step → Report
  | .perform operation => session.perform operation
  | .advance bound => (session.dispatchUntil bound 1).2
  | .withhold bound =>
      { session := { session with
        system.clock := (session.system.clock.advanceUntil bound).2 } }
  | .schedule deadline => { session := (session.scheduleForeign deadline).2 }
  | .cancel id => { session := session.cancelEvent id }
  | .observe listener => { session := session.observe listener }
  | .decideBy source policy => { session := session.decideBy source policy }
  | .install sap => { session := session.install sap }
  | .collect index =>
      { session := session.updateSap index fun sap => sap.collect.2 }
  | .meddle index change => { session := session.updateSap index change }
  | .dropStream => { session := session.dropStream }

def after (session : Session) (step : Step) : Session :=
  (session.report step).session

def run (session : Session) (steps : List Step) : Session :=
  steps.foldl after session

/-- The moves of a run, each under the answers that the judge had for it. -/
def moves (session : Session) : List Step → List Move
  | [] => []
  | step :: steps =>
      step.moves session.decision ++ (session.after step).moves steps

/-- Has what an operation came to heard by everybody. -/
def hear (session : Session) (outcome : Outcome) : Report :=
  let (trace, session) :=
    { session with system := outcome.system }.deliverAll outcome.effects
  { session, trace, error? := outcome.error? }

section Hear

variable (session : Session)

@[simp] theorem system_route (hearer : Hearer) (effect : Effect)
    (f : Sap → Sap) :
    (session.route hearer effect f).2.system = session.system := by
  cases hearer <;> rfl

@[simp] theorem system_deliver (effect : Effect) :
    (session.deliver effect).2.system = session.system := by
  unfold deliver
  split
  · rfl
  · unfold recordDetected
    split <;> rfl
  · exact system_route ..
  · exact system_route ..
  · exact system_route ..
  · rfl
  · rfl

@[simp] theorem system_deliverAll (effects : List Effect) :
    (session.deliverAll effects).2.system = session.system := by
  induction effects generalizing session with
  | nil => rfl
  | cons effect effects ih =>
      exact (ih (session.deliver effect).2).trans (system_deliver session effect)

@[simp] theorem system_hear (outcome : Outcome) :
    (session.hear outcome).session.system = outcome.system :=
  system_deliverAll { session with system := outcome.system } outcome.effects

/-- Of a single event the station is told whether or not it fails. -/
private theorem dispatchUntil_one (bound : Time) :
    (session.dispatchUntil bound 1).2 =
      let (released?, clock) := session.system.clock.advanceUntil bound
      let session := { session with system.clock := clock }
      match released? with
      | none => { session }
      | some id => session.perform (.timeout id) := by
  simp only [dispatchUntil, dispatch]
  cases (session.system.clock.advanceUntil bound).1 with
  | none => rfl
  | some id =>
      simp only
      split
      · rfl
      · next hfine =>
          rw [List.append_nil, ← hfine]

/-- A step that moves the station or the clock has everybody hear what the move comes to. -/
theorem report_of_move {session : Session} {step : Step} {move : Move}
    (hmove : step.move? session.decision = some move) :
    session.report step =
      session.hear (Moment.outcome ⟨session.system, move⟩) := by
  cases step with
  | perform operation =>
      obtain rfl := Option.some.inj hmove
      rfl
  | advance bound =>
      obtain rfl := Option.some.inj hmove
      simp only [report, dispatchUntil_one, Moment.outcome, Moment.operation?,
        Move.operation?]
      cases (session.system.clock.advanceUntil bound).1 with
      | none => rfl
      | some id => rfl
  | withhold _ | schedule _ | cancel _ =>
      obtain rfl := Option.some.inj hmove
      rfl
  | observe _ | decideBy _ _ | install _ | collect _ | meddle _ _
  | dropStream => cases hmove

end Hear

/-- The station and the clock go through the moves of a session's step. -/
theorem system_after (session : Session) (step : Step) :
    (session.after step).system =
      session.system.run (step.moves session.decision) := by
  cases hmove : step.move? session.decision with
  | some move =>
      rw [after, report_of_move hmove, system_hear, Step.moves_of_move hmove]
      rfl
  | none =>
      cases step with
      | perform _ | advance _ | withhold _ | schedule _ | cancel _ =>
          cases hmove
      | observe listener => cases listener <;> rfl
      | decideBy source policy => rfl
      | install sap =>
          simp only [after, report, install]
          cases session.system.station.address <;> rfl
      | collect index | meddle index change | dropStream => rfl

theorem system_run (session : Session) (steps : List Step) :
    (session.run steps).system = session.system.run (session.moves steps) := by
  induction steps generalizing session with
  | nil => rfl
  | cons step steps ih =>
      rw [moves, System.run_append, ← system_after]
      exact ih _

end Session

end Roaming
