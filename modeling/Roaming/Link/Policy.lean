import Roaming.Link
import Roaming.Link.Ranking

namespace Roaming

/-! Rules that answer whether to switch to a detected link. -/

inductive Policy
  | constant (answer : Bool)
  /-- The answers in turn, starting over after the last. -/
  | rotation (upcoming : List Bool)
  | above (threshold : Float)
  | ranked (ranking : Ranking)
deriving DecidableEq

def Policy.consult (policy : Policy) (detected : DetectedLink) :
    Bool × Policy :=
  match policy with
  | .constant answer => (answer, policy)
  | .rotation [] => (false, policy)
  | .rotation (answer :: later) => (answer, .rotation (later ++ [answer]))
  | .above threshold => (decide (threshold < detected.signal), policy)
  | .ranked ranking =>
      let (accepted, ranking) := ranking.accept detected.signal detected.stations
      (accepted, .ranked ranking)

end Roaming
