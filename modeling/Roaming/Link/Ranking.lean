namespace Roaming

/-! Ranking of candidate links.  A candidate is taken if its signal beats the best one so far and
its access point serves no more stations than the limit, which then becomes one more than the
candidate's. -/

structure Ranking where
  best : Float
  limit : UInt32
deriving DecidableEq

namespace Ranking

def mostStations : UInt32 := 0xffffffff

/-- Negative infinity. -/
def lowestSignal : Float := Float.ofBits 0xfff0000000000000

/-- Nothing taken yet. -/
def untracked : Ranking := ⟨lowestSignal, mostStations⟩

def successor (count : UInt32) : UInt32 :=
  if count < mostStations then count + 1 else count

def improves (ranking : Ranking) (signal : Float) (stations : UInt32) : Bool :=
  decide (ranking.best < signal) && decide (stations ≤ ranking.limit)

def accept (ranking : Ranking) (signal : Float) (stations : UInt32) :
    Bool × Ranking :=
  if ranking.improves signal stations then
    (true, ⟨signal, successor stations⟩)
  else (false, ranking)

end Ranking

end Roaming
