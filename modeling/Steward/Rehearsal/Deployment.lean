import Steward.Deployment.Run
import Steward.Rehearsal.Platform

/-!
# Rehearsing deployments

A deployment under a script, on a clock that only moves when it is read or when somebody waits.

## Contents

* `DeploymentRehearsal` — the state;
* `DeploymentRehearsal.answer` — the handler of deployments.
-/

namespace Steward

/-- What a deployment works on under a script. -/
structure DeploymentRehearsal where
  platform : Rehearsal
  meter : Meter
  tally : Tally
  now : Number
  /-- How far reading the clock moves it. -/
  tick : Number
  /-- The pauses, the latest first. -/
  pauses : List Number
  /-- The progress saved last, and how often progress was saved. -/
  saved : Option Progress
  saves : Nat
  deriving Inhabited

namespace DeploymentRehearsal

/-- Answers deployments. -/
def answer : Handler (Staging Number) DeploymentRehearsal
  | .call c, s =>
    let (reply, platform) := s.platform.call c
    (reply, { s with platform })
  | .report e, s => ((), { s with platform := s.platform.note e })
  | .measure m, s => ((), { s with tally := (s.meter.record m s.tally).2 })
  | .clock, s => (s.now, { s with now := s.now + s.tick })
  | .pause d, s => ((), { s with now := s.now + d, pauses := d :: s.pauses })
  | .save p, s => ((), { s with saved := some p, saves := s.saves + 1 })

/-- The state with what was noted forgotten. -/
def cleared (s : DeploymentRehearsal) : DeploymentRehearsal :=
  { s with platform := s.platform.cleared, pauses := [], saves := 0 }

end DeploymentRehearsal

end Steward
