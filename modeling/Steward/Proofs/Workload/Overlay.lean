import Steward.Proofs.Roster.Calls
import Steward.Proofs.Roster.Reconcile
import Steward.Proofs.Workload.Documents

/-!
# Reading the health of a workload

To read the health of a workload again is to lay two fields over it, the run state of the record and the replicas that
run now, and to leave all others as they are. It cannot fail once the run state is known: replicas that cannot be read
are none, a stopped workload is not asked for any, and then its consistency rule has nothing to refuse.

Replicas are dated by the wall clock. A clock reading that has no whole milliseconds, because it is undefined or too
large, leaves a workload without replicas as a failed read does, even if the reports were read
(`Facts.evaluated_beyond`).

## Contents

* `RunState.parse_word`, `RunState.parse_of_ne` — words that name run states, and words that do not;
* `Workload.replicaAt`, `Workload.replicasAt_perm` — one replica for each report;
* `Workload.replicasFrom_of_boundless`, `Facts.replicasOf_eq_nil` — when there are none;
* `Facts.overlays` — what reading the health of a workload comes to.
-/

namespace Steward

/-! ## Words -/

namespace RunState

/-- The word for a run state names it, in any case. -/
theorem parse_word {word : String} {state : RunState} (h : Text.upper word = state.word) :
    parse word = .ok state := by
  unfold parse ofWord
  rw [h]
  cases state <;> rfl

/-- Any other word names none, and that is an error of value. -/
theorem parse_of_ne {word : String} (hstarted : Text.upper word ≠ "STARTED") (hstopped : Text.upper word ≠ "STOPPED") :
    parse word = .error (.unknownRunState (Text.upper word)) := by
  have hlookup : members.lookup (Text.upper word) = none := by
    simp [members, List.lookup_cons, beq_false_of_ne hstarted, beq_false_of_ne hstopped]
  unfold parse ofWord
  rw [hlookup]

theorem category_of_parse {word : String} {f : Fault} (h : parse word = .error f) : f.category = .value := by
  unfold parse ofWord at h
  split at h
  · cases h
  · cases h
    rfl

end RunState

/-! ## Replicas -/

namespace Workload

/-- The replica that a report under a key speaks of, at a time in milliseconds since 1970. -/
def replicaAt (w : Workload) (millis : Int) (key : String) (report : InstanceReport) : Replica :=
  { app := w.id
    key
    health := Health.ofInstanceState (some report.state)
    launchTime := millis - 1000 * report.uptime
    details := report.details
    zone := w.region }

/-- **One replica for each report**, in the order of keys. -/
theorem replicasAt_perm (w : Workload) (millis : Int) (reports : Keyed.Map String InstanceReport) :
    (w.replicasAt millis reports).Perm (reports.entries.map fun e => w.replicaAt millis e.1 e.2) := by
  have hordered : (w.replicasAt millis reports).Perm _ := List.mergeSort_perm _ _
  refine hordered.trans (List.Perm.of_eq (List.map_congr_left fun e _ => ?_))
  unfold replicaAt
  rw [Int.mul_comm]

/-- A clock without whole milliseconds dates no replicas. -/
theorem replicasFrom_of_boundless (w : Workload) (answer : Except Fault (Option (Keyed.Map String InstanceReport)))
    {clock : Number} {why : Number.Boundless} (h : clock.millis? = .error why) : w.replicasFrom answer clock = [] := by
  unfold replicasFrom
  rw [h]
  cases answer with
  | error f => rfl
  | ok reports => cases reports <;> rfl

end Workload

/-! ## The overlay -/

namespace Facts

variable (facts : Facts) (w : Workload)

/-- The replicas of a started workload are those that the reports speak of, at the time of the clock. -/
theorem replicasOf_started {reports : Keyed.Map String InstanceReport} {millis : Int}
    (hreports : facts.call (.instances w.id) = .ok (some reports)) (hmillis : facts.clock.millis? = .ok millis) :
    facts.replicasOf w .started = w.replicasAt millis reports := by
  unfold replicasOf Workload.replicasFrom
  rw [hreports, hmillis]

/-- There are none without reports, and without whole milliseconds. -/
theorem replicasOf_eq_nil {state : RunState}
    (h : (∃ f, facts.call (.instances w.id) = .error f) ∨ facts.call (.instances w.id) = .ok none ∨
      ∃ why, facts.clock.millis? = .error why) : facts.replicasOf w state = [] := by
  cases state with
  | stopped => rfl
  | started =>
    unfold replicasOf
    rcases h with ⟨f, hf⟩ | hnone | ⟨why, hwhy⟩
    · rw [hf]
      rfl
    · rw [hnone]
      rfl
    · exact w.replicasFrom_of_boundless _ hwhy

/-- **Reading the health of a workload** lays the run state of the record and the replicas that run now over it.

It fails only if the run state is not known, with an error of value, and then it has called for nothing. If it is, the
workload is the same but for its state and its replicas, and is accepted as if it were read for the first time. Only a
started workload is asked for instances, once. There are no replicas if the workload is stopped, if the read fails or is
answered with nothing, or if the clock has no whole milliseconds; else there is one for each report. -/
theorem overlays (record : AppRecord) :
    (∀ f, RunState.parse record.state = .error f →
      f.category = .value ∧ facts.evaluated w record = .error f ∧ facts.calls (w.evaluate record) = []) ∧
    ∀ state, RunState.parse record.state = .ok state → ∃ replicas,
      facts.evaluated w record = .ok { w with state, replicas } ∧
      Workload.schema.accept (Workload.schema.write { w with state, replicas }) = .ok { w with state, replicas } ∧
      (state = .stopped → facts.calls (w.evaluate record) = [] ∧ replicas = []) ∧
      (state = .started → facts.calls (w.evaluate record) = [.instances w.id] ∧
        (∀ f, facts.call (.instances w.id) = .error f → replicas = []) ∧
        (facts.call (.instances w.id) = .ok none → replicas = []) ∧
        (∀ why, facts.clock.millis? = .error why → replicas = []) ∧
        ∀ reports millis, facts.call (.instances w.id) = .ok (some reports) → facts.clock.millis? = .ok millis →
          replicas.Perm (reports.entries.map fun e => w.replicaAt millis e.1 e.2)) := by
  refine ⟨fun f hf => ⟨RunState.category_of_parse hf, facts.evaluated_eq_error w hf, ?_⟩, ?_⟩
  · rw [calls_evaluate]
    simp [AppRecord.isStarted, hf]
  intro state hstate
  refine ⟨facts.replicasOf w state, facts.evaluated_eq w hstate, ?_, ?_, ?_⟩
  · rw [← Workload.withHealth_eq_accept]
    cases state with
    | started => exact withHealth_started w _
    | stopped => exact withHealth_stopped w
  · rintro rfl
    refine ⟨?_, rfl⟩
    rw [calls_evaluate]
    simp [AppRecord.isStarted, hstate]
  · rintro rfl
    refine ⟨?_, fun f hf => ?_, fun hnone => ?_, fun why hwhy => ?_, fun reports millis hreports hmillis => ?_⟩
    · rw [calls_evaluate]
      simp [AppRecord.isStarted, hstate]
    · exact facts.replicasOf_eq_nil w (Or.inl ⟨f, hf⟩)
    · exact facts.replicasOf_eq_nil w (Or.inr (Or.inl hnone))
    · exact facts.replicasOf_eq_nil w (Or.inr (Or.inr ⟨why, hwhy⟩))
    · rw [facts.replicasOf_started w hreports hmillis]
      exact w.replicasAt_perm millis reports

/-- A platform that answers the read of instances with one report, and nothing else. -/
def oneInstance (clock : Number) : Facts where
  call
    | .instances _ => .ok (some (.ofList [("0", ⟨"RUNNING", 5, none, none⟩)]))
    | _ => .error .cancelled
  clock

/-- A stopped workload that is found started a hundred seconds into 1970, with an instance that is five seconds old. -/
theorem overlays_young :
    RunState.parse "started" = .ok .started ∧
      (oneInstance (.whole 100)).evaluated default (Roster.webApp "app-1" "started")
        = .ok { (default : Workload) with state := .started, replicas := [⟨"", "0", .up, 95000, none, none⟩] } := by
  have hstate : RunState.parse "started" = .ok .started := RunState.parse_word (by decide)
  obtain ⟨-, hread⟩ := (oneInstance (.whole 100)).overlays default (Roster.webApp "app-1" "started")
  obtain ⟨replicas, hevaluated, -, -, hstarted⟩ := hread .started hstate
  obtain ⟨-, -, -, -, hperm⟩ := hstarted rfl
  have hreplicas : replicas = [⟨"", "0", .up, 95000, none, none⟩] := List.perm_singleton.1 (hperm _ 100000 rfl rfl)
  refine ⟨hstate, ?_⟩
  rw [hevaluated, hreplicas]

/-- **A clock beyond milliseconds.** The clock shows a finite number of seconds, but a thousand times as much is beyond
all doubles. The application is started and its instance is reported, and there is no replica. -/
theorem evaluated_beyond :
    RunState.parse (Roster.webApp "app-1" "started").state = .ok .started ∧
      (oneInstance (.real (.ofDecimal false 1 306))).call (.instances (default : Workload).id)
        = .ok (some (.ofList [("0", ⟨"RUNNING", 5, none, none⟩)])) ∧
      (oneInstance (.real (.ofDecimal false 1 306))).evaluated default (Roster.webApp "app-1" "started")
        = .ok { (default : Workload) with state := .started, replicas := [] } := by
  have hstate : RunState.parse (Roster.webApp "app-1" "started").state = .ok .started :=
    RunState.parse_word (by decide)
  have hbeyond : (Number.real (.ofDecimal false 1 306)).millis? = .error .infinite := by decide +kernel
  have hevaluated : ∀ clock : Number, clock.millis? = .error .infinite →
      (oneInstance clock).evaluated default (Roster.webApp "app-1" "started")
        = .ok { (default : Workload) with state := .started, replicas := [] } := by
    intro clock hclock
    have hnone : (oneInstance clock).replicasOf default .started = [] :=
      replicasOf_eq_nil _ _ (Or.inr (Or.inr ⟨.infinite, hclock⟩))
    rw [evaluated_eq (oneInstance clock) default hstate, hnone]
  exact ⟨hstate, rfl, hevaluated _ hbeyond⟩

end Facts

end Steward
