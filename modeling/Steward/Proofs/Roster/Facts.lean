import Steward.Roster.Refresh
import Steward.Proofs.Program.Runs

/-!
# Platforms that do not change their mind

A platform whose answers depend on the call alone, with a wall clock that stands still, is a collection of
facts. What is put together from such a platform is a function of the record: `Facts.mapped` and
`Facts.evaluated` are what mapping a record and evaluating a workload come to.

## Contents

* `Facts` — the answers; `Facts.Govern` — the platforms that give them; `Facts.platform` — such a platform;
* `Facts.mapped`, `Facts.evaluated` — what mapping and evaluating come to;
* `Facts.replicasOf`, `spaceOf`, `environmentOf`, `dropletOf` — what each read comes to;
* `evaluated_eq`, `evaluated_eq_error` — evaluating changes state and replicas, and fails for an unknown state;
* `mapped_eq` — mapping in closed form; `mapped_eq_some_iff` — when it comes to a workload; `mapped_eq_some` — which
  carries the identifier and the time of its record;
* `eval_remapTask`, `eval_evaluateTask` — the tasks of a cycle.
-/

namespace Steward

/-- The answers of a platform that does not change its mind, and the wall clock. -/
structure Facts where
  call : (c : Call) → Except Fault c.Answer
  clock : Number

namespace Facts

variable {σ : Type}

/-- What is replied to an inquiry. -/
def inquiry (facts : Facts) : Replies Inquiry
  | .call c => facts.call c
  | .report _ => ()
  | .clock => facts.clock

/-- What is replied to a worker, while the cache shows this. -/
def errand (facts : Facts) (shown : String → Option Workload) : Replies Errand
  | .inquiry r => facts.inquiry r
  | .lookup key => shown key

/-- The platform gives these answers, whatever happened before. -/
def Govern (facts : Facts) (platform : Handler Inquiry σ) : Prop :=
  ∀ r world, (platform r world).1 = facts.inquiry r

/-- The platform that gives these answers and remembers nothing. -/
def platform (facts : Facts) : Handler Inquiry Unit :=
  fun r _ => (facts.inquiry r, ())

theorem govern_platform (facts : Facts) : facts.Govern facts.platform :=
  fun _ _ => rfl

/-- A platform that answers with one and the same application, whichever is asked for. Of its processes it knows
nothing, and everything else fails. -/
def alone (record : AppRecord) : Facts where
  call
    | .application _ => .ok (some record)
    | .process _ => .ok none
    | _ => .error .cancelled
  clock := .whole 0

/-- What mapping a record comes to. -/
def mapped (facts : Facts) (m : Mapper) (record : AppRecord) : Except Fault (Option Workload) :=
  (m.map record).eval facts.inquiry

/-- What is kept of an outcome. -/
def kept : Except Fault (Option Workload) → Option Workload
  | .ok w => w
  | .error _ => none

/-- The workload that a record maps to; none if mapping fails or is refused. -/
def remapped (facts : Facts) (m : Mapper) (record : AppRecord) : Option Workload :=
  kept (facts.mapped m record)

/-- What evaluating a workload by a record comes to. -/
def evaluated (facts : Facts) (w : Workload) (record : AppRecord) : Except Fault Workload :=
  (w.evaluate record).eval facts.inquiry

/-! ## Evaluating -/

/-- Only a started workload has replicas, so its consistency rule accepts what evaluating makes. -/
theorem withHealth_started (w : Workload) (replicas : List Replica) :
    w.withHealth .started replicas = .ok { w with state := .started, replicas } := by
  unfold Workload.withHealth Workload.checked
  simp

theorem withHealth_stopped (w : Workload) :
    w.withHealth .stopped [] = .ok { w with state := .stopped, replicas := [] } := by
  unfold Workload.withHealth Workload.checked
  simp

end Facts

/-- The replicas that an answer to the read of instances speaks of. Those that cannot be read are none: the reports may be
refused or missing, and the clock may have no whole milliseconds. -/
def Workload.replicasFrom (w : Workload) (answer : Except Fault (Option (Keyed.Map String InstanceReport)))
    (clock : Number) : List Replica :=
  match answer, clock.millis? with
  | .ok (some reports), .ok millis => w.replicasAt millis reports
  | _, _ => []

namespace Facts

/-- The replicas of a workload in some state. A stopped one has none. -/
def replicasOf (facts : Facts) (w : Workload) : RunState → List Replica
  | .stopped => []
  | .started => w.replicasFrom (facts.call (.instances w.id)) facts.clock

theorem eval_nowMillis (facts : Facts) :
    Workload.nowMillis.eval facts.inquiry =
      match facts.clock.millis? with
      | .ok millis => .ok millis
      | .error .undefined => .error .clockUndefined
      | .error .infinite => .error .clockInfinite := by
  have hnow : Inquiry.now.eval facts.inquiry = .ok facts.clock := Attempt.eval_ofProgram _ _
  unfold Workload.nowMillis
  rw [Attempt.eval_bind_of_ok hnow]
  cases facts.clock.millis? with
  | ok millis => rfl
  | error why => cases why <;> rfl

theorem eval_readReplicas (facts : Facts) (w : Workload) :
    w.readReplicas.eval facts.inquiry = (do
      let reports ← facts.call (.instances w.id)
      let millis ← Workload.nowMillis.eval facts.inquiry
      return w.replicasAt millis (reports.getD default)) := by
  unfold Workload.readReplicas
  simp only [Attempt.eval_bind, Attempt.eval_pure]
  rfl

/-- No reports speak of no replicas. -/
theorem replicasAt_default (w : Workload) (millis : Int) : w.replicasAt millis default = [] :=
  List.mergeSort_nil

/-- Replicas that cannot be read are none. -/
theorem eval_replicasOrNone (facts : Facts) (w : Workload) (record : AppRecord) :
    (w.replicasOrNone record).eval facts.inquiry = .ok (facts.replicasOf w .started) := by
  unfold Workload.replicasOrNone replicasOf Workload.replicasFrom
  rw [Attempt.eval_bind, Attempt.eval_settle, eval_readReplicas, eval_nowMillis]
  cases facts.call (.instances w.id) with
  | error f => rfl
  | ok reports =>
    cases facts.clock.millis? with
    | error why => cases why <;> cases reports <;> rfl
    | ok millis =>
      cases reports with
      | none => exact congrArg Except.ok (replicasAt_default w millis)
      | some reports => rfl

/-- **Evaluating** sets the state of the record and the replicas, and touches nothing else. -/
theorem evaluated_eq (facts : Facts) (w : Workload) {record : AppRecord} {state : RunState}
    (h : RunState.parse record.state = .ok state) :
    facts.evaluated w record = .ok { w with state, replicas := facts.replicasOf w state } := by
  unfold evaluated Workload.evaluate
  rw [Attempt.eval_bind, Attempt.eval_ofExcept, h]
  cases state with
  | started =>
    show (w.replicasOrNone record >>= _).eval facts.inquiry = _
    rw [Attempt.eval_bind_of_ok (eval_replicasOrNone facts w record), Attempt.eval_ofExcept]
    exact withHealth_started w _
  | stopped =>
    show (Attempt.ofExcept (w.withHealth .stopped []) : Attempt Inquiry Workload).eval facts.inquiry = _
    rw [Attempt.eval_ofExcept]
    exact withHealth_stopped w

theorem evaluated_eq_error (facts : Facts) (w : Workload) {record : AppRecord} {f : Fault}
    (h : RunState.parse record.state = .error f) : facts.evaluated w record = .error f := by
  unfold evaluated Workload.evaluate
  rw [Attempt.eval_bind, Attempt.eval_ofExcept, h]
  rfl

/-! ## Mapping -/

/-- What an assembled workload carries of its record, and of what was found. -/
theorem assemble_rendered {m : Mapper} {record : AppRecord} {found : Findings} {w : Workload}
    (h : m.assemble record found = .ok w) :
    w.id = record.guid ∧ w.name = record.name ∧ w.space = found.space ∧
      record.updatedMillis = .ok w.updatedTime := by
  unfold Mapper.assemble at h
  obtain ⟨createdTime, -, h⟩ := except_bind_eq_ok.1 h
  obtain ⟨updatedTime, hupdated, h⟩ := except_bind_eq_ok.1 h
  obtain ⟨build, -, h⟩ := except_bind_eq_ok.1 h
  obtain ⟨artifact, -, h⟩ := except_bind_eq_ok.1 h
  obtain ⟨pipelineId, -, h⟩ := except_bind_eq_ok.1 h
  cases h
  exact ⟨rfl, rfl, rfl, hupdated⟩

/-- An assembled workload carries the identifier and the time of its record. -/
theorem assemble_eq_ok {m : Mapper} {record : AppRecord} {found : Findings} {w : Workload}
    (h : m.assemble record found = .ok w) : w.id = record.guid ∧ record.updatedMillis = .ok w.updatedTime := by
  obtain ⟨hid, -, -, hupdated⟩ := assemble_rendered h
  exact ⟨hid, hupdated⟩

end Facts

/-- What an answer to the read of an environment comes to. Only a refusal stands out; after another failure there is no
environment. -/
def EnvironmentRead.ofAnswer : Except Fault (Option Environment) → EnvironmentRead
  | .ok environment => .read environment
  | .error f => if f.isRefusal then .refused else .read none

/-- The space that a record names, if it names one. -/
def AppRecord.namedSpace (record : AppRecord) : Option String :=
  record.spaceGuid.filter (· ≠ "")

theorem spaceOf_eq (record : AppRecord) :
    spaceOf record =
      match record.namedSpace with
      | none => pure none
      | some id => Inquiry.call (.space id) := by
  unfold spaceOf AppRecord.namedSpace
  cases record.spaceGuid with
  | none => rfl
  | some id =>
    by_cases hid : id = ""
    · rw [hid]
      rfl
    · have hnamed : (some id).filter (· ≠ "") = some id := Option.filter_some_pos (by simpa using hid)
      rw [hnamed]
      simp

namespace Facts

/-- The space of a record, if the record names one. -/
def spaceOf (facts : Facts) (record : AppRecord) : Except Fault (Option Space) :=
  match record.namedSpace with
  | none => .ok none
  | some id => facts.call (.space id)

/-- What the read of the environment of a record comes to. -/
def environmentOf (facts : Facts) (record : AppRecord) : EnvironmentRead :=
  .ofAnswer (facts.call (.environment record.guid))

/-- The droplet of a record in a space; none if it or its packages cannot be read. -/
def dropletOf (facts : Facts) (record : AppRecord) (space : Option Space) : Option Droplet :=
  match facts.call (.packages record.guid), facts.call (.droplet (some record.guid)) with
  | .ok packages, .ok droplet => droplet.map (dropletFrom record space packages)
  | _, _ => none

theorem eval_spaceOf (facts : Facts) (record : AppRecord) :
    (Steward.spaceOf record).eval facts.inquiry = facts.spaceOf record := by
  rw [spaceOf_eq]
  unfold spaceOf
  cases record.namedSpace with
  | none => rfl
  | some id => rfl

theorem eval_environmentOf (facts : Facts) (record : AppRecord) :
    (Steward.environmentOf record).eval facts.inquiry = .ok (facts.environmentOf record) := by
  have hcall : (Inquiry.call (.environment record.guid)).eval facts.inquiry
      = facts.call (.environment record.guid) := rfl
  unfold Steward.environmentOf environmentOf EnvironmentRead.ofAnswer
  rw [Attempt.eval_bind, Attempt.eval_settle, hcall]
  cases facts.call (.environment record.guid) with
  | ok environment => rfl
  | error f =>
    show Attempt.eval facts.inquiry (if f.isRefusal = true then _ else _) = .ok (if f.isRefusal = true then _ else _)
    split
    · rfl
    · rfl

theorem eval_dropletOf (facts : Facts) (record : AppRecord) (space : Option Space) :
    (Steward.dropletOf record space).eval facts.inquiry = .ok (facts.dropletOf record space) := by
  have hread : (readDroplet record space).eval facts.inquiry = (do
      let packages ← facts.call (.packages record.guid)
      let droplet ← facts.call (.droplet (some record.guid))
      return droplet.map (dropletFrom record space packages)) := by
    unfold readDroplet
    simp only [Attempt.eval_bind, Attempt.eval_pure]
    rfl
  unfold Steward.dropletOf dropletOf
  rw [Attempt.eval_bind, Attempt.eval_settle, hread]
  cases facts.call (.packages record.guid) with
  | error f => rfl
  | ok packages =>
    cases facts.call (.droplet (some record.guid)) with
    | error f => rfl
    | ok droplet => rfl

/-- What was read for a record, but for its instances. -/
def findings (facts : Facts) (record : AppRecord) (state : RunState) (space : Option Space)
    (environment : Option Environment) (process : Option ProcessInfo) : Findings :=
  { state, space, environment, process, droplet := facts.dropletOf record space }

/-- **Mapping in closed form.** -/
theorem mapped_eq (facts : Facts) (m : Mapper) (record : AppRecord) :
    facts.mapped m record = (do
      let state ← RunState.parse record.state
      let space ← facts.spaceOf record
      match facts.environmentOf record with
      | .refused => return none
      | .read environment =>
        let process ← facts.call (.process record.guid)
        let w ← m.assemble record (facts.findings record state space environment process)
        return some { w with state, replicas := facts.replicasOf w state }) := by
  unfold mapped Mapper.map
  rw [Attempt.eval_bind, Attempt.eval_ofExcept]
  cases hstate : RunState.parse record.state with
  | error f => rfl
  | ok state =>
    show (Steward.spaceOf record >>= _).eval facts.inquiry = facts.spaceOf record >>= _
    rw [Attempt.eval_bind, eval_spaceOf]
    refine bind_congr fun space => ?_
    rw [Attempt.eval_bind_of_ok (eval_environmentOf facts record)]
    cases facts.environmentOf record with
    | refused => rfl
    | read environment =>
      show (Inquiry.call (.process record.guid) >>= _).eval facts.inquiry = facts.call (.process record.guid) >>= _
      rw [Attempt.eval_bind]
      refine bind_congr fun process => ?_
      rw [Attempt.eval_bind_of_ok (eval_dropletOf facts record space), Attempt.eval_bind, Attempt.eval_ofExcept]
      refine bind_congr fun w => ?_
      exact Attempt.eval_bind_of_ok (evaluated_eq facts w hstate) _

/-- What it took to map a workload. -/
theorem mapped_eq_some_iff {facts : Facts} {m : Mapper} {record : AppRecord} {w : Workload} :
    facts.mapped m record = .ok (some w) ↔ ∃ state space environment process assembled,
      RunState.parse record.state = .ok state ∧ facts.spaceOf record = .ok space ∧
      facts.environmentOf record = .read environment ∧ facts.call (.process record.guid) = .ok process ∧
      m.assemble record (facts.findings record state space environment process) = .ok assembled ∧
      w = { assembled with state, replicas := facts.replicasOf assembled state } := by
  rw [mapped_eq]
  constructor
  · intro h
    obtain ⟨state, hstate, h⟩ := except_bind_eq_ok.1 h
    obtain ⟨space, hspace, h⟩ := except_bind_eq_ok.1 h
    cases henvironment : facts.environmentOf record with
    | refused =>
      rw [henvironment] at h
      cases h
    | read environment =>
      rw [henvironment] at h
      obtain ⟨process, hprocess, h⟩ := except_bind_eq_ok.1 h
      obtain ⟨assembled, hassembled, h⟩ := except_bind_eq_ok.1 h
      cases h
      exact ⟨state, space, environment, process, assembled, hstate, hspace, rfl, hprocess, hassembled, rfl⟩
  · rintro ⟨state, space, environment, process, assembled, hstate, hspace, henvironment, hprocess, hassembled, rfl⟩
    rw [hstate, hspace, henvironment]
    show facts.call (.process record.guid) >>= _ = _
    rw [hprocess]
    show m.assemble record (facts.findings record state space environment process) >>= _ = _
    rw [hassembled]
    rfl

/-- **A mapped workload** carries the identifier and the time of its record. -/
theorem mapped_eq_some {facts : Facts} {m : Mapper} {record : AppRecord} {w : Workload}
    (h : facts.mapped m record = .ok (some w)) : w.id = record.guid ∧ record.updatedMillis = .ok w.updatedTime := by
  obtain ⟨_, _, _, _, assembled, -, -, -, -, hassembled, rfl⟩ := mapped_eq_some_iff.1 h
  obtain ⟨hid, hupdated⟩ := assemble_eq_ok hassembled
  exact ⟨hid, hupdated⟩

/-! ## Tasks -/

variable (facts : Facts) (shown : String → Option Workload)

theorem eval_inquire {α : Type} (p : Attempt Inquiry α) :
    (Errand.inquire p).eval (facts.errand shown) = p.eval facts.inquiry :=
  Attempt.eval_lift facts.inquiry (facts.errand shown) _ (fun _ => rfl) p

/-- Fields bound around events make no difference to what a task comes to. -/
theorem eval_under {α : Type} (fields : List (String × Value)) (p : Program Errand α) :
    (Errand.under fields p).eval (facts.errand shown) = p.eval (facts.errand shown) := by
  refine Program.eval_lift (facts.errand shown) (facts.errand shown) _ ?_ p
  intro r
  unfold Errand.requestUnder
  split
  · rfl
  · rfl

/-- What work for one workload comes to: a fault comes to nothing. -/
theorem eval_orNothing (text : String) (record : AppRecord) (p : Attempt Inquiry (Option Workload)) :
    (Roster.orNothing text record (Errand.inquire p)).eval (facts.errand shown) = kept (p.eval facts.inquiry) := by
  unfold Roster.orNothing
  rw [Program.eval_monad_bind]
  have hp : (Errand.inquire p).outcome.eval (facts.errand shown) = p.eval facts.inquiry :=
    eval_inquire facts shown p
  rw [hp]
  cases p.eval facts.inquiry with
  | ok w => rfl
  | error f => rfl

/-- A record is put together again, or comes to nothing. -/
theorem eval_remapTask (r : Roster) (record : AppRecord) :
    (r.remapTask record).eval (facts.errand shown) = facts.remapped r.mapper record :=
  eval_orNothing facts shown _ record _

/-- A cached workload is evaluated; what is not cached or cannot be evaluated comes to nothing. -/
theorem eval_evaluateTask (record : AppRecord) :
    (Roster.evaluateTask record).eval (facts.errand shown)
      = (shown record.guid).bind fun w => (facts.evaluated w record).toOption := by
  unfold Roster.evaluateTask
  rw [Program.eval_monad_bind]
  have hlookup : (Errand.lookup record.guid).eval (facts.errand shown) = shown record.guid := rfl
  rw [hlookup]
  cases shown record.guid with
  | none => rfl
  | some w =>
    refine (eval_orNothing facts shown _ record _).trans ?_
    rw [Attempt.eval_map]
    show kept ((facts.evaluated w record).map some) = (facts.evaluated w record).toOption
    cases facts.evaluated w record with
    | ok w' => rfl
    | error f => rfl

end Facts

end Steward
