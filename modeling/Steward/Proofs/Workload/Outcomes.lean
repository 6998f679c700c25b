import Steward.Proofs.Workload.Overlay

/-!
# What mapping a record comes to

Six reads may fail while a workload is put together, and they are not treated alike. A failed read of the space or of the
process is passed on. A refused read of the environment means that there is no workload for us, and after it nothing else
is called for. Any other failure leaves out what the read would have told: packages that cannot be read leave the droplet
out without calling for it. So the reads are made in one order, each at most once, and `Facts.outcomes` lists all that
mapping may come to.

Two things besides the reads can stand against a workload: times that have no place in the calendar, and variables that
carry metadata but cannot be written out.

## Contents

* `Displayed`, `Mapper.exists_assembled` — nothing stands against a workload once everything is read;
* `Facts.Maps` — an outcome, with the calls that were made for it; one lemma for each of them;
* `Facts.calls_map_sublist`, `Facts.nodup_calls_map` — the order of the calls, each at most once;
* `Facts.outcomes` — when mapping comes to which outcome.
-/

namespace Steward

/-! ## Putting together -/

/-- The variables that carry metadata can be written out. -/
def Displayed (env : List (String × Value)) : Prop :=
  ∀ (p : Provenance) (v : Value), Value.lookup env p.variableName = some v → v.display.isSome = true

theorem displayed_nil : Displayed [] := by
  intro p v h
  cases h

/-- What can be written out is read. -/
theorem Displayed.exists_read {env : List (String × Value)} (h : Displayed env) (p : Provenance) :
    ∃ text, p.read env = .ok text := by
  unfold Provenance.read
  cases hlookup : Value.lookup env p.variableName with
  | none => exact ⟨none, rfl⟩
  | some v =>
    obtain ⟨text, htext⟩ := Option.isSome_iff_exists.1 (h p v hlookup)
    cases v with
    | null => exact ⟨none, rfl⟩
    | _ =>
      refine ⟨some text, ?_⟩
      simp only [htext]

/-- **Once everything is read**, a workload is put together. -/
theorem Mapper.exists_assembled (m : Mapper) {record : AppRecord} {found : Findings}
    (hcreated : ∃ millis, record.createdMillis = .ok millis) (hupdated : ∃ millis, record.updatedMillis = .ok millis)
    (hdisplayed : Displayed (variablesOf found.environment)) : ∃ w, m.assemble record found = .ok w := by
  obtain ⟨created, hcreated⟩ := hcreated
  obtain ⟨updated, hupdated⟩ := hupdated
  have hread := hdisplayed.exists_read
  have hbuild : ∃ build, BuildInfo.ofVariables (variablesOf found.environment) = .ok build := by
    obtain ⟨name, hname⟩ := hread .jobName
    obtain ⟨number, hnumber⟩ := hread .jobNumber
    obtain ⟨url, hurl⟩ := hread .jobUrl
    refine ⟨⟨name, number, url⟩, ?_⟩
    unfold BuildInfo.ofVariables
    rw [hname, hnumber, hurl]
    rfl
  have hartifact : ∃ artifact, ArtifactInfo.ofVariables (variablesOf found.environment) = .ok artifact := by
    obtain ⟨name, hname⟩ := hread .artifactName
    obtain ⟨version, hversion⟩ := hread .artifactVersion
    obtain ⟨url, hurl⟩ := hread .artifactUrl
    refine ⟨⟨name, version, url⟩, ?_⟩
    unfold ArtifactInfo.ofVariables
    rw [hname, hversion, hurl]
    rfl
  obtain ⟨build, hbuild⟩ := hbuild
  obtain ⟨artifact, hartifact⟩ := hartifact
  obtain ⟨pipeline, hpipeline⟩ := hread .pipelineId
  unfold assemble
  rw [hcreated, hupdated]
  dsimp only
  rw [hbuild, hartifact, hpipeline]
  exact ⟨_, rfl⟩

/-! ## Outcomes -/

/-- **Mapping a record** comes to this outcome, after these calls in this order. -/
structure Facts.Maps (facts : Facts) (m : Mapper) (record : AppRecord) (outcome : Except Fault (Option Workload))
    (asked : List Call) : Prop where
  mapped : facts.mapped m record = outcome
  calls : facts.calls (m.map record) = asked

/-- The call for the space that a record names. -/
def AppRecord.spaceCalls (record : AppRecord) : List Call :=
  record.namedSpace.toList.map .space

namespace Facts

variable {facts : Facts} {m : Mapper} {record : AppRecord} {state : RunState} {space : Option Space} {f : Fault}

theorem maps_of_unknown (hstate : RunState.parse record.state = .error f) : facts.Maps m record (.error f) [] where
  mapped := by
    rw [mapped_eq, hstate]
    rfl
  calls := by rw [calls_map, hstate]

theorem maps_of_spaceless (hstate : RunState.parse record.state = .ok state) (hspace : facts.spaceOf record = .error f) :
    facts.Maps m record (.error f) record.spaceCalls where
  mapped := by
    rw [mapped_eq, hstate, hspace]
    rfl
  calls := by
    rw [calls_map, hstate, hspace]
    exact List.append_nil _

theorem maps_of_refused (hstate : RunState.parse record.state = .ok state) (hspace : facts.spaceOf record = .ok space)
    (henvironment : facts.environmentOf record = .refused) :
    facts.Maps m record (.ok none) (record.spaceCalls ++ [.environment record.guid]) where
  mapped := by
    rw [mapped_eq, hstate, hspace, henvironment]
    rfl
  calls := by
    rw [calls_map, hstate, hspace, henvironment]
    rfl

variable {environment : Option Environment}

theorem maps_of_processless (hstate : RunState.parse record.state = .ok state) (hspace : facts.spaceOf record = .ok space)
    (henvironment : facts.environmentOf record = .read environment)
    (hprocess : facts.call (.process record.guid) = .error f) :
    facts.Maps m record (.error f) (record.spaceCalls ++ [.environment record.guid, .process record.guid]) where
  mapped := by
    rw [mapped_eq, hstate, hspace, henvironment, hprocess]
    rfl
  calls := by
    rw [calls_map, hstate, hspace, henvironment, hprocess]
    rfl

theorem maps_of_process {process : Option ProcessInfo} (hcreated : ∃ millis, record.createdMillis = .ok millis)
    (hupdated : ∃ millis, record.updatedMillis = .ok millis) (hdisplayed : Displayed (variablesOf environment))
    (hstate : RunState.parse record.state = .ok state) (hspace : facts.spaceOf record = .ok space)
    (henvironment : facts.environmentOf record = .read environment)
    (hprocess : facts.call (.process record.guid) = .ok process) :
    ∃ w, facts.Maps m record (.ok (some w))
      (record.spaceCalls ++ [.environment record.guid, .process record.guid, .packages record.guid] ++
        (if (facts.call (.packages record.guid)).isOk then [.droplet (some record.guid)] else []) ++
        if state = .started then [.instances record.guid] else []) := by
  obtain ⟨w, hw⟩ : ∃ w, m.assemble record (facts.findings record state space environment process) = .ok w :=
    m.exists_assembled hcreated hupdated hdisplayed
  refine ⟨{ w with state, replicas := facts.replicasOf w state }, ?_, ?_⟩
  · exact mapped_eq_some_iff.2 ⟨state, space, environment, process, w, hstate, hspace, henvironment, hprocess, hw, rfl⟩
  · have hstarted : record.isStarted = decide (state = .started) := by
      unfold AppRecord.isStarted
      rw [hstate]
      cases state <;> rfl
    rw [calls_map, hstate, hspace, henvironment, hprocess]
    dsimp only
    rw [hw]
    dsimp only
    rw [(assemble_eq_ok hw).1, hstarted]
    simp [AppRecord.spaceCalls]

/-- An answer to the read of an environment that is not a refusal. -/
theorem exists_environment (hrefused : ∀ f, facts.call (.environment record.guid) = .error f → f.isRefusal = false)
    (hdisplayed : ∀ environment, facts.call (.environment record.guid) = .ok environment →
      Displayed (variablesOf environment)) :
    ∃ environment, facts.environmentOf record = .read environment ∧ Displayed (variablesOf environment) := by
  unfold environmentOf EnvironmentRead.ofAnswer
  cases hcall : facts.call (.environment record.guid) with
  | ok environment => exact ⟨environment, rfl, hdisplayed environment hcall⟩
  | error f => exact ⟨none, if_neg (by simp [hrefused f hcall]), displayed_nil⟩

theorem spaceOf_of_named {id : String} (hid : record.namedSpace = some id) :
    facts.spaceOf record = facts.call (.space id) := by
  unfold spaceOf
  rw [hid]

theorem exists_space (hread : ∀ id, record.namedSpace = some id → (facts.call (.space id)).isOk = true) :
    ∃ space, facts.spaceOf record = .ok space := by
  cases hid : record.namedSpace with
  | none =>
    unfold spaceOf
    rw [hid]
    exact ⟨none, rfl⟩
  | some id =>
    have hok := hread id hid
    rw [spaceOf_of_named hid]
    cases hspace : facts.call (.space id) with
    | ok space => exact ⟨space, rfl⟩
    | error f =>
      rw [hspace] at hok
      cases hok

/-- **The calls are made in one order**, whatever mapping comes to. -/
theorem calls_map_sublist (facts : Facts) (m : Mapper) (record : AppRecord) :
    (facts.calls (m.map record)).Sublist (record.spaceCalls ++
      [.environment record.guid, .process record.guid, .packages record.guid, .droplet (some record.guid),
        .instances record.guid]) := by
  rw [calls_map]
  cases RunState.parse record.state with
  | error f => exact List.nil_sublist _
  | ok state =>
    refine (List.Sublist.refl record.spaceCalls).append ?_
    cases facts.spaceOf record with
    | error f => exact List.nil_sublist _
    | ok space =>
      refine List.Sublist.cons_cons _ ?_
      cases facts.environmentOf record with
      | refused => exact List.nil_sublist _
      | read environment =>
        refine List.Sublist.cons_cons _ ?_
        cases facts.call (.process record.guid) with
        | error f => exact List.nil_sublist _
        | ok process =>
          refine List.Sublist.cons_cons _ ?_
          have hdroplet : (if (facts.call (.packages record.guid)).isOk then [Call.droplet (some record.guid)] else
              []).Sublist [.droplet (some record.guid)] := by
            split
            · exact List.Sublist.refl _
            · exact List.nil_sublist _
          refine hdroplet.append ?_
          cases hassembled : m.assemble record (facts.findings record state space environment process) with
          | error f => exact List.nil_sublist _
          | ok w =>
            dsimp only
            rw [(assemble_eq_ok hassembled).1]
            split
            · exact List.Sublist.refl _
            · exact List.nil_sublist _

/-- No call is made twice. -/
theorem nodup_calls_map (facts : Facts) (m : Mapper) (record : AppRecord) : (facts.calls (m.map record)).Nodup := by
  refine (calls_map_sublist facts m record).nodup ?_
  unfold AppRecord.spaceCalls
  cases record.namedSpace <;> simp

/-- **What mapping a record comes to**, for every combination of answers, if the times of the record have a place in the
calendar and the variables that carry metadata can be written out.

An unknown run state is an error of value, and nothing is called for. A failed read of the space that the record names is
passed on; a refused read of the environment comes to no workload; a failed read of the process is passed on. In all
other cases there is a workload. The calls are made in one order, each at most once: the droplet is called for unless
the packages cannot be read, and the instances if the application is started. -/
theorem outcomes (facts : Facts) (m : Mapper) {record : AppRecord} (hcreated : ∃ millis, record.createdMillis = .ok millis)
    (hupdated : ∃ millis, record.updatedMillis = .ok millis)
    (hdisplayed : ∀ environment, facts.call (.environment record.guid) = .ok environment →
      Displayed (variablesOf environment)) :
    (facts.calls (m.map record)).Nodup ∧
    (Text.upper record.state ≠ "STARTED" → Text.upper record.state ≠ "STOPPED" →
      ∃ f, f.category = .value ∧ facts.Maps m record (.error f) []) ∧
    ∀ state : RunState, Text.upper record.state = state.word →
      (∀ id f, record.namedSpace = some id → facts.call (.space id) = .error f →
        facts.Maps m record (.error f) [.space id]) ∧
      ((∀ id, record.namedSpace = some id → (facts.call (.space id)).isOk = true) →
        (∀ f, facts.call (.environment record.guid) = .error f → f.isRefusal = true →
          facts.Maps m record (.ok none) (record.spaceCalls ++ [.environment record.guid])) ∧
        ((∀ f, facts.call (.environment record.guid) = .error f → f.isRefusal = false) →
          (∀ f, facts.call (.process record.guid) = .error f →
            facts.Maps m record (.error f)
              (record.spaceCalls ++ [.environment record.guid, .process record.guid])) ∧
          ((facts.call (.process record.guid)).isOk = true → ∃ w,
            facts.Maps m record (.ok (some w))
              (record.spaceCalls ++ [.environment record.guid, .process record.guid, .packages record.guid] ++
                (if (facts.call (.packages record.guid)).isOk then [.droplet (some record.guid)] else []) ++
                if state = .started then [.instances record.guid] else [])))) := by
  refine ⟨nodup_calls_map facts m record, ?_, ?_⟩
  · intro hstarted hstopped
    exact ⟨_, rfl, maps_of_unknown (RunState.parse_of_ne hstarted hstopped)⟩
  intro state hword
  have hstate := RunState.parse_word hword
  constructor
  · intro id f hid hspace
    have hcalls : record.spaceCalls = [.space id] := by
      unfold AppRecord.spaceCalls
      rw [hid]
      rfl
    rw [← hcalls]
    exact maps_of_spaceless hstate ((spaceOf_of_named hid).trans hspace)
  intro hread
  obtain ⟨space, hspace⟩ := exists_space hread
  constructor
  · intro f hf hrefusal
    refine maps_of_refused hstate hspace ?_
    unfold environmentOf EnvironmentRead.ofAnswer
    rw [hf]
    exact if_pos hrefusal
  intro hrefused
  obtain ⟨environment, henvironment, hdisplayed⟩ := exists_environment hrefused hdisplayed
  constructor
  · intro f hprocess
    exact maps_of_processless hstate hspace henvironment hprocess
  intro hok
  cases hprocess : facts.call (.process record.guid) with
  | error f =>
    rw [hprocess] at hok
    cases hok
  | ok process =>
    exact maps_of_process hcreated hupdated hdisplayed hstate hspace henvironment hprocess

/-- An application in a space. -/
def shopApp : AppRecord :=
  { Roster.webApp "app-1" "Started" with links := [("space", ⟨none, some "space-1"⟩)] }

/-- A platform that knows spaces and processes, and refuses nothing, but on which everything else fails. -/
def faltering : Facts where
  call
    | .space id => .ok (some ⟨id, some "dev", none⟩)
    | .process _ => .ok none
    | _ => .error .cancelled
  clock := .whole 100

/-- Where the environment, the packages and the instances cannot be read, there is a workload nevertheless. -/
theorem outcomes_faltering :
    (shopApp.createdMillis = .ok 0 ∧ shopApp.updatedMillis = .ok 0 ∧
        ∀ environment, faltering.call (.environment "app-1") ≠ .ok environment) ∧
      ∃ w, faltering.Maps default shopApp (.ok (some w))
        [.space "space-1", .environment "app-1", .process "app-1", .packages "app-1", .instances "app-1"] := by
  have hnone : ∀ environment, faltering.call (.environment "app-1") ≠ .ok environment := nofun
  have hmillis : (⟨0, 0, false⟩ : Moment).millis = some 0 := by decide +kernel
  have hcreated : shopApp.createdMillis = .ok 0 := by
    show AppRecord.millisOf ⟨0, 0, false⟩ = .ok 0
    unfold AppRecord.millisOf
    rw [hmillis]
  have hupdated : shopApp.updatedMillis = .ok 0 := hcreated
  obtain ⟨-, -, hknown⟩ := outcomes faltering default ⟨0, hcreated⟩ ⟨0, hupdated⟩
    fun environment henvironment => absurd henvironment (hnone environment)
  obtain ⟨-, hread⟩ := hknown .started (by decide)
  have hspace : ∀ id, shopApp.namedSpace = some id → (faltering.call (.space id)).isOk = true := fun _ _ => rfl
  obtain ⟨-, hallowed⟩ := hread hspace
  obtain ⟨-, hprocess⟩ := hallowed (by rintro f ⟨⟩; rfl)
  exact ⟨⟨hcreated, hupdated, hnone⟩, hprocess rfl⟩

end Facts

end Steward
