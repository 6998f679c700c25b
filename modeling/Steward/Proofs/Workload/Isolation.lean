import Steward.Proofs.Workload.Outcomes

/-!
# Reads do not meddle with each other

A workload is put together from six reads. Each of them tells some fields, and no field that another one tells: two
platforms that differ in the answers to one read make workloads that differ in its fields at most (`Facts.isolated`).
Only the space is told to others, since droplets and replicas carry it along.

A read that fails where failing is allowed is as good as one that finds nothing.

## Contents

* `Replica.map_ordered` — replicas in order stay so when something else than their keys is changed;
* `Facts.DifferOnly` — platforms that differ in some answers only;
* `Facts.spaceOf_congr`, `environmentOf_congr`, `dropletOf_congr`, `replicasOf_congr` — what was read, on such platforms;
* `Facts.mapped_congr` — platforms on which mapping comes to the same;
* `Ingredients`, `Facts.Tell`, `Mapper.made` — what a workload is made of, who told it, and what is made of it;
  `Facts.exists_told` — every mapped workload is made so;
* `environment_isolated`, `process_isolated`, `droplet_isolated`, `instances_isolated`, `space_isolated` — the fields that
  each read tells;
* `mapped_of_environment`, `mapped_of_droplet`, `mapped_of_instances` — reads that fail;
* `Facts.isolated` — reads are isolated from each other.
-/

namespace Steward

/-- Replicas stand in the same order when something else than their keys is changed. -/
theorem Replica.map_ordered {f : Replica → Replica} (hf : ∀ r, (f r).key = r.key) (replicas : List Replica) :
    (ordered replicas).map f = ordered (replicas.map f) := by
  unfold ordered
  refine List.map_mergeSort fun a _ b _ => ?_
  rw [hf, hf]

/-! ## Platforms that differ -/

/-- **The platforms differ only in such answers**: other calls are answered alike, and the wall clock shows the same. -/
structure Facts.DifferOnly (differs : Call → Prop) (facts facts' : Facts) : Prop where
  call : ∀ c, ¬ differs c → facts.call c = facts'.call c
  clock : facts.clock = facts'.clock

namespace Facts

variable {differs : Call → Prop} {facts facts' : Facts} {record : AppRecord}

/-- Where two answers may differ, any other call is answered alike. -/
theorem DifferOnly.call_of_ne {a b c : Call} (h : DifferOnly (fun c => c = a ∨ c = b) facts facts') (ha : c ≠ a)
    (hb : c ≠ b) : facts.call c = facts'.call c :=
  h.call c (not_or.2 ⟨ha, hb⟩)

theorem spaceOf_congr (h : ∀ id, facts.call (.space id) = facts'.call (.space id)) :
    facts.spaceOf record = facts'.spaceOf record := by
  unfold spaceOf
  cases record.namedSpace with
  | none => rfl
  | some id => exact h id

theorem environmentOf_congr (h : facts.call (.environment record.guid) = facts'.call (.environment record.guid)) :
    facts.environmentOf record = facts'.environmentOf record := by
  unfold environmentOf
  rw [h]

theorem dropletOf_congr (hpackages : facts.call (.packages record.guid) = facts'.call (.packages record.guid))
    (hdroplet : facts.call (.droplet (some record.guid)) = facts'.call (.droplet (some record.guid)))
    (space : Option Space) : facts.dropletOf record space = facts'.dropletOf record space := by
  unfold dropletOf
  rw [hpackages, hdroplet]

/-- Replicas are told by the identifier and the place of a workload, besides what is read. -/
theorem replicasFrom_congr {w w' : Workload} (hid : w.id = w'.id) (hregion : w.region = w'.region)
    (answer : Except Fault (Option (Keyed.Map String InstanceReport))) (clock : Number) :
    w.replicasFrom answer clock = w'.replicasFrom answer clock := by
  unfold Workload.replicasFrom Workload.replicasAt
  rw [hid, hregion]

theorem replicasOf_congr {w w' : Workload} (hid : w.id = w'.id) (hregion : w.region = w'.region)
    (hinstances : facts.call (.instances w'.id) = facts'.call (.instances w'.id)) (hclock : facts.clock = facts'.clock)
    (state : RunState) : facts.replicasOf w state = facts'.replicasOf w' state := by
  unfold replicasOf
  rw [hid, hinstances, hclock, replicasFrom_congr hid hregion]

/-- The space of a droplet is the one that it is read with. -/
theorem dropletOf_space (facts : Facts) (record : AppRecord) (space space' : Option Space) :
    facts.dropletOf record space' = (facts.dropletOf record space).map fun d => { d with space := space' } := by
  unfold dropletOf
  cases facts.call (.packages record.guid) with
  | error f => rfl
  | ok packages =>
    cases facts.call (.droplet (some record.guid)) with
    | error f => rfl
    | ok droplet => cases droplet <;> rfl

/-- In another place replicas differ in their zones only, and stand in the same order. -/
theorem replicasOf_zone (facts : Facts) {w w' : Workload} (hid : w'.id = w.id) (state : RunState) :
    facts.replicasOf w' state = (facts.replicasOf w state).map fun r => { r with zone := w'.region } := by
  have hreplicas : ∀ millis reports, w'.replicasAt millis reports
      = (w.replicasAt millis reports).map fun r => { r with zone := w'.region } := by
    intro millis reports
    unfold Workload.replicasAt
    rw [Replica.map_ordered, List.map_map, hid]
    · rfl
    · intro r
      rfl
  have hanswer : ∀ answer, w'.replicasFrom answer facts.clock
      = (w.replicasFrom answer facts.clock).map fun r => { r with zone := w'.region } := by
    intro answer
    unfold Workload.replicasFrom
    cases answer with
    | error f => rfl
    | ok reports =>
      cases reports with
      | none => rfl
      | some reports =>
        cases facts.clock.millis? with
        | error why => rfl
        | ok millis => exact hreplicas millis reports
  cases state with
  | stopped => rfl
  | started =>
    unfold replicasOf
    rw [hid]
    exact hanswer _

/-- **Mapping comes to the same** if everything that is read comes to the same. -/
theorem mapped_congr (m : Mapper) (hspace : facts.spaceOf record = facts'.spaceOf record)
    (henvironment : facts.environmentOf record = facts'.environmentOf record)
    (hprocess : facts.call (.process record.guid) = facts'.call (.process record.guid))
    (hdroplet : ∀ space, facts.dropletOf record space = facts'.dropletOf record space)
    (hreplicas : ∀ w state, w.id = record.guid → facts.replicasOf w state = facts'.replicasOf w state) :
    facts.mapped m record = facts'.mapped m record := by
  have hfindings : ∀ state space environment process,
      facts.findings record state space environment process = facts'.findings record state space environment process := by
    intro state space environment process
    unfold findings
    rw [hdroplet]
  rw [mapped_eq, mapped_eq, hspace, henvironment, hprocess]
  refine bind_congr fun state => bind_congr fun space => ?_
  cases facts'.environmentOf record with
  | refused => rfl
  | read environment =>
    refine bind_congr fun process => ?_
    rw [hfindings]
    cases hassembled : m.assemble record (facts'.findings record state space environment process) with
    | error f => rfl
    | ok w =>
      show Except.ok (some { w with state, replicas := facts.replicasOf w state }) = _
      rw [hreplicas w state (assemble_eq_ok hassembled).1]
      rfl

end Facts

/-! ## Field by field -/

/-- What a workload is made of, but for its droplet and its replicas. -/
structure Ingredients where
  state : RunState
  space : Option Space
  environment : Option Environment
  process : Option ProcessInfo
  created : Int
  updated : Int
  build : BuildInfo
  artifact : ArtifactInfo
  pipelineId : Option String

/-- **This was told** by a record, and by the answers to the reads that belong to it. -/
structure Facts.Tell (facts : Facts) (record : AppRecord) (i : Ingredients) : Prop where
  state : RunState.parse record.state = .ok i.state
  space : facts.spaceOf record = .ok i.space
  environment : facts.environmentOf record = .read i.environment
  process : facts.call (.process record.guid) = .ok i.process
  created : record.createdMillis = .ok i.created
  updated : record.updatedMillis = .ok i.updated
  build : BuildInfo.ofVariables (variablesOf i.environment) = .ok i.build
  artifact : ArtifactInfo.ofVariables (variablesOf i.environment) = .ok i.artifact
  pipelineId : Provenance.pipelineId.read (variablesOf i.environment) = .ok i.pipelineId

/-- The workload that is made of these. -/
def Mapper.made (m : Mapper) (record : AppRecord) (i : Ingredients) (droplet : Option Droplet)
    (replicas : List Replica) : Workload :=
  { id := record.guid
    name := record.name
    account := m.account
    space := i.space
    state := i.state
    memory := i.process.bind (·.memory)
    diskQuota := i.process.bind (·.disk)
    createdTime := i.created
    updatedTime := i.updated
    healthCheckType := (i.process.bind (·.healthCheck)).bind (·.type)
    healthCheckEndpoint := ((i.process.bind (·.healthCheck)).bind (·.data)).bind (·.endpoint)
    bindings := bindingsOf i.environment
    env := variablesOf i.environment
    build := i.build
    artifact := i.artifact
    pipelineId := i.pipelineId
    droplet
    replicas
    appsManagerUri := m.appsManagerOf record.guid i.space
    metricsUri := m.metricsOf record.guid }

/-- A workload of which nothing is known but its identifier and its space. -/
def Workload.inSpace (id : String) (space : Option Space) : Workload :=
  { (default : Workload) with id, space }

namespace Facts

variable {facts facts' : Facts} {m : Mapper} {record : AppRecord} {i i' : Ingredients} {w : Workload}

/-- The replicas that belong to the ingredients of a workload. An identifier and a space are enough to tell them. -/
def replicasFor (facts : Facts) (record : AppRecord) (i : Ingredients) : List Replica :=
  facts.replicasOf (.inSpace record.guid i.space) i.state

/-- **A mapped workload** is made of what was told. -/
theorem exists_told (h : facts.mapped m record = .ok (some w)) : ∃ i, facts.Tell record i ∧
    w = m.made record i (facts.dropletOf record i.space) (facts.replicasFor record i) := by
  obtain ⟨state, space, environment, process, assembled, hstate, hspace, henvironment, hprocess, hassembled, rfl⟩ :=
    mapped_eq_some_iff.1 h
  unfold Mapper.assemble at hassembled
  obtain ⟨created, hcreated, hassembled⟩ := except_bind_eq_ok.1 hassembled
  obtain ⟨updated, hupdated, hassembled⟩ := except_bind_eq_ok.1 hassembled
  obtain ⟨build, hbuild, hassembled⟩ := except_bind_eq_ok.1 hassembled
  obtain ⟨artifact, hartifact, hassembled⟩ := except_bind_eq_ok.1 hassembled
  obtain ⟨pipelineId, hpipelineId, hassembled⟩ := except_bind_eq_ok.1 hassembled
  cases hassembled
  refine ⟨⟨state, space, environment, process, created, updated, build, artifact, pipelineId⟩,
    ⟨hstate, hspace, henvironment, hprocess, hcreated, hupdated, hbuild, hartifact, hpipelineId⟩, ?_⟩
  unfold replicasFor
  rw [← replicasOf_congr rfl rfl rfl rfl]
  rfl

namespace Tell

theorem state_eq (h : facts.Tell record i) (h' : facts'.Tell record i') : i'.state = i.state :=
  Except.ok.inj (h'.state.symm.trans h.state)

theorem times_eq (h : facts.Tell record i) (h' : facts'.Tell record i') :
    i'.created = i.created ∧ i'.updated = i.updated :=
  ⟨Except.ok.inj (h'.created.symm.trans h.created), Except.ok.inj (h'.updated.symm.trans h.updated)⟩

theorem space_eq (h : facts.Tell record i) (h' : facts'.Tell record i')
    (hcall : ∀ id, facts.call (.space id) = facts'.call (.space id)) : i'.space = i.space := by
  have hspace := h.space
  rw [spaceOf_congr hcall] at hspace
  exact Except.ok.inj (h'.space.symm.trans hspace)

theorem process_eq (h : facts.Tell record i) (h' : facts'.Tell record i')
    (hcall : facts.call (.process record.guid) = facts'.call (.process record.guid)) : i'.process = i.process := by
  have hprocess := h.process
  rw [hcall] at hprocess
  exact Except.ok.inj (h'.process.symm.trans hprocess)

/-- The environment tells the metadata as well. -/
theorem environment_eq (h : facts.Tell record i) (h' : facts'.Tell record i')
    (hcall : facts.call (.environment record.guid) = facts'.call (.environment record.guid)) :
    i'.environment = i.environment ∧ i'.build = i.build ∧ i'.artifact = i.artifact ∧ i'.pipelineId = i.pipelineId := by
  have henvironment := h.environment
  rw [environmentOf_congr hcall, h'.environment] at henvironment
  have hsame : i'.environment = i.environment := EnvironmentRead.read.inj henvironment
  have hbuild := h'.build
  have hartifact := h'.artifact
  have hpipelineId := h'.pipelineId
  rw [hsame] at hbuild hartifact hpipelineId
  exact ⟨hsame, Except.ok.inj (hbuild.symm.trans h.build), Except.ok.inj (hartifact.symm.trans h.artifact),
    Except.ok.inj (hpipelineId.symm.trans h.pipelineId)⟩

end Tell

theorem replicasFor_congr (hi : facts.Tell record i) (hi' : facts'.Tell record i') (hspace : i'.space = i.space)
    (hinstances : facts.call (.instances record.guid) = facts'.call (.instances record.guid))
    (hclock : facts.clock = facts'.clock) : facts'.replicasFor record i' = facts.replicasFor record i := by
  unfold replicasFor
  rw [hspace, hi.state_eq hi']
  exact replicasOf_congr rfl rfl hinstances.symm hclock.symm i.state

section

variable {w' : Workload} (hw : facts.mapped m record = .ok (some w)) (hw' : facts'.mapped m record = .ok (some w'))

include hw hw'

/-- **The environment** tells itself, the bindings and the metadata. -/
theorem environment_isolated (h : DifferOnly (· = .environment record.guid) facts facts') :
    w' = { w with
      env := w'.env, bindings := w'.bindings, build := w'.build, artifact := w'.artifact
      pipelineId := w'.pipelineId } := by
  obtain ⟨i, hi, rfl⟩ := exists_told hw
  obtain ⟨i', hi', rfl⟩ := exists_told hw'
  have hspace : i'.space = i.space := hi.space_eq hi' fun id => h.call _ nofun
  have hprocess : i'.process = i.process := hi.process_eq hi' (h.call _ nofun)
  have hreplicas := replicasFor_congr hi hi' hspace (h.call _ nofun) h.clock
  have hdroplet := dropletOf_congr (h.call (.packages record.guid) nofun) (h.call _ nofun) i.space
  obtain ⟨hcreated, hupdated⟩ := hi.times_eq hi'
  unfold Mapper.made
  rw [hreplicas, hspace, hdroplet, hi.state_eq hi', hprocess, hcreated, hupdated]

/-- **The process** tells quotas and the health check. -/
theorem process_isolated (h : DifferOnly (· = .process record.guid) facts facts') :
    w' = { w with
      memory := w'.memory, diskQuota := w'.diskQuota, healthCheckType := w'.healthCheckType
      healthCheckEndpoint := w'.healthCheckEndpoint } := by
  obtain ⟨i, hi, rfl⟩ := exists_told hw
  obtain ⟨i', hi', rfl⟩ := exists_told hw'
  have hspace : i'.space = i.space := hi.space_eq hi' fun id => h.call _ nofun
  have hreplicas := replicasFor_congr hi hi' hspace (h.call _ nofun) h.clock
  have hdroplet := dropletOf_congr (h.call (.packages record.guid) nofun) (h.call _ nofun) i.space
  obtain ⟨hcreated, hupdated⟩ := hi.times_eq hi'
  obtain ⟨henvironment, hbuild, hartifact, hpipelineId⟩ := hi.environment_eq hi' (h.call _ nofun)
  unfold Mapper.made
  rw [hreplicas, hspace, hdroplet, hi.state_eq hi', henvironment, hbuild, hartifact, hpipelineId, hcreated, hupdated]

/-- **The packages and the droplet** tell the droplet. -/
theorem droplet_isolated
    (h : DifferOnly (fun c => c = .packages record.guid ∨ c = .droplet (some record.guid)) facts facts') :
    w' = { w with droplet := w'.droplet } := by
  obtain ⟨i, hi, rfl⟩ := exists_told hw
  obtain ⟨i', hi', rfl⟩ := exists_told hw'
  have hspace : i'.space = i.space := hi.space_eq hi' fun id => h.call_of_ne nofun nofun
  have hprocess : i'.process = i.process := hi.process_eq hi' (h.call_of_ne nofun nofun)
  have hreplicas := replicasFor_congr hi hi' hspace (h.call_of_ne nofun nofun) h.clock
  obtain ⟨hcreated, hupdated⟩ := hi.times_eq hi'
  obtain ⟨henvironment, hbuild, hartifact, hpipelineId⟩ := hi.environment_eq hi' (h.call_of_ne nofun nofun)
  unfold Mapper.made
  rw [hreplicas, hspace, hi.state_eq hi', hprocess, henvironment, hbuild, hartifact, hpipelineId, hcreated, hupdated]

/-- **The instances** tell the replicas. -/
theorem instances_isolated (h : DifferOnly (· = .instances record.guid) facts facts') :
    w' = { w with replicas := w'.replicas } := by
  obtain ⟨i, hi, rfl⟩ := exists_told hw
  obtain ⟨i', hi', rfl⟩ := exists_told hw'
  have hspace : i'.space = i.space := hi.space_eq hi' fun id => h.call _ nofun
  have hprocess : i'.process = i.process := hi.process_eq hi' (h.call _ nofun)
  have hdroplet := dropletOf_congr (h.call (.packages record.guid) nofun) (h.call _ nofun) i.space
  obtain ⟨hcreated, hupdated⟩ := hi.times_eq hi'
  obtain ⟨henvironment, hbuild, hartifact, hpipelineId⟩ := hi.environment_eq hi' (h.call _ nofun)
  unfold Mapper.made
  rw [hspace, hdroplet, hi.state_eq hi', hprocess, henvironment, hbuild, hartifact, hpipelineId, hcreated, hupdated]

/-- **The space** tells itself and the address of the application, and the space of the droplet and of the replicas. -/
theorem space_isolated (h : DifferOnly (fun c => ∃ id, c = .space id) facts facts') :
    w' = { w with
      space := w'.space, appsManagerUri := w'.appsManagerUri
      droplet := w.droplet.map fun d => { d with space := w'.space }
      replicas := w.replicas.map fun r => { r with zone := w'.region } } := by
  have hcall : ∀ c, (∀ id, c ≠ .space id) → facts.call c = facts'.call c :=
    fun c hother => h.call c fun ⟨id, hid⟩ => hother id hid
  obtain ⟨i, hi, rfl⟩ := exists_told hw
  obtain ⟨i', hi', rfl⟩ := exists_told hw'
  have hstate := hi.state_eq hi'
  have hprocess : i'.process = i.process := hi.process_eq hi' (hcall _ nofun)
  obtain ⟨hcreated, hupdated⟩ := hi.times_eq hi'
  obtain ⟨henvironment, hbuild, hartifact, hpipelineId⟩ := hi.environment_eq hi' (hcall _ nofun)
  have hdroplet : facts'.dropletOf record i'.space
      = (facts.dropletOf record i.space).map fun d => { d with space := i'.space } := by
    rw [← dropletOf_congr (hcall (.packages record.guid) nofun) (hcall _ nofun)]
    exact dropletOf_space facts record i.space i'.space
  have hreplicas : facts'.replicasFor record i'
      = (facts.replicasFor record i).map fun r => { r with zone := i'.space.bind (·.name) } := by
    have hid : (Workload.inSpace record.guid i'.space).id = (Workload.inSpace record.guid i.space).id := rfl
    unfold replicasFor
    rw [hstate, ← replicasOf_congr rfl rfl (hcall (.instances record.guid) nofun) h.clock]
    exact facts.replicasOf_zone hid i.state
  unfold Mapper.made
  rw [hdroplet, hreplicas, hstate, hprocess, henvironment, hbuild, hartifact, hpipelineId, hcreated, hupdated]
  rfl

end

/-! ## Reads that fail -/

section

variable (m)

theorem mapped_of_environment (h : DifferOnly (· = .environment record.guid) facts facts')
    (hfails : ∃ f, facts.call (.environment record.guid) = .error f ∧ f.isRefusal = false)
    (hnone : facts'.call (.environment record.guid) = .ok none) : facts.mapped m record = facts'.mapped m record := by
  have henvironment : facts.environmentOf record = facts'.environmentOf record := by
    obtain ⟨f, hf, hrefusal⟩ := hfails
    unfold environmentOf EnvironmentRead.ofAnswer
    rw [hf, hnone]
    exact if_neg (by simp [hrefusal])
  refine mapped_congr m (spaceOf_congr fun id => h.call _ nofun) henvironment (h.call _ nofun)
    (dropletOf_congr (h.call _ nofun) (h.call _ nofun)) fun w state hid => ?_
  exact replicasOf_congr rfl rfl (h.call _ nofun) h.clock state

/-- There is no droplet if it or its packages cannot be read, or if it is not there. -/
theorem dropletOf_eq_none (hnone : (∃ f, facts.call (.packages record.guid) = .error f) ∨
      (∃ f, facts.call (.droplet (some record.guid)) = .error f) ∨
      facts.call (.droplet (some record.guid)) = .ok none) (space : Option Space) :
    facts.dropletOf record space = none := by
  unfold dropletOf
  rcases hnone with ⟨f, hf⟩ | ⟨f, hf⟩ | hnone
  · rw [hf]
  · rw [hf]
    cases facts.call (.packages record.guid) <;> rfl
  · rw [hnone]
    cases facts.call (.packages record.guid) <;> rfl

theorem mapped_of_droplet
    (h : DifferOnly (fun c => c = .packages record.guid ∨ c = .droplet (some record.guid)) facts facts')
    (hnone : ∀ space, facts.dropletOf record space = none) (hnone' : ∀ space, facts'.dropletOf record space = none) :
    facts.mapped m record = facts'.mapped m record := by
  refine mapped_congr m (spaceOf_congr fun id => h.call_of_ne nofun nofun) (environmentOf_congr (h.call_of_ne nofun nofun))
    (h.call_of_ne nofun nofun) (fun space => (hnone space).trans (hnone' space).symm) fun w state hid => ?_
  exact replicasOf_congr rfl rfl (h.call_of_ne nofun nofun) h.clock state

theorem mapped_of_instances (h : DifferOnly (· = .instances record.guid) facts facts')
    (hfails : ∃ f, facts.call (.instances record.guid) = .error f)
    (hnone : facts'.call (.instances record.guid) = .ok none) : facts.mapped m record = facts'.mapped m record := by
  refine mapped_congr m (spaceOf_congr fun id => h.call _ nofun) (environmentOf_congr (h.call _ nofun))
    (h.call _ nofun) (dropletOf_congr (h.call _ nofun) (h.call _ nofun)) fun w state hid => ?_
  rw [← hid] at hfails hnone
  rw [replicasOf_eq_nil facts w (Or.inl hfails), replicasOf_eq_nil facts' w (Or.inr (Or.inl hnone))]

end

/-- **Reads are isolated from each other.**

If two platforms differ only in the answer to one read, and there is a workload on both, the workloads differ only in
the fields that this read tells. Of the space a droplet and replicas have a field as well, and nothing else of them
depends on it.

If one platform fails where the other one finds nothing, mapping comes to the same on both: for the environment unless
it is refused, for the droplet and for the instances. Packages that cannot be read count as a droplet that is not
there. -/
theorem isolated (m : Mapper) (record : AppRecord) (facts facts' : Facts) :
    (∀ w w', facts.mapped m record = .ok (some w) → facts'.mapped m record = .ok (some w') →
      (DifferOnly (· = .environment record.guid) facts facts' →
        w' = { w with
          env := w'.env, bindings := w'.bindings, build := w'.build, artifact := w'.artifact
          pipelineId := w'.pipelineId }) ∧
      (DifferOnly (· = .process record.guid) facts facts' →
        w' = { w with
          memory := w'.memory, diskQuota := w'.diskQuota, healthCheckType := w'.healthCheckType
          healthCheckEndpoint := w'.healthCheckEndpoint }) ∧
      (DifferOnly (fun c => c = .packages record.guid ∨ c = .droplet (some record.guid)) facts facts' →
        w' = { w with droplet := w'.droplet }) ∧
      (DifferOnly (· = .instances record.guid) facts facts' → w' = { w with replicas := w'.replicas }) ∧
      (DifferOnly (fun c => ∃ id, c = .space id) facts facts' →
        w' = { w with
          space := w'.space, appsManagerUri := w'.appsManagerUri
          droplet := w.droplet.map fun d => { d with space := w'.space }
          replicas := w.replicas.map fun r => { r with zone := w'.region } })) ∧
    (DifferOnly (· = .environment record.guid) facts facts' →
      (∃ f, facts.call (.environment record.guid) = .error f ∧ f.isRefusal = false) →
      facts'.call (.environment record.guid) = .ok none → facts.mapped m record = facts'.mapped m record) ∧
    (DifferOnly (· = .droplet (some record.guid)) facts facts' →
      (∃ f, facts.call (.droplet (some record.guid)) = .error f) →
      facts'.call (.droplet (some record.guid)) = .ok none → facts.mapped m record = facts'.mapped m record) ∧
    (DifferOnly (· = .instances record.guid) facts facts' →
      (∃ f, facts.call (.instances record.guid) = .error f) →
      facts'.call (.instances record.guid) = .ok none → facts.mapped m record = facts'.mapped m record) ∧
    (DifferOnly (fun c => c = .packages record.guid ∨ c = .droplet (some record.guid)) facts facts' →
      (∃ f, facts.call (.packages record.guid) = .error f) →
      facts'.call (.droplet (some record.guid)) = .ok none → facts.mapped m record = facts'.mapped m record) := by
  refine ⟨fun w w' hw hw' => ?_, mapped_of_environment m, ?_, mapped_of_instances m, ?_⟩
  · exact ⟨environment_isolated hw hw', process_isolated hw hw', droplet_isolated hw hw', instances_isolated hw hw',
      space_isolated hw hw'⟩
  · intro h hfails hnone
    have hdiffer : DifferOnly (fun c => c = .packages record.guid ∨ c = .droplet (some record.guid)) facts facts' :=
      ⟨fun c hc => h.call c (not_or.1 hc).2, h.clock⟩
    exact mapped_of_droplet m hdiffer (dropletOf_eq_none (Or.inr (Or.inl hfails)))
      (dropletOf_eq_none (Or.inr (Or.inr hnone)))
  · intro h hfails hnone
    exact mapped_of_droplet m h (dropletOf_eq_none (Or.inl hfails)) (dropletOf_eq_none (Or.inr (Or.inr hnone)))

/-- The platform that falters, but for the environment of one application. -/
def readable : Facts where
  call
    | .environment id => if id = "app-1" then .ok (some ⟨some [("TIER", .text "gold")], ⟨[]⟩⟩) else .error .cancelled
    | c => faltering.call c
  clock := faltering.clock

/-- Whether its environment can be read or not decides nothing but the environment of a workload. -/
theorem isolated_readable :
    DifferOnly (· = .environment shopApp.guid) faltering readable ∧
      ∃ w w', faltering.mapped default shopApp = .ok (some w) ∧ readable.mapped default shopApp = .ok (some w') ∧
        w.env.map (·.1) = [] ∧ w'.env.map (·.1) = ["TIER"] ∧
        w' = { w with
          env := w'.env, bindings := w'.bindings, build := w'.build, artifact := w'.artifact
          pipelineId := w'.pipelineId } := by
  have hdiffer : DifferOnly (· = .environment shopApp.guid) faltering readable := by
    refine ⟨fun c hc => ?_, rfl⟩
    cases c with
    | environment id =>
      have hid : id ≠ "app-1" := fun h => hc (congrArg Call.environment h)
      exact (if_neg hid).symm
    | _ => rfl
  have hmapped : ∀ facts : Facts, ∀ names, ((facts.remapped default shopApp).map fun w => w.env.map (·.1)) = some names →
      ∃ w, facts.mapped default shopApp = .ok (some w) ∧ w.env.map (·.1) = names := by
    intro facts names hnames
    obtain ⟨w, hw, rfl⟩ := Option.map_eq_some_iff.1 hnames
    unfold remapped at hw
    cases hfacts : facts.mapped default shopApp with
    | error f =>
      rw [hfacts] at hw
      cases hw
    | ok found =>
      rw [hfacts] at hw
      cases hw
      exact ⟨w, rfl, rfl⟩
  obtain ⟨w, hw, hnames⟩ := hmapped faltering [] (by decide +kernel)
  obtain ⟨w', hw', hnames'⟩ := hmapped readable ["TIER"] (by decide +kernel)
  obtain ⟨henvironment, -⟩ := (isolated default shopApp faltering readable).1 w w' hw hw'
  exact ⟨hdiffer, w, w', hw, hw', hnames, hnames', henvironment hdiffer⟩

end Facts

end Steward
