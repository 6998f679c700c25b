import Steward.Proofs.Deployment.Operations

/-!
# Methods of the pipeline

What a caller of the pipeline can ask for, as one type. Every method makes one call and judges the answer to it; two of
them may find out before that there is nothing to call with. What becomes of a failed call, and of a call that is
answered with nothing, is read off the judgements.

## Contents

* `Method` — the methods, `Method.program` — what they do; `Pipeline.CarriesOver` — properties that they hand on;
* `Commission` — a call with the judgement of its answer, `Method.commission` — the one of each method;
* `Method.runs` — a run of a method is its one call, or none where there is no commission;
* `Fault.Translates` — the failure that a failed call becomes; `Method.OnNothing` — what an empty answer becomes;
* `Method.judges_outcome` — what the answer makes of the outcome.
-/

namespace Steward

variable {τ : Type}

/-! ## Methods -/

/-- What a caller of the pipeline can ask for. -/
inductive Method where
  | createPackage (app : Option String)
  | uploadBits (package : Option String) (artifact : Artifact)
  | pollPackage (id : Option String)
  | currentPackage (app : Option String)
  | downloadBits (package : Option String)
  | createBuild (package : Option String)
  | pollBuild (id : Option String)
  | dropletOfBuild (id : Option String)
  | setDroplet (app droplet : Option String)
  | start (app : Option String)
  | stop (app : Option String)
  | restage (app : Option String)
  | deleteInstance (app : Option String) (index : Value)
  | mapRoute (app route : Option String)
  | unmapRoute (app route : Option String)

/-- A call of the platform, the operation that makes it, and what its answer says. -/
structure Commission (α : Type) where
  operation : Operation
  call : Call
  judge : call.Answer → Except Fault α

/-- The outcome by the answer. -/
def Commission.outcome {α : Type} (c : Commission α) (answer : Except Fault c.call.Answer) : Except Fault α :=
  Pipeline.operated c.operation answer >>= c.judge

namespace Method

/-- What a method returns. -/
abbrev Result : Method → Type
  | createPackage _ | uploadBits .. | createBuild _ => String
  | pollPackage _ | pollBuild _ => Readiness
  | currentPackage _ | dropletOfBuild _ => Option String
  | downloadBits _ => ByteArray
  | setDroplet .. | start _ | stop _ | restage _ | deleteInstance .. | mapRoute .. | unmapRoute .. => Unit

/-- What a method does. -/
def program : (m : Method) → Attempt (Staging τ) m.Result
  | createPackage app => Pipeline.createPackage app
  | uploadBits package artifact => Pipeline.uploadBits package artifact
  | pollPackage id => Pipeline.pollPackage id
  | currentPackage app => Pipeline.currentPackage app
  | downloadBits package => Pipeline.downloadBits package
  | createBuild package => Pipeline.createBuild package
  | pollBuild id => Pipeline.pollBuild id
  | dropletOfBuild id => Pipeline.dropletOfBuild id
  | setDroplet app droplet => Pipeline.setDroplet app droplet
  | start app => Pipeline.start app
  | stop app => Pipeline.stop app
  | restage app => Pipeline.restage app
  | deleteInstance app index => Pipeline.deleteInstance app index
  | mapRoute app route => Pipeline.mapRoute app route
  | unmapRoute app route => Pipeline.unmapRoute app route

end Method

/-- **A property of programs that carries over**: reports and calls have it, and so does what is put together of programs
that have it. -/
structure Pipeline.CarriesOver (P : {α : Type} → Attempt (Staging τ) α → Prop) : Prop where
  pure : ∀ {α : Type} (a : α), P (Pure.pure a : Attempt (Staging τ) α)
  throw : ∀ {α : Type} (f : Fault), P (MonadExcept.throw f : Attempt (Staging τ) α)
  bind : ∀ {α β : Type} {p : Attempt (Staging τ) α} {f : α → Attempt (Staging τ) β}, P p → (∀ a, P (f a)) → P (p >>= f)
  report : ∀ level text fields, P (Staging.report level text fields : Attempt (Staging τ) Unit)
  operate : ∀ operation c, P (Pipeline.operate operation c : Attempt (Staging τ) c.Answer)

namespace Pipeline.CarriesOver

variable {P : {α : Type} → Attempt (Staging τ) α → Prop}

theorem ofExcept (h : CarriesOver P) {α : Type} (o : Except Fault α) : P (.ofExcept o : Attempt (Staging τ) α) := by
  cases o with
  | ok a => exact h.pure a
  | error f => exact h.throw f

/-- **It carries over to every method.** -/
theorem program (h : CarriesOver P) (m : Method) : P (m.program : Attempt (Staging τ) m.Result) := by
  cases m with
  | createPackage app =>
    refine h.bind (h.operate _ _) fun made => ?_
    cases made with
    | none => exact h.throw _
    | some p => exact h.bind (h.report _ _ _) fun _ => h.pure _
  | uploadBits package artifact =>
    show P (Pipeline.uploadBits package artifact)
    unfold Pipeline.uploadBits
    cases artifact.bits with
    | none => exact h.throw _
    | some bits =>
      refine h.bind (h.operate _ _) fun taken => ?_
      cases taken with
      | none => exact h.throw _
      | some p => exact h.bind (h.report _ _ _) fun _ => h.pure _
  | createBuild package =>
    refine h.bind (h.operate _ _) fun made => ?_
    cases made with
    | none => exact h.throw _
    | some b => exact h.bind (h.report _ _ _) fun _ => h.pure _
  | pollPackage id | pollBuild id => exact h.bind (h.operate _ _) fun _ => h.ofExcept _
  | currentPackage app => exact h.bind (h.operate _ _) fun _ => h.pure _
  | dropletOfBuild id => exact h.bind (h.operate _ _) fun _ => h.pure _
  | downloadBits package =>
    refine h.bind (h.operate _ _) fun bits => ?_
    cases bits with
    | none => exact h.throw _
    | some bits => exact h.pure _
  | setDroplet app droplet => exact h.bind (h.operate _ _) fun _ => h.report _ _ _
  | deleteInstance app index =>
    show P (Pipeline.deleteInstance app index)
    unfold Pipeline.deleteInstance
    cases index.display with
    | none => exact h.throw _
    | some text => exact h.operate _ _
  | start app | stop app | restage app | mapRoute app route | unmapRoute app route => exact h.operate _ _

end Pipeline.CarriesOver

namespace Method

/-- What an answer must hold, if nothing else is asked of it. -/
def expected {α β : Type} (operation : Operation) (f : α → β) : Option α → Except Fault β
  | none => .error (.unanswered operation)
  | some a => .ok (f a)

/-- A judgement that agrees with this one on nothing and on something is the same. -/
theorem bind_expected {α β : Type} {operation : Operation} {f : α → β} {judge : Option α → Except Fault β}
    (answer : Except Fault (Option α)) (hnone : judge none = .error (.unanswered operation))
    (hsome : ∀ a, judge (some a) = .ok (f a)) : answer >>= judge = answer >>= expected operation f := by
  have hjudge : judge = expected operation f := by
    funext a
    cases a with
    | none => exact hnone
    | some a => exact hsome a
  rw [hjudge]

theorem packageMade_eq (answer : Except Fault (Option Package)) : Pipeline.packageMade answer =
    Pipeline.operated .createPackage answer >>= expected .createPackage Package.guid :=
  bind_expected _ rfl fun _ => rfl

theorem bitsTaken_eq (answer : Except Fault (Option Package)) : Pipeline.bitsTaken answer =
    Pipeline.operated .uploadBits answer >>= expected .uploadBits Package.guid :=
  bind_expected _ rfl fun _ => rfl

theorem buildMade_eq (answer : Except Fault (Option Build)) : Pipeline.buildMade answer =
    Pipeline.operated .createBuild answer >>= expected .createBuild Build.guid :=
  bind_expected _ rfl fun _ => rfl

/-- The call that a method makes; or why it makes none, for an artifact that cannot be opened and an index that has no
text. -/
def commission : (m : Method) → Except Fault (Commission m.Result)
  | createPackage app => .ok ⟨.createPackage, .createPackage app, expected .createPackage Package.guid⟩
  | uploadBits package artifact =>
    match artifact.bits with
    | none => .error .artifactMissing
    | some bits => .ok ⟨.uploadBits, .uploadBits package bits artifact.name, expected .uploadBits Package.guid⟩
  | pollPackage id => .ok ⟨.packageReady, .package id, Pipeline.packageReadiness id⟩
  | currentPackage app => .ok ⟨.findCurrentPackage, .droplet app, fun d => .ok (d.bind Pipeline.packageOf)⟩
  | downloadBits package => .ok ⟨.downloadBits, .downloadBits package, expected .downloadBits id⟩
  | createBuild package => .ok ⟨.createBuild, .createBuild package, expected .createBuild Build.guid⟩
  | pollBuild id => .ok ⟨.buildReady, .build id, Pipeline.buildReadiness⟩
  | dropletOfBuild id => .ok ⟨.dropletFromBuild, .build id, fun b => .ok ((b.bind (·.droplet)).map (·.guid))⟩
  | setDroplet app droplet => .ok ⟨.setDroplet, .setDroplet app droplet, .ok⟩
  | start app => .ok ⟨.start, .start app, .ok⟩
  | stop app => .ok ⟨.stop, .stop app, .ok⟩
  | restage app => .ok ⟨.restage, .restage app, .ok⟩
  | deleteInstance app index =>
    match index.display with
    | none => .error .integerTooLong
    | some index => .ok ⟨.deleteInstance, .deleteInstance app index, .ok⟩
  | mapRoute app route => .ok ⟨.mapRoute, .mapRoute app route, .ok⟩
  | unmapRoute app route => .ok ⟨.unmapRoute, .unmapRoute app route, .ok⟩

/-- Whether there is something to call with. -/
def IsPossible : Method → Prop
  | uploadBits _ artifact => artifact.bits ≠ none
  | deleteInstance _ index => index.display ≠ none
  | _ => True

/-- A method makes a call exactly if there is something to call with. -/
theorem isPossible_iff (m : Method) : m.IsPossible ↔ ∃ c, m.commission = .ok c := by
  cases m with
  | uploadBits package artifact =>
    cases hbits : artifact.bits <;> simp [IsPossible, commission, hbits]
  | deleteInstance app index =>
    cases hindex : index.display <;> simp [IsPossible, commission, hindex]
  | _ => simp [IsPossible, commission]

/-- An artifact is uploaded with its bits. -/
theorem commission_uploadBits {package : Option String} {artifact : Artifact} {c : Commission String}
    (hm : (uploadBits package artifact).commission = .ok c) : ∃ bits, artifact.bits = some bits ∧
      c = ⟨.uploadBits, .uploadBits package bits artifact.name, expected .uploadBits Package.guid⟩ := by
  unfold commission at hm
  cases hbits : artifact.bits with
  | none => simp [hbits] at hm
  | some bits =>
    simp only [hbits] at hm
    exact ⟨bits, rfl, (Except.ok.inj hm).symm⟩

/-- An instance is deleted by the text of its index. -/
theorem commission_deleteInstance {app : Option String} {index : Value} {c : Commission Unit}
    (hm : (deleteInstance app index).commission = .ok c) : ∃ text, index.display = some text ∧
      c = ⟨.deleteInstance, .deleteInstance app text, .ok⟩ := by
  unfold commission at hm
  cases hindex : index.display with
  | none => simp [hindex] at hm
  | some text =>
    simp only [hindex] at hm
    exact ⟨text, rfl, (Except.ok.inj hm).symm⟩

/-! ## Runs -/

variable {t : List (Exchange (Staging τ))}

/-- An operation whose answer is passed on. -/
theorem runs_plain {operation : Operation} {c : Call} {o : Except Fault c.Answer}
    (h : Stages (Pipeline.operate operation c) t o) :
    ∃ answer, calls t = [⟨c, answer⟩] ∧ o = (⟨operation, c, .ok⟩ : Commission c.Answer).outcome answer := by
  obtain ⟨-, answer, hcalls, ho⟩ := Pipeline.runs_operate h
  refine ⟨answer, hcalls, ho.trans ?_⟩
  unfold Commission.outcome
  cases Pipeline.operated operation answer with
  | ok a => rfl
  | error f => rfl

/-- **Every method is one call**, if it makes any. -/
theorem runs {m : Method} {c : Commission m.Result} (hm : m.commission = .ok c) {o : Except Fault m.Result}
    (h : Stages m.program t o) : ∃ answer, calls t = [⟨c.call, answer⟩] ∧ o = c.outcome answer := by
  cases m with
  | createPackage app =>
    cases hm
    obtain ⟨-, answer, hcalls, ho⟩ := Pipeline.runs_createPackage h
    exact ⟨answer, hcalls, ho.trans (packageMade_eq answer)⟩
  | uploadBits package artifact =>
    obtain ⟨bits, hbits, rfl⟩ := commission_uploadBits hm
    obtain ⟨-, ⟨hmissing, -⟩ | ⟨_, answer, hsame, hcalls, ho⟩⟩ := Pipeline.runs_uploadBits h
    · rw [hbits] at hmissing
      cases hmissing
    · obtain rfl := Option.some.inj (hbits.symm.trans hsame)
      exact ⟨answer, hcalls, ho.trans (bitsTaken_eq answer)⟩
  | pollPackage id =>
    cases hm
    exact (Pipeline.runs_pollPackage h).2
  | currentPackage app =>
    cases hm
    refine (Pipeline.runs_operate_bind h ?_).2
    intro t droplet o h
    exact Staging.runs_pure h
  | downloadBits package =>
    cases hm
    refine (Pipeline.runs_operate_bind h ?_).2
    intro t bits o h
    cases bits with
    | none => exact Staging.runs_throw h
    | some bits => exact Staging.runs_pure h
  | createBuild package =>
    cases hm
    obtain ⟨-, answer, hcalls, ho⟩ := Pipeline.runs_createBuild h
    exact ⟨answer, hcalls, ho.trans (buildMade_eq answer)⟩
  | pollBuild id =>
    cases hm
    exact (Pipeline.runs_pollBuild h).2
  | dropletOfBuild id =>
    cases hm
    exact (Pipeline.runs_dropletOfBuild h).2
  | setDroplet app droplet =>
    cases hm
    refine (Pipeline.runs_operate_bind h ?_).2
    intro t a o h
    obtain ⟨⟨⟨⟩, ho⟩, hcalls, hsaves⟩ := Staging.runs_quiet rfl h
    exact ⟨hcalls, hsaves, ho⟩
  | deleteInstance app index =>
    change Stages (Pipeline.deleteInstance app index) t o at h
    unfold Pipeline.deleteInstance at h
    obtain ⟨text, hindex, rfl⟩ := commission_deleteInstance hm
    rw [hindex] at h
    exact runs_plain h
  | start app | stop app | restage app | mapRoute app route | unmapRoute app route =>
    cases hm
    exact runs_plain h

/-- Without anything to call with there is no call. -/
theorem runs_impossible {m : Method} {f : Fault} (hm : m.commission = .error f) {o : Except Fault m.Result}
    (h : Stages m.program t o) : calls t = [] ∧ o = .error f := by
  cases m with
  | uploadBits package artifact =>
    obtain ⟨-, ⟨hmissing, hcalls, ho⟩ | ⟨bits, answer, hbits, -⟩⟩ := Pipeline.runs_uploadBits h
    · simp only [commission, hmissing] at hm
      cases hm
      exact ⟨hcalls, ho⟩
    · simp [commission, hbits] at hm
  | deleteInstance app index =>
    change Stages (Pipeline.deleteInstance app index) t o at h
    unfold Pipeline.deleteInstance at h
    cases hindex : index.display with
    | some text => simp [commission, hindex] at hm
    | none =>
      simp only [commission, hindex] at hm
      cases hm
      rw [hindex] at h
      obtain ⟨hcalls, -, ho⟩ := Staging.runs_throw h
      exact ⟨hcalls, ho⟩
  | _ => cases hm

end Method

/-! ## What becomes of the answer -/

/-- A failure of the pipeline that stands for a failed call: nothing is given up, and the code and the cause are those
of the call. -/
structure Fault.Translates (g f : Fault) : Prop where
  category : g.category = .pipeline
  curable : g.isTerminal = false
  code : g.code = f.code
  cause : g.cause = some f

theorem Fault.operationFailed_translates (operation : Operation) (f : Fault) :
    (Fault.operationFailed operation f).Translates f :=
  ⟨rfl, rfl, rfl, rfl⟩

/-- Whether a call is answered with nothing. -/
def Call.isNothing : (c : Call) → c.Answer → Bool
  | listing .., answer | application _, answer | environment _, answer | packages _, answer | droplet _, answer
  | instances _, answer | createApplication .., answer | createPackage _, answer | uploadBits .., answer
  | package _, answer | downloadBits _, answer | createBuild _, answer | build _, answer | space _, answer
  | process _, answer | processState _, answer => answer.isNone
  | deleteApplication _, _ | setDroplet .., _ | start _, _ | stop _, _ | restage _, _ | deleteInstance .., _
  | mapRoute .., _ | unmapRoute .., _ => false

namespace Method

/-- The outcome of a method whose call is answered with nothing. -/
def OnNothing : (m : Method) → Except Fault m.Result → Prop
  | createPackage _, o | uploadBits .., o | createBuild _, o | downloadBits _, o =>
    ∃ f, o = .error f ∧ f.category = .unexpectedResponse
  | pollPackage _, o | pollBuild _, o => ∃ f, o = .error f ∧ f.category = .terminal
  | currentPackage _, o | dropletOfBuild _, o => o = .ok none
  | setDroplet .., _ | start _, _ | stop _, _ | restage _, _ | deleteInstance .., _ | mapRoute .., _
  | unmapRoute .., _ => False

/-- What a method makes of the answer to its call, where that is a fault or nothing. -/
structure Judges (m : Method) (c : Call) (answer : Except Fault c.Answer) (o : Except Fault m.Result) : Prop where
  /-- A failed call is a failure of the pipeline. -/
  translated : ∀ f, answer = .error f → f.isRemote = true → ∃ g, o = .error g ∧ g.Translates f
  /-- Any other fault is passed on. -/
  passed : ∀ f, answer = .error f → f.isRemote = false → o = .error f
  nothing : ∀ a, answer = .ok a → c.isNothing a = true → m.OnNothing o

theorem outcome_error {α : Type} (c : Commission α) (f : Fault) :
    c.outcome (.error f) = .error (if f.isRemote then .operationFailed c.operation f else f) :=
  rfl

theorem outcome_ok {α : Type} (c : Commission α) (a : c.call.Answer) : c.outcome (.ok a) = c.judge a :=
  rfl

theorem onNothing {m : Method} {c : Commission m.Result} (hm : m.commission = .ok c) {a : c.call.Answer}
    (ha : c.call.isNothing a = true) : m.OnNothing (c.judge a) := by
  cases m with
  | createPackage app | createBuild package | downloadBits package =>
    cases hm
    obtain rfl := Option.isNone_iff_eq_none.1 ha
    exact ⟨_, rfl, rfl⟩
  | uploadBits package artifact =>
    obtain ⟨bits, -, rfl⟩ := commission_uploadBits hm
    obtain rfl := Option.isNone_iff_eq_none.1 ha
    exact ⟨_, rfl, rfl⟩
  | pollPackage id =>
    cases hm
    obtain rfl := Option.isNone_iff_eq_none.1 ha
    exact ⟨.packageFailed id "FAILED", rfl, rfl⟩
  | pollBuild id =>
    cases hm
    obtain rfl := Option.isNone_iff_eq_none.1 ha
    exact ⟨.buildFailed "FAILED", rfl, rfl⟩
  | currentPackage app | dropletOfBuild id =>
    cases hm
    obtain rfl := Option.isNone_iff_eq_none.1 ha
    rfl
  | deleteInstance app index =>
    obtain ⟨text, -, rfl⟩ := commission_deleteInstance hm
    cases ha
  | setDroplet app droplet | start app | stop app | restage app | mapRoute app route | unmapRoute app route =>
    cases hm
    cases ha

/-- **What becomes of faults and of nothing.** -/
theorem judges_outcome {m : Method} {c : Commission m.Result} (hm : m.commission = .ok c)
    (answer : Except Fault c.call.Answer) : m.Judges c.call answer (c.outcome answer) := by
  refine ⟨?_, ?_, ?_⟩
  · rintro f rfl hremote
    rw [outcome_error, if_pos hremote]
    exact ⟨_, rfl, Fault.operationFailed_translates c.operation f⟩
  · rintro f rfl hother
    rw [outcome_error, hother, if_neg Bool.false_ne_true]
  · rintro a rfl ha
    rw [outcome_ok]
    exact onNothing hm ha

/-- **One call, and what becomes of its answer.** -/
theorem runs_possible {m : Method} (hm : m.IsPossible) {t : List (Exchange (Staging τ))} {o : Except Fault m.Result}
    (h : Stages m.program t o) :
    ∃ c answer, m.commission = .ok c ∧ calls t = [⟨c.call, answer⟩] ∧ m.Judges c.call answer o := by
  obtain ⟨c, hc⟩ := m.isPossible_iff.1 hm
  obtain ⟨answer, hcalls, rfl⟩ := runs hc h
  exact ⟨c, answer, hc, hcalls, judges_outcome hc answer⟩

end Method

end Steward
