import Steward.Proofs.Deployment.Trail

/-!
# Effects exactly once

A deployment may be cut off at any call and taken up again any number of times. What the attempts together have
done to the platform is told by the saved progress: `Told` says, for each stage, which effects there have been.
Every stage that is done adds its own effect, a stage that fails adds none, and a loss leaves only the effects
of what was lost. So when a history of attempts returns, the package, the build, the droplet and the start have
each happened once, after the packages and builds that were lost.

## Contents

* `Effect`, `effects` — the calls that did something;
* `lostPackages`, `lostBuilds` — the polls that ended in a loss;
* `Told`, `Told.advance`, `Told.trail` — what the saved progress tells, and that every trail keeps it so;
* `History.exactlyOnce` — the effects of attempts that come to an end.
-/

namespace Steward

variable {τ : Type}

/-! ## Effects -/

/-- What a call has done. -/
inductive Effect where
  | packageCreated (app : Option String) (package : String)
  | bitsUploaded (package : Option String)
  | buildCreated (package : Option String) (build : String)
  | dropletSet (app droplet : Option String)
  | started (app : Option String)
  | other (c : Call)

/-- Whether a call only reads. -/
def Call.isRead : Call → Bool
  | listing .. | application _ | environment _ | packages _ | droplet _ | instances _ | downloadBits _ | package _
  | build _ | space _ | process _ | processState _ => true
  | _ => false

/-- What a call has done by its answer. A call that failed has done nothing, nor has one that had to answer with
a package or a build, and did not. -/
def Answered.effect : Answered → Option Effect
  | ⟨.createPackage app, .ok made⟩ => made.map fun p => .packageCreated app p.guid
  | ⟨.uploadBits package _ _, .ok taken⟩ => taken.map fun _ => .bitsUploaded package
  | ⟨.createBuild package, .ok made⟩ => made.map fun b => .buildCreated package b.guid
  | ⟨.setDroplet app droplet, .ok ()⟩ => some (.dropletSet app droplet)
  | ⟨.start app, .ok ()⟩ => some (.started app)
  | ⟨c, .ok _⟩ => if c.isRead then none else some (.other c)
  | ⟨_, .error _⟩ => none

/-- What calls have done, in their order. -/
def effects (cs : List Answered) : List Effect :=
  cs.filterMap Answered.effect

@[simp] theorem effects_nil : effects [] = [] :=
  rfl

@[simp] theorem effects_append (cs cs' : List Answered) : effects (cs ++ cs') = effects cs ++ effects cs' :=
  List.filterMap_append

/-! ### Effects by answers -/

theorem effects_createPackage (app : Option String) (answer : Except Fault (Option Package)) :
    effects [⟨.createPackage app, answer⟩] = match Pipeline.packageMade answer with
      | .ok id => [.packageCreated app id]
      | .error _ => [] := by
  rcases answer with f | made | p <;> rfl

theorem effects_uploadBits (package : Option String) (bits : ByteArray) (file : String)
    (answer : Except Fault (Option Package)) :
    effects [⟨.uploadBits package bits file, answer⟩] = match Pipeline.bitsTaken answer with
      | .ok _ => [.bitsUploaded package]
      | .error _ => [] := by
  rcases answer with f | taken | p <;> rfl

theorem effects_createBuild (package : Option String) (answer : Except Fault (Option Build)) :
    effects [⟨.createBuild package, answer⟩] = match Pipeline.buildMade answer with
      | .ok id => [.buildCreated package id]
      | .error _ => [] := by
  rcases answer with f | made | b <;> rfl

theorem effects_setDroplet (app droplet : Option String) (answer : Except Fault Unit) :
    effects [⟨.setDroplet app droplet, answer⟩] = match Pipeline.operated .setDroplet answer with
      | .ok _ => [.dropletSet app droplet]
      | .error _ => [] := by
  rcases answer with f | ⟨⟩ <;> rfl

theorem effects_start (app : Option String) (answer : Except Fault Unit) :
    effects [⟨.start app, answer⟩] = match Pipeline.operated .start answer with
      | .ok _ => [.started app]
      | .error _ => [] := by
  rcases answer with f | ⟨⟩ <;> rfl

theorem effect_package (id : Option String) (answer : Except Fault (Option Package)) :
    Answered.effect ⟨.package id, answer⟩ = none := by
  rcases answer with f | p <;> rfl

theorem effect_build (id : Option String) (answer : Except Fault (Option Build)) :
    Answered.effect ⟨.build id, answer⟩ = none := by
  rcases answer with f | b <;> rfl

/-! ## Losses -/

/-- What a poll of a package says. -/
def Answered.packagePoll : Answered → Option (Except Fault Readiness)
  | ⟨.package id, answer⟩ => some (Pipeline.packageVerdict id answer)
  | _ => none

/-- What a poll of a build says. -/
def Answered.buildPoll : Answered → Option (Except Fault Readiness)
  | ⟨.build _, answer⟩ => some (Pipeline.buildVerdict answer)
  | _ => none

/-- Whether a poll says that what it waits for is lost. -/
def isLost : Except Fault Readiness → Bool
  | .ok _ => false
  | .error f => f.isTerminal

/-- Whether a poll says that what it waits for is not ready. -/
def isUnready : Except Fault Readiness → Bool
  | .ok .ready => false
  | _ => true

@[simp] theorem isLost_ok (r : Readiness) : isLost (.ok r) = false :=
  rfl

@[simp] theorem isLost_error (f : Fault) : isLost (.error f) = f.isTerminal :=
  rfl

@[simp] theorem isUnready_ready : isUnready (.ok .ready) = false :=
  rfl

@[simp] theorem isUnready_pending : isUnready (.ok .pending) = true :=
  rfl

@[simp] theorem isUnready_error (f : Fault) : isUnready (.error f) = true :=
  rfl

/-- The packages that are lost in an attempt. -/
def lostPackages (cs : List Answered) : Nat :=
  (cs.filterMap Answered.packagePoll).countP isLost

/-- The builds that are lost in an attempt. A build that has staged is not polled any more: then its droplet is
asked for, with the same call. -/
def lostBuilds (cs : List Answered) : Nat :=
  ((cs.filterMap Answered.buildPoll).takeWhile isUnready).countP isLost

@[simp] theorem lostPackages_nil : lostPackages [] = 0 :=
  rfl

@[simp] theorem lostBuilds_nil : lostBuilds [] = 0 :=
  rfl

@[simp] theorem lostPackages_append (cs cs' : List Answered) :
    lostPackages (cs ++ cs') = lostPackages cs + lostPackages cs' := by
  rw [lostPackages, List.filterMap_append, List.countP_append]
  rfl

/-- What a wait loses by the way it ends. -/
def losses : Except Fault Unit → Nat
  | .ok _ => 0
  | .error f => if f.isTerminal then 1 else 0

@[simp] theorem losses_ok (u : Unit) : losses (.ok u) = 0 :=
  rfl

@[simp] theorem losses_error (f : Fault) : losses (.error f) = if f.isTerminal then 1 else 0 :=
  rfl

@[simp] theorem losses_timedOut (wait : Wait) : losses (.error (.timedOut wait)) = 0 :=
  rfl

namespace Awaited

variable {c : Call} {verdict : Except Fault c.Answer → Except Fault Readiness} {wait : Wait} {cs : List Answered}
  {o : Except Fault Unit}

/-- Nothing is read off a wait if it cannot be read off its polls. -/
theorem filterMap_eq_nil {β : Type} {f : Answered → Option β} (h : Awaited c verdict wait cs o)
    (hf : ∀ answer, f ⟨c, answer⟩ = none) : cs.filterMap f = [] := by
  induction h with
  | ready _ | failed _ | late _ => rw [List.filterMap_cons_none (hf _)]; rfl
  | unfinished => rfl
  | pending _ _ ih =>
    rw [List.filterMap_cons_none (hf _)]
    exact ih

variable {poll : Answered → Option (Except Fault Readiness)}

theorem countP_isLost (h : Awaited c verdict wait cs o) (hpoll : ∀ answer, poll ⟨c, answer⟩ = some (verdict answer)) :
    (cs.filterMap poll).countP isLost = losses o := by
  induction h with
  | ready h => simp [hpoll, h]
  | failed h =>
    simp only [List.filterMap_cons, hpoll, h, List.filterMap_nil, List.countP_singleton]
    rfl
  | late h => simp [hpoll, h, -losses_error]
  | unfinished => rfl
  | pending h _ ih => simpa [hpoll, h] using ih

/-- The same up to the first poll that says it is ready. After it, more may be polled. -/
theorem countP_unready (h : Awaited c verdict wait cs o) (hpoll : ∀ answer, poll ⟨c, answer⟩ = some (verdict answer))
    {more : List (Except Fault Readiness)} (hmore : o = .ok () ∨ more = []) :
    ((cs.filterMap poll ++ more).takeWhile isUnready).countP isLost = losses o := by
  induction h with
  | ready h => simp [hpoll, h]
  | failed h =>
    obtain rfl : more = [] := by simpa using hmore
    simp only [List.filterMap_cons, hpoll, h, List.filterMap_nil, List.append_nil, List.takeWhile_cons,
      isUnready_error, if_true, List.takeWhile_nil, List.countP_singleton]
    rfl
  | late h =>
    obtain rfl : more = [] := by simpa using hmore
    simp [hpoll, h, List.takeWhile_cons, -losses_error]
  | unfinished =>
    obtain rfl : more = [] := by simpa using hmore
    rfl
  | pending h _ ih => simpa [hpoll, h, List.takeWhile_cons] using ih hmore

/-- Waiting for a package does nothing but lose it. -/
theorem of_package {id : Option String} (h : Awaited (.package id) (Pipeline.packageVerdict id) wait cs o) :
    effects cs = [] ∧ lostPackages cs = losses o ∧ lostBuilds cs = 0 := by
  refine ⟨h.filterMap_eq_nil (effect_package id), h.countP_isLost fun _ => rfl, ?_⟩
  rw [lostBuilds, h.filterMap_eq_nil fun _ => rfl]
  rfl

/-- Waiting for a build does nothing but lose it. What is asked once it has staged does not count. -/
theorem of_build {id : Option String} (h : Awaited (.build id) Pipeline.buildVerdict wait cs o) (more : List Answered)
    (hmore : o = .ok () ∨ more = []) :
    effects cs = [] ∧ lostPackages cs = 0 ∧ lostBuilds (cs ++ more) = losses o := by
  refine ⟨h.filterMap_eq_nil (effect_build id), ?_, ?_⟩
  · rw [lostPackages, h.filterMap_eq_nil fun _ => rfl]
    rfl
  · rw [lostBuilds, List.filterMap_append]
    refine h.countP_unready (fun _ => rfl) (hmore.imp_right ?_)
    rintro rfl
    rfl

end Awaited

/-! ## Stages that lose nothing -/

namespace Plan

variable {plan : Plan τ} {p q : Progress} {cs cs' : List Answered} {ss : List Progress} {f : Fault}
  {o : Except Fault Progress}

/-- A stage that fails where it is has done nothing, and lost nothing. -/
theorem Stuck.nothing (h : Stuck plan p cs f) : effects cs = [] ∧ lostPackages cs = 0 ∧ lostBuilds cs = 0 := by
  cases h with
  | createPackage stage refused =>
    rw [effects_createPackage, refused]
    exact ⟨rfl, rfl, rfl⟩
  | artifact stage missing => exact ⟨rfl, rfl, rfl⟩
  | uploadBits stage opened refused =>
    rw [effects_uploadBits, refused]
    exact ⟨rfl, rfl, rfl⟩
  | packageReady stage awaited curable =>
    have hwait := awaited.of_package
    rw [losses_error, curable] at hwait
    exact hwait
  | createBuild stage refused =>
    rw [effects_createBuild, refused]
    exact ⟨rfl, rfl, rfl⟩
  | buildReady stage awaited curable =>
    have hwait := awaited.of_build [] (Or.inr rfl)
    rw [losses_error, curable, List.append_nil] at hwait
    exact hwait
  | @droplet polls answer f stage awaited refused | @noDroplet polls answer stage awaited unnamed =>
    -- the last call reads the droplet: it is no poll
    obtain ⟨hpolls, hpackages, hbuilds⟩ := awaited.of_build [⟨.build p.build, answer⟩] (Or.inl rfl)
    refine ⟨?_, ?_, hbuilds⟩
    · rw [effects_append, hpolls]
      exact List.filterMap_cons_none (effect_build _ _)
    · rw [lostPackages_append, hpackages]
      rfl
  | setDroplet stage refused =>
    rw [effects_setDroplet, refused]
    exact ⟨rfl, rfl, rfl⟩
  | start stage planned refused =>
    rw [effects_start, refused]
    exact ⟨rfl, rfl, rfl⟩

/-- A stage that is done has lost no package. -/
theorem Advance.lostPackages_eq (h : Advance plan p cs q) : lostPackages cs = 0 := by
  cases h with
  | packageReady stage awaited => exact awaited.of_package.2.1
  | buildReady stage awaited named =>
    rw [lostPackages_append, (awaited.of_build [] (Or.inl rfl)).2.1]
    rfl
  | _ => rfl

/-- No build is polled once it has staged. -/
theorem Trail.buildPolls_eq (h : Trail plan p cs ss o) (staged : Stage.setDroplet.rank ≤ p.stage.rank) :
    cs.filterMap Answered.buildPoll = [] := by
  induction h with
  | empty p => rfl
  | advance hstage _ ih =>
    have hrank := hstage.rank_eq
    rw [List.filterMap_append, ih (by omega), List.append_nil]
    cases hstage with
    | setDroplet stage _ | start stage _ _ | skipStart stage _ => rfl
    | createPackage stage _ | uploadBits stage _ _ | packageReady stage _ | createBuild stage _
    | buildReady stage _ _ =>
      rw [stage] at staged
      exact absurd staged (by decide)
  | stuck hstage =>
    cases hstage with
    | setDroplet stage _ | start stage _ _ => rfl
    | createPackage stage _ | artifact stage _ | uploadBits stage _ _ | packageReady stage _ _ | createBuild stage _
    | buildReady stage _ _ | droplet stage _ _ | noDroplet stage _ _ =>
      rw [stage] at staged
      exact absurd staged (by decide)
  | rewind hstage =>
    cases hstage with
    | package stage _ _ | build stage _ _ =>
      rw [stage] at staged
      exact absurd staged (by decide)

/-- A stage that is done has lost no build, so what is lost in its trail is lost after it. -/
theorem Advance.lostBuilds_append (h : Advance plan p cs q) (rest : Trail plan q cs' ss o) :
    lostBuilds (cs ++ cs') = lostBuilds cs' := by
  cases h with
  | packageReady stage awaited =>
    rw [lostBuilds, List.filterMap_append, awaited.filterMap_eq_nil fun _ => rfl]
    rfl
  | buildReady stage awaited named =>
    rw [List.append_assoc, (awaited.of_build _ (Or.inl rfl)).2.2, lostBuilds, rest.buildPolls_eq (Nat.le_refl _)]
    rfl
  | _ => rfl

end Plan

/-! ## What progress tells -/

/-- The effects of packages that got their bits. -/
def packed (app : String) (packages : List String) : List Effect :=
  packages.flatMap fun package => [.packageCreated (some app) package, .bitsUploaded (some package)]

/-- The effects of builds of a package. -/
def built (package : String) (builds : List String) : List Effect :=
  builds.map (.buildCreated (some package))

@[simp] theorem packed_append (app : String) (ps ps' : List String) :
    packed app (ps ++ ps') = packed app ps ++ packed app ps' :=
  List.flatMap_append

@[simp] theorem built_append (package : String) (bs bs' : List String) :
    built package (bs ++ bs') = built package bs ++ built package bs' :=
  List.map_append

/-- **What the saved progress tells** of all attempts so far: the effects, how many packages and how many builds
have been lost, and whether the attempts that left the last stage were to start the application. -/
inductive Told (app : String) : Progress → List Effect → Nat → Nat → List Bool → Prop where
  | createPackage (lost : List String) :
      Told app ⟨app, .createPackage, none, none, none⟩ (packed app lost) lost.length 0 []
  | uploadBits (lost : List String) (package : String) :
      Told app ⟨app, .uploadBits, some package, none, none⟩
        (packed app lost ++ [.packageCreated (some app) package]) lost.length 0 []
  | packageReady (lost : List String) (package : String) :
      Told app ⟨app, .packageReady, some package, none, none⟩ (packed app (lost ++ [package])) lost.length 0 []
  | createBuild (lost : List String) (package : String) (builds : List String) :
      Told app ⟨app, .createBuild, some package, none, none⟩
        (packed app (lost ++ [package]) ++ built package builds) lost.length builds.length []
  | buildReady (lost : List String) (package : String) (builds : List String) (build : String) :
      Told app ⟨app, .buildReady, some package, some build, none⟩
        (packed app (lost ++ [package]) ++ built package (builds ++ [build])) lost.length builds.length []
  | setDroplet (lost : List String) (package : String) (builds : List String) (build droplet : String) :
      Told app ⟨app, .setDroplet, some package, some build, some droplet⟩
        (packed app (lost ++ [package]) ++ built package (builds ++ [build])) lost.length builds.length []
  | start (lost : List String) (package : String) (builds : List String) (build droplet : String) :
      Told app ⟨app, .start, some package, some build, some droplet⟩
        (packed app (lost ++ [package]) ++ built package (builds ++ [build]) ++
          [.dropletSet (some app) (some droplet)]) lost.length builds.length []
  | done (lost : List String) (package : String) (builds : List String) (build droplet : String) (started : Bool) :
      Told app ⟨app, .done, some package, some build, some droplet⟩
        (packed app (lost ++ [package]) ++ built package (builds ++ [build]) ++
          [.dropletSet (some app) (some droplet)] ++ if started then [.started (some app)] else [])
        lost.length builds.length [started]

namespace Told

variable {app : String} {plan : Plan τ} {p q : Progress} {es : List Effect} {k m : Nat} {starts : List Bool}
  {cs : List Answered} {f : Fault}

/-- **A stage that is done** adds its effect to what is told. -/
theorem advance (h : Told app p es k m starts) (same : plan.app = some app) (hstage : Plan.Advance plan p cs q) :
    Told app q (es ++ effects cs) k m (starts ++ if q.stage = .done then [plan.start] else []) := by
  -- what is told fixes the stage, so each stage that is done meets one clause
  cases hstage with
  | createPackage stage made =>
    cases h with
    | createPackage lost =>
      rw [effects_createPackage, made, same]
      exact Told.uploadBits lost _
    | _ => cases stage
  | uploadBits stage opened taken =>
    cases h with
    | uploadBits lost package =>
      rw [effects_uploadBits, taken, List.append_assoc]
      show Told app _ (packed app lost ++ packed app [package]) _ _ _
      rw [← packed_append]
      exact Told.packageReady lost package
    | _ => cases stage
  | packageReady stage awaited =>
    cases h with
    | packageReady lost package =>
      have hquiet : effects cs = [] := awaited.filterMap_eq_nil (effect_package _)
      rw [hquiet]
      exact Told.createBuild lost package []
    | _ => cases stage
  | @createBuild answer build stage made =>
    cases h with
    | createBuild lost package builds =>
      rw [effects_createBuild, made, List.append_assoc]
      show Told app _ (packed app (lost ++ [package]) ++ (built package builds ++ built package [build])) _ _ _
      rw [← built_append]
      exact Told.buildReady lost package builds build
    | _ => cases stage
  | @buildReady polls answer droplet stage awaited named =>
    cases h with
    | buildReady lost package builds build =>
      have hpolls : effects polls = [] := awaited.filterMap_eq_nil (effect_build _)
      have hread : effects [⟨.build (some build), answer⟩] = [] := List.filterMap_cons_none (effect_build _ answer)
      rw [effects_append, hpolls, hread, List.append_nil, List.append_nil]
      exact Told.setDroplet lost package builds build droplet
    | _ => cases stage
  | setDroplet stage placed =>
    cases h with
    | setDroplet lost package builds build droplet =>
      rw [effects_setDroplet, placed, same]
      exact Told.start lost package builds build droplet
    | _ => cases stage
  | start stage planned started =>
    cases h with
    | start lost package builds build droplet =>
      rw [effects_start, started, same, planned]
      exact Told.done lost package builds build droplet true
    | _ => cases stage
  | skipStart stage planned =>
    cases h with
    | start lost package builds build droplet =>
      rw [effects_nil, planned]
      exact Told.done lost package builds build droplet false
    | _ => cases stage

/-- **A loss** leaves the effects, and is counted. -/
theorem rewind (h : Told app p es k m starts) (hstage : Plan.Rewind plan p cs f q) :
    Told app q (es ++ effects cs) (k + lostPackages cs) (m + lostBuilds cs) starts := by
  cases hstage with
  | package stage awaited terminal =>
    cases h with
    | packageReady lost package =>
      obtain ⟨hpolls, hpackages, hbuilds⟩ := awaited.of_package
      rw [hpolls, hpackages, hbuilds, losses_error, if_pos terminal, List.append_nil]
      -- the package joins the lost ones
      show Told app _ _ (lost.length + [package].length) _ _
      rw [← List.length_append]
      exact Told.createPackage (lost ++ [package])
    | _ => cases stage
  | build stage awaited terminal =>
    cases h with
    | buildReady lost package builds build =>
      obtain ⟨hpolls, hpackages, hbuilds⟩ := awaited.of_build [] (Or.inr rfl)
      rw [List.append_nil] at hbuilds
      rw [hpolls, hpackages, hbuilds, losses_error, if_pos terminal, List.append_nil]
      -- the build joins the lost ones, and the package stays
      show Told app _ _ _ (builds.length + [build].length) _
      rw [← List.length_append]
      exact Told.createBuild lost package (builds ++ [build])
    | _ => cases stage

/-- **A trail keeps what is told**, stage by stage. -/
theorem trail {ss : List Progress} {o : Except Fault Progress} (h : Told app p es k m starts)
    (same : plan.app = some app) (htrail : Plan.Trail plan p cs ss o) :
    Told app (ss.getLast?.getD p) (es ++ effects cs) (k + lostPackages cs) (m + lostBuilds cs)
      (starts ++ if ss.any (·.stage = .done) then [plan.start] else []) := by
  induction htrail generalizing es starts with
  | empty p => simpa using h
  | @advance p q cs cs' ss o hstage rest ih =>
    have htold := ih (h.advance same hstage)
    have hstarts : (if q.stage = .done then [plan.start] else []) ++
        (if ss.any (·.stage = .done) then [plan.start] else []) =
          if (q :: ss).any (·.stage = .done) then [plan.start] else [] := by
      by_cases done : q.stage = .done
      · -- nothing is saved after all is done
        obtain ⟨-, rfl, -⟩ := rest.of_done done
        simp [done]
      · simp [done]
    rw [List.append_assoc, List.append_assoc, hstarts] at htold
    rw [List.getLast?_cons, effects_append, lostPackages_append, hstage.lostPackages_eq, Nat.zero_add,
      hstage.lostBuilds_append rest]
    exact htold
  | stuck hstage =>
    obtain ⟨heffects, hpackages, hbuilds⟩ := hstage.nothing
    rw [heffects, hpackages, hbuilds, List.append_nil]
    simpa using h
  | @rewind p q cs f hstage =>
    have hundone : q.stage ≠ .done := by
      cases hstage with
      | package | build =>
        intro done
        cases done
    have hstarts : (if [q].any (·.stage = .done) then [plan.start] else []) = [] := by
      simp [hundone]
    rw [hstarts, List.append_nil]
    exact h.rewind hstage

end Told

/-! ## Histories -/

variable [Add τ] [LT τ] [DecidableLT τ]

/-- Whether an attempt leaves the last stage. -/
def Attempted.finishes (a : Attempted τ) : Bool :=
  (saves a.trace).any (·.stage = .done)

/-- The calls of attempts in a row. -/
def callsOf (as : List (Attempted τ)) : List Answered :=
  as.flatMap Attempted.calls

omit [Add τ] [LT τ] [DecidableLT τ] in
theorem callsOf_append (as bs : List (Attempted τ)) : callsOf (as ++ bs) = callsOf as ++ callsOf bs :=
  List.flatMap_append

omit [Add τ] [LT τ] [DecidableLT τ] in
theorem callsOf_concat (as : List (Attempted τ)) (a : Attempted τ) : callsOf (as ++ [a]) = callsOf as ++ a.calls := by
  rw [callsOf_append]
  exact congrArg (callsOf as ++ ·) (List.append_nil a.calls)

/-- The packages that are lost in attempts in a row. -/
def lostPackagesIn (as : List (Attempted τ)) : Nat :=
  as.foldl (fun n a => n + lostPackages a.calls) 0

/-- The builds that are lost in attempts in a row. -/
def lostBuildsIn (as : List (Attempted τ)) : Nat :=
  as.foldl (fun n a => n + lostBuilds a.calls) 0

/-- **The progress that attempts leave tells what they did.** -/
theorem History.told {app : String} {as : List (Attempted τ)} {p : Progress} (h : History app as p) :
    Told app p (effects (callsOf as)) (lostPackagesIn as) (lostBuildsIn as)
      ((as.filter Attempted.finishes).map (·.plan.start)) := by
  induction h with
  | begun => exact Told.createPackage []
  | @next as p a before same run ih =>
    obtain ⟨htrail, -⟩ := Plan.runs_deploy run
    have htold := ih.trail same htrail
    have hstarts : ((as ++ [a]).filter Attempted.finishes).map (·.plan.start) =
        (as.filter Attempted.finishes).map (·.plan.start) ++
          if (saves a.trace).any (·.stage = .done) then [a.plan.start] else [] := by
      rw [List.filter_append, List.map_append, List.filter_cons, List.filter_nil]
      show _ ++ (if (saves a.trace).any (·.stage = .done) then [a] else []).map (·.plan.start) = _
      split <;> rfl
    rw [callsOf_concat, effects_append, hstarts, lostPackagesIn, lostBuildsIn, List.foldl_append, List.foldl_append]
    exact htold

/-- **Effects exactly once.** Attempts to deploy an application, cut off anywhere and taken up again, end with one
that returns. Polls, reads and failed calls apart, they have made packages and uploaded their bits, one for each
package that was lost and one more; then builds of the last package, one for each build that was lost and one
more; then they have set the droplet, and started the application if the attempt that came past the start was to.
An attempt on what is done already calls nothing. -/
theorem History.exactlyOnce {app : String} {as : List (Attempted τ)} {a : Attempted τ} {p q : Progress}
    (h : History app (as ++ [a]) p) (returned : a.outcome = .ok q) :
    (∃ lost package builds build droplet finisher,
      p = q ∧ q = ⟨app, .done, some package, some build, some droplet⟩ ∧
        (as ++ [a]).filter Attempted.finishes = [finisher] ∧
        effects (callsOf (as ++ [a])) = packed app (lost ++ [package]) ++ built package (builds ++ [build]) ++
          [.dropletSet (some app) (some droplet)] ++ (if finisher.plan.start then [.started (some app)] else []) ∧
        lost.length = lostPackagesIn (as ++ [a]) ∧ builds.length = lostBuildsIn (as ++ [a])) ∧
      ∀ (plan : Plan τ) (r : Progress) (t : List (Exchange (Staging τ))) (o : Except Fault Progress),
        r.stage = .done → Stages (plan.deploy (some r)) t o → calls t = [] ∧ o = .ok r := by
  refine ⟨?_, ?_⟩
  · have htold := h.told
    obtain ⟨rfl, done⟩ : p = q ∧ q.stage = .done := h.of_returned returned
    -- all is done, so one clause of what is told is left
    generalize lostPackagesIn (as ++ [a]) = k at htold
    generalize lostBuildsIn (as ++ [a]) = m at htold
    generalize effects (callsOf (as ++ [a])) = es at htold
    generalize hstarts : ((as ++ [a]).filter Attempted.finishes).map (·.plan.start) = starts at htold
    cases htold with
    | done lost package builds build droplet started =>
      obtain ⟨finisher, hfinisher, rfl⟩ := List.map_eq_singleton_iff.1 hstarts
      exact ⟨lost, package, builds, build, droplet, finisher, rfl, rfl, hfinisher, rfl, rfl, rfl⟩
    | _ => cases done
  · intro plan r t o done hrun
    obtain ⟨htrail, -⟩ := Plan.runs_deploy hrun
    obtain ⟨hcalls, -, ho⟩ := htrail.of_done done
    exact ⟨hcalls, ho⟩

/-- A platform that loses its first package. It counts the packages that it made. -/
def fickle : Handler (Staging Nat) Nat
  | .call (.createPackage _), n =>
    (.ok (some ⟨if n = 0 then "package-1" else "package-2", "", ⟨none⟩, default⟩), n + 1)
  | .call (.uploadBits ..), n => (.ok (some default), n)
  | .call (.package _), n => (.ok (some ⟨"", if n = 1 then "FAILED" else "READY", ⟨none⟩, default⟩), n)
  | .call (.createBuild _), n => (.ok (some ⟨"build-1", "STAGING", none⟩), n)
  | .call (.build _), n => (.ok (some ⟨"build-1", "STAGED", some ⟨"droplet-1"⟩⟩), n)
  | .call (.setDroplet ..), n => (.ok (), n)
  | .call (.start _), n => (.ok (), n)
  | .call _, n => (.error default, n)
  | .clock, n => (0, n)
  | .report _, n => ((), n)
  | .measure _, n => ((), n)
  | .pause _, n => ((), n)
  | .save _, n => ((), n)

/-- A plan with an artifact that can be opened. -/
def shortPlan : Plan Nat :=
  ⟨some "app-1", ⟨"app.zip", some default⟩, true, 1, 10, 10⟩

/-- An attempt that loses its package. -/
def vainAttempt : Attempted Nat :=
  .under fickle shortPlan (.fresh "app-1") 0

/-- The attempt that takes it up. -/
def goodAttempt : Attempted Nat :=
  .under fickle shortPlan (lastSaved (.fresh "app-1") vainAttempt.trace) 1

/-- The two attempts make two packages, of which the first is lost, and one build. -/
theorem History.exactlyOnce_fickle :
    ∃ p q, History "app-1" ([vainAttempt] ++ [goodAttempt]) p ∧ goodAttempt.outcome = .ok q ∧
      ∃ lost package build droplet, effects (callsOf ([vainAttempt] ++ [goodAttempt])) =
        packed "app-1" ([lost] ++ [package]) ++ built package [build] ++
          [.dropletSet (some "app-1") (some droplet), .started (some "app-1")] := by
  have hfirst : History "app-1" [vainAttempt] _ := History.begun.under fickle rfl 0
  have hhistory : History "app-1" ([vainAttempt] ++ [goodAttempt]) _ := hfirst.under fickle rfl 1
  obtain ⟨q, returned⟩ : ∃ q, goodAttempt.outcome = .ok q := by
    have hok : goodAttempt.outcome.isOk = true := by decide +kernel
    cases h : goodAttempt.outcome with
    | ok q => exact ⟨q, rfl⟩
    | error f =>
      rw [h] at hok
      cases hok
  obtain ⟨⟨lost, package, builds, build, droplet, finisher, -, -, hfinisher, heffects, hlost, hbuilds⟩, -⟩ :=
    History.exactlyOnce hhistory returned
  -- one package is lost and no build, so the lists are as long as that
  have hpackages : lostPackagesIn [vainAttempt, goodAttempt] = 1 := by decide +kernel
  have hnone : lostBuildsIn [vainAttempt, goodAttempt] = 0 := by decide +kernel
  obtain ⟨first, rfl⟩ := List.length_eq_one_iff.1 (hlost.trans hpackages)
  obtain rfl := List.length_eq_zero_iff.1 (hbuilds.trans hnone)
  have hstarts : finisher.plan.start = true := by
    have hmem : finisher ∈ ([vainAttempt] ++ [goodAttempt]).filter Attempted.finishes := by
      rw [hfinisher]
      exact List.mem_singleton_self finisher
    rcases List.mem_cons.1 (List.mem_filter.1 hmem).1 with rfl | hlast
    · rfl
    · rw [List.mem_singleton.1 hlast]
      rfl
  rw [hstarts, List.append_assoc] at heffects
  exact ⟨_, q, hhistory, returned, first, package, build, droplet, heffects⟩

end Steward
