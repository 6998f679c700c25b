import Steward.Proofs.Deployment.Course
import Steward.Proofs.Deployment.Methods

/-!
# No gate is skipped

Before a package is built from, its bits have been uploaded and have been reported ready. Before a droplet is set, a
build of the current package has been reported staged and has then named the droplet. Before an application is
started, a droplet has been set. The evidence may lie in an attempt long past: what carries it from there is the saved
progress, and `Backed` says which evidence stands behind a record at each stage. What has been lost is never named
again, as long as the platform does not give one identifier to two packages or two builds; for this only the
identifiers matter that calls name and that answers issue, so packages and builds are treated alike, as `Product`.

## Contents

* `Product` — packages and builds: the identifiers that are kept, named and issued, and what is lost;
* `Vetted`, `Yields`, `Placed` — evidence in the calls so far;
* `Evidence`, `Backed` — the evidence behind a record; `Advance.backed`, `Rewind.backed`;
* `Gate`, `Guarded` — what a call has to find before it; `Trail.guarded`;
* `Trail.known`, `Trail.gone` — what calls name, and what is lost;
* `Gates`, `Course.gates` — the gates of all attempts.
-/

namespace Steward

variable {τ : Type}

/-- An element of two lists in a row stands in the one or in the other. -/
theorem split_of_append {α : Type} {xs ys pre post : List α} {a : α} (h : xs ++ ys = pre ++ a :: post) :
    (∃ rest, xs = pre ++ a :: rest ∧ post = rest ++ ys) ∨ ∃ front, pre = xs ++ front ∧ ys = front ++ a :: post := by
  rcases List.append_eq_append_iff.1 h with ⟨front, hpre, hys⟩ | ⟨rest, hxs, hrest⟩
  · exact Or.inr ⟨front, hpre, hys⟩
  · cases rest with
    | nil =>
      rw [List.append_nil] at hxs
      refine Or.inr ⟨[], ?_, hrest.symm⟩
      rw [hxs, List.append_nil]
    | cons b rest =>
      obtain ⟨rfl, hpost⟩ := List.cons_eq_cons.1 hrest
      exact Or.inl ⟨rest, hxs, hpost⟩

/-! ## Packages and builds -/

/-- What a deployment has made, waits for, and may lose. -/
inductive Product where
  | package
  | build

namespace Product

/-- The identifier that a record keeps. -/
def kept : Product → Progress → Option String
  | package, p => p.package
  | build, p => p.build

/-- The identifier that a call names. -/
def named : Product → Call → Option String
  | package, .uploadBits id .. | package, .downloadBits id | package, .package id | package, .createBuild id => id
  | build, .build id => id
  | _, _ => none

/-- The identifier that is issued by an answer. -/
def issued : Product → Answered → Option String
  | package, ⟨.createPackage _, .ok made⟩ => made.map (·.guid)
  | build, ⟨.createBuild _, .ok made⟩ => made.map (·.guid)
  | _, _ => none

/-- The identifiers that are issued, in their order. -/
def issuedIn (k : Product) (cs : List Answered) : List String :=
  cs.filterMap k.issued

/-- The answers that say of what is polled that it is lost. -/
inductive Gone : Product → Answered → Prop where
  | noPackage (id : Option String) : Gone package ⟨.package id, .ok none⟩
  | package (id : Option String) {p : Package} (state : p.state = "FAILED" ∨ p.state = "EXPIRED") :
      Gone package ⟨.package id, .ok (some p)⟩
  | noBuild (id : Option String) : Gone build ⟨.build id, .ok none⟩
  | build (id : Option String) {b : Build} (state : b.state = "FAILED") : Gone build ⟨.build id, .ok (some b)⟩

/-- Whether an attempt still waits after some calls. Once a build has been reported staged it is not waited for: then
its droplet is asked for, with the same call. -/
def Waiting : Product → List Answered → Prop
  | package, _ => True
  | build, cs => ∀ id b, ⟨.build id, .ok (some b)⟩ ∈ cs → b.state ≠ "STAGED"

/-- An identifier that a record keeps, or that is issued after it. -/
def Known (k : Product) (p : Progress) (cs : List Answered) (id : String) : Prop :=
  k.kept p = some id ∨ id ∈ k.issuedIn cs

variable {k : Product} {p q : Progress} {cs cs' : List Answered} {id : String}

theorem issuedIn_append : k.issuedIn (cs ++ cs') = k.issuedIn cs ++ k.issuedIn cs' :=
  List.filterMap_append

theorem Waiting.of_append (h : k.Waiting (cs ++ cs')) : k.Waiting cs' := by
  cases k with
  | package => trivial
  | build => exact fun id b hb => h id b (List.mem_append_right cs hb)

theorem Known.append_right (h : k.Known p cs id) (cs' : List Answered) : k.Known p (cs ++ cs') id := by
  refine h.imp_right ?_
  rw [issuedIn_append]
  exact List.mem_append_left _

/-- What is known from a record is known from an earlier one that it is known from. -/
theorem Known.trans (h : k.Known q cs' id) (hq : k.kept q = some id → k.Known p cs id) : k.Known p (cs ++ cs') id := by
  rcases h with hkept | hissued
  · exact (hq hkept).append_right cs'
  · rw [Known, issuedIn_append]
    exact Or.inr (List.mem_append_right _ hissued)

end Product

/-- The package that was made last. -/
def lastPackage (log : List Answered) : Option String :=
  (Product.package.issuedIn log).getLast?

/-! ## Evidence -/

/-- The calls show that bits were taken for a package, and that it was reported ready after that. -/
def Vetted (log : List Answered) (package : Option String) : Prop :=
  ∃ bits file taken p, p.state = "READY" ∧
    [⟨.uploadBits package bits file, .ok (some taken)⟩, ⟨.package package, .ok (some p)⟩].Sublist log

/-- The calls show that a build of a package was made, was reported staged after that, and after that named a
droplet. -/
def Yields (log : List Answered) (package droplet : Option String) : Prop :=
  ∃ made staged named guid, staged.state = "STAGED" ∧ named.droplet = some ⟨guid⟩ ∧ droplet = some guid ∧
    [⟨.createBuild package, .ok (some made)⟩, ⟨.build (some made.guid), .ok (some staged)⟩,
      ⟨.build (some made.guid), .ok (some named)⟩].Sublist log

/-- The calls show that the droplet of some application was set. -/
def Placed (log : List Answered) : Prop :=
  ∃ app droplet, ⟨.setDroplet app droplet, .ok ()⟩ ∈ log

/-- The evidence that a stage leaves behind when it is done. -/
def Evidence (log : List Answered) (p : Progress) : Stage → Prop
  | .createPackage => lastPackage log = p.package
  | .uploadBits => ∃ bits file taken, ⟨.uploadBits p.package bits file, .ok (some taken)⟩ ∈ log
  | .packageReady => Vetted log p.package
  | .createBuild => ∃ made : Build, p.build = some made.guid ∧ ⟨.createBuild p.package, .ok (some made)⟩ ∈ log
  | .buildReady => Yields log p.package p.droplet
  | .setDroplet => Placed log
  | .start | .done => True

/-- **The record is backed** by the calls: there is evidence for every stage before its stage. -/
def Backed (log : List Answered) (p : Progress) : Prop :=
  ∀ s : Stage, s.rank < p.stage.rank → Evidence log p s

/-- Evidence stays when more is called, as long as no other package is made. -/
theorem Evidence.append {log : List Answered} {p : Progress} {s : Stage} (h : Evidence log p s) {cs : List Answered}
    (hcs : ∀ c ∈ cs, Product.package.issued c = none) : Evidence (log ++ cs) p s := by
  have hlog : log.Sublist (log ++ cs) := List.sublist_append_left log cs
  cases s with
  | createPackage =>
    show (Product.package.issuedIn (log ++ cs)).getLast? = p.package
    have hnone : Product.package.issuedIn cs = [] := List.filterMap_eq_nil_iff.2 hcs
    rw [Product.issuedIn_append, hnone, List.append_nil]
    exact h
  | uploadBits =>
    obtain ⟨bits, file, taken, hmem⟩ := h
    exact ⟨bits, file, taken, hlog.subset hmem⟩
  | packageReady =>
    obtain ⟨bits, file, taken, p', hready, hsub⟩ := h
    exact ⟨bits, file, taken, p', hready, hsub.trans hlog⟩
  | createBuild =>
    obtain ⟨made, hmade, hmem⟩ := h
    exact ⟨made, hmade, hlog.subset hmem⟩
  | buildReady =>
    obtain ⟨made, staged, named, guid, hstaged, hnamed, hguid, hsub⟩ := h
    exact ⟨made, staged, named, guid, hstaged, hnamed, hguid, hsub.trans hlog⟩
  | setDroplet =>
    obtain ⟨app, droplet, hmem⟩ := h
    exact ⟨app, droplet, hlog.subset hmem⟩
  | start | done => trivial

/-! ### Answers of stages that are done -/

namespace Pipeline

theorem operated_eq_ok {α : Type} {operation : Operation} {answer : Except Fault α} {a : α}
    (h : operated operation answer = .ok a) : answer = .ok a := by
  cases answer with
  | ok b => exact h
  | error f => cases h

/-- An operation that is answered tells what it was answered. -/
theorem expected_eq_ok {α β : Type} {operation : Operation} {answer : Except Fault (Option α)} {name : α → β} {b : β}
    (h : operated operation answer >>= Method.expected operation name = .ok b) :
    ∃ a, answer = .ok (some a) ∧ name a = b := by
  rcases answer with f | a | a
  · cases h
  · cases h
  · cases h
    exact ⟨a, rfl, rfl⟩

theorem packageVerdict_some (id : Option String) (p : Package) :
    packageVerdict id (.ok (some p)) =
      if p.state = "FAILED" ∨ p.state = "EXPIRED" then .error (.packageFailed id p.state)
      else .ok (if p.state = "READY" then .ready else .pending) :=
  rfl

theorem buildVerdict_some (b : Build) :
    buildVerdict (.ok (some b)) =
      if b.state = "FAILED" then .error (.buildFailed b.state)
      else .ok (if b.state = "STAGED" then .ready else .pending) :=
  rfl

theorem packageVerdict_eq_ready {id : Option String} {answer : Except Fault (Option Package)}
    (h : packageVerdict id answer = .ok .ready) : ∃ p : Package, answer = .ok (some p) ∧ p.state = "READY" := by
  rcases answer with f | p | p
  · cases h
  · cases h
  · refine ⟨p, rfl, ?_⟩
    rw [packageVerdict_some] at h
    by_cases hlost : p.state = "FAILED" ∨ p.state = "EXPIRED"
    · rw [if_pos hlost] at h
      cases h
    · rw [if_neg hlost] at h
      by_cases hready : p.state = "READY"
      · exact hready
      · rw [if_neg hready] at h
        cases h

theorem buildVerdict_eq_ready {answer : Except Fault (Option Build)} (h : buildVerdict answer = .ok .ready) :
    ∃ b : Build, answer = .ok (some b) ∧ b.state = "STAGED" := by
  rcases answer with f | b | b
  · cases h
  · cases h
  · refine ⟨b, rfl, ?_⟩
    rw [buildVerdict_some] at h
    by_cases hlost : b.state = "FAILED"
    · rw [if_pos hlost] at h
      cases h
    · rw [if_neg hlost] at h
      by_cases hready : b.state = "STAGED"
      · exact hready
      · rw [if_neg hready] at h
        cases h

theorem dropletNamed_eq_some {answer : Except Fault (Option Build)} {droplet : String}
    (h : dropletNamed answer = .ok (some droplet)) :
    ∃ b : Build, answer = .ok (some b) ∧ b.droplet = some ⟨droplet⟩ := by
  rcases answer with f | b | ⟨guid, state, named⟩
  · cases h
  · cases h
  · cases named with
    | none => cases h
    | some d =>
      cases h
      exact ⟨_, rfl, rfl⟩

end Pipeline

/-- A wait that ends well ends with an answer that says so. -/
theorem Awaited.exists_ready {c : Call} {verdict : Except Fault c.Answer → Except Fault Readiness} {wait : Wait}
    {cs : List Answered} (h : Awaited c verdict wait cs (.ok ())) :
    ∃ answer, verdict answer = .ok .ready ∧ ⟨c, answer⟩ ∈ cs := by
  generalize hr : (Except.ok () : Except Fault Unit) = r at h
  induction h with
  | ready h => exact ⟨_, h, List.mem_singleton_self _⟩
  | failed | late | unfinished => cases hr
  | pending _ _ ih =>
    obtain ⟨answer, hready, hmem⟩ := ih hr
    exact ⟨answer, hready, List.mem_cons_of_mem _ hmem⟩

namespace Plan

variable {plan : Plan τ} {p q : Progress} {log cs : List Answered} {f : Fault}

/-! ### Evidence by stages -/

/-- Packages are made at one stage only. -/
theorem Asks.issued_eq_none {c : Answered} (h : Asks plan p c.call) (hp : p.stage ≠ .createPackage) :
    Product.package.issued c = none := by
  obtain ⟨call, answer⟩ := c
  cases h with
  | createPackage stage => exact absurd stage hp
  | _ => rfl

/-- The calls of its own stage leave a record backed. -/
theorem Asks.backed (hcs : ∀ c ∈ cs, Asks plan p c.call) (h : Backed log p) : Backed (log ++ cs) p := by
  intro s hs
  refine (h s hs).append ?_
  -- where there is anything to be kept, the stage does not make packages
  have hp : p.stage ≠ .createPackage := by
    intro hp
    rw [hp] at hs
    exact absurd hs (Nat.not_lt_zero _)
  exact fun c hc => (hcs c hc).issued_eq_none hp

/-- A stage that is done leaves evidence of it. -/
theorem Advance.evidence (h : Advance plan p cs q) (hp : Backed log p) : Evidence (log ++ cs) q p.stage := by
  cases h with
  | createPackage stage hmade =>
    rw [Method.packageMade_eq] at hmade
    obtain ⟨made, rfl, rfl⟩ := Pipeline.expected_eq_ok hmade
    rw [stage]
    show (Product.package.issuedIn (log ++ [_])).getLast? = some made.guid
    rw [Product.issuedIn_append]
    exact List.getLast?_concat
  | uploadBits stage opened htaken =>
    rw [Method.bitsTaken_eq] at htaken
    obtain ⟨taken, rfl, -⟩ := Pipeline.expected_eq_ok htaken
    rw [stage]
    exact ⟨_, _, taken, List.mem_append_right _ (List.mem_singleton_self _)⟩
  | packageReady stage awaited =>
    obtain ⟨answer, hverdict, hmem⟩ := awaited.exists_ready
    obtain ⟨ready, rfl, hready⟩ := Pipeline.packageVerdict_eq_ready hverdict
    obtain ⟨bits, file, taken, huploaded⟩ := hp .uploadBits (by rw [stage]; decide)
    rw [stage]
    exact ⟨bits, file, taken, ready, hready,
      List.Sublist.append (List.singleton_sublist.2 huploaded) (List.singleton_sublist.2 hmem)⟩
  | createBuild stage hmade =>
    rw [Method.buildMade_eq] at hmade
    obtain ⟨made, rfl, rfl⟩ := Pipeline.expected_eq_ok hmade
    rw [stage]
    exact ⟨made, rfl, List.mem_append_right _ (List.mem_singleton_self _)⟩
  | @buildReady polls answer droplet stage awaited hdroplet =>
    obtain ⟨answer', hverdict, hmem⟩ := awaited.exists_ready
    obtain ⟨staged, rfl, hstaged⟩ := Pipeline.buildVerdict_eq_ready hverdict
    obtain ⟨named, rfl, hnamed⟩ := Pipeline.dropletNamed_eq_some hdroplet
    obtain ⟨made, hbuild, hmade⟩ := hp .createBuild (by rw [stage]; decide)
    rw [stage]
    refine ⟨made, staged, named, droplet, hstaged, hnamed, rfl, ?_⟩
    rw [← hbuild]
    -- the build was made before, has staged in the wait, and names its droplet after it
    exact List.Sublist.append (List.singleton_sublist.2 hmade)
      (List.Sublist.append (List.singleton_sublist.2 hmem) (List.Sublist.refl _))
  | setDroplet stage placed =>
    obtain rfl := Pipeline.operated_eq_ok placed
    rw [stage]
    exact ⟨_, _, List.mem_append_right _ (List.mem_singleton_self _)⟩
  | start stage | skipStart stage =>
    rw [stage]
    trivial

/-- A stage that is done changes nothing that the evidence for earlier stages is about. -/
theorem Advance.evidence_of_lt (h : Advance plan p cs q) {s : Stage} (hs : s.rank < p.stage.rank)
    (he : Evidence log p s) : Evidence log q s := by
  cases h with
  | createPackage stage | uploadBits stage | packageReady stage | createBuild stage | buildReady stage
  | setDroplet stage | start stage | skipStart stage =>
    rw [stage] at hs
    cases s <;> first | exact he | exact absurd hs (by decide)

/-- **A stage that is done** leaves a record that is backed. -/
theorem Advance.backed (h : Advance plan p cs q) (hp : Backed log p) : Backed (log ++ cs) q := by
  intro s hs
  rw [h.rank_eq] at hs
  rcases Nat.lt_succ_iff_lt_or_eq.1 hs with hbefore | hat
  · exact h.evidence_of_lt hbefore (Asks.backed h.asks hp s hbefore)
  · rw [Stage.eq_of_rank hat]
    exact h.evidence hp

/-- **A loss** leaves a record that is backed: it goes back to before what was lost. -/
theorem Rewind.backed (h : Rewind plan p cs f q) (hp : Backed log p) : Backed (log ++ cs) q := by
  have hkept := Asks.backed h.asks hp
  intro s hs
  cases h with
  | package => exact absurd hs (Nat.not_lt_zero _)
  | build stage =>
    replace hs : s.rank < Stage.createBuild.rank := hs
    have he : Evidence (log ++ cs) p s := hkept s (by rw [stage]; exact Nat.lt_succ_of_lt hs)
    cases s <;> first | exact he | exact absurd hs (by decide)

end Plan

/-! ## Gates -/

/-- What the calls so far have to show when a call is made. -/
def Gate (log : List Answered) : Call → Prop
  | .createBuild package => Vetted log package
  | .setDroplet _ droplet => Yields log (lastPackage log) droplet
  | .start _ => Placed log
  | _ => True

/-- **Calls are guarded** if each finds before it what it has to. -/
def Guarded (log cs : List Answered) : Prop :=
  ∀ pre c post, cs = pre ++ c :: post → Gate (log ++ pre) c.call

theorem Guarded.append {log cs cs' : List Answered} (h : Guarded log cs) (h' : Guarded (log ++ cs) cs') :
    Guarded log (cs ++ cs') := by
  intro pre c post hsplit
  rcases split_of_append hsplit with ⟨rest, hcs, -⟩ | ⟨front, rfl, hcs'⟩
  · exact h pre c rest hcs
  · rw [← List.append_assoc]
    exact h' front c post hcs'

namespace Plan

variable {plan : Plan τ} {p q : Progress} {log cs : List Answered} {f : Fault} {ss : List Progress}
  {o : Except Fault Progress}

/-- **A stage asks for nothing that is not backed.** -/
theorem Asks.gate {c : Call} (h : Asks plan p c) (hp : Backed log p) : Gate log c := by
  cases h with
  | createBuild stage => exact hp .packageReady (by rw [stage]; decide)
  | setDroplet stage =>
    have hlast : lastPackage log = p.package := hp .createPackage (by rw [stage]; decide)
    show Yields log (lastPackage log) p.droplet
    rw [hlast]
    exact hp .buildReady (by rw [stage]; decide)
  | start stage => exact hp .setDroplet (by rw [stage]; decide)
  | createPackage | uploadBits | packageReady | buildReady => trivial

theorem Asks.guarded (hcs : ∀ c ∈ cs, Asks plan p c.call) (hp : Backed log p) : Guarded log cs := by
  rintro pre c post rfl
  obtain ⟨hpre, hrest⟩ := List.forall_mem_append.1 hcs
  exact (hrest c List.mem_cons_self).gate (Asks.backed hpre hp)

/-- **Whatever a run calls is guarded**, and the record that it leaves is backed. -/
theorem Trail.guarded (h : Trail plan p cs ss o) (hp : Backed log p) :
    Guarded log cs ∧ Backed (log ++ cs) (ss.getLast?.getD p) := by
  induction h generalizing log with
  | empty p =>
    refine ⟨?_, ?_⟩
    · intro pre c post hsplit
      exact absurd hsplit (by simp)
    · rw [List.append_nil]
      exact hp
  | @advance p q cs cs' ss o hstage _ ih =>
    obtain ⟨hguarded, hbacked⟩ := ih (hstage.backed hp)
    rw [List.append_assoc] at hbacked
    rw [List.getLast?_cons]
    exact ⟨(Asks.guarded hstage.asks hp).append hguarded, hbacked⟩
  | stuck hstage => exact ⟨Asks.guarded hstage.asks hp, Asks.backed hstage.asks hp⟩
  | rewind hstage => exact ⟨Asks.guarded hstage.asks hp, hstage.backed hp⟩

end Plan

/-! ## What calls name -/

namespace Plan

variable {plan : Plan τ} {p q : Progress} {cs : List Answered} {f : Fault} {ss : List Progress}
  {o : Except Fault Progress} {k : Product} {id : String}

/-- The calls of a stage name what its record keeps. -/
theorem Asks.kept {c : Call} (h : Asks plan p c) (hc : k.named c = some id) : k.kept p = some id := by
  cases h with
  | createPackage | setDroplet | start => cases k <;> cases hc
  | uploadBits | packageReady | createBuild =>
    cases k with
    | package => exact hc
    | build => cases hc
  | buildReady =>
    cases k with
    | package => cases hc
    | build => exact hc

/-- A stage that is done keeps what its record kept and what it was issued. -/
theorem Advance.known (h : Advance plan p cs q) (hq : k.kept q = some id) : k.Known p cs id := by
  cases h with
  | createPackage stage hmade =>
    rw [Method.packageMade_eq] at hmade
    obtain ⟨made, rfl, rfl⟩ := Pipeline.expected_eq_ok hmade
    cases k with
    | package =>
      cases hq
      exact Or.inr (List.mem_singleton_self _)
    | build => exact Or.inl hq
  | createBuild stage hmade =>
    rw [Method.buildMade_eq] at hmade
    obtain ⟨made, rfl, rfl⟩ := Pipeline.expected_eq_ok hmade
    cases k with
    | package => exact Or.inl hq
    | build =>
      cases hq
      exact Or.inr (List.mem_singleton_self _)
  | uploadBits | packageReady | buildReady | setDroplet | start | skipStart => cases k <;> exact Or.inl hq

/-- A loss keeps nothing new. -/
theorem Rewind.known (h : Rewind plan p cs f q) (hq : k.kept q = some id) : k.Known p cs id := by
  cases h with
  | package | build => cases k <;> first | exact Or.inl hq | cases hq

theorem Asks.known (hcs : ∀ c ∈ cs, Asks plan p c.call) : ∀ c ∈ cs, k.named c.call = some id → k.Known p cs id :=
  fun c hc hnamed => Or.inl ((hcs c hc).kept hnamed)

/-- **A run names and keeps** what its record kept and what it was issued. -/
theorem Trail.known (h : Trail plan p cs ss o) (k : Product) (id : String) :
    (∀ c ∈ cs, k.named c.call = some id → k.Known p cs id) ∧
      (k.kept (ss.getLast?.getD p) = some id → k.Known p cs id) := by
  induction h with
  | empty p => exact ⟨List.forall_mem_nil _, Or.inl⟩
  | @advance p q cs cs' ss o hstage _ ih =>
    obtain ⟨hnamed, hkept⟩ := ih
    rw [List.getLast?_cons]
    refine ⟨List.forall_mem_append.2 ⟨?_, ?_⟩, ?_⟩
    · exact fun c hc hid => (Asks.known hstage.asks c hc hid).append_right cs'
    · exact fun c hc hid => (hnamed c hc hid).trans hstage.known
    · exact fun hid => (hkept hid).trans hstage.known
  | stuck hstage => exact ⟨Asks.known hstage.asks, Or.inl⟩
  | rewind hstage => exact ⟨Asks.known hstage.asks, hstage.known⟩

end Plan

/-! ## Losses -/

/-- After a poll that failed a wait is over, and fails. -/
theorem Awaited.of_failed {c : Call} {verdict : Except Fault c.Answer → Except Fault Readiness} {wait : Wait}
    {cs : List Answered} {o : Except Fault Unit} (h : Awaited c verdict wait cs o) {answer : Except Fault c.Answer}
    {f : Fault} (failed : verdict answer = .error f) {pre post : List Answered}
    (hcs : cs = pre ++ ⟨c, answer⟩ :: post) : post = [] ∧ o = .error f := by
  induction h generalizing pre with
  | ready hready | late hready =>
    obtain ⟨rfl, hcs⟩ | ⟨-, hcs⟩ := List.append_eq_singleton_iff.1 hcs.symm
    · cases hcs
      rw [failed] at hready
      cases hready
    · cases hcs
  | failed hfailed =>
    obtain ⟨rfl, hcs⟩ | ⟨-, hcs⟩ := List.append_eq_singleton_iff.1 hcs.symm
    · cases hcs
      rw [failed] at hfailed
      cases hfailed
      exact ⟨rfl, rfl⟩
    · cases hcs
  | unfinished => exact absurd hcs (by simp)
  | pending hpending _ ih =>
    cases pre with
    | nil =>
      cases hcs
      rw [failed] at hpending
      cases hpending
    | cons b pre => exact ih (List.cons_eq_cons.1 hcs).2

namespace Plan

variable {plan : Plan τ} {p : Progress} {cs pre post : List Answered} {ss : List Progress} {o : Except Fault Progress}

theorem Took.asks (h : Took plan p cs ss o) : ∀ c ∈ cs, Asks plan p c.call := by
  cases h with
  | advance hstage => exact hstage.asks
  | stuck hstage => exact hstage.asks
  | rewind hstage => exact hstage.asks

/-- The stage that waits for a package takes the package back when it is lost. -/
theorem Took.of_lost_package (h : Took plan p cs ss o) {answer : Except Fault (Option Package)} {f : Fault}
    (hcs : cs = pre ++ ⟨.package p.package, answer⟩ :: post)
    (lost : Pipeline.packageVerdict p.package answer = .error f) (terminal : f.isTerminal = true) :
    post = [] ∧ ∃ q, o = .error f ∧ ss = [q] ∧ q.package = none := by
  have hasks : Asks plan p (.package p.package) := h.asks _ (hcs ▸ List.mem_append_right pre List.mem_cons_self)
  have hstage : p.stage = .packageReady := (Option.some.inj hasks.stage?_eq).symm
  cases h with
  | advance h =>
    cases h with
    | packageReady _ awaited => cases (awaited.of_failed lost hcs).2
    | createPackage stage | uploadBits stage | createBuild stage | buildReady stage | setDroplet stage | start stage
    | skipStart stage => cases hstage.symm.trans stage
  | stuck h =>
    cases h with
    | packageReady _ awaited curable =>
      cases (awaited.of_failed lost hcs).2
      exact absurd terminal (Bool.eq_false_iff.1 curable)
    | createPackage stage | artifact stage | uploadBits stage | createBuild stage | buildReady stage | droplet stage
    | noDroplet stage | setDroplet stage | start stage => cases hstage.symm.trans stage
  | rewind h =>
    cases h with
    | package _ awaited =>
      obtain ⟨hpost, hf⟩ := awaited.of_failed lost hcs
      cases hf
      exact ⟨hpost, _, rfl, rfl, rfl⟩
    | build stage => cases hstage.symm.trans stage

/-- The call after a wait for a build that has staged is no poll. -/
theorem not_waiting_of_awaited {id : Option String} {wait : Wait} {answer answer' : Except Fault (Option Build)}
    (awaited : Awaited (.build id) Pipeline.buildVerdict wait cs (.ok ())) {f : Fault}
    (hcs : cs ++ [⟨.build id, answer⟩] = pre ++ ⟨.build id, answer'⟩ :: post)
    (lost : Pipeline.buildVerdict answer' = .error f) : ¬ Product.build.Waiting pre := by
  intro hwait
  rcases split_of_append hcs with ⟨rest, hcs, -⟩ | ⟨front, rfl, -⟩
  · cases (awaited.of_failed lost hcs).2
  · obtain ⟨ready, hready, hmem⟩ := awaited.exists_ready
    obtain ⟨b, rfl, hstaged⟩ := Pipeline.buildVerdict_eq_ready hready
    exact hwait id b (List.mem_append_left front hmem) hstaged

/-- The stage that waits for a build takes the build back when it is lost. -/
theorem Took.of_lost_build (h : Took plan p cs ss o) {answer : Except Fault (Option Build)} {f : Fault}
    (hcs : cs = pre ++ ⟨.build p.build, answer⟩ :: post) (hwait : Product.build.Waiting pre)
    (lost : Pipeline.buildVerdict answer = .error f) (terminal : f.isTerminal = true) :
    post = [] ∧ ∃ q, o = .error f ∧ ss = [q] ∧ q.build = none := by
  have hasks : Asks plan p (.build p.build) := h.asks _ (hcs ▸ List.mem_append_right pre List.mem_cons_self)
  have hstage : p.stage = .buildReady := (Option.some.inj hasks.stage?_eq).symm
  cases h with
  | advance h =>
    cases h with
    | buildReady _ awaited => exact absurd hwait (not_waiting_of_awaited awaited hcs lost)
    | createPackage stage | uploadBits stage | packageReady stage | createBuild stage | setDroplet stage | start stage
    | skipStart stage => cases hstage.symm.trans stage
  | stuck h =>
    cases h with
    | buildReady _ awaited curable =>
      cases (awaited.of_failed lost hcs).2
      exact absurd terminal (Bool.eq_false_iff.1 curable)
    | droplet _ awaited | noDroplet _ awaited => exact absurd hwait (not_waiting_of_awaited awaited hcs lost)
    | createPackage stage | artifact stage | uploadBits stage | packageReady stage | createBuild stage
    | setDroplet stage | start stage => cases hstage.symm.trans stage
  | rewind h =>
    cases h with
    | build _ awaited =>
      obtain ⟨hpost, hf⟩ := awaited.of_failed lost hcs
      cases hf
      exact ⟨hpost, _, rfl, rfl, rfl⟩
    | package stage => cases hstage.symm.trans stage

/-- **What is lost is given up**: it is the last call of the stage, which takes back what it waited for. -/
theorem Took.gone {k : Product} {c : Answered} (h : Took plan p cs ss o) (hcs : cs = pre ++ c :: post)
    (hwait : k.Waiting pre) (hgone : k.Gone c) :
    post = [] ∧ ∃ f q, o = .error f ∧ ss = [q] ∧ k.kept q = none := by
  have hasks : Asks plan p c.call := h.asks c (hcs ▸ List.mem_append_right pre List.mem_cons_self)
  cases hgone with
  | noPackage id =>
    cases hasks
    obtain ⟨hpost, hrest⟩ := h.of_lost_package hcs rfl rfl
    exact ⟨hpost, _, hrest⟩
  | package id state =>
    cases hasks
    obtain ⟨hpost, hrest⟩ := h.of_lost_package hcs ((Pipeline.packageVerdict_some _ _).trans (if_pos state)) rfl
    exact ⟨hpost, _, hrest⟩
  | noBuild id =>
    cases hasks
    obtain ⟨hpost, hrest⟩ := h.of_lost_build hcs hwait rfl rfl
    exact ⟨hpost, _, hrest⟩
  | build id state =>
    cases hasks
    obtain ⟨hpost, hrest⟩ := h.of_lost_build hcs hwait ((Pipeline.buildVerdict_some _).trans (if_pos state)) rfl
    exact ⟨hpost, _, hrest⟩

/-- **A loss ends the run**, and the record that it leaves does not keep what was lost. -/
theorem Trail.gone {k : Product} {c : Answered} (h : Trail plan p cs ss o) (hcs : cs = pre ++ c :: post)
    (hwait : k.Waiting pre) (hgone : k.Gone c) : post = [] ∧ k.kept (ss.getLast?.getD p) = none := by
  induction h generalizing pre with
  | empty p => exact absurd hcs (by simp)
  | advance hstage _ ih =>
    rw [List.getLast?_cons]
    rcases split_of_append hcs with ⟨rest, hcs, -⟩ | ⟨front, rfl, hcs'⟩
    · obtain ⟨-, f, q, ho, -⟩ := (Took.advance hstage).gone hcs hwait hgone
      cases ho
    · exact ih hcs' hwait.of_append
  | stuck hstage =>
    obtain ⟨-, f, q, -, hss, -⟩ := (Took.stuck hstage).gone hcs hwait hgone
    cases hss
  | rewind hstage =>
    obtain ⟨hpost, f, q, -, hss, hnone⟩ := (Took.rewind hstage).gone hcs hwait hgone
    cases hss
    exact ⟨hpost, hnone⟩

/-- Every call of a run is a call of some stage. -/
theorem Trail.asks (h : Trail plan p cs ss o) : ∀ c ∈ cs, ∃ q, Asks plan q c.call := by
  induction h with
  | empty p => exact List.forall_mem_nil _
  | advance hstage _ ih => exact List.forall_mem_append.2 ⟨fun c hc => ⟨_, hstage.asks c hc⟩, ih⟩
  | stuck hstage => exact fun c hc => ⟨_, hstage.asks c hc⟩
  | rewind hstage => exact fun c hc => ⟨_, hstage.asks c hc⟩

end Plan

/-! ## Attempts in a row -/

section

variable [Add τ] [LT τ] [DecidableLT τ] {start p q : Progress} {as bs : List (Attempted τ)}

/-- The last of some attempts takes up what those before it left. -/
theorem Course.of_concat {a : Attempted τ} (h : Course start (as ++ [a]) q) :
    ∃ p, Course start as p ∧ Stages (a.plan.deploy (some p)) a.trace a.outcome ∧ q = lastSaved p a.trace := by
  generalize hl : as ++ [a] = l at h
  cases h with
  | begun => exact absurd hl (by simp)
  | next before run =>
    obtain ⟨rfl, hlast⟩ := List.append_inj' hl rfl
    cases hlast
    exact ⟨_, before, run, rfl⟩

/-- Attempts may be cut in two: the second ones take up what the first ones left. -/
theorem Course.split (h : Course start (as ++ bs) q) : ∃ p, Course start as p ∧ Course p bs q := by
  generalize hl : as ++ bs = l at h
  induction h generalizing bs with
  | begun =>
    obtain ⟨rfl, rfl⟩ := List.append_eq_nil_iff.1 hl
    exact ⟨start, Course.begun, Course.begun⟩
  | @next l q b before run ih =>
    rcases List.eq_nil_or_concat bs with rfl | ⟨bs, b', rfl⟩
    · rw [List.append_nil] at hl
      subst hl
      exact ⟨_, before.next run, Course.begun⟩
    · rw [List.concat_eq_append, ← List.append_assoc] at hl
      obtain ⟨hfront, hlast⟩ := List.append_inj' hl rfl
      cases hlast
      obtain ⟨p, hfirst, hsecond⟩ := ih hfront
      rw [List.concat_eq_append]
      exact ⟨p, hfirst, hsecond.next run⟩

/-- **All calls of all attempts are guarded.** -/
theorem Course.guarded {log : List Answered} (h : Course start as p) (hstart : Backed log start) :
    Guarded log (callsOf as) ∧ Backed (log ++ callsOf as) p := by
  induction h with
  | begun =>
    refine ⟨?_, ?_⟩
    · intro pre c post hsplit
      exact absurd hsplit (by simp [callsOf])
    · rw [callsOf, List.flatMap_nil, List.append_nil]
      exact hstart
  | next _ run ih =>
    obtain ⟨htrail, -⟩ := Plan.runs_deploy run
    obtain ⟨hguarded, hbacked⟩ := htrail.guarded ih.2
    rw [callsOf_concat]
    refine ⟨ih.1.append hguarded, ?_⟩
    rw [← List.append_assoc]
    exact hbacked

theorem Course.known {k : Product} {id : String} (h : Course start as p) :
    (∀ c ∈ callsOf as, k.named c.call = some id → k.Known start (callsOf as) id) ∧
      (k.kept p = some id → k.Known start (callsOf as) id) := by
  induction h with
  | begun => exact ⟨List.forall_mem_nil _, Or.inl⟩
  | next _ run ih =>
    obtain ⟨htrail, -⟩ := Plan.runs_deploy run
    obtain ⟨hnamed, hkept⟩ := htrail.known k id
    rw [callsOf_concat]
    refine ⟨List.forall_mem_append.2 ⟨?_, ?_⟩, ?_⟩
    · exact fun c hc hid => (ih.1 c hc hid).append_right _
    · exact fun c hc hid => (hnamed c hc hid).trans ih.2
    · exact fun hid => (hkept hid).trans ih.2

/-- Every call is a call of some stage of an attempt. -/
theorem Course.asks (h : Course start as p) : ∀ c ∈ callsOf as, ∃ a ∈ as, ∃ q, Plan.Asks a.plan q c.call := by
  induction h with
  | begun => exact List.forall_mem_nil _
  | next _ run ih =>
    obtain ⟨htrail, -⟩ := Plan.runs_deploy run
    rw [callsOf_concat]
    refine List.forall_mem_append.2 ⟨?_, ?_⟩
    · intro c hc
      obtain ⟨a, ha, hasks⟩ := ih c hc
      exact ⟨a, List.mem_append_left _ ha, hasks⟩
    · intro c hc
      exact ⟨_, List.mem_append_right _ (List.mem_singleton_self _), htrail.asks c hc⟩

/-- **What is lost is never named again**, if no identifier is issued twice. -/
theorem Course.never_named {app : String} {k : Product} (h : Course (Progress.fresh app) as p)
    (distinct : (k.issuedIn (callsOf as)).Nodup) {before after : List (Attempted τ)} {a : Attempted τ}
    {pre post : List Answered} {c : Answered} {id : String} (has : as = before ++ a :: after)
    (hcs : a.calls = pre ++ c :: post) (hwait : k.Waiting pre) (hgone : k.Gone c) (hc : k.named c.call = some id) :
    ∀ c' ∈ post ++ callsOf after, k.named c'.call ≠ some id := by
  rw [List.append_cons] at has
  subst has
  obtain ⟨q, hfirst, hafter⟩ := h.split
  obtain ⟨r, -, run, hq⟩ := hfirst.of_concat
  obtain ⟨htrail, -⟩ := Plan.runs_deploy run
  obtain ⟨rfl, hnone⟩ := htrail.gone hcs hwait hgone
  rw [callsOf_append, Product.issuedIn_append] at distinct
  -- a fresh record keeps nothing, so the identifier was issued before it was named
  have hmem : c ∈ callsOf (before ++ [a]) := by
    rw [callsOf_concat, hcs]
    exact List.mem_append_right _ (List.mem_append_right _ List.mem_cons_self)
  have hissued : id ∈ k.issuedIn (callsOf (before ++ [a])) := by
    refine (hfirst.known.1 c hmem hc).resolve_left ?_
    cases k <;> exact nofun
  intro c' hc' hnamed
  -- the record keeps it no longer, so if it were named again it would have been issued again
  have hagain : id ∈ k.issuedIn (callsOf after) := by
    refine (hafter.known.1 c' hc' hnamed).resolve_left ?_
    rw [hq]
    exact fun hkept => nomatch hnone.symm.trans hkept
  exact (List.nodup_append.1 distinct).2.2 id hissued id hagain rfl

/-- **The gates that attempts pass.** -/
structure Gates (as : List (Attempted τ)) : Prop where
  /-- What is built from has had its bits uploaded, and has been reported ready after that. -/
  built : ∀ pre package answer post, callsOf as = pre ++ ⟨.createBuild package, answer⟩ :: post →
    Vetted pre package
  /-- A droplet that is set has been named by a build that was made of the current package, after the build was
  reported staged. -/
  placed : ∀ pre app droplet answer post, callsOf as = pre ++ ⟨.setDroplet app droplet, answer⟩ :: post →
    Yields pre (lastPackage pre) droplet
  /-- Before an application is started a droplet has been set, for that application if all attempts are for one. -/
  started : ∀ pre app answer post, callsOf as = pre ++ ⟨.start app, answer⟩ :: post →
    ∃ app' droplet, ⟨.setDroplet app' droplet, .ok ()⟩ ∈ pre ∧
      ((∀ a ∈ as, ∀ b ∈ as, a.plan.app = b.plan.app) → app' = app)
  /-- What is lost while it is waited for is never named again, if no identifier is issued twice. -/
  abandoned : ∀ k : Product, (k.issuedIn (callsOf as)).Nodup → ∀ before a after pre c post id,
    as = before ++ a :: after → a.calls = pre ++ c :: post → k.Waiting pre → k.Gone c →
    k.named c.call = some id → ∀ c' ∈ post ++ callsOf after, k.named c'.call ≠ some id

/-- **No gate is skipped.** Whatever becomes of attempts on a record that begins fresh, and whichever applications
they are for, all calls of all attempts together pass the gates. -/
theorem Course.gates {app : String} (h : Course (Progress.fresh app) as p) : Gates as := by
  have hfresh : Backed [] (Progress.fresh app) := fun s hs => absurd hs (Nat.not_lt_zero _)
  obtain ⟨hguarded, -⟩ := h.guarded hfresh
  refine ⟨?_, ?_, ?_, ?_⟩
  · intro pre package answer post hcalls
    exact hguarded pre _ post hcalls
  · intro pre app droplet answer post hcalls
    exact hguarded pre _ post hcalls
  · intro pre app answer post hcalls
    obtain ⟨app', droplet, hset⟩ : Placed pre := hguarded pre _ post hcalls
    refine ⟨app', droplet, hset, ?_⟩
    intro same
    obtain ⟨a, ha, q, hasks⟩ := h.asks _ (hcalls ▸ List.mem_append_left _ hset)
    obtain ⟨b, hb, r, hasks'⟩ := h.asks _ (hcalls ▸ List.mem_append_right pre List.mem_cons_self)
    cases hasks
    cases hasks'
    exact same a ha b hb
  · intro k distinct before a after pre c post id has hcs hwait hgone hc
    exact h.never_named distinct has hcs hwait hgone hc

end

/-- Two attempts of which the first loses its package. The second names the package no more. -/
theorem Course.gates_fickle :
    ∃ p, Course (Progress.fresh "app-1") [vainAttempt, goodAttempt] p ∧ Gates [vainAttempt, goodAttempt] ∧
      (∀ k : Product, (k.issuedIn (callsOf [vainAttempt, goodAttempt])).Nodup) ∧
      ∀ c ∈ goodAttempt.calls, Product.package.named c.call ≠ some "package-1" := by
  have hcourse : Course (Progress.fresh "app-1") [vainAttempt, goodAttempt] _ :=
    (Course.begun.next (a := vainAttempt) (Attempted.runs_under fickle _ _ 0)).next
      (a := goodAttempt) (Attempted.runs_under fickle _ _ 1)
  have distinct : ∀ k : Product, (k.issuedIn (callsOf [vainAttempt, goodAttempt])).Nodup := by
    intro k
    cases k <;> decide +kernel
  refine ⟨_, hcourse, Course.gates hcourse, distinct, ?_⟩
  intro c hc
  -- the vain attempt makes a package, uploads its bits, and is told that the package has failed
  have hcalls : vainAttempt.calls = [_, _, ⟨.package (some "package-1"), .ok (some ⟨"", "FAILED", ⟨none⟩, default⟩)⟩] :=
    rfl
  exact (Course.gates hcourse).abandoned .package (distinct .package) [] _ _ [_, _] _ _ _ rfl hcalls trivial
    (Product.Gone.package _ (Or.inl rfl)) rfl c (by simpa [callsOf] using hc)

/-- A platform that does not start the first application. -/
def halting : Handler (Staging Nat) Nat
  | .call (.start app), n => (if app = some "app-1" then .error default else .ok (), n)
  | r, n => fickle r n

/-- An attempt that does all but start its application. -/
def haltedAttempt : Attempted Nat :=
  .under halting shortPlan (.fresh "app-1") 1

/-- An attempt for another application, on the record of the first. -/
def otherAttempt : Attempted Nat :=
  .under halting { shortPlan with app := some "app-2" } (lastSaved (.fresh "app-1") haltedAttempt.trace) 2

/-- If attempts on one record are for different applications, one may be started for which no droplet was set. -/
theorem Course.started_without_droplet :
    ∃ p, Course (Progress.fresh "app-1") [haltedAttempt, otherAttempt] p ∧
      (∀ k : Product, (k.issuedIn (callsOf [haltedAttempt, otherAttempt])).Nodup) ∧
      ¬ ∀ pre app answer post, callsOf [haltedAttempt, otherAttempt] = pre ++ ⟨.start app, answer⟩ :: post →
        ∃ droplet, ⟨.setDroplet app droplet, .ok ()⟩ ∈ pre := by
  have hrun := Attempted.runs_under halting shortPlan (Progress.fresh "app-1") 1
  have hrun' := Attempted.runs_under halting { shortPlan with app := some "app-2" }
    (lastSaved (.fresh "app-1") haltedAttempt.trace) 2
  refine ⟨_, (Course.begun.next (a := haltedAttempt) hrun).next (a := otherAttempt) hrun', ?_, ?_⟩
  · intro k
    cases k <;> decide +kernel
  · intro hstarted
    have hcalls : callsOf [haltedAttempt, otherAttempt] = haltedAttempt.calls ++ [⟨.start (some "app-2"), .ok ()⟩] :=
      rfl
    obtain ⟨droplet, hset⟩ := hstarted _ _ _ _ hcalls
    -- all that the first attempt does is for its own application
    obtain ⟨q, hasks⟩ := (Plan.runs_deploy hrun).1.asks _ hset
    generalize happ : some "app-2" = app at hasks
    cases hasks with
    | setDroplet => exact absurd happ (by decide)

end Steward
