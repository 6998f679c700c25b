import Mathlib.Algebra.Order.Floor.Semiring
import Mathlib.Data.Rat.Floor
import Mathlib.Tactic.Linarith
import Mathlib.Tactic.NormNum
import Steward.Proofs.Deployment.Waiting

/-!
# The deadline of a deployment

On a clock that never goes back, and on which a pause takes its time, the pauses of a run fit into the timeout: there
are no more of them than the timeout has intervals, and so there is an end to the polls, whatever they are answered.
The limit that every wait has on its polls is never reached then, and could as well be any other.

## Contents

* `Staging.inTime` — clocks and pauses; `Paced.add_le` — pauses take time, and end before the deadline;
* `Covers` — programs that differ in patience; `Plan.covers_resume`;
* `Plan.Punctual`, `Plan.punctual` — what the deadline makes of an attempt.
-/

namespace Steward

/-! ## Time -/

/-- A clock that never goes back, and on which a pause takes as long as it asks for at least. Other requests may take any
time, and calls may be answered with anything. -/
def Staging.inTime : Answering (Staging ℚ) ℚ :=
  fun r now reply now' =>
    match r, reply with
    | .clock, reading => now ≤ reading ∧ reading ≤ now'
    | .pause d, _ => now + d ≤ now'
    | _, _ => now ≤ now'

/-- What is no pause may take time too. -/
theorem Staging.inTime.le {r : Staging.Request ℚ} {now now' : ℚ} {reply : Staging.Reply ℚ r}
    (h : Staging.inTime r now reply now') (hpause : pauses [(⟨r, reply⟩ : Exchange (Staging ℚ))] = []) : now ≤ now' := by
  cases r with
  | clock => exact h.1.trans h.2
  | pause d => exact absurd hpause (List.cons_ne_nil _ _)
  | _ => exact h

/-- **Pauses that keep to a deadline take their time**, and the last of them need not end after it. -/
theorem Paced.add_le {interval deadline now now' : ℚ} {t : List (Exchange (Staging ℚ))} (h : Paced interval deadline t)
    (htime : Staging.inTime.Leads now t now') :
    now + (pauses t).length * interval ≤ now' ∧
      (pauses t ≠ [] → now + (pauses t).length * interval ≤ deadline) := by
  -- the induction is on what is exchanged, from any moment on
  induction h generalizing now with
  | nil =>
    cases htime
    simp
  | @other e t hpause _ ih =>
    have hpauses : pauses (e :: t) = pauses t := by
      rw [← List.singleton_append, pauses_append, hpause, List.nil_append]
    rw [hpauses]
    cases htime with
    | cons answer rest =>
      have hle := Staging.inTime.le answer hpause
      obtain ⟨hend, hlast⟩ := ih rest
      exact ⟨by linarith, fun hne => by linarith [hlast hne]⟩
  | @pause reading t hreading _ ih =>
    have hlength : ((pauses (⟨.clock, reading⟩ :: ⟨.pause interval, ()⟩ :: t)).length : ℚ) = (pauses t).length + 1 :=
      Nat.cast_succ _
    rw [hlength]
    cases htime with
    | @cons _ _ _ read _ _ hclock hrest =>
      cases hrest with
      | @cons _ _ _ paused _ _ hpause rest =>
        obtain ⟨hend, hlast⟩ := ih rest
        have hread : now ≤ reading ∧ reading ≤ read := hclock
        have hpaused : read + interval ≤ paused := hpause
        refine ⟨by linarith [hread.1, hread.2], fun _ => ?_⟩
        by_cases hnone : pauses t = []
        · rw [hnone]
          simp only [List.length_nil, Nat.cast_zero, zero_add, one_mul]
          linarith [hread.1, not_lt.1 hreading]
        · linarith [hlast hnone, hread.1, hread.2]

/-- There are no more pauses than the time has intervals. -/
theorem Paced.length_le {interval timeout began now now' : ℚ} {t : List (Exchange (Staging ℚ))}
    (h : Paced interval (began + timeout) t) (hinterval : 0 < interval) (htime : Staging.inTime.Leads now t now')
    (hbegan : began ≤ now) : (pauses t).length ≤ ⌊timeout / interval⌋₊ := by
  by_cases hnone : pauses t = []
  · rw [hnone]
    exact Nat.zero_le _
  · have hlast := (h.add_le htime).2 hnone
    apply Nat.le_floor
    rw [le_div_iff₀ hinterval]
    linarith

/-! ## Patience -/

section

variable {τ σ α β : Type} {A : Answering (Staging τ) σ} {k : Nat}

/-- The runs of one program with no more pauses than this are runs of another one. -/
def Covers (A : Answering (Staging τ) σ) (k : Nat) (p p' : Attempt (Staging τ) α) : Prop :=
  ∀ s t o s', (pauses t).length ≤ k → Attempt.Runs A p s t o s' → Attempt.Runs A p' s t o s'

theorem Covers.refl (p : Attempt (Staging τ) α) : Covers A k p p :=
  fun _ _ _ _ _ h => h

theorem Covers.bind {p p' : Attempt (Staging τ) α} {f f' : α → Attempt (Staging τ) β} (hp : Covers A k p p')
    (hf : ∀ a, Covers A k (f a) (f' a)) : Covers A k (p >>= f) (p' >>= f') := by
  intro s t o s' hk h
  rcases Attempt.runs_bind.1 h with ⟨e, rfl, he⟩ | ⟨t₁, a, m, t₂, rfl, h₁, h₂⟩
  · exact Attempt.runs_bind.2 (Or.inl ⟨e, rfl, hp _ _ _ _ hk he⟩)
  · rw [pauses_append, List.length_append] at hk
    have hfirst := hp _ _ _ _ (by omega) h₁
    have hnext := hf a _ _ _ _ (by omega) h₂
    exact Attempt.runs_bind.2 (Or.inr ⟨t₁, a, m, t₂, rfl, hfirst, hnext⟩)

theorem Covers.settle {p p' : Attempt (Staging τ) α} (hp : Covers A k p p') : Covers A k p.settle p'.settle := by
  intro s t o s' hk h
  obtain ⟨r, rfl, hr⟩ := Attempt.runs_settle.1 h
  exact Attempt.runs_settle.2 ⟨r, rfl, hp _ _ _ _ hk hr⟩

variable [Add τ] [LT τ] [DecidableLT τ] {plan : Plan τ} {deadline : τ} {n m : Nat}

namespace Plan

/-- A wait with fewer pauses than polls are allowed would be the same if more or fewer were allowed. -/
theorem covers_awaitReady {plan' : Plan τ} (hinterval : plan'.interval = plan.interval) {wait : Wait}
    {poll : Attempt (Staging τ) Readiness} (hn : k < n) (hm : k < m) :
    Covers A k (plan.awaitReady wait poll deadline n) (plan'.awaitReady wait poll deadline m) := by
  -- the induction is on the polls that are left, and each but the last takes a pause
  induction n generalizing k m with
  | zero => exact absurd hn (Nat.not_lt_zero k)
  | succ n ih =>
    obtain ⟨m, rfl⟩ : ∃ m', m = m' + 1 := ⟨m - 1, by omega⟩
    refine Covers.bind (Covers.refl poll) fun readiness => ?_
    cases readiness with
    | ready => exact Covers.refl _
    | pending =>
      refine Covers.bind (Covers.refl _) fun now => ?_
      rw [hinterval]
      by_cases hlate : deadline < now + plan.interval
      · rw [if_pos hlate, if_pos hlate]
        exact Covers.refl _
      · rw [if_neg hlate, if_neg hlate]
        intro s t o s' hk h
        obtain ⟨reply, m', rest, rfl, answer, hrest⟩ := Attempt.runs_request_bind.1 h
        have hlength : (pauses rest).length + 1 ≤ k := hk
        have hcovers := ih (k := k - 1) (m := m) (by omega) (by omega) _ _ _ _ (by omega) hrest
        exact Attempt.runs_request_bind.2 ⟨reply, m', rest, rfl, answer, hcovers⟩

theorem covers_packageReady (hn : k < plan.patience) (hm : k < m) (p : Progress) :
    Covers A k (plan.packageReady deadline p) ({ plan with patience := m }.packageReady deadline p) := by
  unfold packageReady
  by_cases stage : p.stage = .packageReady
  · rw [if_pos stage, if_pos stage]
    exact Covers.bind (Covers.settle (covers_awaitReady (by rfl) hn hm)) fun _ => Covers.refl _
  · rw [if_neg stage, if_neg stage]
    exact Covers.refl _

theorem covers_buildReady (hn : k < plan.patience) (hm : k < m) (p : Progress) :
    Covers A k (plan.buildReady deadline p) ({ plan with patience := m }.buildReady deadline p) := by
  unfold buildReady
  by_cases stage : p.stage = .buildReady
  · rw [if_pos stage, if_pos stage]
    exact Covers.bind (Covers.settle (covers_awaitReady (by rfl) hn hm)) fun _ => Covers.refl _
  · rw [if_neg stage, if_neg stage]
    exact Covers.refl _

theorem covers_resume (hn : k < plan.patience) (hm : k < m) (p : Progress) :
    Covers A k (plan.resume p) ({ plan with patience := m }.resume p) := by
  unfold resume
  refine Covers.bind (Covers.refl _) fun began => Covers.bind (Covers.refl _) fun p => ?_
  refine Covers.bind (Covers.refl _) fun p => Covers.bind (covers_packageReady hn hm p) fun p => ?_
  refine Covers.bind (Covers.refl _) fun p => Covers.bind (covers_buildReady hn hm p) fun p => ?_
  exact Covers.refl _

/-- **A run with fewer pauses than polls are allowed** would be the same if more or fewer were allowed. -/
theorem covers_deploy (hn : k < plan.patience) (hm : k < m) (saved : Option Progress) :
    Covers A k (plan.deploy saved) ({ plan with patience := m }.deploy saved) := by
  cases saved with
  | some p => exact covers_resume hn hm p
  | none => exact Covers.bind (Covers.refl _) (covers_resume hn hm)

end Plan

end

/-! ## The deadline -/

namespace Plan

/-- **What the deadline makes of an attempt** that goes on from this progress: its first exchange reads the clock, and the
deadline is a timeout after that. -/
structure Punctual (plan : Plan ℚ) (p : Progress) (began : ℚ) (rest : List (Exchange (Staging ℚ)))
    (o : Except Fault Progress) : Prop where
  /-- No pause is begun from which it would go on past the deadline. -/
  paced : Paced plan.interval (began + plan.timeout) rest
  /-- There are no more pauses than the timeout has intervals. -/
  pauses : (pauses rest).length ≤ ⌊plan.timeout / plan.interval⌋₊
  /-- Both waits together poll twice more at most. -/
  polls : polls (calls rest) ≤ ⌊plan.timeout / plan.interval⌋₊ + 2
  /-- An attempt that ends with a fault of time was answered with it in its last call, or ends overdue: the last call was
  a poll answered as pending, and after it the clock was read, from which the next pause would have ended after the
  deadline. The record then is as the last stage that was done left it, and is at the stage that polls. -/
  ends : ∀ f, o = .error f → f.category = .timeout →
    (∃ before c, calls rest = before ++ [⟨c, .error f⟩]) ∨
      ∃ wait, f = .timedOut wait ∧ Overdue plan.interval (began + plan.timeout) wait rest ∧
        ∃ q done since, calls rest = done ++ since ∧ Passed plan p done q ∧ lastSaved p rest = q ∧
          q.stage = wait.stage ∧ since ≠ [] ∧ ∀ c ∈ since, c.call = wait.call q

theorem deploy_eq_resume {τ : Type} [Add τ] [LT τ] [DecidableLT τ] {plan : Plan τ} {saved : Option Progress}
    {p : Progress} (hp : saved = some p ∨ saved = none ∧ Progress.fresh? plan.app = .ok p) :
    plan.deploy saved = plan.resume p := by
  rcases hp with rfl | ⟨rfl, hfresh⟩
  · rfl
  · show (Attempt.ofExcept (Progress.fresh? plan.app) >>= plan.resume) = _
    rw [hfresh, Attempt.ofExcept_ok_bind]

/-- **The deadline bounds every attempt**, whatever the platform answers: an attempt with a positive interval pauses no
more often than the timeout has intervals, polls no more often than that and twice more, ends with a fault of time only
where the deadline is due, and leaves the record at the stage that polled. It is the same for every limit on polls
that is more than the timeout has intervals: no limit is needed for it to end. -/
theorem punctual {plan : Plan ℚ} {saved : Option Progress} {p : Progress} {now now' : ℚ} {t : List (Exchange (Staging ℚ))}
    {o : Except Fault Progress} (hinterval : 0 < plan.interval)
    (hpatience : ⌊plan.timeout / plan.interval⌋₊ < plan.patience)
    (hp : saved = some p ∨ saved = none ∧ Progress.fresh? plan.app = .ok p)
    (h : Attempt.Runs Staging.inTime (plan.deploy saved) now t o now') :
    (∃ began rest, t = ⟨.clock, began⟩ :: rest ∧ plan.Punctual p began rest o) ∧
      ∀ limit, ⌊plan.timeout / plan.interval⌋₊ < limit →
        Attempt.Runs Staging.inTime ({ plan with patience := limit }.deploy saved) now t o now' := by
  -- the clock is forgotten but for the times that it told
  have hany : ∀ r (s : ℚ) reply s' (w : Unit), True → Staging.inTime r s reply s' →
      ∃ w', Answering.any (Staging ℚ) r w reply w' ∧ True := by
    intro r s reply s' w _ _
    exact ⟨(), trivial, trivial⟩
  have hleads := Program.Runs.leads h
  obtain ⟨⟨⟩, hruns, -⟩ := Program.Runs.simulate (fun _ _ => True) hany (w := ()) trivial h
  have hresume : Stages (plan.resume p) t o := by
    rw [← deploy_eq_resume hp]
    exact hruns
  obtain ⟨began, rest, rfl, htimely⟩ := timely_resume hresume
  have hpauses : (Steward.pauses rest).length ≤ ⌊plan.timeout / plan.interval⌋₊ := by
    cases hleads with
    | cons answer hrest => exact htimely.paced.length_le hinterval hrest answer.2
  have hpolls := htimely.polls
  refine ⟨⟨began, rest, rfl, htimely.paced, hpauses, by omega, ?_⟩, ?_⟩
  · rintro f rfl hf
    cases htimely.ends f rfl hf with
    | answered before c hlast => exact Or.inl ⟨before, c, hlast⟩
    | overdue wait hwait hoverdue =>
      subst hwait
      have hoverdue' : Overdue plan.interval (began + plan.timeout) wait (⟨.clock, began⟩ :: rest) := by
        obtain ⟨before, poll, c, reading, rfl, hlate, hpoll, hcalls, hpending⟩ := hoverdue
        exact ⟨⟨.clock, began⟩ :: before, poll, c, reading, rfl, hlate, hpoll, hcalls, hpending⟩
      have hat := overdue_at (p := p) hresume hoverdue'
      exact Or.inr ⟨wait, rfl, hoverdue, hat⟩
    | exhausted hmany => omega
  · intro limit hlimit
    refine covers_deploy hpatience hlimit saved _ _ _ _ ?_ h
    exact hpauses

/-- A platform on which no package gets ready. -/
def stalled : Handler (Staging ℚ) ℚ
  | .call (.package _), now => (.ok (some ⟨"", "PROCESSING_UPLOAD", ⟨none⟩, default⟩), now)
  | .call _, now => (.error default, now)
  | .clock, now => (now, now)
  | .pause d, now => ((), now + d)
  | .report _, now => ((), now)
  | .measure _, now => ((), now)
  | .save _, now => ((), now)

/-- A plan with an interval that goes into its timeout twice. -/
def hastyPlan : Plan ℚ :=
  ⟨some "app-1", ⟨"app.zip", some default⟩, true, 1, 2, 3⟩

/-- A record that waits for its package. -/
def uploaded : Progress :=
  ⟨"app-1", .packageReady, some "package-1", none, none⟩

/-- What is exchanged on that platform. -/
def stalledTrace : List (Exchange (Staging ℚ)) :=
  (hastyPlan.deploy (some uploaded)).outcome.exchanged stalled 0

theorem runs_stalled :
    Attempt.Runs Staging.inTime (hastyPlan.deploy (some uploaded)) 0 stalledTrace
      ((hastyPlan.deploy (some uploaded)).run stalled 0).1 ((hastyPlan.deploy (some uploaded)).run stalled 0).2 := by
  have hstalled : ∀ r (s : ℚ) reply s' w, s = w → stalled.answering r s reply s' →
      ∃ w', Staging.inTime r w reply w' ∧ s' = w' := by
    rintro r s reply s' _ rfl hanswer
    refine ⟨s', ?_, rfl⟩
    cases r with
    | call c =>
      obtain rfl : s = s' := by cases c <;> exact (Prod.mk.inj hanswer).2
      exact le_refl s
    | clock =>
      obtain ⟨rfl, rfl⟩ := Prod.mk.inj hanswer
      exact ⟨le_refl _, le_refl _⟩
    | pause d =>
      obtain ⟨-, rfl⟩ := Prod.mk.inj hanswer
      exact le_refl (s + d)
    | report e | measure m | save p =>
      obtain ⟨-, rfl⟩ := Prod.mk.inj hanswer
      exact le_refl s
  have hrun := Program.Runs.of_run stalled (hastyPlan.deploy (some uploaded)).outcome 0
  obtain ⟨_, hruns, rfl⟩ := hrun.simulate (fun s w => s = w) hstalled rfl
  exact hruns

/-- On that platform the attempt pauses twice and polls three times. -/
theorem punctual_stalled :
    0 < hastyPlan.interval ∧ ⌊hastyPlan.timeout / hastyPlan.interval⌋₊ < hastyPlan.patience ∧
      (pauses stalledTrace).length = 2 ∧ polls (calls stalledTrace) = 3 ∧
      ∃ f now began rest, Attempt.Runs Staging.inTime (hastyPlan.deploy (some uploaded)) 0 stalledTrace (.error f) now ∧
        f.category = .timeout ∧ stalledTrace = ⟨.clock, began⟩ :: rest ∧
        hastyPlan.Punctual uploaded began rest (.error f) := by
  have hinterval : 0 < hastyPlan.interval := one_pos
  have hpatience : ⌊hastyPlan.timeout / hastyPlan.interval⌋₊ < hastyPlan.patience := by
    show ⌊(2 : ℚ) / 1⌋₊ < 3
    norm_num
  have hruns := runs_stalled
  obtain ⟨f, hf, htime⟩ :
      ∃ f, ((hastyPlan.deploy (some uploaded)).run stalled 0).1 = .error f ∧ f.category = .timeout := by
    have hlate : (match ((hastyPlan.deploy (some uploaded)).run stalled 0).1 with
      | .error f => decide (f.category = .timeout)
      | .ok _ => false) = true := by decide +kernel
    cases ho : ((hastyPlan.deploy (some uploaded)).run stalled 0).1 with
    | error f =>
      rw [ho] at hlate
      exact ⟨f, rfl, of_decide_eq_true hlate⟩
    | ok q =>
      rw [ho] at hlate
      cases hlate
  rw [hf] at hruns
  obtain ⟨⟨began, rest, ht, hpunctual⟩, -⟩ := punctual hinterval hpatience (Or.inl rfl) hruns
  exact ⟨hinterval, hpatience, by decide +kernel, by decide +kernel, f, _, began, rest, hruns, htime, ht, hpunctual⟩

end Plan

end Steward
