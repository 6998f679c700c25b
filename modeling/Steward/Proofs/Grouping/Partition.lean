import Mathlib.Data.List.Perm.Basic
import Steward.Grouping
import Steward.Proofs.Cache.Lifetimes
import Steward.Proofs.Program.Contract

/-!
# Every workload has one place

Grouping is a fold: each workload is put where its name says. What comes of it is a partition of the workloads whose
names say anything, as long as no two of them have the same identifier: each stands in one cluster, and each cluster in
one application. For the latter a cluster must tell its application (`home`), as it does by the convention for names.
Nothing depends on the order in which the workloads come.

## Contents

* `Keyed.update_cases`, `Keyed.perm_update` — a write takes place at one key;
* `Names.counts`, `Names.home` — names that say where, and the application of a cluster by its name;
* `Grouping.Partitions` — the invariant; `Partitions.empty`, `Partitions.add` — one workload more;
* `shownIn`, `Partitions.shown` — the finished view;
* `Grouper.partitions_gather`, `Grouper.shown_group_of_home` — the view of a list of workloads; `Grouper.shown_group` — by
  the convention for names.
-/

namespace Steward

/-! ## Writing at one key -/

namespace Keyed

variable {κ α β : Type} [DecidableEq κ]

/-- **A write** changes the first entry of its key, or brings one at the end. -/
theorem update_cases (entries : List (κ × α)) (key : κ) (f : Option α → α) :
    (∃ before a after, entries = before ++ (key, a) :: after ∧
        update entries key f = before ++ (key, f (some a)) :: after) ∨
      (key ∉ entries.map (·.1) ∧ update entries key f = entries ++ [(key, f none)]) := by
  induction entries with
  | nil => exact Or.inr ⟨List.not_mem_nil, rfl⟩
  | cons e rest ih =>
    obtain ⟨k, a⟩ := e
    unfold update
    by_cases hk : k = key
    · subst hk
      exact Or.inl ⟨[], a, rest, rfl, if_pos rfl⟩
    · rw [if_neg hk]
      rcases ih with ⟨before, b, after, rfl, hupdate⟩ | ⟨hmem, hupdate⟩
      · exact Or.inl ⟨(k, a) :: before, b, after, rfl, by rw [hupdate, List.cons_append]⟩
      · refine Or.inr ⟨?_, by rw [hupdate, List.cons_append]⟩
        rw [List.map_cons, List.mem_cons, not_or]
        exact ⟨Ne.symm hk, hmem⟩

/-- A write that brings one thing more brings one thing more to the whole. -/
theorem perm_update (view : α → List β) {x : β} {entries : List (κ × α)} {key : κ} {f : Option α → α}
    (hnone : (view (f none)).Perm [x]) (hsome : ∀ a, (key, a) ∈ entries → (view (f (some a))).Perm (x :: view a)) :
    ((update entries key f).flatMap fun e => view e.2).Perm (x :: entries.flatMap fun e => view e.2) := by
  rcases update_cases entries key f with ⟨before, a, after, rfl, hupdate⟩ | ⟨-, hupdate⟩
  · have hmem : (key, a) ∈ before ++ (key, a) :: after := List.mem_append_right _ List.mem_cons_self
    have hview := hsome a hmem
    rw [hupdate, List.flatMap_append, List.flatMap_append, List.flatMap_cons, List.flatMap_cons]
    exact ((hview.append_right _).append_left _).trans List.perm_middle
  · rw [hupdate, List.flatMap_append, List.flatMap_singleton]
    exact (hnone.append_left _).trans List.perm_append_comm

/-- What holds of all entries holds after a write that keeps it. -/
theorem forall_mem_update {P : κ → α → Prop} {entries : List (κ × α)} {key : κ} {f : Option α → α}
    (h : ∀ e ∈ entries, P e.1 e.2) (hnone : P key (f none)) (hsome : ∀ a, P key a → P key (f (some a))) :
    ∀ e ∈ update entries key f, P e.1 e.2 := by
  rcases update_cases entries key f with ⟨before, a, after, rfl, hupdate⟩ | ⟨-, hupdate⟩
  · obtain ⟨hbefore, hrest⟩ := List.forall_mem_append.1 h
    obtain ⟨ha, hafter⟩ := List.forall_mem_cons.1 hrest
    rw [hupdate]
    exact List.forall_mem_append.2 ⟨hbefore, List.forall_mem_cons.2 ⟨hsome a ha, hafter⟩⟩
  · rw [hupdate]
    exact List.forall_mem_append.2 ⟨h, List.forall_mem_singleton.2 hnone⟩

theorem nodup_update {entries : List (κ × α)} (h : (entries.map (·.1)).Nodup) (key : κ) (f : Option α → α) :
    ((update entries key f).map (·.1)).Nodup := by
  have hput := nodup_put h key (f none)
  unfold put at hput
  rw [map_fst_update] at hput ⊢
  exact hput

/-- A write of what is there already changes nothing. -/
theorem update_of_mem {entries : List (κ × α)} (h : (entries.map (·.1)).Nodup) {key : κ} {a : α}
    (ha : (key, a) ∈ entries) {f : Option α → α} (hf : f (some a) = a) : update entries key f = entries := by
  have hlookup := (mem_iff_lookup h key a).1 ha
  rcases update_cases entries key f with ⟨before, b, after, rfl, hupdate⟩ | ⟨hmem, -⟩
  · have hb := (mem_iff_lookup h key b).1 (List.mem_append_right _ List.mem_cons_self)
    obtain rfl := Option.some.inj (hlookup.symm.trans hb)
    rw [hupdate, hf]
  · exact absurd (List.mem_map.2 ⟨(key, a), ha, rfl⟩) hmem

/-- What is written under a new key stands at the end. -/
theorem put_eq_append {entries : List (κ × α)} {key : κ} (h : key ∉ entries.map (·.1)) (a : α) :
    put entries key a = entries ++ [(key, a)] := by
  unfold put
  rcases update_cases entries key fun _ => a with ⟨before, b, after, rfl, -⟩ | ⟨-, hupdate⟩
  · exact absurd (List.mem_map.2 ⟨(key, b), List.mem_append_right _ List.mem_cons_self, rfl⟩) h
  · exact hupdate

end Keyed

/-! ## Names -/

namespace Names

/-- Whether a name says where its workload belongs: it names a cluster, and has a sequence token if it must. -/
def counts (onlyManaged : Bool) (names : Names) : Bool :=
  names.cluster.isSome && (!onlyManaged || names.sequence.isSome)

/-- A name that counts puts its workload somewhere, and any other puts it nowhere. -/
theorem placement_within_iff (names : Names) (onlyManaged : Bool) :
    (∃ application cluster, names.placement onlyManaged = .within application cluster)
      ↔ names.counts onlyManaged = true := by
  obtain ⟨app, cluster, stack, detail, sequence⟩ := names
  unfold placement counts
  cases onlyManaged <;> cases sequence <;> cases cluster <;> simp
  all_goals split <;> simp

/-- The application of a cluster, by its name: what stands before the first dash, or the cluster itself if nothing
does. -/
def home (cluster : String) : String :=
  match (ofCluster cluster.toList none).app with
  | none | some "" => cluster
  | some app => app

theorem placement_ofCluster {cs : List Char} {sequence : Option Int} {onlyManaged : Bool} {application cluster : String}
    (h : (ofCluster cs sequence).placement onlyManaged = .within application cluster) : home cluster = application := by
  unfold placement at h
  split at h
  · cases h
  · have hcluster : (ofCluster cs sequence).cluster = some (String.ofList cs) := rfl
    have happ : (ofCluster cs sequence).app = (ofCluster (String.ofList cs).toList none).app := by
      rw [String.toList_ofList]
      rfl
    rw [hcluster, happ] at h
    dsimp only at h
    unfold home
    split at h
    all_goals
      cases h
      split <;> simp_all

/-- **By the convention for names, a cluster tells its application.** -/
theorem placement_parse {name : String} {names : Names} {onlyManaged : Bool} {application cluster : String}
    (hnames : parse name = .ok names) (h : names.placement onlyManaged = .within application cluster) :
    home cluster = application := by
  have hunnamed : unnamed.placement onlyManaged ≠ .within application cluster := by
    cases onlyManaged <;> exact fun h => nomatch h
  unfold parse at hnames
  dsimp only at hnames
  split at hnames
  · cases hnames
    exact absurd h hunnamed
  · split at hnames
    · cases hnames
      exact placement_ofCluster h
    · split at hnames
      · cases hnames
      · split at hnames
        · cases hnames
          exact absurd h hunnamed
        · cases hnames
          exact placement_ofCluster h

end Names

/-! ## Partitions -/

namespace Grouping

/-- **The clusters partition the workloads.** Every workload stands in one cluster under its own identifier, and every
cluster in the one application that is its home. -/
structure Partitions (home : String → String) (g : Grouping) (ws : List Workload) : Prop where
  apps : (g.clusters.map (·.1)).Nodup
  homes : ∀ e ∈ g.clusters, ∀ cluster ∈ e.2, home cluster = e.1
  names : (g.clusters.flatMap (·.2)).Perm (g.members.map (·.1))
  distinct : (g.members.map (·.1)).Nodup
  own : ∀ m ∈ g.members, ∀ e ∈ m.2, e.1 = e.2.id
  groups : (g.members.flatMap fun m => m.2.map (·.2)).Perm ws

namespace Partitions

variable {home : String → String} {g : Grouping} {ws : List Workload}

theorem empty : Grouping.empty.Partitions home [] where
  apps := List.nodup_nil
  homes := List.forall_mem_nil _
  names := List.Perm.nil
  distinct := List.nodup_nil
  own := List.forall_mem_nil _
  groups := List.Perm.nil

/-- The order of the workloads does not matter. -/
theorem perm (h : g.Partitions home ws) {ws' : List Workload} (hws : ws.Perm ws') : g.Partitions home ws' :=
  { h with groups := h.groups.trans hws }

/-- A cluster that has members is listed under its home. -/
theorem listed_iff (h : g.Partitions home ws) (cluster : String) :
    cluster ∈ g.members.map (·.1) ↔ ∃ e ∈ g.clusters, e.1 = home cluster ∧ cluster ∈ e.2 := by
  rw [← h.names.mem_iff, List.mem_flatMap]
  refine exists_congr fun e => and_congr_right fun he => ?_
  exact ⟨fun hmem => ⟨(h.homes e he cluster hmem).symm, hmem⟩, And.right⟩

/-- A workload that is new has no entry in any cluster. -/
theorem not_mem_keys (h : g.Partitions home ws) {w : Workload} (hw : ∀ x ∈ ws, x.id ≠ w.id) {cluster : String}
    {entries : List (String × Workload)} (hentries : (cluster, entries) ∈ g.members) : w.id ∉ entries.map (·.1) := by
  intro hmem
  obtain ⟨e, he, hid⟩ := List.mem_map.1 hmem
  have hstands : e.2 ∈ ws :=
    h.groups.mem_iff.1 (List.mem_flatMap.2 ⟨(cluster, entries), hentries, List.mem_map.2 ⟨e, he, rfl⟩⟩)
  exact hw e.2 hstands ((h.own _ hentries e he).symm.trans hid)

end Partitions

variable {home : String → String} {g : Grouping} {ws : List Workload} {w : Workload} {cluster : String}

/-- One workload more stands in its cluster. -/
theorem Partitions.groups_add (h : g.Partitions home ws) (hw : ∀ x ∈ ws, x.id ≠ w.id) (application : String) :
    ((g.add application cluster w).members.flatMap fun m => m.2.map (·.2)).Perm (w :: ws) := by
  have hput : ∀ entries, (cluster, entries) ∈ g.members →
      ((Keyed.put entries w.id w).map (·.2)).Perm (w :: entries.map (·.2)) := by
    intro entries hentries
    rw [Keyed.put_eq_append (h.not_mem_keys hw hentries), List.map_append]
    exact List.perm_append_comm
  have hmembers := Keyed.perm_update (fun entries : List (String × Workload) => entries.map Prod.snd) (x := w)
    (f := fun old => Keyed.put (old.getD []) w.id w) (List.Perm.refl [w]) hput
  exact hmembers.trans (h.groups.cons w)

/-- Its cluster is listed at its home, once. -/
theorem Partitions.names_add (h : g.Partitions home ws) :
    ((g.add (home cluster) cluster w).clusters.flatMap (·.2)).Perm
      ((g.add (home cluster) cluster w).members.map (·.1)) := by
  have hkeys : (g.add (home cluster) cluster w).members.map (·.1)
      = if cluster ∈ g.members.map (·.1) then g.members.map (·.1) else g.members.map (·.1) ++ [cluster] :=
    Keyed.map_fst_update _ _ _
  rw [hkeys]
  by_cases hmem : cluster ∈ g.members.map (·.1)
  · obtain ⟨e, he, hhome, hlisted⟩ := (h.listed_iff cluster).1 hmem
    have hsame : including e.2 cluster = e.2 := if_pos (List.contains_iff_mem.2 hlisted)
    have hclusters : (g.add (home cluster) cluster w).clusters = g.clusters :=
      Keyed.update_of_mem h.apps (hhome ▸ he) hsame
    rw [hclusters, if_pos hmem]
    exact h.names
  · rw [if_neg hmem]
    have hnew : ∀ clusters, (home cluster, clusters) ∈ g.clusters →
        including clusters cluster = clusters ++ [cluster] := by
      intro clusters hclusters
      refine if_neg fun hlisted => hmem ?_
      exact (h.listed_iff cluster).2 ⟨_, hclusters, rfl, List.contains_iff_mem.1 hlisted⟩
    refine (Keyed.perm_update (fun clusters => clusters) (List.Perm.refl [cluster]) ?_).trans ?_
    · intro clusters hclusters
      show (including clusters cluster).Perm _
      rw [hnew clusters hclusters]
      exact List.perm_append_comm
    · exact (h.names.cons cluster).trans (@List.perm_append_comm _ [cluster] _)

/-- **One workload more**, in its cluster at its home. -/
theorem Partitions.add (h : g.Partitions home ws) (hw : ∀ x ∈ ws, x.id ≠ w.id) :
    (g.add (home cluster) cluster w).Partitions home (w :: ws) where
  apps := Keyed.nodup_update h.apps _ _
  homes := by
    refine Keyed.forall_mem_update (P := fun application clusters => ∀ c ∈ clusters, home c = application) h.homes
      (List.forall_mem_singleton.2 rfl) ?_
    intro clusters hclusters c hc
    have hc : c ∈ including clusters cluster := hc
    unfold including at hc
    split at hc
    · exact hclusters c hc
    · exact (List.mem_append.1 hc).elim (hclusters c) fun hlast => congrArg home (List.mem_singleton.1 hlast)
  names := h.names_add
  distinct := Keyed.nodup_update h.distinct _ _
  own := by
    refine Keyed.forall_mem_update
      (P := fun (_ : String) (entries : List (String × Workload)) => ∀ e ∈ entries, e.1 = e.2.id) h.own
      (List.forall_mem_singleton.2 rfl) ?_
    intro entries hentries e he
    rcases Keyed.mem_put he with rfl | hold
    · rfl
    · exact hentries e hold
  groups := h.groups_add hw _

end Grouping

/-! ## Views -/

/-- The workloads that are shown in a view. -/
def shownIn (views : List Application) : List Workload :=
  views.flatMap fun a => a.clusters.flatMap (·.serverGroups)

/-- **The finished view** shows every workload once. -/
theorem Grouping.Partitions.shown {home : String → String} {g : Grouping} {ws : List Workload}
    (h : g.Partitions home ws) (account : String) : (shownIn (g.applications account)).Perm ws := by
  have hgroups : ∀ m ∈ g.members, g.serverGroups m.1 = m.2.map (·.2) := by
    intro m hm
    unfold serverGroups
    rw [(Keyed.mem_iff_lookup h.distinct m.1 m.2).1 hm]
    rfl
  have hviews : shownIn (g.applications account) = (g.clusters.flatMap (·.2)).flatMap g.serverGroups := by
    unfold shownIn applications
    rw [List.flatMap_map, List.flatMap_assoc]
    refine List.flatMap_congr fun e _ => ?_
    rw [List.flatMap_map]
  rw [hviews]
  refine (h.names.flatMap_right _).trans ?_
  rw [List.flatMap_map, List.flatMap_congr hgroups]
  exact h.groups

namespace Grouper

/-- Whether the name of a workload says where it belongs. -/
def places (grouper : Grouper) (x : Workload) : Bool :=
  match grouper.naming x.name with
  | .ok names => names.counts grouper.onlyManaged
  | .error _ => false

variable {grouper : Grouper} {home : String → String}

/-- **Gathering** keeps a partition one, if clusters tell their applications and no identifier comes twice. -/
theorem partitions_gather
    (hhome : ∀ name names application cluster, grouper.naming name = .ok names →
      names.placement grouper.onlyManaged = .within application cluster → home cluster = application)
    {g : Grouping} {seen ws : List Workload} (hg : g.Partitions home seen) (hids : ((seen ++ ws).map (·.id)).Nodup) :
    (grouper.gather g ws).Meets (Contract.any Inquiry)
      fun g' => g'.Partitions home (seen ++ ws.filter grouper.places) := by
  induction ws generalizing g seen with
  | nil =>
    rw [List.filter_nil, List.append_nil]
    exact Attempt.meets_pure hg
  | cons x rest ih =>
    have hskip : ((seen ++ rest).map (·.id)).Nodup :=
      hids.sublist (((List.sublist_cons_self x rest).append_left seen).map _)
    unfold gather
    cases hnames : grouper.naming x.name with
    | error f => exact Attempt.meets_throw f
    | ok names =>
      rw [Attempt.ofExcept_ok_bind]
      have hplaces : grouper.places x = names.counts grouper.onlyManaged := by
        unfold places
        rw [hnames]
      have hnowhere : (∀ application cluster, names.placement grouper.onlyManaged ≠ .within application cluster) →
          (x :: rest).filter grouper.places = rest.filter grouper.places := by
        intro hplacement
        refine List.filter_cons_of_neg ?_
        rw [hplaces, ← names.placement_within_iff]
        rintro ⟨application, cluster, hwithin⟩
        exact hplacement application cluster hwithin
      have hreport : ∀ level text fields,
          (Inquiry.report level text fields).Meets (Contract.any Inquiry) fun _ => True :=
        fun _ _ _ => Attempt.meets_of_asks (fun _ => trivial) _
      -- a workload without a place is reported, and one with a place is added
      cases hplacement : names.placement grouper.onlyManaged with
      | unmanaged =>
        rw [hnowhere (by simp [hplacement])]
        exact (hreport _ _ _).bind fun _ _ => ih hg hskip
      | outside =>
        rw [hnowhere (by simp [hplacement])]
        exact (hreport _ _ _).bind fun _ _ => ih hg hskip
      | within application cluster =>
        obtain rfl := hhome _ _ _ _ hnames hplacement
        have hcounts : grouper.places x = true :=
          hplaces.trans ((names.placement_within_iff _).1 ⟨_, _, hplacement⟩)
        have hnew : ∀ y ∈ seen, y.id ≠ x.id := by
          intro y hy hid
          rw [List.map_append, List.nodup_append] at hids
          exact hids.2.2 _ (List.mem_map.2 ⟨y, hy, rfl⟩) _ (List.mem_map.2 ⟨x, List.mem_cons_self, rfl⟩) hid
        have hadded : (g.add (home cluster) cluster x).Partitions home (seen ++ [x]) :=
          (hg.add hnew).perm (List.perm_append_singleton x seen).symm
        rw [List.filter_cons_of_pos hcounts, ← List.singleton_append, ← List.append_assoc]
        refine ih hadded ?_
        rw [List.append_assoc]
        exact hids

/-- **The view of a list of workloads** shows those whose names say where they belong, each once, if clusters tell their
applications. -/
theorem shown_group_of_home
    (hhome : ∀ name names application cluster, grouper.naming name = .ok names →
      names.placement grouper.onlyManaged = .within application cluster → home cluster = application)
    {ws : List Workload} (hids : (ws.map (·.id)).Nodup) :
    (grouper.group ws).Meets (Contract.any Inquiry) fun views => (shownIn views).Perm (ws.filter grouper.places) := by
  unfold group
  refine (partitions_gather hhome Grouping.Partitions.empty hids).bind fun g hg => Attempt.meets_pure ?_
  exact hg.shown grouper.account

/-- By the convention for names they do. -/
theorem shown_group (hnaming : grouper.naming = Names.parse) {ws : List Workload} (hids : (ws.map (·.id)).Nodup) :
    (grouper.group ws).Meets (Contract.any Inquiry) fun views => (shownIn views).Perm (ws.filter grouper.places) := by
  have hhome : ∀ name names application cluster, grouper.naming name = .ok names →
      names.placement grouper.onlyManaged = .within application cluster → Names.home cluster = application := by
    intro name names application cluster hnames hplacement
    rw [hnaming] at hnames
    exact Names.placement_parse hnames hplacement
  exact shown_group_of_home hhome hids

end Grouper

end Steward
