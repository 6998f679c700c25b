import Mathlib.Data.List.Forall2
import Mathlib.Data.List.Nodup
import Steward.Proofs.Grouping.Filing

/-!
# What a view shows

`Grouper.view` is the view of a list of workloads in closed form. Whatever is said of views can be read off it: that
applications and clusters come once, that none of them is empty, that every workload stands in its place, and that of
workloads with one identifier the last one counts. A cluster has one application if it tells it, which is a matter of
the rule for naming (`Resolver.Settles`). If identifiers are distinct, the order in which workloads come decides nothing
but orders in the view.

## Contents

* `Grouper.Holds`, `Grouper.Arranges` — what is said of a cluster, and of a view; `Grouper.arranges_view` — that it is so;
* `Rearranged`, `Cluster.Rearranges`, `Application.Rearranges` — views that differ in their orders;
  `Grouper.rearranged_view` — those of the same workloads;
* `Grouper.group_arranges` — views of workloads.
-/

namespace Steward

/-! ## What is said of a view -/

namespace Grouper

/-- **A cluster holds** the workloads that belong to it, and no identifier twice: of those with one identifier the last
one, where the first one stood. -/
structure Holds (grouper : Grouper) (ws : List Workload) (c : Cluster) : Prop where
  account : c.account = grouper.account
  distinct : (c.serverGroups.map (·.id)).Nodup
  order : c.serverGroups.map (·.id) = ((ws.filter (grouper.isIn c.name)).map (·.id)).eraseDups
  last : ∀ w ∈ c.serverGroups, ((ws.filter (grouper.isIn c.name)).filter (·.id = w.id)).getLast? = some w

/-- **A view arranges workloads**: applications and clusters come once, none is empty, every workload that has a place
finds its cluster there, and whatever stands in the view stands in its place. -/
structure Arranges (grouper : Grouper) (ws : List Workload) (views : List Application) : Prop where
  apps : (views.map (·.name)).Nodup
  clusters : (views.flatMap fun a => a.clusters.map (·.name)).Nodup
  occupied : ∀ a ∈ views, a.clusters ≠ [] ∧ ∀ c ∈ a.clusters, c.serverGroups ≠ []
  found : ∀ w ∈ ws, ∀ application cluster, grouper.placeOf w = some (application, cluster) →
    ∃ a ∈ views, a.name = application ∧ cluster ∈ a.clusters.map (·.name)
  placed : ∀ a ∈ views, ∀ c ∈ a.clusters, ∀ w ∈ c.serverGroups, w ∈ ws ∧ grouper.placeOf w = some (a.name, c.name)
  holds : ∀ a ∈ views, ∀ c ∈ a.clusters, grouper.Holds ws c

variable {grouper : Grouper} {ws : List Workload}

theorem mem_placed_iff {p : Placed} : p ∈ grouper.placed ws ↔ p.2 ∈ ws ∧ grouper.placeOf p.2 = some p.1 := by
  obtain ⟨place, w⟩ := p
  unfold placed
  rw [List.mem_filterMap]
  constructor
  · rintro ⟨x, hx, h⟩
    obtain ⟨_, hplace, heq⟩ := Option.map_eq_some_iff.1 h
    cases heq
    exact ⟨hx, hplace⟩
  · rintro ⟨hw, hplace⟩
    exact ⟨w, hw, by rw [hplace]; rfl⟩

theorem exists_of_mem_view {a : Application} (h : a ∈ grouper.view ws) :
    ∃ p ∈ grouper.placed ws, a = grouper.applicationOf ws p.1.1 := by
  obtain ⟨application, hmem, rfl⟩ := List.mem_map.1 h
  obtain ⟨p, hp, rfl⟩ := List.mem_map.1 (List.mem_eraseDups.1 hmem)
  exact ⟨p, hp, rfl⟩

theorem mem_clusters_iff {application : String} {c : Cluster} :
    c ∈ (grouper.applicationOf ws application).clusters ↔
      ∃ p ∈ grouper.placed ws, p.1.1 = application ∧ c = grouper.clusterOf ws p.1.2 := by
  unfold applicationOf
  rw [List.mem_map]
  constructor
  · rintro ⟨cluster, hmem, rfl⟩
    obtain ⟨p, hp, rfl⟩ := List.mem_map.1 (List.mem_eraseDups.1 hmem)
    obtain ⟨hp, happlication⟩ := List.mem_filter.1 hp
    exact ⟨p, hp, by simpa using happlication, rfl⟩
  · rintro ⟨p, hp, rfl, rfl⟩
    have hfiltered : p ∈ (grouper.placed ws).filter (·.1.1 = p.1.1) := List.mem_filter.2 ⟨hp, by simp⟩
    exact ⟨p.1.2, List.mem_eraseDups.2 (List.mem_map.2 ⟨p, hfiltered, rfl⟩), rfl⟩

/-- The names of the clusters of an application. -/
theorem map_name_clusters (application : String) : (grouper.applicationOf ws application).clusters.map (·.name)
    = (((grouper.placed ws).filter (·.1.1 = application)).map (·.1.2)).eraseDups := by
  unfold applicationOf
  rw [List.map_map]
  exact List.map_id _

/-- A workload that is put in a cluster keeps it from being empty. -/
theorem clusterOf_ne_nil {p : Placed} (hp : p ∈ grouper.placed ws) : (grouper.clusterOf ws p.1.2).serverGroups ≠ [] := by
  obtain ⟨hw, hplace⟩ := mem_placed_iff.1 hp
  have hin : grouper.isIn p.1.2 p.2 = true := by simp [isIn, hplace]
  have hid : p.2.id ∈ (latest (ws.filter (grouper.isIn p.1.2))).map (·.id) := by
    rw [map_id_latest, List.mem_eraseDups]
    exact List.mem_map.2 ⟨p.2, List.mem_filter.2 ⟨hw, hin⟩, rfl⟩
  intro hnil
  have hnil : latest (ws.filter (grouper.isIn p.1.2)) = [] := hnil
  rw [hnil] at hid
  cases hid

/-- **A cluster of the view** holds what belongs to it. -/
theorem holds_clusterOf (cluster : String) : grouper.Holds ws (grouper.clusterOf ws cluster) where
  account := rfl
  distinct := by
    have hids := map_id_latest (ws.filter (grouper.isIn cluster))
    show ((latest _).map (·.id)).Nodup
    rw [hids]
    exact Keyed.nodup_eraseDups _
  order := map_id_latest _
  last := fun _ hw => mem_latest_iff.1 hw

/-- If clusters tell their applications, they tell where workloads are put. -/
theorem exists_home (hsettles : grouper.naming.Settles) : ∃ home : String → String, ∀ w application cluster,
    grouper.placeOf w = some (application, cluster) → home cluster = application := by
  obtain ⟨home, hhome⟩ := hsettles
  refine ⟨home, ?_⟩
  intro w application cluster hplace
  cases hnames : grouper.naming w.name with
  | error f => simp [placeOf, hnames] at hplace
  | ok names =>
    have hplacement := (placeOf_eq_some_iff hnames).1 hplace
    obtain ⟨-, hcluster, happlication⟩ := Names.placement_eq_within_iff.1 hplacement
    exact (hhome _ _ _ hnames hcluster).symm.trans happlication

/-- If clusters tell their applications, no cluster stands under two of them. -/
theorem nodup_clusters (hsettles : grouper.naming.Settles) :
    ((grouper.view ws).flatMap fun a => a.clusters.map (·.name)).Nodup := by
  obtain ⟨home, hhome⟩ := exists_home hsettles
  have hhomes : ∀ application, ∀ cluster ∈ (grouper.applicationOf ws application).clusters.map (·.name),
      home cluster = application := by
    intro application cluster hmem
    obtain ⟨c, hc, rfl⟩ := List.mem_map.1 hmem
    obtain ⟨p, hp, rfl, rfl⟩ := mem_clusters_iff.1 hc
    exact hhome _ _ _ (mem_placed_iff.1 hp).2
  unfold view
  rw [List.flatMap_map, List.nodup_flatMap]
  constructor
  · intro application _
    rw [map_name_clusters]
    exact Keyed.nodup_eraseDups _
  · refine (Keyed.nodup_eraseDups _).imp ?_
    intro a b hne cluster ha hb
    exact hne ((hhomes a cluster ha).symm.trans (hhomes b cluster hb))

/-- **The view arranges the workloads**, if clusters tell their applications. -/
theorem arranges_view (hsettles : grouper.naming.Settles) (ws : List Workload) :
    grouper.Arranges ws (grouper.view ws) where
  apps := by
    have hnames : (grouper.view ws).map (·.name) = ((grouper.placed ws).map (·.1.1)).eraseDups := by
      unfold view
      rw [List.map_map]
      exact List.map_id _
    rw [hnames]
    exact Keyed.nodup_eraseDups _
  clusters := nodup_clusters hsettles
  occupied := by
    intro a ha
    obtain ⟨p, hp, rfl⟩ := exists_of_mem_view ha
    constructor
    · exact List.ne_nil_of_mem (mem_clusters_iff.2 ⟨p, hp, rfl, rfl⟩)
    · intro c hc
      obtain ⟨q, hq, -, rfl⟩ := mem_clusters_iff.1 hc
      exact clusterOf_ne_nil hq
  found := by
    intro w hw application cluster hplace
    have hp : ((application, cluster), w) ∈ grouper.placed ws := mem_placed_iff.2 ⟨hw, hplace⟩
    refine ⟨grouper.applicationOf ws application, ?_, rfl, ?_⟩
    · exact List.mem_map.2 ⟨application, List.mem_eraseDups.2 (List.mem_map.2 ⟨_, hp, rfl⟩), rfl⟩
    · exact List.mem_map.2 ⟨_, mem_clusters_iff.2 ⟨_, hp, rfl, rfl⟩, rfl⟩
  placed := by
    obtain ⟨home, hhome⟩ := exists_home hsettles
    intro a ha c hc w hw
    obtain ⟨p, -, rfl⟩ := exists_of_mem_view ha
    obtain ⟨q, hq, happlication, rfl⟩ := mem_clusters_iff.1 hc
    obtain ⟨hmem, -⟩ := List.mem_filter.1 (List.mem_of_getLast? (mem_latest_iff.1 hw))
    obtain ⟨hmem, hin⟩ := List.mem_filter.1 hmem
    obtain ⟨⟨application, cluster⟩, hplace, hcluster⟩ := (Option.any_eq_true _ _).1 hin
    obtain rfl : cluster = q.1.2 := by simpa using hcluster
    -- the cluster tells the application, for this workload as for the one that brought the cluster there
    have hsame : application = q.1.1 := (hhome _ _ _ hplace).symm.trans (hhome _ _ _ (mem_placed_iff.1 hq).2)
    refine ⟨hmem, ?_⟩
    rw [hplace, hsame, happlication]
    rfl
  holds := by
    intro a ha c hc
    obtain ⟨p, hp, rfl⟩ := exists_of_mem_view ha
    obtain ⟨q, hq, -, rfl⟩ := mem_clusters_iff.1 hc
    exact holds_clusterOf _

end Grouper

/-! ## Orders -/

/-- The same things in some order, each with its like. -/
def Rearranged {α : Type} (R : α → α → Prop) (l l' : List α) : Prop :=
  ∃ m, List.Forall₂ R l m ∧ m.Perm l'

/-- The same cluster but for the order of its workloads. -/
def Cluster.Rearranges (c d : Cluster) : Prop :=
  c.account = d.account ∧ c.name = d.name ∧ c.serverGroups.Perm d.serverGroups

/-- The same application but for the orders of its clusters and in them. -/
def Application.Rearranges (a b : Application) : Prop :=
  a.name = b.name ∧ Rearranged Cluster.Rearranges a.clusters b.clusters

theorem rearranged_map {α : Type} {R : α → α → Prop} {names names' : List String} {f g : String → α}
    (h : ∀ name, R (f name) (g name)) (hnames : names.Perm names') : Rearranged R (names.map f) (names'.map g) := by
  refine ⟨names.map g, ?_, hnames.map g⟩
  rw [List.forall₂_map_left_iff, List.forall₂_map_right_iff]
  exact List.forall₂_same.2 fun name _ => h name

theorem perm_eraseDups {names names' : List String} (h : names.Perm names') :
    names.eraseDups.Perm names'.eraseDups := by
  rw [List.perm_ext_iff_of_nodup (Keyed.nodup_eraseDups names) (Keyed.nodup_eraseDups names')]
  intro name
  rw [List.mem_eraseDups, List.mem_eraseDups]
  exact h.mem_iff

namespace Grouper

variable {grouper : Grouper} {ws ws' : List Workload}

/-- **Workloads in another order** have the same view but for its orders, if no identifier comes twice. -/
theorem rearranged_view (hids : (ws.map (·.id)).Nodup) (hws : ws.Perm ws') :
    Rearranged Application.Rearranges (grouper.view ws) (grouper.view ws') := by
  have hids' : (ws'.map (·.id)).Nodup := (hws.map (·.id)).nodup_iff.1 hids
  have hlatest : ∀ {l : List Workload}, (l.map (·.id)).Nodup → ∀ cluster,
      latest (l.filter (grouper.isIn cluster)) = l.filter (grouper.isIn cluster) := fun hl _ =>
    latest_of_nodup (hl.sublist (List.filter_sublist.map _))
  have hcluster : ∀ cluster, (grouper.clusterOf ws cluster).Rearranges (grouper.clusterOf ws' cluster) := by
    intro cluster
    refine ⟨rfl, rfl, ?_⟩
    show (latest _).Perm (latest _)
    rw [hlatest hids, hlatest hids']
    exact hws.filter _
  have hplaced : (grouper.placed ws).Perm (grouper.placed ws') := hws.filterMap _
  have happlication : ∀ application,
      (grouper.applicationOf ws application).Rearranges (grouper.applicationOf ws' application) := by
    intro application
    exact ⟨rfl, rearranged_map hcluster (perm_eraseDups ((hplaced.filter _).map _))⟩
  exact rearranged_map happlication (perm_eraseDups (hplaced.map _))

/-- **Grouping arranges workloads**, by the convention for names and by every rule by which a cluster tells its
application.

It reports what it leaves out, asks for nothing, and fails only if a name cannot be parsed. The view arranges the
workloads. If no identifier comes twice, it shows each one that has a place exactly once and nothing else, and the view
of the same workloads in another order is the same but for its orders. -/
theorem group_arranges (grouper : Grouper) (hsettles : grouper.naming.Settles) (ws : List Workload) :
    Resolver.Settles Names.parse ∧
      (grouper.group ws).Ends Inquiry.reporting
        (fun views => (∀ w ∈ ws, ∃ names, grouper.naming w.name = .ok names) ∧ grouper.Arranges ws views ∧
          ((ws.map (·.id)).Nodup → (shownIn views).Perm (ws.filter fun w => (grouper.placeOf w).isSome) ∧
            ∀ ws', ws.Perm ws' →
              (grouper.group ws').Delivers Inquiry.reporting (Rearranged Application.Rearranges views)))
        fun f => ∃ w ∈ ws, grouper.naming w.name = .error f := by
  refine ⟨Names.settles_parse, ?_⟩
  by_cases hids : (ws.map (·.id)).Nodup
  · obtain ⟨home, hhome⟩ := hsettles
    have hplaced : ∀ name names application cluster, grouper.naming name = .ok names →
        names.placement grouper.onlyManaged = .within application cluster → home cluster = application := by
      intro name names application cluster hnames hplacement
      obtain ⟨-, hcluster, happlication⟩ := Names.placement_eq_within_iff.1 hplacement
      exact (hhome _ _ _ hnames hcluster).symm.trans happlication
    refine ((ends_group grouper ws).and_meets (shown_group_of_home hplaced hids)).mono ?_ fun _ => id
    rintro views ⟨⟨hall, rfl⟩, hshown⟩
    refine ⟨hall, arranges_view ⟨home, hhome⟩ ws, fun _ => ⟨?_, ?_⟩⟩
    · simp only [← places_eq]
      exact hshown
    · intro ws' hws
      have hresolved : ∀ f, ¬ ∃ w ∈ ws', grouper.naming w.name = .error f := by
        rintro f ⟨w, hw, hfailed⟩
        obtain ⟨names, hnames⟩ := hall w (hws.mem_iff.2 hw)
        exact nomatch hnames.symm.trans hfailed
      refine ((ends_group grouper ws').mono ?_ fun _ => id).delivers hresolved
      rintro views ⟨-, rfl⟩
      exact rearranged_view hids hws
  · refine (ends_group grouper ws).mono ?_ fun _ => id
    rintro views ⟨hall, rfl⟩
    exact ⟨hall, arranges_view hsettles ws, fun h => absurd h hids⟩

/-- A workload of which nothing is told but its identifier and its name. -/
def nameOnly (id name : String) : Workload :=
  { (default : Workload) with id, name }

/-- The grouper of a shop, by the convention for names. -/
def shopGrouper : Grouper :=
  ⟨"main", Names.parse, true⟩

/-- Two workloads of one cluster, and one without a sequence token. -/
def shopfloor : List Workload :=
  [nameOnly "app-1" "shop-web-v001", nameOnly "app-2" "shop-web", nameOnly "app-3" "shop-web-v002"]

/-- A view of the shop, with the workloads that have a sequence token. -/
theorem group_arranges_shop :
    shopGrouper.naming.Settles ∧
      (shopGrouper.group shopfloor).Delivers Inquiry.reporting fun views =>
        shopGrouper.Arranges shopfloor views ∧
          (shownIn views).Perm [nameOnly "app-1" "shop-web-v001", nameOnly "app-3" "shop-web-v002"] := by
  have hsettles : shopGrouper.naming.Settles := Names.settles_parse
  have hids : (shopfloor.map (·.id)).Nodup := by decide
  have hplaced : shopfloor.filter (fun w => (shopGrouper.placeOf w).isSome)
      = [nameOnly "app-1" "shop-web-v001", nameOnly "app-3" "shop-web-v002"] := by
    rfl
  have hparsed : ∀ f, ¬ ∃ w ∈ shopfloor, shopGrouper.naming w.name = .error f := by
    rintro f ⟨w, hw, hfailed⟩
    have hall : ∀ w ∈ shopfloor, (shopGrouper.naming w.name).isOk = true := by decide
    have hok := hall w hw
    rw [hfailed] at hok
    cases hok
  refine ⟨hsettles, ((group_arranges shopGrouper hsettles shopfloor).2.mono ?_ fun _ => id).delivers hparsed⟩
  rintro views ⟨-, harranges, hshows⟩
  obtain ⟨hshown, -⟩ := hshows hids
  rw [hplaced] at hshown
  exact ⟨harranges, hshown⟩

end Grouper

end Steward
