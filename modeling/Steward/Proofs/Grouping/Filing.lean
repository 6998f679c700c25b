import Mathlib.Data.List.Nodup
import Steward.Proofs.Grouping.Partition
import Steward.Proofs.Program.Endings

/-!
# Filing workloads

To group workloads is to file them twice in one pass: under their cluster, and their cluster under its application.
`Keyed.file` is such a pass, and what comes of it can be told without it: keys stand in the order in which they first
came up, and under each key is what its own items make of each other. So the view of a list of workloads has a closed
form, `Grouper.view`, for any rule of naming, and also where identifiers come twice.

## Contents

* `Keyed.file`, `map_fst_file`, `lookup_file`, `file_eq` — filing items under keys;
* `Names.application`, `Grouper.placeOf` — where the name of a workload puts it; `Resolver.Settles`,
  `Names.settles_parse` — clusters that tell their applications;
* `latest`, `Grouper.view`, `Grouper.applications_eq` — the view in closed form;
* `Grouper.ends_gather`, `Grouper.ends_group` — gathering workloads, and the view of them.
-/

namespace Steward

/-! ## Filing -/

namespace Keyed

variable {κ α ι : Type} [DecidableEq κ]

/-- Items filed under their keys, one after the other: each is taken in by what is under its key already. -/
def file (key : ι → κ) (take : Option α → ι → α) (items : List ι) : List (κ × α) :=
  items.foldl (fun filed x => update filed (key x) fun old => take old x) []

variable {key : ι → κ} {take : Option α → ι → α}

theorem file_concat (items : List ι) (x : ι) :
    file key take (items ++ [x]) = update (file key take items) (key x) fun old => take old x :=
  List.foldl_concat _ _ _ _

/-- **Keys stand in the order in which they first came up.** -/
theorem map_fst_file (items : List ι) : (file key take items).map (·.1) = (items.map key).eraseDups := by
  induction items using List.reverseRecOn with
  | nil => rfl
  | append_singleton items x ih =>
    rw [file_concat, map_fst_update, ih, List.map_append, List.eraseDups_append]
    by_cases hmem : key x ∈ items.map key
    · rw [if_pos (List.mem_eraseDups.2 hmem)]
      have hnew : [key x].removeAll (items.map key) = [] := by simpa [List.removeAll] using hmem
      rw [List.map_singleton, hnew, List.eraseDups_nil, List.append_nil]
    · rw [if_neg fun h => hmem (List.mem_eraseDups.1 h)]
      have hnew : [key x].removeAll (items.map key) = [key x] := by simpa [List.removeAll] using hmem
      rw [List.map_singleton, hnew]
      rfl

/-- **Under a key** is what the items with that key come to, taken in one after the other. -/
theorem lookup_file (items : List ι) (k : κ) :
    (file key take items).lookup k = (items.filter (key · = k)).foldl (fun old x => some (take old x)) none := by
  induction items using List.reverseRecOn with
  | nil => rfl
  | append_singleton items x ih =>
    rw [file_concat, lookup_update, List.filter_append]
    by_cases hk : key x = k
    · subst hk
      rw [if_pos rfl, ih, List.filter_cons_of_pos (by simp), List.filter_nil, List.foldl_concat]
    · rw [if_neg (Ne.symm hk), List.filter_cons_of_neg (by simpa using hk), List.filter_nil, List.append_nil, ih]

theorem nodup_file (items : List ι) : ((file key take items).map (·.1)).Nodup := by
  induction items using List.reverseRecOn with
  | nil => exact List.nodup_nil
  | append_singleton items x ih =>
    rw [file_concat]
    exact nodup_update ih _ _

/-- A keyed list in which no key comes twice is told by its keys and what is under them. -/
theorem eq_map_lookup {entries : List (κ × α)} (h : (entries.map (·.1)).Nodup) (d : α) :
    entries = (entries.map (·.1)).map fun k => (k, (entries.lookup k).getD d) := by
  rw [List.map_map]
  refine (List.map_id _).symm.trans (List.map_congr_left fun e he => ?_)
  have hlookup : entries.lookup e.1 = some e.2 := (mem_iff_lookup h e.1 e.2).1 he
  rw [Function.comp_apply, hlookup]
  rfl

/-- **Filing in closed form.** -/
theorem file_eq (items : List ι) (d : α) :
    file key take items = (items.map key).eraseDups.map fun k =>
      (k, ((items.filter (key · = k)).foldl (fun old x => some (take old x)) none).getD d) := by
  refine (eq_map_lookup (nodup_file items) d).trans ?_
  rw [map_fst_file]
  simp only [lookup_file]

theorem nodup_eraseDups (ks : List κ) : ks.eraseDups.Nodup := by
  have hkeys : ((file id (fun (_ : Option κ) k => k) ks).map (·.1)).Nodup := nodup_file ks
  rwa [map_fst_file, List.map_id] at hkeys

/-- What starts from nothing may as well start from an empty list. -/
theorem getD_foldl {β : Type} (step : List β → ι → List β) (items : List ι) :
    (items.foldl (fun old x => some (step (old.getD []) x)) none).getD [] = items.foldl step [] := by
  induction items using List.reverseRecOn with
  | nil => rfl
  | append_singleton items x ih =>
    rw [List.foldl_concat, List.foldl_concat, ← ih]
    rfl

end Keyed

/-! ## Places -/

namespace Names

/-- The application of a name that names a cluster: the cluster itself if the name names none. -/
def application (names : Names) (cluster : String) : String :=
  match names.app with
  | none | some "" => cluster
  | some app => app

/-- A name puts its workload into its cluster, in its application, if it counts, and nowhere else. -/
theorem placement_eq_within_iff {names : Names} {onlyManaged : Bool} {application cluster : String} :
    names.placement onlyManaged = .within application cluster ↔
      names.counts onlyManaged = true ∧ names.cluster = some cluster ∧ names.application cluster = application := by
  obtain ⟨app, own, stack, detail, sequence⟩ := names
  unfold placement counts Names.application
  cases own with
  | none => cases onlyManaged <;> cases sequence <;> simp
  | some own =>
    -- where the name names no application, the cluster stands for one
    by_cases hmanaged : (onlyManaged && sequence.isNone) = true
    · have hnone : onlyManaged = true ∧ sequence = none := by simpa using hmanaged
      simp [hnone]
    · have hcounts : (!onlyManaged || sequence.isSome) = true := by
        cases onlyManaged <;> cases sequence <;> simp_all
      rw [if_neg hmanaged, hcounts]
      by_cases hown : own = cluster
      · subst hown
        cases app with
        | none => simp
        | some app =>
          by_cases happ : app = ""
          · simp [happ]
          · simp
      · cases app with
        | none => simp [hown]
        | some app =>
          by_cases happ : app = ""
          · simp [happ, hown]
          · simp [hown]

end Names

/-- **Clusters tell their applications**: names that name the same cluster are of the same application. -/
def Resolver.Settles (naming : Resolver) : Prop :=
  ∃ home : String → String, ∀ name names cluster, naming name = .ok names → names.cluster = some cluster →
    names.application cluster = home cluster

/-- **By the convention for names**, they do. -/
theorem Names.settles_parse : Resolver.Settles Names.parse := by
  refine ⟨home, ?_⟩
  intro name names cluster hnames hcluster
  have hcounts : names.counts false = true := by simp [counts, hcluster]
  have hplacement : names.placement false = .within (names.application cluster) cluster :=
    placement_eq_within_iff.2 ⟨hcounts, hcluster, rfl⟩
  exact (placement_parse hnames hplacement).symm

/-- A workload with the application and the cluster that it is put in. -/
abbrev Grouper.Placed : Type :=
  (String × String) × Workload

namespace Grouper

/-- The application and the cluster that the name of a workload puts it in. It puts it nowhere if it names no cluster,
or has no sequence token where it must. -/
def placeOf (grouper : Grouper) (w : Workload) : Option (String × String) :=
  match grouper.naming w.name with
  | .ok names =>
    if names.counts grouper.onlyManaged then names.cluster.map fun cluster => (names.application cluster, cluster)
    else none
  | .error _ => none

/-- Whether a workload belongs to a cluster. -/
def isIn (grouper : Grouper) (cluster : String) (w : Workload) : Bool :=
  (grouper.placeOf w).any (·.2 = cluster)

/-- The workloads that have a place, with it. -/
def placed (grouper : Grouper) (ws : List Workload) : List Placed :=
  ws.filterMap fun w => (grouper.placeOf w).map (·, w)

variable {grouper : Grouper}

theorem placeOf_eq_some_iff {w : Workload} {names : Names} (hnames : grouper.naming w.name = .ok names)
    {application cluster : String} :
    grouper.placeOf w = some (application, cluster) ↔
      names.placement grouper.onlyManaged = .within application cluster := by
  rw [Names.placement_eq_within_iff]
  unfold placeOf
  rw [hnames]
  dsimp only
  by_cases hcounts : names.counts grouper.onlyManaged = true
  · rw [if_pos hcounts]
    constructor
    · intro h
      obtain ⟨own, hown, heq⟩ := Option.map_eq_some_iff.1 h
      cases heq
      exact ⟨hcounts, hown, rfl⟩
    · rintro ⟨-, hcluster, rfl⟩
      rw [hcluster]
      rfl
  · simp [hcounts]

theorem places_eq (w : Workload) : grouper.places w = (grouper.placeOf w).isSome := by
  unfold places placeOf Names.counts
  cases grouper.naming w.name with
  | error f => rfl
  | ok names =>
    dsimp only
    by_cases hcounts : (names.cluster.isSome && (!grouper.onlyManaged || names.sequence.isSome)) = true
    · have hcluster : names.cluster.isSome = true := (Bool.and_eq_true_iff.1 hcounts).1
      rw [if_pos hcounts, Option.isSome_map]
      exact hcounts.trans hcluster.symm
    · rw [if_neg hcounts]
      simpa using hcounts

end Grouper

/-! ## The view in closed form -/

/-- Nothing is asked for: events are reported, and that is all. -/
def Inquiry.reporting : Contract Inquiry where
  asks
    | .report _ => True
    | .call _ | .clock => False
  replies _ _ := True

theorem Inquiry.ends_report_only {faults : Fault → Prop} (level : Level) (text : String)
    (fields : List (String × Value)) : (report level text fields).Ends reporting (fun _ => True) faults :=
  Attempt.ends_ofProgram (Program.Meets.ask trivial fun _ _ => Program.Meets.done trivial)

namespace Grouper

variable {grouper : Grouper}

/-- **Gathering** files each workload that has a place, and fails only if some name cannot be parsed. -/
theorem ends_gather (grouper : Grouper) (g : Grouping) (ws : List Workload) :
    (grouper.gather g ws).Ends Inquiry.reporting
      (fun g' => (∀ w ∈ ws, ∃ names, grouper.naming w.name = .ok names) ∧
        g' = (grouper.placed ws).foldl (fun g p => g.add p.1.1 p.1.2 p.2) g)
      fun f => ∃ w ∈ ws, grouper.naming w.name = .error f := by
  induction ws generalizing g with
  | nil => exact Attempt.ends_pure ⟨List.forall_mem_nil _, rfl⟩
  | cons w rest ih =>
    unfold gather
    cases hnames : grouper.naming w.name with
    | error f => exact Attempt.ends_throw ⟨w, List.mem_cons_self, hnames⟩
    | ok names =>
      rw [Attempt.ofExcept_ok_bind]
      have hfault : ∀ f, (∃ x ∈ rest, grouper.naming x.name = .error f) →
          ∃ x ∈ w :: rest, grouper.naming x.name = .error f := by
        rintro f ⟨x, hx, hfailed⟩
        exact ⟨x, List.mem_cons_of_mem _ hx, hfailed⟩
      -- what is gathered from the rest is gathered from all, once it is known where the first one goes
      have hrest : ∀ g₁, (grouper.placed (w :: rest)).foldl (fun g p => g.add p.1.1 p.1.2 p.2) g
            = (grouper.placed rest).foldl (fun g p => g.add p.1.1 p.1.2 p.2) g₁ →
          (grouper.gather g₁ rest).Ends Inquiry.reporting
            (fun g' => (∀ x ∈ w :: rest, ∃ names, grouper.naming x.name = .ok names) ∧
              g' = (grouper.placed (w :: rest)).foldl (fun g p => g.add p.1.1 p.1.2 p.2) g)
            fun f => ∃ x ∈ w :: rest, grouper.naming x.name = .error f := by
        intro g₁ heq
        refine (ih g₁).mono ?_ hfault
        rintro g' ⟨hall, hg'⟩
        exact ⟨List.forall_mem_cons.2 ⟨⟨names, hnames⟩, hall⟩, hg'.trans heq.symm⟩
      have hnowhere : (∀ application cluster, names.placement grouper.onlyManaged ≠ .within application cluster) →
          grouper.placed (w :: rest) = grouper.placed rest := by
        intro hplacement
        have hnone : grouper.placeOf w = none := by
          cases hplace : grouper.placeOf w with
          | none => rfl
          | some place => exact absurd ((placeOf_eq_some_iff hnames).1 hplace) (hplacement _ _)
        unfold placed
        rw [List.filterMap_cons_none]
        rw [hnone]
        rfl
      cases hplacement : names.placement grouper.onlyManaged with
      | unmanaged =>
        refine (Inquiry.ends_report_only _ _ _).bind fun _ _ => hrest g ?_
        rw [hnowhere (by simp [hplacement])]
      | outside =>
        refine (Inquiry.ends_report_only _ _ _).bind fun _ _ => hrest g ?_
        rw [hnowhere (by simp [hplacement])]
      | within application cluster =>
        refine hrest (g.add application cluster w) ?_
        have hplace : grouper.placeOf w = some (application, cluster) := (placeOf_eq_some_iff hnames).2 hplacement
        unfold placed
        rw [List.filterMap_cons_some (b := ((application, cluster), w)), List.foldl_cons]
        rw [hplace]
        rfl

end Grouper

/-- Of the workloads with one identifier the last one, where the first one stood. -/
def latest (ws : List Workload) : List Workload :=
  (Keyed.file (·.id) (fun _ w => w) ws).map (·.2)

theorem mem_file_id_iff {ws : List Workload} {e : String × Workload} :
    e ∈ Keyed.file (·.id) (fun _ w => w) ws ↔ (ws.filter (·.id = e.1)).getLast? = some e.2 := by
  have hlast : ∀ l : List Workload, l.foldl (fun _ w => some w) none = l.getLast? := by
    intro l
    induction l using List.reverseRecOn with
    | nil => rfl
    | append_singleton l w _ => rw [List.foldl_concat, List.getLast?_concat]
  rw [Keyed.mem_iff_lookup (Keyed.nodup_file ws) e.1 e.2, Keyed.lookup_file, hlast]

/-- **The last workload with an identifier** is the one that counts. -/
theorem mem_latest_iff {ws : List Workload} {w : Workload} :
    w ∈ latest ws ↔ (ws.filter (·.id = w.id)).getLast? = some w := by
  unfold latest
  rw [List.mem_map]
  constructor
  · rintro ⟨e, he, rfl⟩
    have hlast := mem_file_id_iff.1 he
    have hid : e.2.id = e.1 := by simpa using List.of_mem_filter (List.mem_of_getLast? hlast)
    rw [hid]
    exact hlast
  · intro hlast
    exact ⟨(w.id, w), mem_file_id_iff.2 hlast, rfl⟩

/-- **Identifiers stand in the order in which they first came up**, each once. -/
theorem map_id_latest (ws : List Workload) : (latest ws).map (·.id) = (ws.map (·.id)).eraseDups := by
  have hkeys : (Keyed.file (·.id) (fun _ w => w) ws).map (·.1) = (ws.map (·.id)).eraseDups := Keyed.map_fst_file ws
  unfold latest
  rw [← hkeys, List.map_map]
  refine List.map_congr_left fun e he => ?_
  have hlast := mem_file_id_iff.1 he
  simpa using List.of_mem_filter (List.mem_of_getLast? hlast)

/-- If no identifier comes twice, nothing is lost. -/
theorem latest_of_nodup {ws : List Workload} (h : (ws.map (·.id)).Nodup) : latest ws = ws := by
  induction ws using List.reverseRecOn with
  | nil => rfl
  | append_singleton ws w ih =>
    rw [List.map_append, List.nodup_append] at h
    obtain ⟨hws, -, hdisjoint⟩ := h
    have hnew : w.id ∉ (Keyed.file (·.id) (fun _ w => w) ws).map (·.1) := by
      rw [Keyed.map_fst_file, List.mem_eraseDups]
      intro hmem
      exact hdisjoint _ hmem _ (List.mem_singleton.2 rfl) rfl
    have hput := Keyed.put_eq_append hnew w
    unfold Keyed.put at hput
    unfold latest at ih ⊢
    rw [Keyed.file_concat, hput, List.map_append, ih hws]
    rfl

namespace Grouper

variable {grouper : Grouper}

/-- A cluster of the view: the workloads that belong to it. -/
def clusterOf (grouper : Grouper) (ws : List Workload) (cluster : String) : Cluster :=
  { account := grouper.account, name := cluster, serverGroups := latest (ws.filter (grouper.isIn cluster)) }

/-- An application of the view: the clusters in which a workload is put. -/
def applicationOf (grouper : Grouper) (ws : List Workload) (application : String) : Application :=
  { name := application
    clusters := (((grouper.placed ws).filter (·.1.1 = application)).map (·.1.2)).eraseDups.map (grouper.clusterOf ws) }

/-- **The view of a list of workloads**: applications and clusters stand in the order in which they first came up. -/
def view (grouper : Grouper) (ws : List Workload) : List Application :=
  ((grouper.placed ws).map (·.1.1)).eraseDups.map (grouper.applicationOf ws)

/-- The workloads that are placed in a cluster are those that belong to it. -/
theorem filter_placed (grouper : Grouper) (cluster : String) (ws : List Workload) :
    ((grouper.placed ws).filter (·.1.2 = cluster)).map (·.2) = ws.filter (grouper.isIn cluster) := by
  induction ws with
  | nil => rfl
  | cons w rest ih =>
    unfold placed at ih ⊢
    cases hplace : grouper.placeOf w with
    | none =>
      have hout : grouper.isIn cluster w = false := by simp [isIn, hplace]
      rw [List.filterMap_cons_none (by simp [hplace]), List.filter_cons_of_neg (by simp [hout]), ih]
    | some place =>
      rw [List.filterMap_cons_some (b := (place, w)) (by simp [hplace])]
      by_cases hcluster : place.2 = cluster
      · have hin : grouper.isIn cluster w = true := by simp [isIn, hplace, hcluster]
        rw [List.filter_cons_of_pos (by simpa using hcluster), List.filter_cons_of_pos hin, List.map_cons, ih]
      · have hout : grouper.isIn cluster w = false := by simp [isIn, hplace, hcluster]
        rw [List.filter_cons_of_neg (by simpa using hcluster), List.filter_cons_of_neg (by simp [hout]), ih]

/-- What is gathered is filed twice: workloads under clusters, and clusters under applications. -/
theorem foldl_add_eq (placed : List Placed) :
    placed.foldl (fun g p => g.add p.1.1 p.1.2 p.2) Grouping.empty =
      { members := Keyed.file (·.1.2) (fun old p => Keyed.put (old.getD []) p.2.id p.2) placed
        clusters := Keyed.file (·.1.1) (fun old p => Grouping.including (old.getD []) p.1.2) placed } := by
  induction placed using List.reverseRecOn with
  | nil => rfl
  | append_singleton placed p ih =>
    rw [List.foldl_concat, ih, Keyed.file_concat, Keyed.file_concat]
    rfl

/-- Clusters that are included one after the other stand in the order in which they first came up. -/
theorem foldl_including (clusters : List String) : clusters.foldl Grouping.including [] = clusters.eraseDups := by
  induction clusters using List.reverseRecOn with
  | nil => rfl
  | append_singleton clusters cluster ih =>
    rw [List.foldl_concat, ih, List.eraseDups_append]
    unfold Grouping.including
    by_cases hmem : cluster ∈ clusters
    · have hnew : [cluster].removeAll clusters = [] := by simpa [List.removeAll] using hmem
      rw [if_pos (List.contains_iff_mem.2 (List.mem_eraseDups.2 hmem)), hnew, List.eraseDups_nil, List.append_nil]
    · have hnew : [cluster].removeAll clusters = [cluster] := by simpa [List.removeAll] using hmem
      rw [if_neg fun h => hmem (List.mem_eraseDups.1 (List.contains_iff_mem.1 h)), hnew]
      rfl

/-- **The finished view** is the one in closed form. -/
theorem applications_eq (grouper : Grouper) (ws : List Workload) :
    ((grouper.placed ws).foldl (fun g p => g.add p.1.1 p.1.2 p.2) Grouping.empty).applications grouper.account
      = grouper.view ws := by
  rw [foldl_add_eq]
  have hgroups : ∀ cluster, Grouping.serverGroups
      { members := Keyed.file (·.1.2) (fun old p => Keyed.put (old.getD []) p.2.id p.2) (grouper.placed ws)
        clusters := Keyed.file (·.1.1) (fun old p => Grouping.including (old.getD []) p.1.2) (grouper.placed ws) } cluster
      = latest (ws.filter (grouper.isIn cluster)) := by
    intro cluster
    unfold Grouping.serverGroups latest
    rw [Keyed.lookup_file, Keyed.getD_foldl fun old (p : Placed) => Keyed.put old p.2.id p.2, ← filter_placed, Keyed.file,
      List.foldl_map]
    rfl
  unfold Grouping.applications view
  simp only [hgroups]
  rw [Keyed.file_eq _ [], List.map_map]
  refine List.map_congr_left fun application _ => ?_
  unfold applicationOf clusterOf
  rw [Function.comp_apply, Keyed.getD_foldl fun old (p : Placed) => Grouping.including old p.1.2, ← foldl_including,
    List.foldl_map]

/-- **The view of a list of workloads** is the one in closed form, whatever the rule of naming is. There is none only if
some name cannot be parsed. -/
theorem ends_group (grouper : Grouper) (ws : List Workload) :
    (grouper.group ws).Ends Inquiry.reporting
      (fun views => (∀ w ∈ ws, ∃ names, grouper.naming w.name = .ok names) ∧ views = grouper.view ws)
      fun f => ∃ w ∈ ws, grouper.naming w.name = .error f := by
  unfold group
  refine (ends_gather grouper Grouping.empty ws).bind ?_
  rintro g ⟨hall, rfl⟩
  exact Attempt.ends_pure ⟨hall, applications_eq grouper ws⟩

end Grouper

end Steward
