import Mathlib.Algebra.Order.Floor.Div
import Steward.Listing
import Steward.Proofs.Program.Requests

/-!
# The walk through a listing

A listing is walked page by page, until as many pages have been visited as the first one tells of, or until one is not
there. No page is asked for twice and none is passed over, so nothing that was served is lost: a list that is served in
slices is what comes out.

How many pages there are is read off the first page only. What later pages say about it does not occur here.

## Contents

* `Listing.pagesFrom`, `Listing.resourcesOf`, `Listing.limitOf` — pages in a row, and what an answer tells;
* `Listing.Walk` — how far a walk goes; `Listing.Gathers` — programs that walk and put together what they find;
* `Listing.gathers_laterPages`, `Listing.gathers_collectPages` — the pages after the first, and all pages;
* `Listing.Serves`, `Listing.exists_slices`, `Listing.length_le_slices` — lists served in slices;
* `Listing.collectPages_walks` — a listing visits its pages once and loses nothing.
-/

namespace Steward.Listing

open Attempt

variable {I : Interface} {α : Type}

/-! ## Walks -/

/-- So many pages in a row, from a page on. -/
def pagesFrom (page : Int) (count : Nat) : List Int :=
  (List.range count).map fun i : Nat => page + i

theorem pagesFrom_succ (page : Int) (count : Nat) :
    pagesFrom page (count + 1) = page :: pagesFrom (page + 1) count := by
  have hshift : ∀ i : Nat, page + ((i + 1 : Nat) : Int) = page + 1 + i := by
    intro i
    omega
  unfold pagesFrom
  rw [List.range_succ_eq_map, List.map_cons, List.map_map, Int.natCast_zero, Int.add_zero]
  exact congrArg (page :: ·) (List.map_congr_left fun i _ => hshift i)

theorem pagesFrom_one (page : Int) : pagesFrom page 1 = [page] := by
  rw [pagesFrom_succ]
  rfl

theorem pagesFrom_concat (page : Int) (count : Nat) :
    pagesFrom page (count + 1) = pagesFrom page count ++ [page + count] := by
  unfold pagesFrom
  rw [List.range_succ, List.map_append]
  rfl

/-- The resources on a page; on one that is not there are none. -/
def resourcesOf : Option (Page α) → List α
  | some p => p.resources
  | none => []

/-- How many pages are visited at most, by what is answered for the first one: as many as it tells of, but itself in any
case. -/
def limitOf : Except Fault (Option (Page α)) → Nat
  | .ok (some first) => max 1 first.totalPages.toNat
  | _ => 1

/-- **A walk** from a page on, through at most `limit` pages: it goes on as long as pages are there. -/
structure Walk (answers : Int → Except Fault (Option (Page α))) (page : Int) (limit visited : Nat) : Prop where
  within : visited ≤ limit
  /-- What was visited before the last page was there. -/
  there : ∀ i : Nat, i + 1 < visited → ∃ p, answers (page + i) = .ok (some p)
  /-- A walk that ends early ends with a page that is not there. -/
  ended : visited < limit → ∃ last : Nat, visited = last + 1 ∧ ∀ p, answers (page + last) ≠ .ok (some p)

namespace Walk

variable {answers : Int → Except Fault (Option (Page α))} {page : Int} {limit visited : Nat}

theorem empty (answers : Int → Except Fault (Option (Page α))) (page : Int) : Walk answers page 0 0 where
  within := Nat.le_refl 0
  there := nofun
  ended := nofun

/-- A page that is not there ends the walk. -/
theorem single (h : ∀ p, answers page ≠ .ok (some p)) : Walk answers page (limit + 1) 1 where
  within := Nat.le_add_left 1 limit
  there := by
    intro i hi
    omega
  ended := by
    intro _
    refine ⟨0, rfl, ?_⟩
    rw [Int.natCast_zero, Int.add_zero]
    exact h

/-- After a page that is there the walk goes on. -/
theorem cons {p : Page α} (h : Walk answers (page + 1) limit visited) (hp : answers page = .ok (some p)) :
    Walk answers page (limit + 1) (visited + 1) where
  within := Nat.succ_le_succ h.within
  there := by
    intro i hi
    cases i with
    | zero =>
      rw [Int.natCast_zero, Int.add_zero]
      exact ⟨p, hp⟩
    | succ i =>
      have hshift : page + ((i + 1 : Nat) : Int) = page + 1 + i := by omega
      rw [hshift]
      exact h.there i (by omega)
  ended := by
    intro hlimit
    obtain ⟨last, rfl, hlast⟩ := h.ended (Nat.lt_of_succ_lt_succ hlimit)
    have hshift : page + ((last + 1 : Nat) : Int) = page + 1 + last := by omega
    refine ⟨last + 1, rfl, ?_⟩
    rw [hshift]
    exact hlast

/-- If every page within the limit is there, the walk reaches the limit. -/
theorem visited_eq (h : Walk answers page limit visited)
    (hthere : ∀ i : Nat, i < limit → ∃ p, answers (page + i) = .ok (some p)) : visited = limit := by
  by_contra hne
  have hshort : visited < limit := Nat.lt_of_le_of_ne h.within hne
  obtain ⟨last, rfl, hlast⟩ := h.ended hshort
  obtain ⟨p, hp⟩ := hthere last (by omega)
  exact hlast p hp

end Walk

/-! ## Gathering -/

/-- Nothing is requested but by reports. -/
def OnlyReports (reply : Replies I) (report : Reporter I) (told : List I.Request) : Prop :=
  ∀ q ∈ told, ∃ level text fields, q ∈ (report level text fields).requests reply

/-- **The program walks through pages and puts together what it finds.** -/
structure Gathers (reply : Replies I) (report : Reporter I) (fetch : Int → Attempt I (Option (Page α)))
    (p : Attempt I (List α)) (page : Int) (limit visited : Nat) : Prop where
  walk : Walk (fun n => (fetch n).eval reply) page limit visited
  /-- The pages are asked for in order, each once. Whatever else is requested comes after them, and is a report. -/
  requests : ∃ told, OnlyReports reply report told ∧
    p.requests reply = ((pagesFrom page visited).flatMap fun n => (fetch n).requests reply) ++ told
  /-- The result is what is on the pages, in their order; or the fault of the first page that cannot be had. -/
  result : p.eval reply = ((pagesFrom page visited).mapM fun n => (fetch n).eval reply).map (·.flatMap resourcesOf)

section

variable {reply : Replies I} {report : Reporter I} {fetch : Int → Attempt I (Option (Page α))}
  {p q : Attempt I (List α)} {page : Int} {limit visited : Nat}

theorem onlyReports_nil : OnlyReports reply report [] :=
  nofun

theorem onlyReports_append {told more : List I.Request} (h : OnlyReports reply report told)
    (hmore : OnlyReports reply report more) : OnlyReports reply report (told ++ more) :=
  List.forall_mem_append.2 ⟨h, hmore⟩

theorem onlyReports_report (level : Level) (text : String) (fields : List (String × Value)) :
    OnlyReports reply report ((report level text fields).requests reply) :=
  fun _ hq => ⟨level, text, fields, hq⟩

/-- A page that cannot be had is the end, and its fault the result. -/
theorem gathers_of_error {f : Fault} (hpage : (fetch page).eval reply = .error f)
    (hrequests : p.requests reply = (fetch page).requests reply) (hresult : p.eval reply = .error f) :
    Gathers reply report fetch p page (limit + 1) 1 where
  walk := Walk.single fun found hfound => nomatch hpage.symm.trans hfound
  requests := by
    refine ⟨[], onlyReports_nil, ?_⟩
    rw [hrequests, pagesFrom_one, List.flatMap_singleton, List.append_nil]
  result := by
    rw [hresult, pagesFrom_one, List.mapM_cons, hpage]
    rfl

/-- A page that is not there is the end, with nothing on it. -/
theorem gathers_of_none {told : List I.Request} (hpage : (fetch page).eval reply = .ok none)
    (htold : OnlyReports reply report told) (hrequests : p.requests reply = (fetch page).requests reply ++ told)
    (hresult : p.eval reply = .ok []) : Gathers reply report fetch p page (limit + 1) 1 where
  walk := Walk.single fun found hfound => nomatch hpage.symm.trans hfound
  requests := by
    refine ⟨told, htold, ?_⟩
    rw [hrequests, pagesFrom_one, List.flatMap_singleton]
  result := by
    rw [hresult, pagesFrom_one, List.mapM_cons, hpage]
    rfl

/-- What is on a page comes before what is on the pages after it. -/
theorem Gathers.cons {found : Page α} {told : List I.Request} (h : Gathers reply report fetch q (page + 1) limit visited)
    (hpage : (fetch page).eval reply = .ok (some found)) (htold : OnlyReports reply report told)
    (hrequests : p.requests reply = (fetch page).requests reply ++ q.requests reply ++ told)
    (hresult : p.eval reply = (q.eval reply).map (found.resources ++ ·)) :
    Gathers reply report fetch p page (limit + 1) (visited + 1) where
  walk := h.walk.cons hpage
  requests := by
    obtain ⟨later, hlater, hq⟩ := h.requests
    refine ⟨later ++ told, onlyReports_append hlater htold, ?_⟩
    rw [hrequests, hq, pagesFrom_succ, List.flatMap_cons, List.append_assoc, List.append_assoc, List.append_assoc]
  result := by
    rw [hresult, h.result, pagesFrom_succ, List.mapM_cons, hpage]
    cases (pagesFrom (page + 1) visited).mapM fun n => (fetch n).eval reply with
    | error f => rfl
    | ok others => rfl

/-- **The pages after the first** are walked through as far as they are there. -/
theorem gathers_laterPages (hreport : ∀ level text fields, (report level text fields).eval reply = .ok ())
    (resource : String) (fetch : Int → Attempt I (Option (Page α))) (left : Nat) (page : Int) :
    ∃ visited, Gathers reply report fetch (laterPages report resource fetch left page) page left visited := by
  induction left generalizing page with
  | zero => exact ⟨0, Walk.empty _ page, ⟨[], onlyReports_nil, rfl⟩, rfl⟩
  | succ left ih =>
    unfold laterPages
    cases hpage : (fetch page).eval reply with
    | error f =>
      refine ⟨1, gathers_of_error hpage (requests_bind_of_error hpage _) ?_⟩
      rw [eval_bind, hpage]
      rfl
    | ok answer =>
      cases answer with
      | none =>
        refine ⟨1, gathers_of_none hpage (onlyReports_report .warning "Listing page vanished"
          [("resource", .text resource), ("page", .int page)]) ?_ ?_⟩
        · rw [requests_bind_of_ok hpage, requests_bind_of_ok (hreport _ _ _), requests_pure, List.append_nil]
        · rw [eval_bind_of_ok hpage, eval_bind_of_ok (hreport _ _ _), eval_pure]
      | some found =>
        obtain ⟨visited, hlater⟩ := ih (page + 1)
        refine ⟨visited + 1, hlater.cons hpage onlyReports_nil ?_ ?_⟩
        · rw [requests_bind_of_ok hpage, List.append_nil]
          cases hothers : (laterPages report resource fetch left (page + 1)).eval reply with
          | error f => rw [requests_bind_of_error hothers]
          | ok others => rw [requests_bind_of_ok hothers, requests_pure, List.append_nil]
        · rw [eval_bind_of_ok hpage, eval_bind]
          cases (laterPages report resource fetch left (page + 1)).eval reply with
          | error f => rfl
          | ok others => rfl

/-- **All pages** are walked through as far as they are there, the first one in any case. -/
theorem gathers_collectPages (hreport : ∀ level text fields, (report level text fields).eval reply = .ok ())
    (resource : String) (fetch : Int → Attempt I (Option (Page α))) :
    ∃ visited, Gathers reply report fetch (collectPages report resource fetch) 1 (limitOf ((fetch 1).eval reply))
      visited := by
  unfold collectPages
  cases hfirst : (fetch 1).eval reply with
  | error f =>
    refine ⟨1, gathers_of_error hfirst (requests_bind_of_error hfirst _) ?_⟩
    rw [eval_bind, hfirst]
    rfl
  | ok answer =>
    cases answer with
    | none =>
      refine ⟨1, gathers_of_none hfirst onlyReports_nil ?_ ?_⟩
      · rw [requests_bind_of_ok hfirst, requests_pure]
      · rw [eval_bind_of_ok hfirst, eval_pure]
    | some first =>
      -- the first page is visited even if it tells of none, so the others are one fewer than the limit
      have hlimit : limitOf (.ok (some first)) = (first.totalPages - 1).toNat + 1 := by
        show max 1 first.totalPages.toNat = _
        omega
      obtain ⟨visited, hlater⟩ := gathers_laterPages hreport resource fetch (first.totalPages - 1).toNat 2
      rw [hlimit]
      cases hothers : (laterPages report resource fetch (first.totalPages - 1).toNat 2).eval reply with
      | error f =>
        refine ⟨visited + 1, hlater.cons hfirst onlyReports_nil ?_ ?_⟩
        · rw [requests_bind_of_ok hfirst, requests_bind_of_error hothers, List.append_nil]
        · rw [eval_bind_of_ok hfirst, eval_bind, hothers]
          rfl
      | ok others =>
        refine ⟨visited + 1, hlater.cons hfirst (onlyReports_report .debug "Collected listing"
          [("resource", .text resource), ("count", .int (first.resources ++ others).length),
            ("pages", .int first.totalPages)]) ?_ ?_⟩
        · rw [requests_bind_of_ok hfirst, requests_bind_of_ok hothers, requests_bind_of_ok (hreport _ _ _), requests_pure,
            List.append_nil, List.append_assoc]
        · rw [eval_bind_of_ok hfirst, eval_bind_of_ok hothers, eval_bind_of_ok (hreport _ _ _), hothers]
          rfl

end

/-! ## Slices -/

/-- **A list is served in slices**: each page holds one of them, and the first one tells how many there are. An empty
list has one page. -/
structure Serves (answers : Int → Except Fault (Option (Page α))) (items : List α) (size : Nat) : Prop where
  slice : ∀ i : Nat, i < max 1 (items.length ⌈/⌉ size) →
    ∃ p, answers (1 + i) = .ok (some p) ∧ p.resources = (items.drop (i * size)).take size
  total : ∀ first, answers 1 = .ok (some first) → first.totalPages = (max 1 (items.length ⌈/⌉ size) : Nat)

theorem Serves.limitOf_eq {answers : Int → Except Fault (Option (Page α))} {items : List α} {size : Nat}
    (h : Serves answers items size) : limitOf (answers 1) = max 1 (items.length ⌈/⌉ size) := by
  obtain ⟨first, hfirst, -⟩ := h.slice 0 (by omega)
  rw [Int.natCast_zero, Int.add_zero] at hfirst
  have htotal := h.total first hfirst
  rw [hfirst]
  show max 1 first.totalPages.toNat = _
  omega

/-- **Slices in a row** are what the list begins with. -/
theorem exists_slices (answers : Int → Except Fault (Option (Page α))) {items : List α} {size count : Nat}
    (h : ∀ i : Nat, i < count →
      ∃ p, answers (1 + i) = .ok (some p) ∧ p.resources = (items.drop (i * size)).take size) :
    ∃ found, (pagesFrom 1 count).mapM answers = .ok found ∧ found.flatMap resourcesOf = items.take (count * size) := by
  induction count with
  | zero => exact ⟨[], rfl, by simp⟩
  | succ count ih =>
    obtain ⟨found, hfound, htake⟩ := ih fun i hi => h i (Nat.lt_succ_of_lt hi)
    obtain ⟨p, hp, hslice⟩ := h count (Nat.lt_succ_self count)
    refine ⟨found ++ [some p], ?_, ?_⟩
    · rw [pagesFrom_concat, List.mapM_append, hfound, List.mapM_cons, hp]
      rfl
    · rw [List.flatMap_append, htake, List.flatMap_singleton, Nat.succ_mul, List.take_add, ← hslice]
      rfl

/-- The slices of a list cover it. -/
theorem length_le_slices (items : List α) {size : Nat} (hsize : 0 < size) :
    items.length ≤ max 1 (items.length ⌈/⌉ size) * size := by
  have hcovers : items.length ≤ size * (items.length ⌈/⌉ size) := le_smul_ceilDiv hsize
  rw [Nat.mul_comm] at hcovers
  exact hcovers.trans (Nat.mul_le_mul_right size (Nat.le_max_right 1 _))

/-- **A listing visits its pages once and loses nothing.**

Whatever the pages are answered, they are asked for in order from the first one on, each once, until one is not there or
cannot be had, or until there are no more by what the first one tells. A page that cannot be had is the fault of the
whole; otherwise the result is what is on the pages that are there, in their order. So a list that is served in slices
comes out as it is. -/
theorem collectPages_walks (reply : Replies I) {report : Reporter I}
    (hreport : ∀ level text fields, (report level text fields).eval reply = .ok ()) (resource : String)
    (fetch : Int → Attempt I (Option (Page α))) :
    (∃ visited, Gathers reply report fetch (collectPages report resource fetch) 1 (limitOf ((fetch 1).eval reply))
      visited) ∧
    ∀ (items : List α) (size : Nat), 0 < size → Serves (fun n => (fetch n).eval reply) items size →
      (collectPages report resource fetch).eval reply = .ok items := by
  obtain ⟨visited, h⟩ := gathers_collectPages hreport resource fetch
  refine ⟨⟨visited, h⟩, ?_⟩
  intro items size hsize hserves
  have hlimit := hserves.limitOf_eq
  have hvisited : visited = max 1 (items.length ⌈/⌉ size) := by
    rw [← hlimit]
    refine h.walk.visited_eq fun i hi => ?_
    obtain ⟨p, hp, -⟩ := hserves.slice i (hlimit ▸ hi)
    exact ⟨p, hp⟩
  obtain ⟨found, hfound, htake⟩ := exists_slices (fun n => (fetch n).eval reply) hserves.slice
  rw [h.result, hvisited, hfound]
  show Except.ok (found.flatMap resourcesOf) = .ok items
  rw [htake, List.take_of_length_le (length_le_slices items hsize)]

/-- Three applications. -/
def threeApps : List AppRecord :=
  ["app-1", "app-2", "app-3"].map fun guid => { (default : AppRecord) with guid }

/-- They are served on pages of two. What the second page says about the number of pages is not so. -/
def served : Replies Inquiry
  | .call (.listing (some page) ..) =>
    .ok (some (if page = 1 then ⟨3, 2, threeApps.take 2⟩ else ⟨3, 7, threeApps.drop 2⟩))
  | .call _ => .error .cancelled
  | .report _ => ()
  | .clock => .whole 0

/-- All three come out of two pages. -/
theorem collectPages_walks_threeApps :
    (∀ level text fields, (Inquiry.report level text fields).eval served = .ok ()) ∧
      (0 < 2 ∧ Serves (fun n => (Inquiry.call (.listing (some n) 2 none none)).eval served) threeApps 2) ∧
      (collectPages Inquiry.report "applications" fun n => Inquiry.call (.listing (some n) 2 none none)).eval served
        = .ok threeApps := by
  have hreport : ∀ level text fields, (Inquiry.report level text fields).eval served = .ok () := fun _ _ _ => rfl
  have hserves : Serves (fun n => (Inquiry.call (.listing (some n) 2 none none)).eval served) threeApps 2 := by
    have htwo : max 1 (threeApps.length ⌈/⌉ 2) = 2 := rfl
    refine ⟨?_, ?_⟩
    · intro i hi
      rw [htwo] at hi
      match i with
      | 0 => exact ⟨_, rfl, rfl⟩
      | 1 => exact ⟨_, rfl, rfl⟩
    · rintro first hfirst
      obtain rfl := Option.some.inj (Except.ok.inj hfirst)
      rfl
  exact ⟨hreport, ⟨Nat.two_pos, hserves⟩, (collectPages_walks served hreport "applications" _).2 threeApps 2 Nat.two_pos
    hserves⟩

end Steward.Listing
