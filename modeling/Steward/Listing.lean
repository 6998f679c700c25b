import Steward.Platform.Inquiry

/-!
# Listings

A listing comes in pages. The first page says how many there are; the pages are asked for in order, each once,
and a page that is not there any more ends the listing.

## Contents

* `Reporter` — how the steps of a listing are reported;
* `laterPages` — the pages after the first;
* `collectPages` — the resources of all pages.
-/

namespace Steward

variable {I : Interface} {α : Type}

/-- Reports an event. -/
abbrev Reporter (I : Interface) := Level → String → List (String × Value) → Attempt I Unit

/-- The resources of so many pages from a page on, or of those up to the first page that is not there. -/
def laterPages (report : Reporter I) (resource : String) (fetch : Int → Attempt I (Option (Page α))) :
    (left : Nat) → (page : Int) → Attempt I (List α)
  | 0, _ => return []
  | left + 1, page => do
    match ← fetch page with
    | none =>
      report .warning "Listing page vanished" [("resource", .text resource), ("page", .int page)]
      return []
    | some p => return p.resources ++ (← laterPages report resource fetch left (page + 1))

/-- The resources of all pages of a listing, in the order of the pages. -/
def collectPages (report : Reporter I) (resource : String) (fetch : Int → Attempt I (Option (Page α))) :
    Attempt I (List α) := do
  match ← fetch 1 with
  | none => return []
  | some first =>
    let rest ← laterPages report resource fetch (first.totalPages - 1).toNat 2
    let resources := first.resources ++ rest
    report .debug "Collected listing"
      [("resource", .text resource), ("count", .int resources.length), ("pages", .int first.totalPages)]
    return resources

end Steward
