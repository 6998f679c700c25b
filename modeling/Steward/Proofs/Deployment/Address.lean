import Mathlib.Data.List.Induction
import Mathlib.Data.List.TakeWhile
import Steward.Proofs.Deployment.Operations

/-!
# The package behind an address

A droplet refers to the package that it was made from by an address, and the identifier of the package is the last name
in it: what stands between slashes is a name unless it is empty, so slashes in a row and slashes at the end make no
difference.

An address of slashes only has no name in it. It is not taken for a missing address, though: what is found then is an
identifier without any characters (`Pipeline.currentPackage_slashes`).

## Contents

* `Address.names` — the names in an address; `Address.names_append`, `Address.names_slashes` — of addresses put together;
* `Address.lastName_spec` — the last name, taken from the end of the address;
* `Pipeline.eval_operate` — an operation whose call has one answer;
* `Pipeline.Finds` — what is found of a package; `Pipeline.currentPackage_finds` — what is found behind an application.
-/

namespace Steward

/-! ## Names in an address -/

namespace Address

/-- The names in an address: what stands between slashes, unless it is empty. -/
def names (cs : List Char) : List (List Char) :=
  (cs.splitOn '/').filter (· ≠ [])

theorem names_append (before after : List Char) : names (before ++ '/' :: after) = names before ++ names after := by
  have hpieces : (before ++ '/' :: after).splitOn '/' = before.splitOn '/' ++ after.splitOn '/' :=
    List.splitOnP_append_cons before after (by simp)
  unfold names
  rw [hpieces, List.filter_append]

theorem names_of_not_mem {cs : List Char} (hne : cs ≠ []) (h : '/' ∉ cs) : names cs = [cs] := by
  have hwhole : cs.splitOn '/' = [cs] :=
    List.splitOnP_eq_singleton fun c hc => beq_false_of_ne fun heq => h (heq ▸ hc)
  unfold names
  rw [hwhole]
  exact List.filter_cons_of_pos (by simpa using hne)

/-- Slashes at the end make no difference. -/
theorem names_slashes (cs : List Char) (count : Nat) : names (cs ++ List.replicate count '/') = names cs := by
  induction count with
  | zero => rw [List.replicate_zero, List.append_nil]
  | succ count ih =>
    rw [List.replicate_succ', ← List.append_assoc, names_append, ih]
    exact List.append_nil _

/-- The last name in an address, taken from its end: slashes are passed over, and then it goes back to the next one. -/
def lastName (cs : List Char) : List Char :=
  ((cs.reverse.dropWhile (· = '/')).takeWhile (· ≠ '/')).reverse

theorem lastName_slash (cs : List Char) : lastName (cs ++ ['/']) = lastName cs := by
  unfold lastName
  rw [List.reverse_concat, List.dropWhile_cons_of_pos (by simp)]

theorem lastName_concat (cs : List Char) {c : Char} (hc : c ≠ '/') :
    lastName (cs ++ [c]) = (cs.reverse.takeWhile (· ≠ '/')).reverse ++ [c] := by
  unfold lastName
  rw [List.reverse_concat, List.dropWhile_cons_of_neg (by simpa using hc),
    List.takeWhile_cons_of_pos (by simpa using hc), List.reverse_cons]

/-- Without slashes there is nothing to go back to. -/
theorem takeWhile_reverse_append {cs : List Char} (h : '/' ∉ cs) (rest : List Char) :
    (cs.reverse ++ rest).takeWhile (· ≠ '/') = cs.reverse ++ rest.takeWhile (· ≠ '/') := by
  refine List.takeWhile_append_of_pos fun c hc => ?_
  have hne : c ≠ '/' := fun heq => h (heq ▸ List.mem_reverse.1 hc)
  simpa using hne

/-- A text with a slash is what stands before the last one, and what stands after it. -/
theorem exists_lastSlash {cs : List Char} (h : '/' ∈ cs) :
    ∃ before after, cs = before ++ '/' :: after ∧ '/' ∉ after := by
  obtain ⟨after, before, hreverse, hafter⟩ := List.eq_append_cons_of_mem (List.mem_reverse.2 h)
  refine ⟨before.reverse, after.reverse, ?_, fun hmem => hafter (List.mem_reverse.1 hmem)⟩
  rw [← List.reverse_reverse cs, hreverse, List.reverse_append, List.reverse_cons, List.append_assoc,
    List.singleton_append]

/-- Before a character that is not a slash stands the rest of the last name. -/
theorem getLast?_names_concat (cs : List Char) {c : Char} (hc : c ≠ '/') :
    (names (cs ++ [c])).getLast? = some (lastName (cs ++ [c])) := by
  have hname : ∀ {name}, '/' ∉ name → names (name ++ [c]) = [name ++ [c]] := by
    intro name hslash
    refine names_of_not_mem (by simp) fun hmem => ?_
    rcases List.mem_append.1 hmem with hmem | hmem
    · exact hslash hmem
    · exact hc (List.mem_singleton.1 hmem).symm
  rw [lastName_concat cs hc]
  -- the name began after the last slash, or at the start
  by_cases hmem : '/' ∈ cs
  · obtain ⟨before, name, rfl, hslash⟩ := exists_lastSlash hmem
    rw [List.append_assoc, List.cons_append, names_append, hname hslash, List.getLast?_concat, List.reverse_append,
      List.reverse_cons, List.append_assoc, takeWhile_reverse_append hslash, List.singleton_append,
      List.takeWhile_cons_of_neg (by simp), List.append_nil, List.reverse_reverse]
  · rw [hname hmem, ← List.append_nil cs.reverse, takeWhile_reverse_append hmem, List.takeWhile_nil, List.append_nil,
      List.reverse_reverse]
    rfl

/-- **Taken from the end** is the last one of the names, if there are any; if not, there is nothing but slashes. -/
theorem lastName_spec (cs : List Char) :
    (names cs).getLast? = some (lastName cs) ∨ lastName cs = [] ∧ ∃ count, cs = List.replicate count '/' := by
  induction cs using List.reverseRecOn with
  | nil => exact Or.inr ⟨rfl, 0, rfl⟩
  | append_singleton cs c ih =>
    by_cases hc : c = '/'
    · rw [hc, lastName_slash]
      have hnames : names (cs ++ ['/']) = names cs := names_slashes cs 1
      rw [hnames]
      refine ih.imp_right ?_
      rintro ⟨hnothing, count, rfl⟩
      exact ⟨hnothing, count + 1, List.replicate_succ'.symm⟩
    · exact Or.inl (getLast?_names_concat cs hc)

/-- No slash belongs to a name. -/
theorem slash_not_mem_lastName (cs : List Char) : '/' ∉ lastName cs := by
  intro hmem
  have hne := List.mem_takeWhile_imp (List.mem_reverse.1 hmem)
  simp at hne

/-- **A name behind a slash** is the last one, whatever comes before it and however many slashes follow. -/
theorem names_placed (before : List Char) {name : List Char} (hne : name ≠ []) (hname : '/' ∉ name) (count : Nat) :
    names (before ++ '/' :: name ++ List.replicate count '/') = names before ++ [name] := by
  rw [names_slashes, names_append, names_of_not_mem hne hname]

theorem names_replicate (count : Nat) : names (List.replicate count '/') = [] :=
  names_slashes [] count

theorem lastName_of_getLast? {cs name : List Char} (h : (names cs).getLast? = some name) : lastName cs = name := by
  rcases lastName_spec cs with hlast | ⟨-, count, rfl⟩
  · exact Option.some.inj (hlast.symm.trans h)
  · rw [names_replicate] at h
    cases h

theorem lastName_replicate (count : Nat) : lastName (List.replicate count '/') = [] := by
  rcases lastName_spec (List.replicate count '/') with hlast | ⟨hnothing, -⟩
  · rw [names_replicate] at hlast
    cases hlast
  · exact hnothing

/-- Names have characters, so nothing but slashes comes to none. -/
theorem eq_replicate_of_lastName {cs : List Char} (h : lastName cs = []) : ∃ count, cs = List.replicate count '/' := by
  rcases lastName_spec cs with hlast | ⟨-, hslashes⟩
  · have hne := (List.mem_filter.1 (List.mem_of_getLast? hlast)).2
    simp [h] at hne
  · exact hslashes

end Address

/-! ## Packages -/

namespace Pipeline

variable {τ : Type}

/-- An operation comes to what the answer to its call says. -/
theorem eval_operate (reply : Replies (Staging τ)) (operation : Operation) (c : Call) :
    (operate operation c).eval reply = operated operation (reply (.call c)) := by
  have hcall : (Staging.call c).settle.eval reply = .ok (reply (.call c)) := rfl
  unfold operate
  rw [Attempt.eval_bind_of_ok hcall]
  cases reply (.call c) with
  | ok answer => rfl
  | error f =>
    show Attempt.eval reply (if f.isRemote = true then _ else _) = .error (if f.isRemote = true then _ else _)
    by_cases hremote : f.isRemote = true
    · rw [if_pos hremote, if_pos hremote]
      rfl
    · rw [if_neg hremote, if_neg hremote]
      rfl

/-- The address under which a droplet refers to the package that it was made from. -/
def packageAddress (droplet : DropletRecord) : Option String :=
  (droplet.links.find? "package").bind (·.href)

theorem packageOf_of_address {droplet : DropletRecord} {href : String} (h : packageAddress droplet = some href)
    (hne : href ≠ "") : packageOf droplet = some (String.ofList (Address.lastName href.toList)) := by
  unfold packageAddress at h
  unfold packageOf
  rw [h]
  split
  · contradiction
  · rename_i heq
    exact absurd (Option.some.inj heq) hne
  · rename_i heq
    rw [← Option.some.inj heq]
    rfl

theorem packageOf_of_missing {droplet : DropletRecord}
    (h : packageAddress droplet = none ∨ packageAddress droplet = some "") : packageOf droplet = none := by
  unfold packageAddress at h
  unfold packageOf
  rcases h with h | h
  · rw [h]
  · rw [h]
    rfl

/-- **What is found of a package** by the address of it. -/
structure Finds (address found : Option String) : Prop where
  /-- Without an address nothing is found, nor with an empty one. -/
  missing : address = none ∨ address = some "" → found = none
  /-- In any other address the last name is found, if it has any names. -/
  named : ∀ href name, address = some href → (Address.names href.toList).getLast? = some name →
    found = some (String.ofList name)
  /-- If it has none, what is found has no characters. -/
  nameless : ∀ count, address = some (String.ofList (List.replicate (count + 1) '/')) → found = some ""
  /-- What is found has no slashes in it, and it has characters unless there was nothing but slashes. -/
  usable : ∀ id, found = some id → '/' ∉ id.toList ∧
    (id = "" → ∃ count, address = some (String.ofList (List.replicate (count + 1) '/')))
  /-- A name behind a slash is found, whatever comes before it and however many slashes follow. -/
  placed : ∀ before id count, id ≠ [] → '/' ∉ id →
    address = some (String.ofList (before ++ '/' :: id ++ List.replicate count '/')) → found = some (String.ofList id)

theorem packageOf_of_name {droplet : DropletRecord} {href : String} {name : List Char}
    (h : packageAddress droplet = some href) (hname : (Address.names href.toList).getLast? = some name) :
    packageOf droplet = some (String.ofList name) := by
  have hne : href ≠ "" := by
    rintro rfl
    cases hname
  rw [packageOf_of_address h hne, Address.lastName_of_getLast? hname]

/-- **What the droplet says** of the package that it was made from. -/
theorem finds_packageOf (droplet : DropletRecord) : Finds (packageAddress droplet) (packageOf droplet) where
  missing := packageOf_of_missing
  named := fun _ _ => packageOf_of_name
  nameless := by
    intro count haddress
    have hne : String.ofList (List.replicate (count + 1) '/') ≠ "" := fun heq => nomatch String.ofList_injective heq
    rw [packageOf_of_address haddress hne, String.toList_ofList, Address.lastName_replicate]
  usable := by
    intro id hid
    by_cases hmissing : packageAddress droplet = none ∨ packageAddress droplet = some ""
    · rw [packageOf_of_missing hmissing] at hid
      cases hid
    obtain ⟨hsome, hne⟩ := not_or.1 hmissing
    obtain ⟨href, haddress⟩ := Option.ne_none_iff_exists'.1 hsome
    have hhref : href ≠ "" := fun heq => hne (heq ▸ haddress)
    rw [packageOf_of_address haddress hhref] at hid
    obtain rfl := Option.some.inj hid
    rw [String.toList_ofList]
    refine ⟨Address.slash_not_mem_lastName _, fun hempty => ?_⟩
    obtain ⟨count, hslashes⟩ := Address.eq_replicate_of_lastName (String.ofList_injective hempty)
    cases count with
    | zero => exact absurd (String.toList_injective hslashes) hhref
    | succ count => exact ⟨count, by rw [← hslashes, String.ofList_toList, haddress]⟩
  placed := by
    intro before id count hne hslash haddress
    refine packageOf_of_name haddress ?_
    rw [String.toList_ofList, Address.names_placed before hne hslash, List.getLast?_concat]

theorem finds_none : Finds none none :=
  ⟨fun _ => rfl, nofun, nofun, nofun, nofun⟩

/-- The package behind an application is read off the droplet that is answered. -/
theorem eval_currentPackage {reply : Replies (Staging τ)} {app : Option String} {droplet : Option DropletRecord}
    (h : reply (.call (.droplet app)) = .ok droplet) :
    (currentPackage app).eval reply = .ok (droplet.bind packageOf) := by
  have hcall : (operate .findCurrentPackage (.droplet app)).eval reply = .ok droplet := by
    rw [eval_operate, h]
    rfl
  unfold currentPackage
  rw [Attempt.eval_bind_of_ok hcall, Attempt.eval_pure]

/-- **What is found of the package behind an application**, whatever droplet is answered. Asking for it does not fail.
What is found is the last name in the address that the droplet refers to the package by; nothing without an address; and
an identifier without characters if the address consists of slashes. -/
theorem currentPackage_finds (reply : Replies (Staging τ)) (app : Option String) {droplet : Option DropletRecord}
    (h : reply (.call (.droplet app)) = .ok droplet) :
    ∃ found, (currentPackage app).eval reply = .ok found ∧ Finds (droplet.bind packageAddress) found := by
  refine ⟨droplet.bind packageOf, eval_currentPackage h, ?_⟩
  cases droplet with
  | none => exact finds_none
  | some droplet => exact finds_packageOf droplet

/-- A droplet that refers to its package by an address. -/
def dropletFrom (href : String) : DropletRecord :=
  { (default : DropletRecord) with links := [("package", { (default : Link) with href })] }

/-- A platform on which every application has such a droplet, and nothing else is known. -/
def dropletsFrom (href : String) : Replies (Staging Nat)
  | .call (.droplet _) => .ok (some (dropletFrom href))
  | .call _ => .error .cancelled
  | .clock => 0
  | .report _ | .measure _ | .pause _ | .save _ => ()

/-- The last name is found although slashes follow it. -/
theorem currentPackage_finds_trailing :
    dropletsFrom "v3//pkg-1//" (.call (.droplet (some "app-1"))) = .ok (some (dropletFrom "v3//pkg-1//")) ∧
      (currentPackage (some "app-1")).eval (dropletsFrom "v3//pkg-1//") = .ok (some "pkg-1") := by
  obtain ⟨found, hfound, hfinds⟩ := currentPackage_finds (dropletsFrom "v3//pkg-1//") (some "app-1") rfl
  refine ⟨rfl, ?_⟩
  rw [hfound, hfinds.placed "v3/".toList "pkg-1".toList 2 (by decide) (by decide) (by decide)]
  rfl

/-- An address of slashes only has no names in it, but an identifier is found, and it is empty. -/
theorem currentPackage_slashes :
    packageAddress (dropletFrom "///") = some "///" ∧ Address.names "///".toList = [] ∧
      (currentPackage (some "app-1")).eval (dropletsFrom "///") = .ok (some "") := by
  have hanswer : dropletsFrom "///" (.call (.droplet (some "app-1"))) = .ok (some (dropletFrom "///")) := rfl
  have hfound : packageOf (dropletFrom "///") = some "" := (finds_packageOf _).nameless 2 rfl
  refine ⟨rfl, by decide, ?_⟩
  rw [eval_currentPackage hanswer]
  exact congrArg Except.ok hfound

end Pipeline

end Steward
