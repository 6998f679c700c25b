import Steward.Proofs.Naming.Grammar

/-!
# Writing names

A name is written from its parts: an application, with a stack and a detail after it, and a number at the end. Reading
the name gives the parts back. The first two dashes are what keeps application, stack and detail apart, so only the
detail may have dashes of its own; what looks like a sequence token within them is none as long as a number follows.

## Contents

* `Text.cut_of_not_mem`, `Text.cut_append` — cutting at the first dash;
* `Numbered` — a number as it is written at the end of names, and its token;
* `Part`, `Spelling` — the parts that names are written from;
* `Spelling.cluster`, `Spelling.text`, `Spelling.names` — what is written, and what it says;
* `ofCluster_of_not_mem`, `ofCluster_append` — cutting a cluster;
* `Spelling.parse_text` — reading undoes writing.
-/

namespace Steward.Text

variable {sep : Char} {cs : List Char}

theorem cut_of_not_mem (h : sep ∉ cs) : cut sep cs = (cs, none) := by
  induction cs with
  | nil => rfl
  | cons c cs ih =>
    rw [List.mem_cons, not_or] at h
    obtain ⟨hc, hcs⟩ := h
    rw [cut, if_neg (Ne.symm hc), ih hcs]

theorem cut_append (h : sep ∉ cs) (rest : List Char) : cut sep (cs ++ sep :: rest) = (cs, some rest) := by
  induction cs with
  | nil => rw [List.nil_append, cut, if_pos rfl]
  | cons c cs ih =>
    rw [List.mem_cons, not_or] at h
    obtain ⟨hc, hcs⟩ := h
    rw [List.cons_append, cut, if_neg (Ne.symm hc), ih hcs]

end Steward.Text

namespace Steward.Names

/-! ## Numbers at the end -/

/-- A number as it is written at the end of a name, with zeros in front that make up for missing digits. -/
structure Numbered where
  number : Nat
  zeros : Nat
  enough : leastDigits ≤ zeros + (Decimal.ofNat number).length

namespace Numbered

def digits (n : Numbered) : List Char :=
  List.replicate n.zeros '0' ++ Decimal.ofNat n.number

/-- A number as the token that it is written as. -/
def token (n : Numbered) : Token where
  digits := n.digits
  enough := by
    rw [digits, List.length_append, List.length_replicate]
    exact n.enough
  decimal d hd := by
    rw [digits, List.mem_append, List.mem_replicate] at hd
    rcases hd with ⟨-, rfl⟩ | hd
    · decide
    · exact Decimal.isDigit_of_mem_ofNat n.number d hd

theorem number_token (n : Numbered) : n.token.number = n.number := by
  show Decimal.value (List.replicate n.zeros '0' ++ Decimal.ofNat n.number) = n.number
  rw [Decimal.value_zeros_append, Decimal.value_ofNat]

end Numbered

/-! ## Parts -/

/-- The characters of a part that no dash may be in. -/
def Undashed (c : Char) : Prop :=
  Alphabet c ∧ c ≠ '-'

instance : DecidablePred Undashed :=
  fun c => inferInstanceAs (Decidable (Alphabet c ∧ c ≠ '-'))

/-- Whether characters are of one kind can be tested one by one. -/
theorem forall_mem_of_all {kind : Char → Prop} [DecidablePred kind] {cs : List Char}
    (h : cs.all (fun c => decide (kind c)) = true) : ∀ c ∈ cs, kind c := by
  simpa using h

/-- A part of a name: at least one character, all of one kind. -/
structure Part (kind : Char → Prop) where
  chars : List Char
  nonempty : chars ≠ []
  within : ∀ c ∈ chars, kind c

namespace Part

theorem dash_not_mem (p : Part Undashed) : '-' ∉ p.chars :=
  fun h => (p.within '-' h).2 rfl

theorem part_chars {kind : Char → Prop} (p : Part kind) : part p.chars = some (String.ofList p.chars) := by
  rw [part, if_neg fun h => p.nonempty (List.isEmpty_iff.1 h)]

end Part

/-- The parts that a name is written from. -/
structure Spelling where
  app : Part Undashed
  stack : Option (Part Undashed)
  detail : Option (Part Alphabet)
  sequence : Option Numbered

namespace Spelling

/-- The cluster as it is written; between an application and its detail an empty stack is held free. -/
def cluster (s : Spelling) : List Char :=
  match s.stack, s.detail with
  | none, none => s.app.chars
  | some stack, none => s.app.chars ++ '-' :: stack.chars
  | none, some detail => s.app.chars ++ '-' :: '-' :: detail.chars
  | some stack, some detail => s.app.chars ++ '-' :: (stack.chars ++ '-' :: detail.chars)

/-- The name that is written. -/
def text (s : Spelling) : String :=
  match s.sequence with
  | none => String.ofList s.cluster
  | some n => String.ofList (s.cluster ++ n.token.written)

/-- What the name says. -/
def names (s : Spelling) : Names where
  app := some (String.ofList s.app.chars)
  cluster := some (String.ofList s.cluster)
  stack := s.stack.map fun p => String.ofList p.chars
  detail := s.detail.map fun p => String.ofList p.chars
  sequence := s.sequence.map fun n => (n.number : Int)

variable (s : Spelling)

theorem cluster_ne_nil : s.cluster ≠ [] := by
  unfold cluster
  split
  · exact s.app.nonempty
  · simp
  · simp
  · simp

/-- A cluster consists of characters of names. -/
theorem alphabet_cluster : ∀ c ∈ s.cluster, Alphabet c := by
  intro c hc
  have hdash : Alphabet '-' := Or.inr (by simp)
  have happ : c ∈ s.app.chars → Alphabet c := fun h => (s.app.within c h).1
  unfold cluster at hc
  split at hc
  case h_1 => exact happ hc
  case h_2 stack _ _ =>
    rw [List.mem_append, List.mem_cons] at hc
    rcases hc with hc | rfl | hc
    · exact happ hc
    · exact hdash
    · exact (stack.within c hc).1
  case h_3 detail _ _ =>
    rw [List.mem_append, List.mem_cons, List.mem_cons] at hc
    rcases hc with hc | rfl | rfl | hc
    · exact happ hc
    · exact hdash
    · exact hdash
    · exact detail.within c hc
  case h_4 stack detail _ _ =>
    rw [List.mem_append, List.mem_cons, List.mem_append, List.mem_cons] at hc
    rcases hc with hc | rfl | hc | rfl | hc
    · exact happ hc
    · exact hdash
    · exact (stack.within c hc).1
    · exact hdash
    · exact detail.within c hc

end Spelling

/-! ## Cutting a cluster -/

theorem ofCluster_of_not_mem {cs : List Char} (h : '-' ∉ cs) (sequence : Option Int) :
    ofCluster cs sequence = ⟨some (String.ofList cs), some (String.ofList cs), none, none, sequence⟩ := by
  unfold ofCluster
  rw [Text.cut_of_not_mem h]
  rfl

theorem ofCluster_append {app : List Char} (h : '-' ∉ app) (rest : List Char) (sequence : Option Int) :
    ofCluster (app ++ '-' :: rest) sequence =
      ⟨some (String.ofList app), some (String.ofList (app ++ '-' :: rest)), part (Text.cut '-' rest).1,
        (Text.cut '-' rest).2.bind part, sequence⟩ := by
  unfold ofCluster
  rw [Text.cut_append h]

/-- A cluster is cut into the parts it was written from. -/
theorem ofCluster_cluster_eq (s : Spelling) (sequence : Option Int) :
    ofCluster s.cluster sequence = { s.names with sequence := sequence } := by
  obtain ⟨app, stack, detail, n⟩ := s
  cases stack with
  | none =>
    cases detail with
    | none => exact ofCluster_of_not_mem app.dash_not_mem sequence
    | some detail =>
      have hcut : Text.cut '-' ('-' :: detail.chars) = ([], some detail.chars) := Text.cut_append List.not_mem_nil _
      show ofCluster (app.chars ++ '-' :: '-' :: detail.chars) sequence = _
      rw [ofCluster_append app.dash_not_mem, hcut, Option.bind_some, detail.part_chars]
      rfl
  | some stack =>
    cases detail with
    | none =>
      show ofCluster (app.chars ++ '-' :: stack.chars) sequence = _
      rw [ofCluster_append app.dash_not_mem, Text.cut_of_not_mem stack.dash_not_mem, stack.part_chars]
      rfl
    | some detail =>
      show ofCluster (app.chars ++ '-' :: (stack.chars ++ '-' :: detail.chars)) sequence = _
      rw [ofCluster_append app.dash_not_mem, Text.cut_append stack.dash_not_mem, stack.part_chars, Option.bind_some,
        detail.part_chars]
      rfl

/-! ## Reading what was written -/

/-- Names within the alphabet have no line end that could be left out. -/
theorem bodyOf_of_alphabet {cs : List Char} (h : ∀ c ∈ cs, Alphabet c) : bodyOf (String.ofList cs) = cs := by
  have hline : ¬ cs.getLast? = some '\n' := by
    intro hlast
    have hmem := h '\n' (List.mem_of_getLast? hlast)
    revert hmem
    unfold Alphabet
    decide
  rw [bodyOf, String.toList_ofList, lineOf, if_neg hline]

/-- **Reading undoes writing.** A name written from its parts is read as these parts, if its number is not too long and
a name without number does not look like one with a number. -/
theorem Spelling.parse_text (s : Spelling)
    (hshort : ∀ n, s.sequence = some n → n.digits.length ≤ Value.longestInteger)
    (hplain : s.sequence = none → ∀ before (t : Token), s.cluster ≠ before ++ t.written) :
    parse s.text = .ok s.names := by
  cases hsequence : s.sequence with
  | none =>
    have htext : s.text = String.ofList s.cluster := by rw [text, hsequence]
    have hbody : bodyOf s.text = s.cluster := by rw [htext, bodyOf_of_alphabet s.alphabet_cluster]
    have hparse : parse s.text = .ok (ofCluster s.text.toList none) := by
      apply parse_of_no_token
      · rw [hbody]
        exact s.cluster_ne_nil
      · rw [hbody]
        exact s.alphabet_cluster
      · rw [hbody]
        exact hplain hsequence
    rw [hparse, htext, String.toList_ofList, ofCluster_cluster_eq, names, hsequence]
    rfl
  | some n =>
    have htext : s.text = String.ofList (s.cluster ++ n.token.written) := by rw [text, hsequence]
    have hbody : bodyOf s.text = s.cluster ++ n.token.written := by
      rw [htext]
      apply bodyOf_of_alphabet
      intro c hc
      exact (List.mem_append.1 hc).elim (s.alphabet_cluster c) (n.token.alphabet c)
    have hlen : ¬ Value.longestInteger < n.token.digits.length := not_lt.2 (hshort n hsequence)
    have hempty : ¬ s.cluster.isEmpty = true := fun h => s.cluster_ne_nil (List.isEmpty_iff.1 h)
    rw [parse_of_token hbody s.alphabet_cluster, if_neg hlen, if_neg hempty, ofCluster_cluster_eq, n.number_token, names,
      hsequence]
    rfl

/-- An application without a stack, with a detail that ends like a numbered name, and a number after it. -/
def canary : Spelling where
  app := ⟨['s', 'h', 'o', 'p'], by decide, forall_mem_of_all (by decide)⟩
  stack := none
  detail := some ⟨['n', 'e', 'w', '-', 'v', '0', '0', '2'], by decide, forall_mem_of_all (by decide)⟩
  sequence := some ⟨3, 2, by rw [Decimal.ofNat_of_lt (by decide)]; decide⟩

theorem text_canary : canary.text = "shop--new-v002-v003" := by
  show String.ofList (_ ++ '-' :: 'v' :: (List.replicate 2 '0' ++ Decimal.ofNat 3)) = _
  rw [Decimal.ofNat_of_lt (by decide)]
  rfl

theorem Spelling.parse_text_canary :
    (∀ n, canary.sequence = some n → n.digits.length ≤ Value.longestInteger) ∧
      (canary.sequence = none → ∀ before (t : Token), canary.cluster ≠ before ++ t.written) ∧
      parse "shop--new-v002-v003" = .ok ⟨some "shop", some "shop--new-v002", none, some "new-v002", some 3⟩ := by
  have hshort : ∀ n, canary.sequence = some n → n.digits.length ≤ Value.longestInteger := by
    rintro n ⟨⟩
    rw [Numbered.digits, Decimal.ofNat_of_lt (by decide)]
    decide
  have hplain : canary.sequence = none → ∀ before (t : Token), canary.cluster ≠ before ++ t.written :=
    fun h => absurd h (by simp [canary])
  refine ⟨hshort, hplain, ?_⟩
  rw [← text_canary]
  exact Spelling.parse_text canary hshort hplain

end Steward.Names
