import Mathlib.Data.List.Basic
import Mathlib.Data.List.TakeWhile
import Mathlib.Tactic.Tauto
import Steward.Naming
import Steward.Proofs.Decimal.Numerals

/-!
# The grammar of names

Names are read by cutting: a line end off the end, then a run of digits, then the `-v` before it. What is accepted that
way is a grammar, and this module says which: at least one character, all of them from the alphabet of names, and not a
sequence token alone. From what was read the name can be written again, up to zeros in front of the number and a line
end behind a sequence.

## Contents

* `Alphabet`, `isNameChar_iff` — the characters of names;
* `Token`, `cutSequence_eq_some_iff`, `cutSequence_eq_none_iff` — sequence tokens, and where they are cut off;
* `Conventional` — the characters of accepted names; `bodyOf` — a name without a line end that closes it;
* `Repadded` — names that differ in zeros;
* `parse_of_not_alphabet`, `parse_of_token`, `parse_of_no_token` — what the three kinds of names read as;
* `Accepts`, `parse_accepts` — reading accepts its grammar.
-/

namespace Steward.Names

/-! ## The alphabet -/

/-- The characters of names. -/
def Alphabet (c : Char) : Prop :=
  c.isAlphanum = true ∨ c ∈ ['.', '_', '~', '^', '-']

theorem isNameChar_iff {c : Char} : isNameChar c = true ↔ Alphabet c := by
  unfold isNameChar Alphabet Char.isAlphanum Char.isAlpha Char.isUpper Char.isLower
  rw [Decimal.isDigit_eq]
  simp only [Bool.or_eq_true, Bool.and_eq_true, decide_eq_true_eq, List.mem_cons, List.not_mem_nil, or_false]
  exact ⟨fun h => by tauto, fun h => by tauto⟩

instance : DecidablePred Alphabet :=
  fun _ => decidable_of_iff _ isNameChar_iff

theorem all_isNameChar {cs : List Char} : cs.all isNameChar = true ↔ ∀ c ∈ cs, Alphabet c := by
  simp only [List.all_eq_true, isNameChar_iff]

/-! ## Sequence tokens -/

/-- The digits of a sequence token. -/
structure Token where
  digits : List Char
  enough : leastDigits ≤ digits.length
  decimal : ∀ d ∈ digits, d.isDigit = true

namespace Token

/-- A token as it stands at the end of a name. -/
def written (t : Token) : List Char :=
  '-' :: 'v' :: t.digits

/-- The number of a token. -/
def number (t : Token) : Nat :=
  Decimal.value t.digits

theorem ne_nil (t : Token) : t.digits ≠ [] := by
  intro h
  have henough := t.enough
  rw [h] at henough
  exact absurd henough (by decide)

/-- The digits of a token are its number behind some zeros. -/
theorem digits_eq (t : Token) : ∃ z, t.digits = List.replicate z '0' ++ Decimal.ofNat t.number :=
  Decimal.exists_zeros t.ne_nil t.decimal

/-- A token consists of characters of names. -/
theorem alphabet (t : Token) : ∀ c ∈ t.written, Alphabet c := by
  intro c hc
  rcases List.mem_cons.1 hc with rfl | hc
  · exact Or.inr (by simp)
  rcases List.mem_cons.1 hc with rfl | hc
  · exact Or.inl (by decide)
  · refine Or.inl ?_
    rw [Char.isAlphanum, t.decimal c hc, Bool.or_true]

end Token

/-- **The token is what is cut off**: a name is cut exactly where a token ends it. -/
theorem cutSequence_eq_some_iff {cs before digits : List Char} :
    cutSequence cs = some (before, digits) ↔ ∃ t : Token, t.digits = digits ∧ cs = before ++ t.written := by
  constructor
  · intro h
    have hsplit : cs.reverse = cs.reverse.takeWhile Decimal.isDigit ++ cs.reverse.dropWhile Decimal.isDigit :=
      (List.takeWhile_append_dropWhile).symm
    unfold cutSequence at h
    split at h
    case h_1 rest hrest =>
      by_cases hlen : leastDigits ≤ (cs.reverse.takeWhile Decimal.isDigit).length
      · rw [if_pos hlen, Option.some.injEq, Prod.mk.injEq] at h
        obtain ⟨rfl, rfl⟩ := h
        refine ⟨⟨_, ?_, ?_⟩, rfl, ?_⟩
        · exact hlen.trans_eq List.length_reverse.symm
        · intro d hd
          exact List.mem_takeWhile_imp (List.mem_reverse.1 hd)
        · rw [hrest] at hsplit
          have := congrArg List.reverse hsplit
          simpa [Token.written] using this
      · rw [if_neg hlen] at h
        exact absurd h (by simp)
    case h_2 => exact absurd h (by simp)
  · rintro ⟨t, rfl, rfl⟩
    -- from the end the digits come first, and the letter before them stops the run
    have hrev : (before ++ t.written).reverse = t.digits.reverse ++ 'v' :: '-' :: before.reverse := by
      simp [Token.written]
    have hdigits : ∀ d ∈ t.digits.reverse, Decimal.isDigit d = true := fun d hd => t.decimal d (List.mem_reverse.1 hd)
    have hv : Decimal.isDigit 'v' = false := by decide
    have htake : (before ++ t.written).reverse.takeWhile Decimal.isDigit = t.digits.reverse := by
      rw [hrev, List.takeWhile_append_of_pos hdigits, List.takeWhile_cons_of_neg (by simp [hv]), List.append_nil]
    have hdrop : (before ++ t.written).reverse.dropWhile Decimal.isDigit = 'v' :: '-' :: before.reverse := by
      rw [hrev, List.dropWhile_append_of_pos hdigits, List.dropWhile_cons_of_neg (by simp [hv])]
    unfold cutSequence
    rw [htake, hdrop]
    show (if leastDigits ≤ t.digits.reverse.length then some (before.reverse.reverse, t.digits.reverse.reverse)
      else none) = _
    rw [if_pos (by rw [List.length_reverse]; exact t.enough), List.reverse_reverse, List.reverse_reverse]

theorem cutSequence_append_written (before : List Char) (t : Token) :
    cutSequence (before ++ t.written) = some (before, t.digits) :=
  cutSequence_eq_some_iff.2 ⟨t, rfl, rfl⟩

theorem cutSequence_eq_none_iff {cs : List Char} :
    cutSequence cs = none ↔ ∀ before (t : Token), cs ≠ before ++ t.written := by
  constructor
  · rintro h before t rfl
    rw [cutSequence_append_written] at h
    exact absurd h (by simp)
  · intro h
    cases hcut : cutSequence cs with
    | none => rfl
    | some cut =>
      obtain ⟨before, digits⟩ := cut
      obtain ⟨t, -, ht⟩ := cutSequence_eq_some_iff.1 hcut
      exact absurd ht (h before t)

/-- A name ends in one token at most. -/
theorem append_written_inj {before before' : List Char} {t t' : Token}
    (h : before ++ t.written = before' ++ t'.written) :
    before = before' ∧ t.digits = t'.digits := by
  have hcut := cutSequence_append_written before t
  rw [h, cutSequence_append_written, Option.some.injEq, Prod.mk.injEq] at hcut
  exact ⟨hcut.1.symm, hcut.2.symm⟩

/-! ## Accepted names -/

/-- The characters of an accepted name: one at least, all from the alphabet, and more than a token. -/
structure Conventional (cs : List Char) : Prop where
  nonempty : cs ≠ []
  alphabet : ∀ c ∈ cs, Alphabet c
  headed : ∀ t : Token, cs ≠ t.written

/-- The characters of a name, without a line end that closes it. -/
def bodyOf (name : String) : List Char :=
  (lineOf name.toList).1

theorem lineOf_append (cs : List Char) : (lineOf cs).1 ++ (lineOf cs).2 = cs := by
  unfold lineOf
  by_cases h : cs.getLast? = some '\n'
  · rw [if_pos h]
    exact List.dropLast_append_getLast? _ h
  · rw [if_neg h, List.append_nil]

/-- One line end at most is left out. -/
theorem toList_eq_bodyOf (name : String) : name.toList = bodyOf name ∨ name.toList = bodyOf name ++ ['\n'] := by
  have hline := lineOf_append name.toList
  by_cases h : name.toList.getLast? = some '\n'
  · have hend : (lineOf name.toList).2 = ['\n'] := by rw [lineOf, if_pos h]
    rw [hend] at hline
    exact Or.inr hline.symm
  · have hend : (lineOf name.toList).2 = [] := by rw [lineOf, if_neg h]
    rw [hend, List.append_nil] at hline
    exact Or.inl hline.symm

/-- Two runs of characters that end in the same number, in front of which only the zeros may differ. -/
def Repadded (as bs : List Char) : Prop :=
  ∃ before n y z, as = before ++ '-' :: 'v' :: (List.replicate y '0' ++ Decimal.ofNat n) ∧
    bs = before ++ '-' :: 'v' :: (List.replicate z '0' ++ Decimal.ofNat n)

theorem Token.repadded {before : List Char} {t t' : Token} (h : t.number = t'.number) :
    Repadded (before ++ t.written) (before ++ t'.written) := by
  obtain ⟨y, hy⟩ := t.digits_eq
  obtain ⟨z, hz⟩ := t'.digits_eq
  rw [← h] at hz
  refine ⟨before, t.number, y, z, ?_, ?_⟩
  · rw [← hy]; rfl
  · rw [← hz]; rfl

/-! ## What names read as -/

@[simp] theorem ofCluster_cluster (cs : List Char) (sequence : Option Int) :
    (ofCluster cs sequence).cluster = some (String.ofList cs) := rfl

@[simp] theorem ofCluster_sequence (cs : List Char) (sequence : Option Int) :
    (ofCluster cs sequence).sequence = sequence := rfl

variable {name : String}

/-- A name is judged by its characters, then cut. -/
theorem parse_eq (name : String) :
    parse name = if ((bodyOf name).isEmpty || !(bodyOf name).all isNameChar) = true then .ok unnamed
      else match cutSequence (bodyOf name) with
        | none => .ok (ofCluster name.toList none)
        | some (cluster, digits) =>
          if Value.longestInteger < digits.length then .error (.numeralTooLong digits.length)
          else if cluster.isEmpty then .ok unnamed
          else .ok (ofCluster cluster (some (Decimal.value digits))) := by
  conv_rhs => rw [← lineOf_append name.toList]
  rfl

theorem refused_iff {cs : List Char} :
    (cs.isEmpty || !cs.all isNameChar) = true ↔ cs = [] ∨ ¬ ∀ c ∈ cs, Alphabet c := by
  rw [Bool.or_eq_true, List.isEmpty_iff, Bool.not_eq_true', ← Bool.not_eq_true, all_isNameChar]

theorem parse_of_not_alphabet (h : bodyOf name = [] ∨ ¬ ∀ c ∈ bodyOf name, Alphabet c) : parse name = .ok unnamed := by
  rw [parse_eq, if_pos (refused_iff.2 h)]

theorem parse_of_no_token (hne : bodyOf name ≠ []) (h : ∀ c ∈ bodyOf name, Alphabet c)
    (hnone : ∀ before (t : Token), bodyOf name ≠ before ++ t.written) :
    parse name = .ok (ofCluster name.toList none) := by
  have hread : ¬ (bodyOf name = [] ∨ ¬ ∀ c ∈ bodyOf name, Alphabet c) := by tauto
  rw [parse_eq, if_neg (refused_iff.not.2 hread), cutSequence_eq_none_iff.2 hnone]

theorem parse_of_token {before : List Char} {t : Token} (hbody : bodyOf name = before ++ t.written)
    (h : ∀ c ∈ before, Alphabet c) :
    parse name = if Value.longestInteger < t.digits.length then .error (.numeralTooLong t.digits.length)
      else if before.isEmpty then .ok unnamed
      else .ok (ofCluster before (some t.number)) := by
  have hread : ¬ (bodyOf name = [] ∨ ¬ ∀ c ∈ bodyOf name, Alphabet c) := by
    rintro (hnil | hnot)
    · rw [hbody] at hnil
      exact absurd hnil (by simp [Token.written])
    · apply hnot
      intro c hc
      rw [hbody, List.mem_append] at hc
      exact hc.elim (h c) (t.alphabet c)
  rw [parse_eq, if_neg (refused_iff.not.2 hread), hbody, cutSequence_append_written]
  rfl

/-! ## The grammar -/

/-- What a name reads as, told by its characters. -/
structure Accepts (name : String) (names : Names) : Prop where
  /-- There is a cluster exactly if the characters are those of an accepted name. -/
  cluster_iff : names.cluster.isSome = true ↔ Conventional (bodyOf name)
  /-- Without a cluster nothing was read. -/
  rest : names.cluster = none → names = unnamed
  /-- There is a sequence exactly if a token ends the name. -/
  sequence_iff : ∀ cluster, names.cluster = some cluster →
    (names.sequence.isSome = true ↔ ∃ before, ∃ t : Token, bodyOf name = before ++ t.written)
  /-- With a sequence the name is its cluster and a token with that number. -/
  numbered : ∀ cluster n, names.cluster = some cluster → names.sequence = some n →
    ∃ t : Token, bodyOf name = cluster.toList ++ t.written ∧ n = t.number
  /-- Without a sequence the name is its cluster. -/
  plain : ∀ cluster, names.cluster = some cluster → names.sequence = none → cluster = name

theorem accepts_unnamed (h : ¬ Conventional (bodyOf name)) : Accepts name unnamed where
  cluster_iff := ⟨fun hsome => absurd hsome (by simp [unnamed]), fun hname => absurd hname h⟩
  rest _ := rfl
  sequence_iff cluster hcluster := absurd hcluster (by simp [unnamed])
  numbered cluster n hcluster := absurd hcluster (by simp [unnamed])
  plain cluster hcluster := absurd hcluster (by simp [unnamed])

theorem accepts_token {before : List Char} {t : Token} (hbody : bodyOf name = before ++ t.written)
    (hname : Conventional (bodyOf name)) : Accepts name (ofCluster before (some t.number)) where
  cluster_iff := ⟨fun _ => hname, fun _ => by simp⟩
  rest hnone := absurd hnone (by simp)
  sequence_iff cluster _ := ⟨fun _ => ⟨before, t, hbody⟩, fun _ => by simp⟩
  numbered cluster n hcluster hn := by
    simp only [ofCluster_cluster, ofCluster_sequence, Option.some.injEq] at hcluster hn
    subst hcluster
    exact ⟨t, by rw [hbody, String.toList_ofList], hn.symm⟩
  plain cluster _ hnone := absurd hnone (by simp)

theorem accepts_no_token (hnone : ∀ before (t : Token), bodyOf name ≠ before ++ t.written)
    (hname : Conventional (bodyOf name)) : Accepts name (ofCluster name.toList none) where
  cluster_iff := ⟨fun _ => hname, fun _ => by simp⟩
  rest hnone := absurd hnone (by simp)
  sequence_iff cluster _ := by
    simp only [ofCluster_sequence, Option.isSome_none, Bool.false_eq_true, false_iff]
    rintro ⟨before, t, ht⟩
    exact hnone before t ht
  numbered cluster n _ hn := absurd hn (by simp)
  plain cluster hcluster _ := by
    simp only [ofCluster_cluster, String.ofList_toList, Option.some.injEq] at hcluster
    exact hcluster.symm

/-- **What a name is read as** is told by its characters, unless its token is too long to be a number. -/
theorem accepts_of_parse (name : String) :
    (∃ names, parse name = .ok names ∧ Accepts name names) ∨
      ∃ before, ∃ t : Token, bodyOf name = before ++ t.written ∧ (∀ c ∈ bodyOf name, Alphabet c) ∧
        Value.longestInteger < t.digits.length ∧ parse name = .error (.numeralTooLong t.digits.length) := by
  by_cases hread : bodyOf name = [] ∨ ¬ ∀ c ∈ bodyOf name, Alphabet c
  · refine Or.inl ⟨_, parse_of_not_alphabet hread, accepts_unnamed fun hname => ?_⟩
    exact hread.elim hname.nonempty fun hnot => hnot hname.alphabet
  obtain ⟨hne, hall⟩ := not_or.1 hread
  have halphabet := not_not.1 hall
  by_cases htoken : ∃ before, ∃ t : Token, bodyOf name = before ++ t.written
  · obtain ⟨before, t, hbody⟩ := htoken
    have hparse := parse_of_token hbody fun c hc => halphabet c (hbody ▸ List.mem_append_left _ hc)
    by_cases hlong : Value.longestInteger < t.digits.length
    · rw [if_pos hlong] at hparse
      exact Or.inr ⟨before, t, hbody, halphabet, hlong, hparse⟩
    rw [if_neg hlong] at hparse
    by_cases hbefore : before = []
    · subst hbefore
      exact Or.inl ⟨_, hparse, accepts_unnamed fun hname => hname.headed t hbody⟩
    · rw [if_neg fun hempty => hbefore (List.isEmpty_iff.1 hempty)] at hparse
      refine Or.inl ⟨_, hparse, accepts_token hbody ⟨hne, halphabet, fun t' ht' => hbefore ?_⟩⟩
      rw [hbody] at ht'
      have halone : before ++ t.written = [] ++ t'.written := ht'
      exact (append_written_inj halone).1
  · have hnone : ∀ before (t : Token), bodyOf name ≠ before ++ t.written :=
      fun before t ht => htoken ⟨before, t, ht⟩
    exact Or.inl ⟨_, parse_of_no_token hne halphabet hnone,
      accepts_no_token hnone ⟨hne, halphabet, fun t => hnone [] t⟩⟩

/-- Names with equal parts are equal, or end in the same number with other zeros in front of it. -/
theorem Accepts.eq_or_repadded {other : String} {names : Names} {cluster : String} (h : Accepts name names)
    (h' : Accepts other names) (hcluster : names.cluster = some cluster) :
    other = name ∨ Repadded (bodyOf name) (bodyOf other) := by
  cases hsequence : names.sequence with
  | none => exact Or.inl ((h'.plain cluster hcluster hsequence).symm.trans (h.plain cluster hcluster hsequence))
  | some n =>
    obtain ⟨t, hbody, hn⟩ := h.numbered cluster n hcluster hsequence
    obtain ⟨t', hbody', hn'⟩ := h'.numbered cluster n hcluster hsequence
    rw [hbody, hbody']
    exact Or.inr (Token.repadded (by exact_mod_cast hn.symm.trans hn'))

/-- **Reading accepts its grammar.** A name is read as its characters say, and the name can be told from its parts, up to
zeros in front of the number and a line end that closes the name; only a token too long to be a number is refused. -/
theorem parse_accepts (name : String) :
    (name.toList = bodyOf name ∨ name.toList = bodyOf name ++ ['\n']) ∧
    ((∃ names, parse name = .ok names ∧ Accepts name names ∧
        ∀ cluster other, names.cluster = some cluster → parse other = .ok names →
          other = name ∨ Repadded (bodyOf name) (bodyOf other)) ∨
      ∃ before, ∃ t : Token, bodyOf name = before ++ t.written ∧ (∀ c ∈ bodyOf name, Alphabet c) ∧
        Value.longestInteger < t.digits.length ∧ parse name = .error (.numeralTooLong t.digits.length)) := by
  refine ⟨toList_eq_bodyOf name, ?_⟩
  rcases accepts_of_parse name with ⟨names, hparse, haccepts⟩ | hlong
  · refine Or.inl ⟨names, hparse, haccepts, fun cluster other hcluster hother => ?_⟩
    rcases accepts_of_parse other with ⟨names', hparse', haccepts'⟩ | ⟨_, _, _, _, _, herror⟩
    · rw [hother, Except.ok.injEq] at hparse'
      subst hparse'
      exact haccepts.eq_or_repadded haccepts' hcluster
    · rw [hother] at herror
      exact absurd herror (by simp)
  · exact Or.inr hlong

/-- A line end is let through: after a name without token it becomes a part of the cluster, and after a token it is lost. -/
theorem parse_line_end :
    parse "shop-web\n" = .ok ⟨some "shop", some "shop-web\n", some "web\n", none, none⟩ ∧
      parse "shop-web-v003\n" = parse "shop-web-v003" ∧ ¬ Alphabet '\n' := by
  refine ⟨rfl, rfl, ?_⟩
  unfold Alphabet
  decide

end Steward.Names
