import Mathlib.Data.List.Induction
import Steward.Decimal.Digits

/-!
# Numerals

What a number looks like in digits, and which number a run of digits names. The two undo each other up to zeros in front:
a run of digits is its number in the fewest digits behind some zeros.

## Contents

* `isDigit_eq`, `digit_digitValue`, `digitValue_digit` — digits and their values;
* `ofNat_of_lt`, `ofNat_of_le`, `isDigit_of_mem_ofNat` — the fewest digits, taken from the end;
* `value_concat`, `value_cons`, `value_lt`, `value_zeros_append`, `value_ofNat` — the value of a run of digits;
* `exists_zeros` — a run of digits is a padded number;
* `Canonical`, `Canonical.precedes` — numerals without zeros in front, in the order of their numbers.
-/

namespace Steward.Decimal

/-! ## Single digits -/

theorem isDigit_eq (c : Char) : isDigit c = c.isDigit := rfl

theorem isDigit_iff {c : Char} : isDigit c = true ↔ 48 ≤ c.toNat ∧ c.toNat ≤ 57 := by
  rw [isDigit, Bool.and_eq_true, decide_eq_true_iff, decide_eq_true_iff]
  exact Iff.rfl

theorem toNat_digit {n : Nat} (h : n < 10) : (digit n).toNat = 48 + n := by
  unfold digit
  have hvalid : (48 + n).isValidChar := Or.inl (by omega)
  rw [Char.ofNat, dif_pos hvalid]
  rfl

theorem digitValue_digit {n : Nat} (h : n < 10) : digitValue (digit n) = n := by
  unfold digitValue
  rw [toNat_digit h]
  omega

theorem isDigit_digit {n : Nat} (h : n < 10) : isDigit (digit n) = true := by
  rw [isDigit_iff, toNat_digit h]
  omega

theorem digitValue_lt {c : Char} (h : isDigit c = true) : digitValue c < 10 := by
  rw [isDigit_iff] at h
  unfold digitValue
  omega

theorem digit_digitValue {c : Char} (h : isDigit c = true) : digit (digitValue c) = c := by
  apply Char.toNat_inj.1
  rw [toNat_digit (digitValue_lt h)]
  rw [isDigit_iff] at h
  unfold digitValue
  omega

/-! ## The fewest digits -/

theorem digitsOnto_eq (n : Nat) (written : List Char) : digitsOnto n written = ofNat n ++ written := by
  unfold ofNat
  induction n using Nat.strongRecOn generalizing written with
  | _ n ih =>
    rw [digitsOnto, digitsOnto.eq_def n []]
    by_cases hn : n < 10
    · simp [hn]
    · rw [if_neg hn, if_neg hn, ih (n / 10) (by omega), ih (n / 10) (by omega) [digit (n % 10)], List.append_assoc,
        List.singleton_append]

theorem ofNat_of_lt {n : Nat} (h : n < 10) : ofNat n = [digit n] := by
  rw [ofNat, digitsOnto, if_pos h]

theorem ofNat_of_le {n : Nat} (h : 10 ≤ n) : ofNat n = ofNat (n / 10) ++ [digit (n % 10)] := by
  rw [ofNat, digitsOnto, if_neg (by omega), digitsOnto_eq]

theorem isDigit_of_mem_ofNat (n : Nat) : ∀ d ∈ ofNat n, isDigit d = true := by
  induction n using Nat.strongRecOn with
  | _ n ih =>
    intro d hd
    by_cases hn : n < 10
    · rw [ofNat_of_lt hn, List.mem_singleton] at hd
      rw [hd]
      exact isDigit_digit hn
    · rw [ofNat_of_le (by omega), List.mem_append, List.mem_singleton] at hd
      rcases hd with hd | hd
      · exact ih (n / 10) (by omega) d hd
      · rw [hd]
        exact isDigit_digit (Nat.mod_lt _ (by omega))

/-! ## Values -/

theorem value_concat (ds : List Char) (d : Char) : value (ds ++ [d]) = 10 * value ds + digitValue d := by
  unfold value
  rw [List.foldl_append, List.foldl_cons, List.foldl_nil]

theorem tenTo_length_concat (ds : List Char) (d : Char) : tenTo (ds ++ [d]).length = 10 * tenTo ds.length := by
  rw [List.length_append, List.length_singleton]
  exact Nat.pow_succ'

theorem value_cons (d : Char) (ds : List Char) : value (d :: ds) = digitValue d * tenTo ds.length + value ds := by
  induction ds using List.reverseRecOn with
  | nil =>
    show 10 * 0 + digitValue d = digitValue d * 1 + 0
    omega
  | append_singleton es e ih =>
    rw [← List.cons_append, value_concat, value_concat, ih, tenTo_length_concat, Nat.mul_left_comm]
    omega

/-- The value of a run of digits is bounded by their number. -/
theorem value_lt {ds : List Char} (h : ∀ d ∈ ds, isDigit d = true) : value ds < tenTo ds.length := by
  induction ds using List.reverseRecOn with
  | nil => decide
  | append_singleton ds d ih =>
    obtain ⟨hds, hd⟩ := List.forall_mem_append.1 h
    have hbefore := ih hds
    have hlast := digitValue_lt (hd d List.mem_cons_self)
    rw [value_concat, tenTo_length_concat]
    omega

theorem value_zeros_append (z : Nat) (ds : List Char) : value (List.replicate z '0' ++ ds) = value ds := by
  induction z with
  | zero => rfl
  | succ z ih =>
    rw [List.replicate_succ, List.cons_append]
    exact ih

theorem value_ofNat (n : Nat) : value (ofNat n) = n := by
  induction n using Nat.strongRecOn with
  | _ n ih =>
    by_cases hn : n < 10
    · rw [ofNat_of_lt hn, ← List.nil_append [digit n], value_concat, digitValue_digit hn]
      show 10 * 0 + n = n
      omega
    · rw [ofNat_of_le (by omega), value_concat, ih (n / 10) (by omega), digitValue_digit (Nat.mod_lt _ (by omega))]
      omega

/-- **A run of digits is a padded number**: zeros, then its number in the fewest digits. -/
theorem exists_zeros {ds : List Char} (hne : ds ≠ []) (h : ∀ d ∈ ds, isDigit d = true) :
    ∃ z, ds = List.replicate z '0' ++ ofNat (value ds) := by
  induction ds using List.reverseRecOn with
  | nil => exact absurd rfl hne
  | append_singleton es d ih =>
    have hd : isDigit d = true := h d (by simp)
    have hlast : ofNat (digitValue d) = [d] := by rw [ofNat_of_lt (digitValue_lt hd), digit_digitValue hd]
    rw [value_concat]
    by_cases hes : es = []
    · subst hes
      refine ⟨0, ?_⟩
      show [d] = [] ++ ofNat (10 * 0 + digitValue d)
      rw [Nat.mul_zero, Nat.zero_add, hlast, List.nil_append]
    · obtain ⟨z, hz⟩ := ih hes fun e he => h e (List.mem_append_left _ he)
      by_cases hzero : value es = 0
      · -- all digits so far are zeros, and they stay in front
        rw [hzero, ofNat_of_lt (by omega)] at hz
        refine ⟨z + 1, ?_⟩
        rw [hzero, Nat.mul_zero, Nat.zero_add, hlast, List.replicate_succ']
        exact congrArg (· ++ [d]) hz
      · refine ⟨z, ?_⟩
        have hdiv : (10 * value es + digitValue d) / 10 = value es := by have := digitValue_lt hd; omega
        have hmod : (10 * value es + digitValue d) % 10 = digitValue d := by have := digitValue_lt hd; omega
        rw [ofNat_of_le (by omega), hdiv, hmod, digit_digitValue hd, ← List.append_assoc, ← hz]

/-! ## The order of numerals -/

/-- A greater digit is a greater character. -/
theorem lt_of_digitValue_lt {c d : Char} (h : digitValue c < digitValue d) : c < d := by
  unfold digitValue at h
  have hlt : c.toNat < d.toNat := by omega
  exact hlt

/-- Of runs of equally many digits, the one with the smaller value comes first by its characters. -/
theorem lt_of_value_lt {xs ys : List Char} (hxs : ∀ d ∈ xs, isDigit d = true) (hys : ∀ d ∈ ys, isDigit d = true)
    (hlength : xs.length = ys.length) (h : value xs < value ys) : xs < ys := by
  induction xs generalizing ys with
  | nil =>
    cases List.length_eq_zero_iff.1 hlength.symm
    exact absurd h (Nat.lt_irrefl _)
  | cons x xs ih =>
    cases ys with
    | nil => cases hlength
    | cons y ys =>
      obtain ⟨hx, hxs⟩ := List.forall_mem_cons.1 hxs
      obtain ⟨hy, hys⟩ := List.forall_mem_cons.1 hys
      have hlength : xs.length = ys.length := Nat.succ.inj hlength
      rw [value_cons, value_cons, hlength] at h
      rw [List.cons_lt_cons_iff]
      rcases Nat.lt_trichotomy (digitValue x) (digitValue y) with hlt | heq | hgt
      · exact Or.inl (lt_of_digitValue_lt hlt)
      · have hxy : x = y := by rw [← digit_digitValue hx, heq, digit_digitValue hy]
        rw [heq] at h
        exact Or.inr ⟨hxy, ih hxs hys hlength (by omega)⟩
      · -- a greater first digit outweighs all digits after it
        have hweight : (digitValue y + 1) * tenTo ys.length ≤ digitValue x * tenTo ys.length :=
          Nat.mul_le_mul_right _ hgt
        have hrest := value_lt hys
        rw [Nat.succ_mul] at hweight
        omega

/-- **A numeral without zeros in front**, but for zero itself. -/
structure Canonical (ds : List Char) : Prop where
  digits : ∀ d ∈ ds, isDigit d = true
  written : ds ≠ []
  lead : ∀ rest, ds = '0' :: rest → rest = []

theorem canonical_cons (d : Char) (ds : List Char) (hd : d ≠ '0') (h : (d :: ds).all isDigit = true) :
    Canonical (d :: ds) where
  digits := List.all_eq_true.1 h
  written := List.cons_ne_nil d ds
  lead := fun _ heq => absurd (List.cons.inj heq).1 hd

/-- A numeral of several digits has a value for which fewer are not enough. -/
theorem Canonical.tenTo_le {d : Char} {ds : List Char} (h : Canonical (d :: ds)) (hds : ds ≠ []) :
    tenTo ds.length ≤ value (d :: ds) := by
  have hdigit : isDigit d = true := h.digits d List.mem_cons_self
  have hpos : 0 < digitValue d := by
    refine Nat.pos_of_ne_zero fun hzero => hds (h.lead ds ?_)
    rw [← digit_digitValue hdigit, hzero]
    rfl
  have hweight : 1 * tenTo ds.length ≤ digitValue d * tenTo ds.length := Nat.mul_le_mul_right _ hpos
  rw [value_cons]
  omega

/-- **The numeral of the smaller number** is shorter, or as long and first by its characters. -/
theorem Canonical.precedes {xs ys : List Char} (hxs : Canonical xs) (hys : Canonical ys) (h : value xs < value ys) :
    xs.length < ys.length ∨ xs.length = ys.length ∧ xs < ys := by
  rcases Nat.lt_trichotomy xs.length ys.length with hlt | heq | hgt
  · exact Or.inl hlt
  · exact Or.inr ⟨heq, lt_of_value_lt hxs.digits hys.digits heq h⟩
  · exfalso
    cases xs with
    | nil => exact Nat.not_lt_zero _ hgt
    | cons x xs =>
      have hle : ys.length ≤ xs.length := Nat.le_of_lt_succ hgt
      have hpos : 0 < ys.length := List.length_pos_iff.2 hys.written
      have hgreat := hxs.tenTo_le (List.length_pos_iff.1 (Nat.lt_of_lt_of_le hpos hle))
      have hsmall := value_lt hys.digits
      have hpowers : tenTo ys.length ≤ tenTo xs.length := Nat.pow_le_pow_right (by decide) hle
      omega

end Steward.Decimal
