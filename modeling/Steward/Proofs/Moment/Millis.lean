import Mathlib.Tactic.Ring
import Steward.Moment
import Steward.Proofs.Binary64.Rounding

/-!
# What the milliseconds of a moment tell

The milliseconds of a moment come about in doubles: a number of seconds is rounded, then its product with a thousand is
rounded, and only then is the rest cut off. So they are not always the whole milliseconds that have elapsed since 1970.

Everything here is about sizes, in units of the smallest double: the sign of a moment is settled first, and rounding
does not know of it. With `grain` for what a second has `2 ^ 53` of, a number of less than `2 ^ e` seconds is rounded by
half of `2 ^ e` grains at most.

## Contents

* `Moment.elapsed`, `Moment.Within` — microseconds since 1970, and bounds of it;
* `Moment.Stamped`, `Moment.stamped` — what the timestamp of a moment is;
* `Moment.product`, `Moment.millis_eq`, `product_near` — the milliseconds, and how far they are off;
* `product_floor`, `product_div_steady` — off by one at most, and where not at all;
* `Moment.Apart`, `Moment.millis_ne` — moments whose milliseconds differ.
-/

namespace Steward

open Binary64

/-- The `2 ^ 53`th part of one, in units. -/
def Binary64.grain : Nat := twoTo 1021

theorem Binary64.grain_pos : 0 < grain :=
  twoTo_pos 1021

theorem Binary64.twoTo_grain (e : Nat) : twoTo (e + 1021) = twoTo e * grain :=
  twoTo_add e 1021

theorem Binary64.unit_eq_grains : unit = 9007199254740992 * grain := by
  have hsplit : twoTo (53 + 1021) = twoTo 53 * grain := twoTo_grain 53
  have hunits : twoTo 53 = 9007199254740992 := rfl
  rw [unit_eq, ← hunits]
  exact hsplit

theorem Binary64.mul_unit (n : Nat) : n * unit = 9007199254740992 * (n * grain) := by
  rw [unit_eq_grains, Nat.mul_left_comm]

/-- A finite number has the sign that it says. -/
theorem Binary64.natAbs_units (negative : Bool) (m p : Nat) : (units (.finite negative m p)).natAbs = m * twoTo p := by
  cases negative with
  | false => exact Int.natAbs_natCast _
  | true => exact (Int.natAbs_neg _).trans (Int.natAbs_natCast _)

namespace Moment

/-- Microseconds since the start of 1970. -/
def elapsed (t : Moment) : Int :=
  t.seconds * 1000000 + t.micros

/-- The moment is less than so many seconds away from the start of 1970. -/
structure Within (t : Moment) (bound : Nat) : Prop where
  micros : t.micros < 1000000
  seconds : t.seconds.natAbs < bound

variable {t : Moment} {e : Nat}

theorem Within.elapsed_lt {bound : Nat} (h : t.Within bound) : t.elapsed.natAbs < 1000000 * bound := by
  obtain ⟨hmicros, hseconds⟩ := h
  unfold elapsed
  omega

/-! ## The timestamp -/

/-- The size of the timestamp in units. -/
def size (t : Moment) : Nat :=
  (units t.timestamp).natAbs

/-- What the timestamp of a moment is: a number with the sign of the moment, so near to the seconds elapsed. -/
structure Stamped (t : Moment) (e : Nat) : Prop where
  finite : ∃ m p, t.timestamp = .finite (t.elapsed < 0) m p
  low : 2 * (t.elapsed.natAbs * unit) ≤ 2000000 * t.size + 1000000 * (twoTo e * grain + grain)
  high : 2000000 * t.size ≤ 2 * (t.elapsed.natAbs * unit) + 1000000 * (twoTo e * grain + grain)

/-- A timestamp that is rounded once, from so many units. -/
theorem Stamped.of_ofUnits {num den : Nat} (hden : 0 < den) (he : e ≤ 1021)
    (h : t.timestamp = ofUnits (t.elapsed < 0) num den) (hnum : num < den * (twoTo e * unit)) :
    (∃ m p, t.timestamp = .finite (t.elapsed < 0) m p) ∧
      2 * num ≤ 2 * (t.size * den) + den * (twoTo e * grain) ∧
      2 * (t.size * den) ≤ 2 * num + den * (twoTo e * grain) := by
  have hbound : twoTo e * unit = twoTo (e + 1021 + 53) := by
    rw [unit_eq, ← twoTo_add, Nat.add_assoc]
  rw [hbound] at hnum
  have hfinite : num < den * twoTo (2044 + 53) := by
    refine Nat.lt_of_lt_of_le hnum (Nat.mul_le_mul_left den (twoTo_mono ?_))
    omega
  obtain ⟨m, p, hm, hsize⟩ := ofUnits_finite (decide (t.elapsed < 0)) hfinite
  have hstamp : t.timestamp = .finite (t.elapsed < 0) m p := h.trans hm
  have hnearest : t.size = nearest num den := by
    unfold size
    rw [hstamp, natAbs_units, hsize]
  rw [hnearest, ← twoTo_grain]
  exact ⟨⟨m, p, hstamp⟩, nearest_bounds hden hnum⟩

theorem stamped_of_aware (haware : t.floating = false) (he : e ≤ 53) (h : t.Within (twoTo e)) : t.Stamped e := by
  have helapsed := h.elapsed_lt
  have hstamp : t.timestamp = ofUnits (t.elapsed < 0) (t.elapsed.natAbs * unit) 1000000 := by
    unfold timestamp
    rw [if_neg (by rw [haware]; exact Bool.false_ne_true)]
    rfl
  have hnum : t.elapsed.natAbs * unit < 1000000 * (twoTo e * unit) := by
    rw [← Nat.mul_assoc]
    exact Nat.mul_lt_mul_of_pos_right helapsed unit_pos
  obtain ⟨hfinite, hlow, hhigh⟩ := Stamped.of_ofUnits (by decide) (by omega) hstamp hnum
  exact ⟨hfinite, by omega, by omega⟩

/-- A natural number as a double. -/
theorem ofNat_finite {n : Nat} (h : n ≤ twoTo 53) :
    ∃ m p, ofInt (n : Int) = .finite false m p ∧ m * twoTo p = n * unit := by
  obtain ⟨m, p, hfinite, hunits⟩ := ofInt_finite (n := n) h
  have hsign : decide ((n : Int) < 0) = false := decide_eq_false (Int.not_lt.2 (Int.natCast_nonneg n))
  rw [hsign] at hfinite hunits
  refine ⟨m, p, hfinite, ?_⟩
  rw [← natAbs_units false, hunits, Int.natAbs_mul, Int.natAbs_natCast, Int.natAbs_natCast]

/-- The fraction of a second as a double: its size is so near to the microseconds. -/
theorem fraction_finite {micros : Nat} (h : micros < 1000000) :
    ∃ m p, div (ofInt micros) (ofInt 1000000) = .finite false m p ∧
      2 * (micros * unit) ≤ 2000000 * (m * twoTo p) + 1000000 * grain ∧
      2000000 * (m * twoTo p) ≤ 2 * (micros * unit) + 1000000 * grain := by
  have hmicros : micros ≤ twoTo 53 := Nat.le_trans (Nat.le_of_lt h) (by decide)
  obtain ⟨m, p, hnum, hm⟩ := ofNat_finite hmicros
  obtain ⟨n, q, hden, hn⟩ := ofNat_finite (n := 1000000) (by decide)
  have hunit := unit_pos
  have hpos : 0 < 1000000 * unit := Nat.mul_pos (by decide) hunit
  have hnonzero : n ≠ 0 := by
    rintro rfl
    rw [Nat.zero_mul] at hn
    omega
  have hbelow : micros * unit * unit < 1000000 * unit * twoTo (1021 + 53) := by
    rw [show (1021 + 53 : Nat) = 1074 from rfl, ← unit_eq]
    exact Nat.mul_lt_mul_of_pos_right (Nat.mul_lt_mul_of_pos_right h hunit) hunit
  have hsmall : micros * unit * unit < 1000000 * unit * twoTo (2044 + 53) :=
    Nat.lt_of_lt_of_le hbelow (Nat.mul_le_mul_left _ (twoTo_mono (by decide)))
  obtain ⟨d, s, hfinite, hsize⟩ := ofUnits_finite false hsmall
  obtain ⟨hlow, hhigh⟩ := nearest_bounds hpos hbelow
  have hcast : ofInt (1000000 : Int) = .finite false n q := hden
  refine ⟨d, s, ?_, ?_⟩
  · rw [hnum, hcast, div, if_neg hnonzero, hm, hn]
    exact hfinite
  · rw [← hsize] at hlow hhigh
    have hleft : 2 * (micros * unit * unit) = 2 * (micros * unit) * unit := by ring
    have hright : 2 * (d * twoTo s * (1000000 * unit)) = 2000000 * (d * twoTo s) * unit := by ring
    have hgrid : 1000000 * unit * twoTo 1021 = 1000000 * grain * unit := by
      unfold grain
      ring
    rw [hleft, hright, hgrid, ← Nat.add_mul] at hlow hhigh
    exact ⟨Nat.le_of_mul_le_mul_right hlow hunit, Nat.le_of_mul_le_mul_right hhigh hunit⟩

/-- The exact sum of the second and its rounded fraction, in units, to the microseconds elapsed. -/
theorem sum_near {bound d : Nat} (h : t.Within bound)
    (hlow : 2 * (t.micros * unit) ≤ 2000000 * d + 1000000 * grain)
    (hhigh : 2000000 * d ≤ 2 * (t.micros * unit) + 1000000 * grain) {sum : Int} (hsum : sum = t.seconds * unit + d) :
    (sum < 0 ↔ t.elapsed < 0) ∧ (sum = 0 → t.elapsed = 0) ∧ sum.natAbs < bound * unit ∧
      2 * (t.elapsed.natAbs * unit) ≤ 2000000 * sum.natAbs + 1000000 * grain ∧
      2000000 * sum.natAbs ≤ 2 * (t.elapsed.natAbs * unit) + 1000000 * grain := by
  obtain ⟨hmicros, hseconds⟩ := h
  have hgrain := grain_pos
  have hunit := unit_eq_grains
  -- the fraction is less than a second, and the second is one at least unless it is none
  have hfraction : t.micros * unit + unit ≤ 1000000 * unit := by
    rw [← Nat.succ_mul]
    exact Nat.mul_le_mul_right unit hmicros
  have hsome : t.micros ≠ 0 → unit ≤ t.micros * unit := fun hne => Nat.le_mul_of_pos_left unit (Nat.pos_of_ne_zero hne)
  have hnone : t.micros = 0 → t.micros * unit = 0 := fun hzero => by rw [hzero, Nat.zero_mul]
  have hwhole : (t.seconds * unit : Int).natAbs + unit ≤ bound * unit := by
    rw [Int.natAbs_mul, Int.natAbs_natCast, ← Nat.succ_mul]
    exact Nat.mul_le_mul_right unit hseconds
  have hafter : 0 < t.seconds → (unit : Int) ≤ t.seconds * unit := fun hpos => by
    have hle := Int.mul_le_mul_of_nonneg_right (c := (unit : Int)) (Int.add_one_le_of_lt hpos) (Int.natCast_nonneg _)
    rw [Int.zero_add, Int.one_mul] at hle
    exact hle
  have hbefore : t.seconds < 0 → (t.seconds * unit : Int) ≤ -unit := fun hneg => by
    have hle := Int.mul_le_mul_of_nonneg_right (c := (unit : Int)) (Int.le_sub_one_of_lt hneg) (Int.natCast_nonneg _)
    rw [Int.zero_sub, Int.neg_one_mul] at hle
    exact hle
  have hthen : t.seconds = 0 → (t.seconds * unit : Int) = 0 := fun hzero => by rw [hzero, Int.zero_mul]
  have hexact : (t.elapsed * unit : Int) = 1000000 * (t.seconds * unit) + (t.micros * unit : Nat) := by
    unfold elapsed
    rw [Int.natCast_mul]
    ring
  have helapsed : t.elapsed.natAbs * unit = (t.elapsed * unit : Int).natAbs := by
    rw [Int.natAbs_mul, Int.natAbs_natCast]
  have hsplit : t.elapsed = t.seconds * 1000000 + t.micros := rfl
  rw [helapsed, hexact, hsum]
  generalize (t.seconds * unit : Int) = whole at *
  generalize t.micros * unit = fraction at *
  rcases Int.lt_trichotomy t.seconds 0 with hneg | hzero | hpos
  · have hwhole' := hbefore hneg
    omega
  · have hwhole' := hthen hzero
    by_cases hmicros' : t.micros = 0
    · have hfraction' := hnone hmicros'
      omega
    · have hfraction' := hsome hmicros'
      omega
  · have hwhole' := hafter hpos
    omega

theorem stamped_of_floating (hfloating : t.floating = true) (he : e ≤ 53) (h : t.Within (twoTo e)) : t.Stamped e := by
  obtain ⟨n, q, hsec, hunits⟩ := ofInt_finite (Nat.le_trans (Nat.le_of_lt h.seconds) (twoTo_mono he))
  obtain ⟨m, p, hfraction, hlow, hhigh⟩ := fraction_finite h.micros
  obtain ⟨sum, hsum⟩ : ∃ sum : Int, sum = t.seconds * unit + (m * twoTo p : Nat) := ⟨_, rfl⟩
  have hstamp : t.timestamp = if sum = 0 then zero (t.seconds < 0 && false) else ofUnits (sum < 0) sum.natAbs 1 := by
    unfold timestamp
    rw [if_pos hfloating, hsec, hfraction, add, hunits, hsum]
    rfl
  obtain ⟨hsign, hzero, hbound, hnear, hnear'⟩ := sum_near h hlow hhigh hsum
  by_cases hnone : sum = 0
  · -- the start of 1970 itself
    have helapsed := hzero hnone
    rw [if_pos hnone, Bool.and_false] at hstamp
    have hsize : t.size = 0 := by
      unfold size
      rw [hstamp, zero, natAbs_units, Nat.zero_mul]
    refine ⟨⟨0, 0, ?_⟩, ?_, ?_⟩
    · rw [hstamp, helapsed]
      rfl
    · rw [helapsed, Int.natAbs_zero, Nat.zero_mul]
      omega
    · rw [hsize]
      omega
  · rw [if_neg hnone, decide_eq_decide.2 hsign] at hstamp
    obtain ⟨hfinite, hlow', hhigh'⟩ := Stamped.of_ofUnits (e := e) Nat.one_pos (by omega) hstamp (by omega)
    exact ⟨hfinite, by omega, by omega⟩

/-- **What the timestamp of a moment is**, whichever way it is computed. -/
theorem stamped (he : e ≤ 53) (h : t.Within (twoTo e)) : t.Stamped e := by
  cases hfloating : t.floating with
  | true => exact stamped_of_floating hfloating he h
  | false => exact stamped_of_aware hfloating he h

/-! ## The milliseconds -/

/-- The size of a thousand timestamps, rounded, in units. -/
def product (t : Moment) : Nat :=
  nearest (t.size * (1000 * unit)) unit

theorem Stamped.size_lt (hs : t.Stamped e) (h : t.Within (twoTo e)) : 1000 * t.size < 1024 * (twoTo e * unit) := by
  have hhigh := hs.high
  have helapsed : t.elapsed.natAbs * unit ≤ 1000000 * (twoTo e * unit) := by
    rw [← Nat.mul_assoc]
    exact Nat.mul_le_mul_right unit (Nat.le_of_lt h.elapsed_lt)
  have hgrain : grain ≤ twoTo e * grain := Nat.le_mul_of_pos_left grain (twoTo_pos e)
  have hpos := grain_pos
  have hunit := mul_unit (twoTo e)
  omega

/-- The numbers next to a product with a thousand lie on a grid of `2 ^ 10` times the grid of the timestamp. -/
theorem twoTo_thousand (e : Nat) : twoTo (e + 1031) = 1024 * (twoTo e * grain) := by
  have hthousand : twoTo 10 = 1024 := rfl
  have hsplit : e + 1031 = 10 + (e + 1021) := by omega
  rw [hsplit, twoTo_add, twoTo_grain, hthousand]

theorem Stamped.product_bound (hs : t.Stamped e) (h : t.Within (twoTo e)) :
    t.size * (1000 * unit) < unit * twoTo (e + 1031 + 53) := by
  have hbound : twoTo (e + 1031 + 53) = 1024 * (twoTo e * unit) := by
    have hunits : twoTo 53 = 9007199254740992 := rfl
    rw [twoTo_add, twoTo_thousand, mul_unit, hunits]
    ring
  calc t.size * (1000 * unit) = 1000 * t.size * unit := by ring
    _ < 1024 * (twoTo e * unit) * unit := Nat.mul_lt_mul_of_pos_right (hs.size_lt h) unit_pos
    _ = unit * twoTo (e + 1031 + 53) := by rw [hbound, Nat.mul_comm]

/-- How far that product may be from the milliseconds elapsed. -/
theorem product_near (he : e ≤ 53) (h : t.Within (twoTo e)) :
    2 * (t.elapsed.natAbs * unit) ≤ 2000 * t.product + (2024000 * (twoTo e * grain) + 1000000 * grain) ∧
      2000 * t.product ≤ 2 * (t.elapsed.natAbs * unit) + (2024000 * (twoTo e * grain) + 1000000 * grain) := by
  have hs := stamped he h
  have hunit := unit_pos
  obtain ⟨hlow, hhigh⟩ := nearest_bounds hunit (hs.product_bound h)
  have hnum : 2 * (t.size * (1000 * unit)) = 2000 * t.size * unit := by ring
  have hproduct : 2 * (nearest (t.size * (1000 * unit)) unit * unit) = 2 * t.product * unit := by
    unfold product
    ring
  rw [hnum, hproduct, Nat.mul_comm unit, ← Nat.add_mul] at hlow hhigh
  have hbelow := Nat.le_of_mul_le_mul_right hlow hunit
  have habove := Nat.le_of_mul_le_mul_right hhigh hunit
  rw [twoTo_thousand] at hbelow habove
  have hfirst := hs.low
  have hsecond := hs.high
  omega

/-- **The milliseconds of a moment** are the whole part of that product, with the sign of the moment. -/
theorem millis_eq (he : e ≤ 53) (h : t.Within (twoTo e)) (hplaced : t.isPlaceable = true) :
    t.millis = some (if t.elapsed < 0 then -((t.product / unit : Nat) : Int) else (t.product / unit : Nat)) := by
  have hs := stamped he h
  obtain ⟨m, p, hfinite⟩ := hs.finite
  obtain ⟨n, q, hthousand, hn⟩ := ofNat_finite (n := 1000) (by decide)
  have hthousand : ofInt (1000 : Int) = .finite false n q := hthousand
  have hsize : m * twoTo p = t.size := by
    unfold size
    rw [hfinite, natAbs_units]
  have hnum : m * n * twoTo (p + q) = t.size * (1000 * unit) := by
    rw [twoTo_add, Nat.mul_mul_mul_comm, hsize, hn]
  have hbound : t.size * (1000 * unit) < unit * twoTo (2044 + 53) :=
    Nat.lt_of_lt_of_le (hs.product_bound h) (Nat.mul_le_mul_left unit (twoTo_mono (by omega)))
  obtain ⟨m', p', hproduct, hunits⟩ := ofUnits_finite (decide (t.elapsed < 0)) hbound
  have hmul : mul t.timestamp (ofInt 1000) = .finite (t.elapsed < 0) m' p' := by
    rw [hfinite, hthousand, mul, hnum, ← hproduct, Bool.bne_false]
  have hmagnitude : m' * twoTo p' = t.product := hunits
  unfold millis
  rw [if_pos hplaced, Number.millis?, hmul]
  dsimp only
  rw [Except.toOption, units, hmagnitude]
  by_cases hneg : t.elapsed < 0
  · rw [if_pos hneg, if_pos (decide_eq_true hneg), Int.neg_tdiv, Int.ofNat_tdiv]
  · rw [if_neg hneg, if_neg (by simpa using hneg), Int.ofNat_tdiv]

/-! ## Whole milliseconds -/

/-- Whole milliseconds between the moment and the start of 1970. -/
def wholeMillis (t : Moment) : Nat :=
  t.elapsed.natAbs / 1000

/-- For the next two hundred years the product is less than a microsecond off. -/
theorem product_close (h : t.Within (twoTo 33)) :
    t.elapsed.natAbs * unit < 1000 * t.product + unit ∧ 1000 * t.product < t.elapsed.natAbs * unit + unit := by
  obtain ⟨hlow, hhigh⟩ := product_near (by decide) h
  have hseconds : twoTo 33 = 8589934592 := rfl
  have hgrain := grain_pos
  have hunit := unit_eq_grains
  rw [hseconds] at hlow hhigh
  omega

/-- **The milliseconds are off by one at most** for the next two hundred years, and that only where whole milliseconds
have elapsed. -/
theorem product_floor (h : t.Within (twoTo 33)) :
    t.product / unit ≤ t.wholeMillis ∧ t.wholeMillis ≤ t.product / unit + 1 ∧
      (¬1000 ∣ t.elapsed.natAbs → t.product / unit = t.wholeMillis) := by
  obtain ⟨hlow, hhigh⟩ := product_close h
  have hunit := unit_pos
  obtain ⟨n, hn⟩ : ∃ n, n = t.wholeMillis := ⟨_, rfl⟩
  obtain ⟨r, hr⟩ : ∃ r, r = t.elapsed.natAbs % 1000 := ⟨_, rfl⟩
  have hsplit : t.elapsed.natAbs = 1000 * n + r := by
    unfold wholeMillis at hn
    omega
  have hscale : t.elapsed.natAbs * unit = 1000 * (n * unit) + r * unit := by
    rw [hsplit, Nat.add_mul, Nat.mul_assoc]
  have hrest : r * unit + unit ≤ 1000 * unit := by
    rw [← Nat.succ_mul]
    exact Nat.mul_le_mul_right unit (by omega)
  have hnext : (n + 1) * unit = n * unit + unit := Nat.succ_mul n unit
  rw [← hn]
  -- the product lies between the neighbours of the whole milliseconds
  have hbelow : t.product / unit < n + 1 := (Nat.div_lt_iff_lt_mul hunit).2 (by omega)
  have hfloor : 0 < r → n ≤ t.product / unit := by
    intro hpos
    have hsome : unit ≤ r * unit := Nat.le_mul_of_pos_left unit hpos
    exact (Nat.le_div_iff_mul_le hunit).2 (by omega)
  have habove : n ≤ t.product / unit + 1 := by
    cases n with
    | zero => exact Nat.zero_le _
    | succ k =>
      have hprevious : (k + 1) * unit = k * unit + unit := Nat.succ_mul k unit
      exact Nat.succ_le_succ ((Nat.le_div_iff_mul_le hunit).2 (by omega))
  refine ⟨Nat.le_of_lt_succ hbelow, habove, ?_⟩
  intro hdvd
  have hpos : 0 < r := by omega
  have hle := hfloor hpos
  omega

/-- A moment in a stretch of time in which milliseconds are not lost: the grid next to its milliseconds is as fine as
the grid next to its seconds, relative to them. The stretch from 2004 to 2038 is the one with `e = 31`. -/
structure Steady (t : Moment) (e : Nat) : Prop where
  fine : 6 ≤ e
  within : t.Within (twoTo e)
  late : 512000 * twoTo e < t.elapsed.natAbs

/-- **Whole milliseconds come out exactly** in such a stretch. -/
theorem product_steady (hle : e ≤ 33) (h : t.Steady e) (hdvd : 1000 ∣ t.elapsed.natAbs) :
    t.product = t.wholeMillis * unit := by
  obtain ⟨hfine, hwithin, hlate⟩ := h
  obtain ⟨n, hn⟩ := hdvd
  have hwhole : t.wholeMillis = n := by
    unfold wholeMillis
    omega
  rw [hwhole]
  have hs := stamped (e := e) (by omega) hwithin
  have hfirst := hs.low
  have hsecond := hs.high
  have hunit := unit_pos
  have hgrain := grain_pos
  have hgrains := unit_eq_grains
  have hbeyond := mul_unit (twoTo e)
  -- the thousandth part of the time elapsed lies on the grid next to the product
  have hscale : t.elapsed.natAbs * unit = 1000 * (n * unit) := by rw [hn, Nat.mul_assoc]
  have hgrid : n * twoTo (43 - e) * twoTo (e + 1031) = n * unit := by
    have hshift : 43 - e + (e + 1031) = 1074 := by omega
    rw [Nat.mul_assoc, ← twoTo_add, hshift, ← unit_eq]
  have hmore : 512 * (twoTo e * unit) + unit ≤ n * unit := by
    rw [← Nat.mul_assoc, ← Nat.succ_mul]
    exact Nat.mul_le_mul_right unit (by omega)
  have hsmall : twoTo e * grain ≤ 8589934592 * grain := Nat.mul_le_mul_right grain (twoTo_mono hle)
  have hlarge : 64 * grain ≤ twoTo e * grain := Nat.mul_le_mul_right grain (twoTo_mono hfine)
  have hbinade : twoTo (e + 1031 + 52) = 512 * (twoTo e * unit) := by
    have hunits : twoTo 52 = 4503599627370496 := rfl
    rw [twoTo_add, twoTo_thousand, hunits, hbeyond]
    ring
  have hproduct : nearest (t.size * (1000 * unit)) unit = n * twoTo (43 - e) * twoTo (e + 1031) := by
    have hplace : n * twoTo (43 - e) * (unit * twoTo (e + 1031)) = n * unit * unit := by
      rw [Nat.mul_left_comm, hgrid, Nat.mul_comm]
    have hnum : t.size * (1000 * unit) = 1000 * t.size * unit := by ring
    refine nearest_eq hunit ?_ (hs.product_bound hwithin) ?_ ?_
    · rw [hbinade, hnum, Nat.mul_comm unit]
      exact Nat.mul_le_mul_right unit (by omega)
    · have hlt : 2 * (1000 * t.size) < 2 * (n * unit) + 1024 * (twoTo e * grain) := by omega
      rw [hplace, hnum, twoTo_thousand]
      calc 2 * (1000 * t.size * unit) = 2 * (1000 * t.size) * unit := by ring
        _ < (2 * (n * unit) + 1024 * (twoTo e * grain)) * unit := Nat.mul_lt_mul_of_pos_right hlt hunit
        _ = 2 * (n * unit * unit) + unit * (1024 * (twoTo e * grain)) := by ring
    · have hlt : 2 * (n * unit) < 2 * (1000 * t.size) + 1024 * (twoTo e * grain) := by omega
      rw [hplace, hnum, twoTo_thousand]
      calc 2 * (n * unit * unit) = 2 * (n * unit) * unit := by ring
        _ < (2 * (1000 * t.size) + 1024 * (twoTo e * grain)) * unit := Nat.mul_lt_mul_of_pos_right hlt hunit
        _ = 2 * (1000 * t.size * unit) + unit * (1024 * (twoTo e * grain)) := by ring
  unfold product
  rw [hproduct, hgrid]

/-- In such a stretch the milliseconds of a moment are the whole milliseconds elapsed. -/
theorem product_div_steady (hle : e ≤ 33) (h : t.Steady e) : t.product / unit = t.wholeMillis := by
  by_cases hdvd : 1000 ∣ t.elapsed.natAbs
  · rw [product_steady hle h hdvd, Nat.mul_div_cancel _ unit_pos]
  · have hwithin : t.Within (twoTo 33) :=
      ⟨h.within.micros, Nat.lt_of_lt_of_le h.within.seconds (twoTo_mono hle)⟩
    exact (product_floor hwithin).2.2 hdvd

/-! ## Moments apart -/

/-- Two moments on the same side of the start of 1970. -/
def Beside (s t : Moment) : Prop :=
  s.elapsed < 0 ↔ t.elapsed < 0

/-- Of two moments the one farther from the start of 1970. -/
def farther (s t : Moment) : Moment :=
  if s.elapsed.natAbs < t.elapsed.natAbs then t else s

/-- **Moments so far apart that their milliseconds differ.** Two milliseconds are enough in the whole calendar. On one
side of 1970, and for two hundred years from it, any more than one millisecond is enough; and one millisecond is enough
if the moment farther from 1970 lies in a stretch in which none are lost. -/
inductive Apart (s t : Moment) : Prop where
  | wide (first : s.Within (twoTo 38)) (second : t.Within (twoTo 38)) (apart : 2000 ≤ (s.elapsed - t.elapsed).natAbs)
  | clear (first : s.Within (twoTo 33)) (second : t.Within (twoTo 33)) (beside : Beside s t)
      (apart : 1000 < (s.elapsed - t.elapsed).natAbs)
  | fine {e : Nat} (first : s.Within (twoTo 33)) (second : t.Within (twoTo 33)) (beside : Beside s t)
      (apart : 1000 ≤ (s.elapsed - t.elapsed).natAbs) (hle : e ≤ 33) (steady : (farther s t).Steady e)

variable {s : Moment}

theorem Apart.within (h : Apart s t) : s.Within (twoTo 38) ∧ t.Within (twoTo 38) := by
  have hmore : ∀ {u : Moment}, u.Within (twoTo 33) → u.Within (twoTo 38) := fun h =>
    ⟨h.micros, Nat.lt_of_lt_of_le h.seconds (twoTo_mono (by decide))⟩
  cases h with
  | wide first second => exact ⟨first, second⟩
  | clear first second => exact ⟨hmore first, hmore second⟩
  | fine first second => exact ⟨hmore first, hmore second⟩

/-- Two milliseconds farther from 1970 the milliseconds are more. -/
theorem product_lt_of_wide (hs : s.Within (twoTo 38)) (ht : t.Within (twoTo 38))
    (h : s.elapsed.natAbs + 2000 ≤ t.elapsed.natAbs) : s.product / unit < t.product / unit := by
  obtain ⟨-, hhigh⟩ := product_near (by decide) hs
  obtain ⟨hlow, -⟩ := product_near (by decide) ht
  have hseconds : twoTo 38 = 274877906944 := rfl
  have hgrain := grain_pos
  have hgrains := unit_eq_grains
  have hscale : s.elapsed.natAbs * unit + 2000 * unit ≤ t.elapsed.natAbs * unit := by
    rw [← Nat.add_mul]
    exact Nat.mul_le_mul_right unit h
  rw [hseconds] at hlow hhigh
  -- the products are more than a unit apart
  have hstep : s.product + unit ≤ t.product := by omega
  calc s.product / unit < s.product / unit + 1 := Nat.lt_succ_self _
    _ = (s.product + unit) / unit := (Nat.add_div_right _ unit_pos).symm
    _ ≤ t.product / unit := Nat.div_le_div_right hstep

theorem product_lt_of_clear (hs : s.Within (twoTo 33)) (ht : t.Within (twoTo 33))
    (h : s.elapsed.natAbs + 1000 < t.elapsed.natAbs) : s.product / unit < t.product / unit := by
  obtain ⟨hbelow, -, -⟩ := product_floor hs
  obtain ⟨-, habove, hexact⟩ := product_floor ht
  unfold wholeMillis at hbelow habove hexact
  by_cases hdvd : 1000 ∣ t.elapsed.natAbs
  · omega
  · have hfloor := hexact hdvd
    omega

theorem product_lt_of_fine (hs : s.Within (twoTo 33)) (hle : e ≤ 33) (ht : t.Steady e)
    (h : s.elapsed.natAbs + 1000 ≤ t.elapsed.natAbs) : s.product / unit < t.product / unit := by
  obtain ⟨hbelow, -, -⟩ := product_floor hs
  have hfloor := product_div_steady hle ht
  unfold wholeMillis at hbelow hfloor
  omega

/-- On one side of 1970 the milliseconds differ if their sizes do. -/
theorem millis_ne_of_beside (hs : s.Within (twoTo 38)) (ht : t.Within (twoTo 38)) (hplaced : s.isPlaceable = true)
    (hplaced' : t.isPlaceable = true) (beside : Beside s t) (h : s.product / unit ≠ t.product / unit) :
    s.millis ≠ t.millis := by
  rw [millis_eq (by decide) hs hplaced, millis_eq (by decide) ht hplaced']
  unfold Beside at beside
  intro heq
  have hsame := Option.some.inj heq
  split at hsame <;> split at hsame <;> omega

/-- A moment without milliseconds is no more than one away from 1970. -/
theorem elapsed_le_of_product (h : t.Within (twoTo 38)) (hnone : t.product < unit) : t.elapsed.natAbs ≤ 1000 := by
  have hgrain := grain_pos
  have hgrains := unit_eq_grains
  obtain ⟨hlow, -⟩ := product_near (by decide) h
  have hseconds : twoTo 38 = 274877906944 := rfl
  rw [hseconds] at hlow
  have hcoarse : t.elapsed.natAbs < 1100 := by
    apply Nat.lt_of_mul_lt_mul_right (a := unit)
    omega
  -- so near to 1970 the numbers are much finer
  have hwithin : t.Within (twoTo 1) := by
    obtain ⟨hmicros, -⟩ := h
    refine ⟨hmicros, ?_⟩
    have htwo : twoTo 1 = 2 := rfl
    unfold elapsed at hcoarse
    omega
  obtain ⟨hlow', -⟩ := product_near (by decide) hwithin
  have hunits : twoTo 1 = 2 := rfl
  rw [hunits] at hlow'
  apply Nat.le_of_lt_succ
  apply Nat.lt_of_mul_lt_mul_right (a := unit)
  omega

/-- One millisecond after the start of 1970. -/
theorem millis_first (h : t.micros < 1000000) (helapsed : t.elapsed = 1000) : t.millis = some 1 := by
  obtain ⟨seconds, micros, floating⟩ := t
  obtain ⟨rfl, rfl⟩ : seconds = 0 ∧ micros = 1000 := by
    unfold elapsed at helapsed
    dsimp only at h helapsed
    omega
  cases floating with
  | true => decide +kernel
  | false => decide +kernel

/-- A moment before 1970 and one after it: what lies within a millisecond of either side is cut off to nothing. -/
theorem millis_ne_across (hs : s.Within (twoTo 38)) (ht : t.Within (twoTo 38)) (hplaced : s.isPlaceable = true)
    (hplaced' : t.isPlaceable = true) (before : s.elapsed < 0) (after : ¬t.elapsed < 0)
    (apart : 2000 ≤ t.elapsed - s.elapsed) : s.millis ≠ t.millis := by
  intro heq
  have hfirst := millis_eq (by decide) hs hplaced
  have hsecond := millis_eq (by decide) ht hplaced'
  rw [if_pos before] at hfirst
  rw [if_neg after] at hsecond
  rw [hfirst, hsecond] at heq
  have hsame := Option.some.inj heq
  have hopposite : ∀ m n : Nat, -(m : Int) = n → m = 0 ∧ n = 0 := by
    intro m n h
    omega
  obtain ⟨hnone, hnone'⟩ := hopposite _ _ hsame
  have hnear := elapsed_le_of_product hs (Nat.lt_of_div_eq_zero unit_pos hnone)
  have hnear' := elapsed_le_of_product ht (Nat.lt_of_div_eq_zero unit_pos hnone')
  have hlast : t.elapsed = 1000 := by omega
  rw [millis_first ht.micros hlast, hnone'] at hsecond
  cases hsecond

/-- **The milliseconds of moments apart differ.** -/
theorem millis_ne (h : Apart s t) (hplaced : s.isPlaceable = true) (hplaced' : t.isPlaceable = true) :
    s.millis ≠ t.millis := by
  obtain ⟨hs, ht⟩ := h.within
  by_cases beside : Beside s t
  · refine millis_ne_of_beside hs ht hplaced hplaced' beside ?_
    unfold Beside at beside
    -- the one farther from 1970 has the greater product
    rcases Nat.lt_or_ge s.elapsed.natAbs t.elapsed.natAbs with hlt | hge
    · apply Nat.ne_of_lt
      cases h with
      | wide _ _ apart => exact product_lt_of_wide hs ht (by omega)
      | clear first second _ apart => exact product_lt_of_clear first second (by omega)
      | fine first second _ apart hle steady =>
        rw [farther, if_pos hlt] at steady
        exact product_lt_of_fine first hle steady (by omega)
    · apply Nat.ne_of_gt
      cases h with
      | wide _ _ apart => exact product_lt_of_wide ht hs (by omega)
      | clear first second _ apart => exact product_lt_of_clear second first (by omega)
      | fine first second _ apart hle steady =>
        rw [farther, if_neg (Nat.not_lt.2 hge)] at steady
        exact product_lt_of_fine second hle steady (by omega)
  · have apart : 2000 ≤ (s.elapsed - t.elapsed).natAbs := by
      cases h with
      | wide _ _ apart => exact apart
      | clear _ _ same => exact absurd same beside
      | fine _ _ same => exact absurd same beside
    unfold Beside at beside
    by_cases before : s.elapsed < 0
    · exact millis_ne_across hs ht hplaced hplaced' before (by omega) (by omega)
    · exact (millis_ne_across ht hs hplaced' hplaced (by omega) before (by omega)).symm

end Moment

end Steward
