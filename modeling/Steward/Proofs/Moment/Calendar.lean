import Mathlib.Data.List.TakeWhile
import Steward.Platform.Payload
import Steward.Reading.Moment
import Steward.Proofs.Decimal.Numerals
import Steward.Proofs.Moment.Millis

/-!
# The moments that are read

Whatever a moment is read from, it lies in the calendar: its year has four digits, give or take an offset of less than a
day, and its microseconds are fewer than a second has. So it is less than `2 ^ 38` seconds away from 1970.

## Contents

* `Moment.InCalendar` — moments that lie in the calendar;
* `dateOf_le`, `timeOf_lt`, `offsetOf_lt` — the parts of a written moment;
* `inCalendar_of_dateAndTime`, `inCalendar_of_momentOfSeconds`, `inCalendar_of_momentOfNumeral` — the notations;
* `inCalendar_of_moment`, `AppRecord.inCalendar_of_read` — all moments, and the times of application records.
-/

namespace Steward

open Binary64 Decimal MomentText

/-- The moment lies in the calendar. -/
abbrev Moment.InCalendar (t : Moment) : Prop :=
  t.Within (twoTo 38)

theorem Moment.inCalendar {t : Moment} (hmicros : t.micros < 1000000) (hseconds : t.seconds.natAbs < 274877906944) :
    t.InCalendar :=
  ⟨hmicros, hseconds⟩

/-! ## Parts of a written moment -/

namespace MomentText

theorem digits_lt {count n : Nat} {cs rest : List Char} (h : digits count cs = some (n, rest)) : n < tenTo count := by
  induction count generalizing cs n rest with
  | zero =>
    cases h
    decide
  | succ count ih =>
    cases cs with
    | nil => cases h
    | cons c cs =>
      unfold digits at h
      split at h
      case isTrue hdigit =>
        obtain ⟨⟨m, after⟩, hrest, heq⟩ := Option.map_eq_some_iff.1 h
        cases heq
        have hm := ih hrest
        have hc := digitValue_lt hdigit
        have hpower : tenTo (count + 1) = 10 * tenTo count := Nat.pow_succ'
        have hscale : digitValue c * tenTo count ≤ 9 * tenTo count := Nat.mul_le_mul_right _ (Nat.le_of_lt_succ hc)
        omega
      case isFalse => cases h

theorem daysBeforeYear_le {year : Nat} (h : year < 10000) : Calendar.daysBeforeYear year ≤ 3652424 := by
  cases year with
  | zero => decide
  | succ y =>
    show 366 + 365 * y + (y / 4 + y / 400 - y / 100) ≤ 3652424
    omega

theorem daysInMonth_le (year month : Nat) : Calendar.daysInMonth year month ≤ 31 := by
  have hshort : (if Calendar.isLeap year then 29 else 28) ≤ 31 := by
    split <;> decide
  unfold Calendar.daysInMonth
  split <;> first | exact hshort | decide

theorem daysBeforeMonth_le (year month : Nat) : Calendar.daysBeforeMonth year month ≤ 31 * month := by
  induction month with
  | zero => exact Nat.le_refl 0
  | succ month ih =>
    have hlength := daysInMonth_le year month
    unfold Calendar.daysBeforeMonth
    omega

/-- **Dates** are less than three million days away from 1970. -/
theorem dateOf_le {cs rest : List Char} {days : Int} {yearZero : Bool} (h : dateOf cs = some ((days, yearZero), rest)) :
    days.natAbs ≤ 2936063 := by
  unfold dateOf at h
  simp only [Option.bind_eq_bind, Option.bind_eq_some_iff, Prod.exists] at h
  obtain ⟨year, cs₁, hyear, cs₂, -, month, cs₃, hmonth, cs₄, -, day, cs₅, hday, h⟩ := h
  have hyears := daysBeforeYear_le (digits_lt hyear)
  have hmonths := daysBeforeMonth_le year month
  have hmonth' : month < 100 := digits_lt hmonth
  split at h
  case isTrue => cases h
  case isFalse hvalid =>
    have hdays := daysInMonth_le year month
    cases h
    have hepoch : Calendar.daysBeforeYear 1970 = 719528 := by decide
    unfold Calendar.daysSinceEpoch
    rw [hepoch]
    omega

theorem microsOf_lt {ds : List Char} (h : ∀ d ∈ ds, isDigit d = true) : microsOf ds < 1000000 := by
  have hkept : value (ds.take 6) < tenTo (ds.take 6).length := value_lt fun d hd => h d (List.mem_of_mem_take hd)
  have hlength : (ds.take 6).length ≤ 6 := List.length_take_le 6 ds
  have hsplit : tenTo (ds.take 6).length * tenTo (6 - (ds.take 6).length) = 1000000 := by
    have hsum := Nat.pow_add 10 (ds.take 6).length (6 - (ds.take 6).length)
    rw [Nat.add_sub_cancel' hlength] at hsum
    exact hsum.symm
  unfold microsOf
  rw [← hsplit]
  exact Nat.mul_lt_mul_of_pos_right hkept (Nat.pow_pos (by decide))

/-- **Times of day** lie in one day. -/
theorem timeOf_lt {cs rest : List Char} {seconds micros : Nat} (h : timeOf cs = some ((seconds, micros), rest)) :
    seconds < 86400 ∧ micros < 1000000 := by
  unfold timeOf at h
  simp only [Option.bind_eq_bind, Option.bind_eq_some_iff, Prod.exists] at h
  obtain ⟨hour, cs₁, -, cs₂, -, minute, cs₃, -, h⟩ := h
  split at h
  case isTrue => cases h
  case isFalse hvalid =>
    cases cs₃ with
    | nil =>
      cases h
      omega
    | cons c cs =>
      by_cases hc : c = ':'
      · subst hc
        simp only [Option.bind_eq_some_iff, Prod.exists] at h
        obtain ⟨second, cs₄, -, h⟩ := h
        split at h
        case isTrue => cases h
        case isFalse hsecond =>
          cases cs₄ with
          | nil =>
            cases h
            omega
          | cons c cs =>
            by_cases hpoint : c = '.' ∨ c = ','
            · simp only [if_pos hpoint] at h
              have hdigits : ∀ d ∈ cs.takeWhile isDigit, isDigit d = true := fun d hd => List.mem_takeWhile_imp hd
              have hmicros := microsOf_lt hdigits
              split at h
              · cases h
              · cases h
                omega
            · simp only [if_neg hpoint] at h
              cases h
              omega
      · have hshort : some ((hour * 3600 + minute * 60, 0), c :: cs) = some ((seconds, micros), rest) := by
          simpa [hc] using h
        cases hshort
        omega

theorem hoursAndMinutes_lt {cs : List Char} {seconds : Nat} (h : hoursAndMinutes cs = some seconds) :
    seconds < 86400 := by
  unfold hoursAndMinutes at h
  simp only [Option.bind_eq_bind, Option.bind_eq_some_iff, Prod.exists] at h
  obtain ⟨hours, cs₁, -, minutes, cs₂, -, h⟩ := h
  split at h
  case isTrue => cases h
  case isFalse hvalid =>
    cases h
    omega

/-- **Offsets** are less than a day. -/
theorem offsetOf_lt {cs : List Char} {offset : Option Int} (h : offsetOf cs = some offset) :
    (offset.getD 0).natAbs < 86400 := by
  cases cs with
  | nil =>
    cases h
    decide
  | cons c rest =>
    unfold offsetOf at h
    dsimp only at h
    cases hsize : hoursAndMinutes rest with
    | none =>
      rw [hsize] at h
      simp only [Option.bind_eq_bind, Option.bind_none, Option.map_none] at h
      have hzero : offset = some 0 := by grind
      rw [hzero]
      decide
    | some n =>
      rw [hsize] at h
      simp only [Option.bind_eq_bind, Option.bind_some, Option.pure_def, Option.map_some] at h
      have hday := hoursAndMinutes_lt hsize
      -- universal time, so many seconds east of it, or west
      have hoffset : offset = some 0 ∨ offset = some (n : Int) ∨ offset = some (-n : Int) := by grind
      rcases hoffset with rfl | rfl | rfl
      · decide
      · exact hday
      · exact (Int.natAbs_neg n).trans_lt hday

end MomentText

/-! ## Notations -/

variable {t : Moment} {yearZero : Bool}

theorem inCalendar_of_dateAndTime {cs : List Char} (h : dateAndTime cs = some (t, yearZero)) : t.InCalendar := by
  unfold dateAndTime at h
  simp only [Option.bind_eq_bind, Option.bind_eq_some_iff, Prod.exists] at h
  obtain ⟨days, _, cs₁, hdate, h⟩ := h
  have hdays := dateOf_le hdate
  cases cs₁ with
  | nil => cases h
  | cons c cs =>
    dsimp only at h
    split at h
    case isTrue =>
      simp only [Option.bind_eq_some_iff, Prod.exists] at h
      obtain ⟨seconds, micros, cs₂, htime, offset, hoffset, h⟩ := h
      obtain ⟨hseconds, hmicros⟩ := timeOf_lt htime
      have hsmall := offsetOf_lt hoffset
      cases h
      refine Moment.inCalendar hmicros ?_
      dsimp only
      omega
    case isFalse => cases h

theorem inCalendar_of_momentOfSeconds {n : Int} {micros : Nat} (h : momentOfSeconds n micros = some (t, yearZero)) :
    t.InCalendar := by
  -- whichever unit the number counts, the seconds it comes to are looked at
  have hchecked : ∀ seconds : Int, ∀ total : Nat,
      (if seconds < firstYearZero ∨ lastSecond < seconds then none
        else some ((⟨seconds, total % 1000000, false⟩ : Moment), decide (seconds < Moment.firstSecond)))
        = some (t, yearZero) → t.InCalendar := by
    intro seconds total h
    split at h
    case isTrue => cases h
    case isFalse hvalid =>
      unfold firstYearZero lastSecond at hvalid
      cases h
      refine Moment.inCalendar (Nat.mod_lt _ (by decide)) ?_
      dsimp only
      omega
  unfold momentOfSeconds at h
  split at h
  exact hchecked _ _ h

theorem inCalendar_of_momentOfReal {x : Binary64} (h : momentOfReal x = some (t, yearZero)) : t.InCalendar := by
  unfold momentOfReal at h
  split at h
  · exact inCalendar_of_momentOfSeconds h
  · cases h

theorem inCalendar_of_momentOfNumeral {cs : List Char} (h : momentOfNumeral cs = some (t, yearZero)) :
    t.InCalendar := by
  unfold momentOfNumeral at h
  dsimp only at h
  split at h
  · cases h
  · split at h
    · exact inCalendar_of_momentOfSeconds h
    · simp only [Option.bind_eq_bind, Option.bind_eq_some_iff] at h
      obtain ⟨_, -, _, -, h⟩ := h
      exact inCalendar_of_momentOfSeconds h
    · cases h

/-- A moment that is placed was read. -/
theorem placed_eq_accepted {read : Moment × Bool} (h : placed read = .accepted t) : read = (t, false) := by
  obtain ⟨t', yearZero⟩ := read
  cases yearZero with
  | true => cases h
  | false =>
    cases h
    rfl

/-- A number of seconds that was read, or a refusal. -/
theorem inCalendar_of_read {read : Option (Moment × Bool)} {c : Complaint}
    (h : (match read with
      | some t => placed t
      | none => .complain c) = Reading.accepted t)
    (hread : ∀ t yearZero, read = some (t, yearZero) → t.InCalendar) : t.InCalendar := by
  cases read with
  | none => cases h
  | some found =>
    obtain rfl := placed_eq_accepted h
    exact hread t false rfl

theorem inCalendar_of_momentOfText {s : String} (h : momentOfText s = .accepted t) : t.InCalendar := by
  unfold momentOfText at h
  dsimp only at h
  split at h
  · rename_i read hread
    obtain rfl := placed_eq_accepted h
    rcases (Option.orElse_eq_some _ _ _).1 hread with hdate | ⟨-, hnumeral⟩
    · exact inCalendar_of_dateAndTime hdate
    · exact inCalendar_of_momentOfNumeral hnumeral
  · split at h
    · rename_i days yearZero hdate
      have hdays := dateOf_le hdate
      have hmidnight : (0 : Nat) < 1000000 := by decide
      cases placed_eq_accepted h
      refine Moment.inCalendar hmidnight ?_
      dsimp only
      omega
    · cases h

/-- **Every moment that is read lies in the calendar.** -/
theorem inCalendar_of_moment {v : Value} (h : moment v = .accepted t) : t.InCalendar := by
  delta moment at h
  -- what the double of an integer is does not matter, and is not to be computed
  obtain ⟨toDouble, hdouble⟩ : ∃ toDouble, toDouble = Binary64.ofInt := ⟨_, rfl⟩
  rw [← hdouble] at h
  cases v with
  | text s => exact inCalendar_of_momentOfText h
  | int n =>
    dsimp only at h
    generalize toDouble n = x at h
    have hread : ∀ t yearZero,
        (if -longestCount ≤ n ∧ n ≤ longestCount then momentOfSeconds n 0 else momentOfReal x) = some (t, yearZero) →
        t.InCalendar := by
      intro t yearZero hread
      split at hread
      · exact inCalendar_of_momentOfSeconds hread
      · exact inCalendar_of_momentOfReal hread
    cases x with
    | infinite _ => cases h
    | finite negative m p =>
      dsimp only at h
      exact inCalendar_of_read h hread
    | undefined =>
      dsimp only at h
      exact inCalendar_of_read h hread
  | real x =>
    dsimp only at h
    exact inCalendar_of_read h fun _ _ hread => inCalendar_of_momentOfReal hread
  | _ => cases h

/-! ## Records -/

namespace Reading

variable {α β : Type}

theorem seq_eq_accepted {f : Reading (α → β)} {x : Reading α} {b : β} (h : f <*> x = .accepted b) :
    ∃ g a, f = .accepted g ∧ x = .accepted a ∧ g a = b := by
  have hboth : f.both (fun _ => x) = .accepted b := h
  unfold both at hboth
  split at hboth
  · cases hboth
    exact ⟨_, _, rfl, ‹_›, rfl⟩
  all_goals cases hboth

theorem required_eq_accepted {es : List (String × Value)} {name : String} {r : Reader α} {a : α}
    (h : required es name r = .accepted a) : ∃ v, r v = .accepted a := by
  unfold required at h
  split at h
  · rename_i v _
    cases hread : r v with
    | accepted b =>
      rw [hread] at h
      cases h
      exact ⟨v, hread⟩
    | refused problems =>
      rw [hread] at h
      cases h
  · cases h

end Reading

/-- **Records that are read** have their times in the calendar. -/
theorem AppRecord.inCalendar_of_read {v : Value} {a : AppRecord} (h : AppRecord.schema.read v = .accepted a) :
    a.createdAt.InCalendar ∧ a.updatedAt.InCalendar := by
  cases v with
  | map es =>
    obtain ⟨_, links, hlinks, -, rfl⟩ := Reading.seq_eq_accepted h
    obtain ⟨_, updatedAt, htimes, hupdated, rfl⟩ := Reading.seq_eq_accepted hlinks
    obtain ⟨_, createdAt, hstate, hcreated, rfl⟩ := Reading.seq_eq_accepted htimes
    obtain ⟨_, state, hname, -, rfl⟩ := Reading.seq_eq_accepted hstate
    obtain ⟨_, name, hguid, -, rfl⟩ := Reading.seq_eq_accepted hname
    cases hfirst : required es "guid" text with
    | refused problems =>
      rw [hfirst] at hguid
      cases hguid
    | accepted guid =>
      rw [hfirst] at hguid
      cases hguid
      obtain ⟨_, hcreated⟩ := Reading.required_eq_accepted hcreated
      obtain ⟨_, hupdated⟩ := Reading.required_eq_accepted hupdated
      exact ⟨inCalendar_of_moment hcreated, inCalendar_of_moment hupdated⟩
  | _ => cases h

end Steward
