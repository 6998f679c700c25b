import Steward.Proofs.Cache.Traffic
import Steward.Rehearsal.Loads
import Mathlib.Algebra.Order.Group.Int
import Mathlib.Algebra.Order.Group.Unbundled.Basic
import Mathlib.Data.List.Chain

/-!
# Lifetimes of entries

A cache drops an expired entry only when somebody looks for it, and keeps two times with every entry. What it shows is
told here without entries: by what has happened to a key. A value lives under a key as long as it was written last, has
not been dropped since, was written recently enough, and no two touches of it, the present moment included, are too far
apart. `Mirrors` relates the two: the entry of a key keeps the last of the touches, and where there is none, or an
expired one, nothing can live any more. So every deed finds exactly what lives.

## Contents

* `Clock` — what is asked of the readings of a clock;
* `Deed`, `Finding`, `Flight.perform` — what a single caller does with a cache;
* `Incident`, `Standing`, `Lives` — what has happened to a key, and what lives under it;
* `Mirrors`, `Mirrors.lives_iff` — what lives is what the cache shows; `Mirrors.find`, `Mirrors.put`,
  `Mirrors.invalidate`, `Mirrors.clear`;
* `Answers`, `Tenure`, `Tenure.lifetimes` — what deeds find;
* `CacheRehearsal.step_flight` — deeds are what is rehearsed.
-/

namespace Steward

/-! ## Clocks -/

/-- The readings of a clock are in order, and the time since a moment grows with them. -/
class Clock (τ : Type) [Sub τ] [LE τ] [LT τ] : Prop where
  le_refl : ∀ a : τ, a ≤ a
  le_trans : ∀ {a b c : τ}, a ≤ b → b ≤ c → a ≤ c
  lt_iff_not_le : ∀ {a b : τ}, a < b ↔ ¬ b ≤ a
  sub_le_sub : ∀ {a b : τ} (since : τ), a ≤ b → a - since ≤ b - since

/-- Whole numbers of ticks are such readings, and so are fractions of a second. -/
instance {τ : Type} [AddCommGroup τ] [LinearOrder τ] [IsOrderedAddMonoid τ] : Clock τ where
  le_refl _ := le_rfl
  le_trans h h' := h.trans h'
  lt_iff_not_le := not_le.symm
  sub_le_sub since h := sub_le_sub_right h since

/-! ## Keys of keyed lists -/

namespace Keyed

variable {κ α : Type} [DecidableEq κ] {entries : List (κ × α)}

theorem nodup_erase (h : (entries.map (·.1)).Nodup) (key : κ) : ((erase entries key).map (·.1)).Nodup :=
  h.sublist (List.filter_sublist.map _)

/-- Where no key comes twice, what stands under a key is what is found under it. -/
theorem mem_iff_lookup (h : (entries.map (·.1)).Nodup) (key : κ) (a : α) :
    (key, a) ∈ entries ↔ entries.lookup key = some a := by
  induction entries with
  | nil => simp
  | cons e rest ih =>
    obtain ⟨k, b⟩ := e
    obtain ⟨hk, hrest⟩ := List.nodup_cons.1 h
    by_cases hkey : key = k
    · subst hkey
      rw [List.lookup_cons_self, List.mem_cons]
      constructor
      · rintro (hhead | hmem)
        · cases hhead
          rfl
        · exact absurd (List.mem_map_of_mem hmem) hk
      · intro hb
        cases hb
        exact Or.inl rfl
    · rw [lookup_cons_of_ne hkey, List.mem_cons, ih hrest]
      constructor
      · rintro (hhead | hmem)
        · cases hhead
          exact absurd rfl hkey
        · exact hmem
      · exact Or.inr

end Keyed

/-! ## Deeds -/

/-- What a caller does with a cache. What is loaded is the outcome of the loader, if it runs. -/
inductive Deed (α ε : Type) where
  | put (key : String) (a : α)
  | find (key : String)
  | get (key : String) (outcome : Except ε α)
  | invalidate (key : String)
  | clear
  | keys
  | values
  | size

/-- Whether a deed only views. -/
def Deed.isView {α ε : Type} : Deed α ε → Bool
  | keys | values | size => true
  | _ => false

/-- What a caller is told. Of an outcome it is known whether the loader ran for it. -/
inductive Finding (α ε : Type) where
  | nothing
  | found (a : Option α)
  | got (outcome : Except ε α) (ran : Bool)
  | waits (load : Nat)
  | keys (ks : List String)
  | values (as : List α)
  | size (n : Nat)

section

variable {τ α ε : Type} [Sub τ] [LE τ] [DecidableLE τ] {f : Flight τ α ε} {key : String} {a : α} {began : τ}

/-- A caller asks for a key and runs the loader if it has to. The first reading of the clock is taken when it asks,
the second when the load is committed. -/
def Flight.visit (f : Flight τ α ε) (key : String) (outcome : Except ε α) (began ended : τ) :
    Finding α ε × Flight τ α ε :=
  match f.enter key began with
  | (.hit a, f) => (.got (.ok a) false, f)
  | (.joined load, f) => (.waits load, f)
  | (.leading load, f) => (.got outcome true, (f.leave key outcome ended).land load outcome)

/-- A caller does one thing, with nobody else about. -/
def Flight.perform (f : Flight τ α ε) (began ended : τ) : Deed α ε → Finding α ε × Flight τ α ε
  | .put key a => (.nothing, { f with cache := f.cache.put key a began })
  | .find key => (.found (f.cache.find? key began).1, { f with cache := (f.cache.find? key began).2 })
  | .get key outcome => f.visit key outcome began ended
  | .invalidate key => (.nothing, { f with cache := f.cache.invalidate key })
  | .clear => (.nothing, { f with cache := f.cache.clear })
  | .keys => (.keys (f.cache.keys began), f)
  | .values => (.values (f.cache.values began), f)
  | .size => (.size (f.cache.size began), f)

/-- A caller that finds a value runs no loader. -/
theorem Flight.visit_hit (outcome : Except ε α) (ended : τ) (h : f.cache.peek? key began = some a) :
    f.visit key outcome began ended = (.got (.ok a) false, { f with cache := (f.cache.find? key began).2 }) := by
  unfold visit
  rw [enter_hit h]

/-- A caller that finds none, and no load either, runs its loader and commits what it loads. -/
theorem Flight.visit_miss (outcome : Except ε α) (ended : τ) (quiet : f.loading = [])
    (h : f.cache.peek? key began = none) :
    (f.visit key outcome began ended).1 = .got outcome true ∧ (f.visit key outcome began ended).2.loading = [] ∧
      (f.visit key outcome began ended).2.cache = match outcome with
        | .ok a => (f.cache.find? key began).2.put key a ended
        | .error _ => (f.cache.find? key began).2 := by
  have hload : f.loading.lookup key = none := by
    rw [quiet]
    rfl
  unfold visit
  rw [enter_leading h hload]
  refine ⟨rfl, ?_, rfl⟩
  show Keyed.erase ((key, f.begun) :: f.loading) key = []
  rw [quiet]
  simp [Keyed.erase]

end

/-! ## What has happened -/

/-- What happens to the keys of a cache. -/
inductive Incident (τ α : Type) where
  | wrote (key : String) (a : α) (time : τ)
  | read (key : String) (time : τ)
  | dropped (key : String)
  | cleared

namespace Incident

variable {τ α : Type}

/-- Whether a value is written under a key. -/
def Writes (key : String) : Incident τ α → Prop
  | wrote k _ _ => k = key
  | _ => False

/-- Whether what stood under a key is over. -/
def Ends (key : String) : Incident τ α → Prop
  | wrote k _ _ | dropped k => k = key
  | read _ _ => False
  | cleared => True

/-- When a key was read, if it was. -/
def readOf? (key : String) : Incident τ α → Option τ
  | read k t => if k = key then some t else none
  | _ => none

end Incident

/-- What happens by a deed that finds something. Only a hit is a reading, and only a load that succeeds is written. -/
def Deed.incident? {τ α ε : Type} (began ended : τ) : Deed α ε → Finding α ε → Option (Incident τ α)
  | put key a, _ => some (.wrote key a began)
  | find key, .found (some _) => some (.read key began)
  | get key _, .got _ false => some (.read key began)
  | get key _, .got (.ok a) true => some (.wrote key a ended)
  | invalidate key, _ => some (.dropped key)
  | clear, _ => some .cleared
  | _, _ => none

section

variable {τ α : Type}

/-- The value was written under the key last, and not dropped since: when it was written, and when it was read. -/
def Standing (past : List (Incident τ α)) (key : String) (a : α) (written : τ) (reads : List τ) : Prop :=
  ∃ before since, past = before ++ .wrote key a written :: since ∧ (∀ i ∈ since, ¬ i.Ends key) ∧
    reads = since.filterMap (Incident.readOf? key)

/-- The time since a moment is within an expiry. An expiry that is not given, or negative, never takes effect. -/
def Within [Sub τ] [LE τ] [LT τ] [OfNat τ 0] (expiry : Option τ) (since now : τ) : Prop :=
  ∀ allowed, expiry = some allowed → 0 ≤ allowed → now - since < allowed

/-- **The value lives under the key.** It stands there, was written recently enough, and no two touches in a row, nor the
last one and now, are too far apart. -/
def Lives [Sub τ] [LE τ] [LT τ] [OfNat τ 0] (readExpiry writeExpiry : Option τ) (past : List (Incident τ α))
    (key : String) (a : α) (now : τ) : Prop :=
  ∃ written reads, Standing past key a written reads ∧ Within writeExpiry written now ∧
    (written :: reads ++ [now]).IsChain (Within readExpiry)

/-- What one more incident does to what stands under a key. -/
theorem standing_concat {past : List (Incident τ α)} {i : Incident τ α} {key : String} {a : α} {written : τ}
    {reads : List τ} :
    Standing (past ++ [i]) key a written reads ↔
      (i = .wrote key a written ∧ reads = []) ∨
        (¬ i.Ends key ∧ ∃ earlier, Standing past key a written earlier ∧ reads = earlier ++ (i.readOf? key).toList) := by
  constructor
  · rintro ⟨before, since, hpast, hsince, rfl⟩
    rcases List.eq_nil_or_concat since with rfl | ⟨since, j, rfl⟩
    · obtain ⟨-, hi⟩ := List.append_inj' hpast rfl
      cases hi
      exact Or.inl ⟨rfl, rfl⟩
    · rw [List.concat_eq_append] at hpast hsince ⊢
      rw [← List.cons_append, ← List.append_assoc] at hpast
      obtain ⟨rfl, hi⟩ := List.append_inj' hpast rfl
      cases hi
      obtain ⟨hsince, hi⟩ := List.forall_mem_append.1 hsince
      refine Or.inr ⟨hi i (List.mem_singleton_self i), _, ⟨before, since, rfl, hsince, rfl⟩, ?_⟩
      rw [List.filterMap_append]
      cases hread : i.readOf? key <;> simp [hread]
  · rintro (⟨rfl, rfl⟩ | ⟨hi, earlier, ⟨before, since, rfl, hsince, rfl⟩, rfl⟩)
    · exact ⟨past, [], rfl, List.forall_mem_nil _, rfl⟩
    · refine ⟨before, since ++ [i], by simp, List.forall_mem_append.2 ⟨hsince, List.forall_mem_singleton.2 hi⟩, ?_⟩
      rw [List.filterMap_append]
      cases hread : i.readOf? key <;> simp [hread]

/-- Nothing stands under a key after it was dropped. -/
theorem not_standing_of_ends {past : List (Incident τ α)} {i : Incident τ α} {key : String} (hends : i.Ends key)
    (hwrites : ¬ i.Writes key) {a : α} {written : τ} {reads : List τ} :
    ¬ Standing (past ++ [i]) key a written reads := by
  rw [standing_concat]
  rintro (⟨rfl, -⟩ | ⟨hi, -⟩)
  · exact hwrites rfl
  · exact hi hends

/-- What happens to other keys does not matter. -/
theorem standing_frame {past : List (Incident τ α)} {i : Incident τ α} {key : String} (hends : ¬ i.Ends key)
    (hread : i.readOf? key = none) {a : α} {written : τ} {reads : List τ} :
    Standing (past ++ [i]) key a written reads ↔ Standing past key a written reads := by
  rw [standing_concat, hread]
  constructor
  · rintro (⟨rfl, -⟩ | ⟨-, earlier, hstanding, rfl⟩)
    · exact absurd rfl hends
    · rw [Option.toList_none, List.append_nil]
      exact hstanding
  · intro hstanding
    exact Or.inr ⟨hends, reads, hstanding, (List.append_nil reads).symm⟩

end

/-! ## What a cache keeps -/

section

variable {τ α : Type} [Sub τ] [LE τ] [LT τ] [OfNat τ 0] {readExpiry writeExpiry : Option τ}
  {past : List (Incident τ α)} {last now next : τ} {c : Cache τ α} {key : String} {a : α} {e : Entry τ α}

theorem Within.of_le [Clock τ] {expiry : Option τ} {since : τ} (h : Within expiry since next) (hle : now ≤ next) :
    Within expiry since now := by
  intro allowed hgiven hpos
  rw [Clock.lt_iff_not_le]
  intro hpast
  have hnext : allowed ≤ next - since := Clock.le_trans hpast (Clock.sub_le_sub since hle)
  exact Clock.lt_iff_not_le.1 (h allowed hgiven hpos) hnext

/-- **The entry of a key tells** what stands under the key: the value, when it was written, and the last of the touches,
of which no two in a row are too far apart. Where there is no entry, nothing lives from now on. -/
def Reflects (readExpiry writeExpiry : Option τ) (past : List (Incident τ α)) (last : τ) (key : String) :
    Option (Entry τ α) → Prop
  | some e => ∃ reads,
      (∀ a written rs, Standing past key a written rs ↔ a = e.value ∧ written = e.writtenAt ∧ rs = reads) ∧
        (e.writtenAt :: reads).IsChain (Within readExpiry) ∧ (e.writtenAt :: reads).getLast? = some e.readAt
  | none => ∀ a now, last ≤ now → ¬ Lives readExpiry writeExpiry past key a now

/-- A chain goes on from its last element. -/
theorem isChain_concat_of_getLast? {β : Type} {R : β → β → Prop} {xs : List β} {x y : β} (hlast : xs.getLast? = some x) :
    (xs ++ [y]).IsChain R ↔ xs.IsChain R ∧ R x y := by
  rw [List.isChain_append]
  constructor
  · rintro ⟨hchain, -, h⟩
    exact ⟨hchain, h x hlast y rfl⟩
  · rintro ⟨hchain, h⟩
    refine ⟨hchain, List.isChain_singleton y, ?_⟩
    intro x' hx' y' hy'
    cases hlast.symm.trans hx'
    cases hy'
    exact h

/-- An entry that is told of lives unless it is expired. -/
theorem Reflects.lives_iff (h : Reflects readExpiry writeExpiry past last key (some e)) :
    Lives readExpiry writeExpiry past key a now ↔
      a = e.value ∧ Within writeExpiry e.writtenAt now ∧ Within readExpiry e.readAt now := by
  obtain ⟨reads, hstanding, hchain, hlast⟩ := h
  have hend : (e.writtenAt :: reads ++ [now]).IsChain (Within readExpiry) ↔ Within readExpiry e.readAt now :=
    (isChain_concat_of_getLast? hlast).trans (and_iff_right hchain)
  constructor
  · rintro ⟨written, rs, hs, hwritten, hreads⟩
    obtain ⟨rfl, rfl, rfl⟩ := (hstanding a written rs).1 hs
    exact ⟨rfl, hwritten, hend.1 hreads⟩
  · rintro ⟨rfl, hwritten, hread⟩
    exact ⟨e.writtenAt, reads, (hstanding _ _ _).2 ⟨rfl, rfl, rfl⟩, hwritten, hend.2 hread⟩

/-- What is told stays told when time goes on. -/
theorem Reflects.later [Clock τ] {o : Option (Entry τ α)} (h : Reflects readExpiry writeExpiry past last key o)
    (hle : last ≤ next) : Reflects readExpiry writeExpiry past next key o := by
  cases o with
  | some e => exact h
  | none => exact fun a now hnow => h a now (Clock.le_trans hle hnow)

/-- What is told of a key does not depend on what happens to other keys. -/
theorem Reflects.frame {i : Incident τ α} {o : Option (Entry τ α)} (h : Reflects readExpiry writeExpiry past last key o)
    (hends : ¬ i.Ends key) (hread : i.readOf? key = none) : Reflects readExpiry writeExpiry (past ++ [i]) last key o := by
  unfold Reflects Lives at h ⊢
  simp only [standing_frame hends hread]
  exact h

/-- After what stood under a key was dropped there is nothing to tell of. -/
theorem Reflects.ended {i : Incident τ α} (hends : i.Ends key) (hwrites : ¬ i.Writes key) :
    Reflects readExpiry writeExpiry (past ++ [i]) last key none := by
  rintro a now - ⟨written, reads, hstanding, -⟩
  exact not_standing_of_ends hends hwrites hstanding

/-- A write is all that there is to tell of. -/
theorem Reflects.wrote (key : String) (a : α) (now : τ) :
    Reflects readExpiry writeExpiry (past ++ [.wrote key a now]) now key (some ⟨a, now, now⟩) := by
  refine ⟨[], ?_, List.isChain_singleton now, rfl⟩
  intro b written rs
  rw [standing_concat]
  constructor
  · rintro (⟨hi, rfl⟩ | ⟨hi, -⟩)
    · cases hi
      exact ⟨rfl, rfl, rfl⟩
    · exact absurd rfl hi
  · rintro ⟨rfl, rfl, rfl⟩
    exact Or.inl ⟨rfl, rfl⟩

/-- A reading is one more touch, not too long after the last one. -/
theorem Reflects.read (h : Reflects readExpiry writeExpiry past last key (some e)) (hread : Within readExpiry e.readAt now) :
    Reflects readExpiry writeExpiry (past ++ [.read key now]) now key (some { e with readAt := now }) := by
  obtain ⟨reads, hstanding, hchain, hlast⟩ := h
  have hnew : (Incident.read key now : Incident τ α).readOf? key = some now := if_pos rfl
  have hend : (e.writtenAt :: reads ++ [now]).getLast? = some now := List.getLast?_concat
  refine ⟨reads ++ [now], ?_, (isChain_concat_of_getLast? hlast).2 ⟨hchain, hread⟩, hend⟩
  intro b written rs
  rw [standing_concat, hnew]
  constructor
  · rintro (⟨hi, -⟩ | ⟨-, earlier, hs, rfl⟩)
    · cases hi
    · obtain ⟨rfl, rfl, rfl⟩ := (hstanding b written earlier).1 hs
      exact ⟨rfl, rfl, rfl⟩
  · rintro ⟨rfl, rfl, rfl⟩
    exact Or.inr ⟨id, reads, (hstanding _ _ _).2 ⟨rfl, rfl, rfl⟩, rfl⟩

/-- An entry that is expired is not missed: nothing lives under its key any more. -/
theorem Reflects.expired [Clock τ] (h : Reflects readExpiry writeExpiry past now key (some e))
    (hexpired : ¬ (Within writeExpiry e.writtenAt now ∧ Within readExpiry e.readAt now)) :
    Reflects readExpiry writeExpiry past now key none := by
  intro a later hlater hlives
  obtain ⟨-, hwritten, hread⟩ := h.lives_iff.1 hlives
  exact hexpired ⟨hwritten.of_le hlater, hread.of_le hlater⟩

variable [DecidableLT τ]

/-- **The cache mirrors what has happened** up to a reading of the clock. -/
structure Mirrors (readExpiry writeExpiry : Option τ) (past : List (Incident τ α)) (last : τ) (c : Cache τ α) : Prop where
  reading : c.readExpiry = Cache.expiryOf readExpiry
  writing : c.writeExpiry = Cache.expiryOf writeExpiry
  distinct : (c.entries.map (·.1)).Nodup
  entry : ∀ key, Reflects readExpiry writeExpiry past last key (c.entries.lookup key)

/-- A cache without entries mirrors that nothing has happened. -/
theorem Mirrors.empty (readExpiry writeExpiry : Option τ) (start : τ) :
    Mirrors readExpiry writeExpiry [] start (Cache.empty readExpiry writeExpiry : Cache τ α) := by
  refine ⟨rfl, rfl, List.nodup_nil, ?_⟩
  rintro key a now - ⟨written, reads, ⟨before, since, hpast, -⟩, -⟩
  exact absurd hpast (by simp)

namespace Mirrors

theorem later [Clock τ] (h : Mirrors readExpiry writeExpiry past last c) (hle : last ≤ next) :
    Mirrors readExpiry writeExpiry past next c :=
  ⟨h.reading, h.writing, h.distinct, fun key => (h.entry key).later hle⟩

/-- Writing under a key is mirrored if the entry tells of the key and the others still tell of theirs. -/
theorem of_put {more : List (Incident τ α)} (h : Mirrors readExpiry writeExpiry past last c) {e : Entry τ α}
    (hkey : Reflects readExpiry writeExpiry more now key (some e))
    (hothers : ∀ other ≠ key, Reflects readExpiry writeExpiry more now other (c.entries.lookup other)) :
    Mirrors readExpiry writeExpiry more now { c with entries := Keyed.put c.entries key e } := by
  refine ⟨h.reading, h.writing, Keyed.nodup_put h.distinct key e, ?_⟩
  intro other
  rw [Keyed.lookup_put]
  by_cases hother : other = key
  · rw [if_pos hother, hother]
    exact hkey
  · rw [if_neg hother]
    exact hothers other hother

/-- The same for dropping a key. -/
theorem of_erase {more : List (Incident τ α)} (h : Mirrors readExpiry writeExpiry past last c)
    (hkey : Reflects readExpiry writeExpiry more now key none)
    (hothers : ∀ other ≠ key, Reflects readExpiry writeExpiry more now other (c.entries.lookup other)) :
    Mirrors readExpiry writeExpiry more now { c with entries := Keyed.erase c.entries key } := by
  refine ⟨h.reading, h.writing, Keyed.nodup_erase h.distinct key, ?_⟩
  intro other
  rw [Keyed.lookup_erase]
  by_cases hother : other = key
  · rw [if_pos hother, hother]
    exact hkey
  · rw [if_neg hother]
    exact hothers other hother

/-- A write is mirrored. -/
theorem put [Clock τ] (h : Mirrors readExpiry writeExpiry past last c) (key : String) (a : α) (hnow : last ≤ now) :
    Mirrors readExpiry writeExpiry (past ++ [.wrote key a now]) now (c.put key a now) :=
  h.of_put (Reflects.wrote key a now) fun other hother => ((h.entry other).later hnow).frame (Ne.symm hother) rfl

theorem invalidate (h : Mirrors readExpiry writeExpiry past last c) (key : String) :
    Mirrors readExpiry writeExpiry (past ++ [.dropped key]) last (c.invalidate key) :=
  h.of_erase (Reflects.ended rfl id) fun other hother => (h.entry other).frame (Ne.symm hother) rfl

theorem clear (h : Mirrors readExpiry writeExpiry past last c) :
    Mirrors readExpiry writeExpiry (past ++ [.cleared]) last c.clear :=
  ⟨h.reading, h.writing, List.nodup_nil, fun _ => Reflects.ended trivial id⟩

end Mirrors

variable [DecidableLE τ]

/-- What is not past the time that a cache keeps is within the time that was given. -/
theorem isPast_expiryOf [Clock τ] {given : Option τ} {since : τ} :
    Cache.isPast (Cache.expiryOf given) since now = false ↔ Within given since now := by
  cases given with
  | none =>
    refine ⟨?_, fun _ => rfl⟩
    intro _ allowed hgiven
    cases hgiven
  | some allowed =>
    have hwithin : Within (some allowed) since now ↔ (0 ≤ allowed → now - since < allowed) := by
      constructor
      · exact fun h => h allowed rfl
      · rintro h _ ⟨⟩
        exact h
    rw [hwithin, Clock.lt_iff_not_le]
    by_cases hneg : allowed < 0
    · have hkept : Cache.expiryOf (some allowed) = none := by simp [Cache.expiryOf, Option.filter, hneg]
      rw [hkept]
      exact ⟨fun _ hpos => absurd hpos (Clock.lt_iff_not_le.1 hneg), fun _ => rfl⟩
    · have hkept : Cache.expiryOf (some allowed) = some allowed := by simp [Cache.expiryOf, Option.filter, hneg]
      have hpos : 0 ≤ allowed := Decidable.not_not.1 (mt Clock.lt_iff_not_le.2 hneg)
      rw [hkept]
      show decide (allowed ≤ now - since) = false ↔ _
      rw [decide_eq_false_iff_not]
      exact ⟨fun h _ => h, fun h => h hpos⟩

namespace Mirrors

theorem isExpired_iff [Clock τ] (h : Mirrors readExpiry writeExpiry past last c) :
    c.isExpired e now = false ↔ Within writeExpiry e.writtenAt now ∧ Within readExpiry e.readAt now := by
  unfold Cache.isExpired
  rw [Bool.or_eq_false_iff, h.reading, h.writing, isPast_expiryOf, isPast_expiryOf]

/-- **What lives is what the cache shows.** -/
theorem lives_iff [Clock τ] (h : Mirrors readExpiry writeExpiry past last c) (hnow : last ≤ now) :
    Lives readExpiry writeExpiry past key a now ↔ c.peek? key now = some a := by
  have hentry := h.entry key
  unfold Cache.peek?
  cases hkey : c.entries.lookup key with
  | none =>
    rw [hkey] at hentry
    exact ⟨fun hlives => absurd hlives (hentry a now hnow), fun hshown => nomatch hshown⟩
  | some e =>
    rw [hkey] at hentry
    rw [hentry.lives_iff, ← h.isExpired_iff]
    dsimp only
    cases hexpired : c.isExpired e now with
    | true =>
      refine ⟨?_, fun hshown => nomatch hshown⟩
      rintro ⟨-, hlive⟩
      cases hlive
    | false =>
      constructor
      · rintro ⟨rfl, -⟩
        rfl
      · rintro ⟨⟩
        exact ⟨rfl, rfl⟩

/-- **A lookup is mirrored**: a hit as a reading, and a miss as nothing at all, though it may drop an entry. -/
theorem find [Clock τ] (h : Mirrors readExpiry writeExpiry past last c) (key : String) (hnow : last ≤ now) :
    Mirrors readExpiry writeExpiry (past ++ ((c.find? key now).1.map fun _ => Incident.read key now).toList) now
      (c.find? key now).2 := by
  have hkept := h.later hnow
  have hentry := hkept.entry key
  unfold Cache.find?
  cases hkey : c.entries.lookup key with
  | none =>
    show Mirrors _ _ (past ++ []) now c
    rw [List.append_nil]
    exact hkept
  | some e =>
    rw [hkey] at hentry
    dsimp only
    cases hexpired : c.isExpired e now with
    | true =>
      rw [if_pos rfl]
      show Mirrors _ _ (past ++ []) now _
      rw [List.append_nil]
      have hdead : ¬ (Within writeExpiry e.writtenAt now ∧ Within readExpiry e.readAt now) := by
        rw [← h.isExpired_iff, hexpired]
        exact Bool.noConfusion
      exact h.of_erase (hentry.expired hdead) fun other _ => hkept.entry other
    | false =>
      rw [if_neg Bool.false_ne_true]
      obtain ⟨-, hread⟩ := h.isExpired_iff.1 hexpired
      exact h.of_put (hentry.read hread) fun other hother => (hkept.entry other).frame id (if_neg (Ne.symm hother))

end Mirrors

end

/-! ## What deeds find -/

section

variable {τ α ε : Type} [Sub τ] [LE τ] [LT τ] [OfNat τ 0] {readExpiry writeExpiry : Option τ}
  {past : List (Incident τ α)} {last now next began ended : τ} {key : String} {a : α}

/-- The pairs that live, each key once. -/
def Shows (readExpiry writeExpiry : Option τ) (past : List (Incident τ α)) (now : τ) (pairs : List (String × α)) : Prop :=
  (pairs.map (·.1)).Nodup ∧ ∀ key a, (key, a) ∈ pairs ↔ Lives readExpiry writeExpiry past key a now

/-- **What a deed has to find**: a lookup hits what lives, a loader runs if nothing does, and views show all that
lives. -/
def Answers (readExpiry writeExpiry : Option τ) (past : List (Incident τ α)) (now : τ) :
    Deed α ε → Finding α ε → Prop
  | .find key, .found o => ∀ a, o = some a ↔ Lives readExpiry writeExpiry past key a now
  | .get key outcome, .got answer true => (∀ a, ¬ Lives readExpiry writeExpiry past key a now) ∧ answer = outcome
  | .get key _, .got answer false => ∃ a, Lives readExpiry writeExpiry past key a now ∧ answer = .ok a
  | .keys, .keys ks => ∃ pairs, Shows readExpiry writeExpiry past now pairs ∧ ks = pairs.map (·.1)
  | .values, .values as => ∃ pairs, Shows readExpiry writeExpiry past now pairs ∧ as = pairs.map (·.2)
  | .size, .size n => ∃ pairs, Shows readExpiry writeExpiry past now pairs ∧ n = pairs.length
  | .put .., .nothing | .invalidate _, .nothing | .clear, .nothing => True
  | _, _ => False

/-- What is read has lived. -/
theorem Answers.lives_of_read {d : Deed α ε} {x : Finding α ε} {i : Incident τ α} {t : τ}
    (h : Answers readExpiry writeExpiry past began d x) (hi : d.incident? began ended x = some i)
    (hread : i.readOf? key = some t) : ∃ a, Lives readExpiry writeExpiry past key a began := by
  have hkey : ∀ {k : String}, (Incident.read k began : Incident τ α).readOf? key = some t → k = key := by
    intro k hk
    by_contra hne
    rw [Incident.readOf?, if_neg hne] at hk
    cases hk
  cases d with
  | find k =>
    cases x with
    | found o =>
      cases o with
      | some a =>
        cases hi
        rw [← hkey hread]
        exact ⟨a, (h a).1 rfl⟩
      | none => cases hi
    | _ => cases h
  | get k outcome =>
    cases x with
    | got answer ran =>
      cases ran with
      | false =>
        cases hi
        rw [← hkey hread]
        obtain ⟨a, hlives, -⟩ := h
        exact ⟨a, hlives⟩
      | true =>
        cases answer with
        | ok a =>
          cases hi
          cases hread
        | error f => cases hi
    | _ => cases h
  | put | invalidate | clear =>
    cases hi
    cases hread
  | keys | values | size => cases hi

/-- What lives has lived since it was touched last. -/
theorem Lives.of_le [Clock τ] (h : Lives readExpiry writeExpiry past key a next) (hle : now ≤ next) :
    Lives readExpiry writeExpiry past key a now := by
  obtain ⟨written, reads, hstanding, hwritten, hchain⟩ := h
  refine ⟨written, reads, hstanding, hwritten.of_le hle, ?_⟩
  rw [List.isChain_append] at hchain ⊢
  obtain ⟨htouches, -, hend⟩ := hchain
  refine ⟨htouches, List.isChain_singleton now, ?_⟩
  intro x hx y hy
  cases hy
  exact (hend x hx next rfl).of_le hle

/-- What neither writes nor reads a key makes nothing live under it. -/
theorem Lives.of_concat {i : Incident τ α} (h : Lives readExpiry writeExpiry (past ++ [i]) key a now)
    (hwrites : ¬ i.Writes key) (hunread : ∀ t, i.readOf? key ≠ some t) : Lives readExpiry writeExpiry past key a now := by
  obtain ⟨written, reads, hstanding, hrest⟩ := h
  have hends : ¬ i.Ends key := fun hends => not_standing_of_ends hends hwrites hstanding
  have hread : i.readOf? key = none := Option.eq_none_iff_forall_ne_some.2 hunread
  exact ⟨written, reads, (standing_frame hends hread).1 hstanding, hrest⟩

variable [DecidableLE τ] [DecidableLT τ] {f : Flight τ α ε}

theorem Mirrors.shows [Clock τ] {c : Cache τ α} (h : Mirrors readExpiry writeExpiry past last c) (hnow : last ≤ now) :
    Shows readExpiry writeExpiry past now ((c.live now).map fun e => (e.1, e.2.value)) := by
  refine ⟨?_, ?_⟩
  · rw [List.map_map]
    exact h.distinct.sublist (List.filter_sublist.map _)
  · intro key a
    rw [h.lives_iff hnow, Cache.peek?_eq, List.mem_map]
    constructor
    · rintro ⟨⟨k, e⟩, hlive, heq⟩
      cases heq
      obtain ⟨hmem, hnot⟩ := List.mem_filter.1 hlive
      rw [(Keyed.mem_iff_lookup h.distinct k e).1 hmem, Option.filter_some, if_pos hnot]
      rfl
    · intro hshown
      obtain ⟨e, hfiltered, rfl⟩ := Option.map_eq_some_iff.1 hshown
      obtain ⟨hlookup, hnot⟩ := Option.filter_eq_some_iff.1 hfiltered
      exact ⟨(key, e), List.mem_filter.2 ⟨(Keyed.mem_iff_lookup h.distinct key e).2 hlookup, hnot⟩, rfl⟩

/-- **A visit** hits what lives, which is mirrored as a reading, or loads, which is mirrored as a write if it succeeds. -/
theorem Mirrors.visit [Clock τ] (h : Mirrors readExpiry writeExpiry past last f.cache) (quiet : f.loading = [])
    (hbegan : last ≤ began) (hended : began ≤ ended) (key : String) (outcome : Except ε α) :
    Answers readExpiry writeExpiry past began (.get key outcome) (f.visit key outcome began ended).1 ∧
      (f.visit key outcome began ended).2.loading = [] ∧
      Mirrors readExpiry writeExpiry
        (past ++ (Deed.incident? began ended (.get key outcome) (f.visit key outcome began ended).1).toList) ended
        (f.visit key outcome began ended).2.cache := by
  have hfind := h.find key hbegan
  cases hshown : f.cache.peek? key began with
  | some a =>
    rw [Cache.find?_fst, hshown] at hfind
    rw [Flight.visit_hit outcome ended hshown]
    exact ⟨⟨a, (h.lives_iff hbegan).2 hshown, rfl⟩, quiet, hfind.later hended⟩
  | none =>
    rw [Cache.find?_fst, hshown] at hfind
    have hmiss : Mirrors readExpiry writeExpiry past began (f.cache.find? key began).2 := by
      rw [← List.append_nil past]
      exact hfind
    have hdead : ∀ a, ¬ Lives readExpiry writeExpiry past key a began := by
      intro a hlives
      rw [h.lives_iff hbegan, hshown] at hlives
      cases hlives
    obtain ⟨hfinding, hloading, hcache⟩ := Flight.visit_miss outcome ended quiet hshown
    rw [hfinding, hcache]
    refine ⟨⟨hdead, rfl⟩, hloading, ?_⟩
    cases outcome with
    | ok a => exact hmiss.put key a hended
    | error e =>
      show Mirrors _ _ (past ++ []) _ _
      rw [List.append_nil]
      exact hmiss.later hended

/-- **Every deed finds what it has to, and is mirrored.** -/
theorem Mirrors.perform [Clock τ] (h : Mirrors readExpiry writeExpiry past last f.cache) (quiet : f.loading = [])
    (hbegan : last ≤ began) (hended : began ≤ ended) (d : Deed α ε) :
    Answers readExpiry writeExpiry past began d (f.perform began ended d).1 ∧
      (f.perform began ended d).2.loading = [] ∧
      Mirrors readExpiry writeExpiry (past ++ (d.incident? began ended (f.perform began ended d).1).toList) ended
        (f.perform began ended d).2.cache := by
  have hshows := h.shows hbegan
  -- a view finds what is shown, and nothing happens
  have hview : Mirrors readExpiry writeExpiry (past ++ []) ended f.cache := by
    rw [List.append_nil]
    exact h.later (Clock.le_trans hbegan hended)
  cases d with
  | put key a => exact ⟨trivial, quiet, (h.put key a hbegan).later hended⟩
  | find key =>
    have hfind := (h.find key hbegan).later hended
    refine ⟨?_, quiet, ?_⟩
    · intro a
      rw [Cache.find?_fst]
      exact (h.lives_iff hbegan).symm
    · show Mirrors _ _ (past ++ (Deed.incident? began ended (.find key : Deed α ε)
        (.found (f.cache.find? key began).1)).toList) _ _
      cases hfound : (f.cache.find? key began).1 with
      | none =>
        rw [hfound] at hfind
        exact hfind
      | some a =>
        rw [hfound] at hfind
        exact hfind
  | get key outcome => exact h.visit quiet hbegan hended key outcome
  | invalidate key => exact ⟨trivial, quiet, (h.invalidate key).later (Clock.le_trans hbegan hended)⟩
  | clear => exact ⟨trivial, quiet, h.clear.later (Clock.le_trans hbegan hended)⟩
  | keys =>
    refine ⟨⟨_, hshows, ?_⟩, quiet, hview⟩
    rw [List.map_map]
    rfl
  | values =>
    refine ⟨⟨_, hshows, ?_⟩, quiet, hview⟩
    rw [List.map_map]
    rfl
  | size =>
    refine ⟨⟨_, hshows, ?_⟩, quiet, hview⟩
    show ((f.cache.live began).map (·.1)).length = _
    rw [List.length_map, List.length_map]

/-! ### Tenures -/

/-- Deeds in a row, on a clock that does not go back: what happens by them, the last reading, and what they leave. -/
inductive Tenure (f₀ : Flight τ α ε) (start : τ) : List (Incident τ α) → τ → Flight τ α ε → Prop where
  | opened : Tenure f₀ start [] start f₀
  | deed {past : List (Incident τ α)} {last began ended : τ} {f : Flight τ α ε} (h : Tenure f₀ start past last f)
      (d : Deed α ε) (hbegan : last ≤ began) (hended : began ≤ ended) :
      Tenure f₀ start (past ++ (d.incident? began ended (f.perform began ended d).1).toList) ended
        (f.perform began ended d).2

variable {f₀ : Flight τ α ε} {start : τ} {more : List (Incident τ α)}

/-- **The cache goes on to mirror what happens.** -/
theorem Tenure.mirrors [Clock τ] (h : Tenure f₀ start more last f)
    (h₀ : Mirrors readExpiry writeExpiry past start f₀.cache) (quiet : f₀.loading = []) :
    Mirrors readExpiry writeExpiry (past ++ more) last f.cache ∧ f.loading = [] := by
  induction h with
  | opened =>
    rw [List.append_nil]
    exact ⟨h₀, quiet⟩
  | deed _ d hbegan hended ih =>
    obtain ⟨-, hloading, hmirrors⟩ := ih.1.perform ih.2 hbegan hended d
    rw [List.append_assoc] at hmirrors
    exact ⟨hmirrors, hloading⟩

/-- **What is not shown once is not shown again** unless it is written. -/
theorem Tenure.stays_gone [Clock τ] (h : Tenure f₀ start more last f)
    (h₀ : Mirrors readExpiry writeExpiry past start f₀.cache) (quiet : f₀.loading = [])
    (gone : f₀.cache.peek? key start = none) (unwritten : ∀ i ∈ more, ¬ i.Writes key) :
    ∀ now, last ≤ now → f.cache.peek? key now = none := by
  induction h with
  | opened =>
    intro now hnow
    by_contra hshown
    obtain ⟨a, hshown⟩ := Option.ne_none_iff_exists'.1 hshown
    have hlives := ((h₀.lives_iff hnow).2 hshown).of_le hnow
    rw [h₀.lives_iff (Clock.le_refl start), gone] at hlives
    cases hlives
  | @deed more last began ended f htenure d hbegan hended ih =>
    obtain ⟨hmirrors, hquiet⟩ := htenure.mirrors h₀ quiet
    obtain ⟨hanswers, -, hnext⟩ := hmirrors.perform hquiet hbegan hended d
    obtain ⟨hbefore, hnew⟩ := List.forall_mem_append.1 unwritten
    replace ih := ih hbefore
    intro now hnow
    have hlast : last ≤ now := Clock.le_trans hbegan (Clock.le_trans hended hnow)
    by_contra hshown
    obtain ⟨a, hshown⟩ := Option.ne_none_iff_exists'.1 hshown
    have hlives := (hnext.lives_iff hnow).2 hshown
    -- nothing lived before, so nothing was read, and what is not written does not come to live
    have hdead : ∀ a now, last ≤ now → ¬ Lives readExpiry writeExpiry (past ++ more) key a now := by
      intro a now hnow hlives
      rw [hmirrors.lives_iff hnow, ih now hnow] at hlives
      cases hlives
    cases hincident : d.incident? began ended (f.perform began ended d).1 with
    | none =>
      rw [hincident, Option.toList_none, List.append_nil] at hlives
      exact hdead a now hlast hlives
    | some i =>
      rw [hincident] at hlives hnew
      have hunread : ∀ t, i.readOf? key ≠ some t := by
        intro t hread
        obtain ⟨b, hlived⟩ := hanswers.lives_of_read hincident hread
        exact hdead b began hbegan hlived
      exact hdead a now hlast (hlives.of_concat (hnew i (List.mem_singleton_self i)) hunread)

/-- **An entry has the lifetime that its history gives it.** After any deeds on a cache that was empty, on a clock that
does not go back, every deed finds what it has to: a lookup hits exactly what lives, and gives the value that was
written last; a loader runs exactly if nothing lives under its key; and views show exactly what lives. Views change
nothing. What is not shown, because it was never written, was dropped or has expired, is not shown again by any deeds
that do not write it. -/
theorem Tenure.lifetimes [Clock τ]
    (h : Tenure (.ofCache (.empty readExpiry writeExpiry)) start past last f) (hbegan : last ≤ began)
    (hended : began ≤ ended) :
    (∀ d, Answers readExpiry writeExpiry past began d (f.perform began ended d).1) ∧
      (∀ d, d.isView = true → (f.perform began ended d).2 = f) ∧
      ∀ key, f.cache.peek? key began = none → ∀ more later f', Tenure f began more later f' →
        (∀ i ∈ more, ¬ i.Writes key) → ∀ now, later ≤ now → f'.cache.peek? key now = none := by
  obtain ⟨hmirrors, quiet⟩ := h.mirrors (Mirrors.empty readExpiry writeExpiry start) rfl
  rw [List.nil_append] at hmirrors
  refine ⟨?_, ?_, ?_⟩
  · intro d
    exact (hmirrors.perform quiet hbegan hended d).1
  · intro d hview
    cases d with
    | keys | values | size => rfl
    | put | find | get | invalidate | clear => cases hview
  · intro key gone more later f' htenure unwritten
    exact htenure.stays_gone (hmirrors.later hbegan) quiet gone unwritten

end

/-- A value that is read in time outlives the time after which it expires unread, and then it is gone. -/
theorem Tenure.lifetimes_read :
    ∃ (past : List (Incident Int Nat)) (f : Flight Int Nat Unit),
      Tenure (.ofCache (.empty (some 10) (some (-1)))) 0 past 6 f ∧ past = [.wrote "a" 7 0, .read "a" 6] ∧
        Lives (some 10) (some (-1)) past "a" 7 15 ∧ (∀ a, ¬ Lives (some 10) (some (-1)) past "a" a 16) ∧
        ∀ more later f', Tenure f 16 more later f' → (∀ i ∈ more, ¬ i.Writes "a") → f'.cache.peek? "a" later = none := by
  have hput : Tenure (.ofCache (.empty (some 10) (some (-1))) : Flight Int Nat Unit) 0 _ 0 _ :=
    Tenure.opened.deed (.put "a" 7) (Int.le_refl 0) (Int.le_refl 0)
  have hread : Tenure (.ofCache (.empty (some 10) (some (-1))) : Flight Int Nat Unit) 0 _ 6 _ :=
    hput.deed (.find "a") (show (0 : Int) ≤ 6 by decide) (Int.le_refl 6)
  obtain ⟨hlive, -, -⟩ := hread.lifetimes (show (6 : Int) ≤ 15 by decide) (Int.le_refl 15)
  obtain ⟨hdead, -, hgone⟩ := hread.lifetimes (show (6 : Int) ≤ 16 by decide) (Int.le_refl 16)
  refine ⟨_, _, hread, rfl, (hlive (.find "a") 7).1 rfl, ?_, ?_⟩
  · intro a hlives
    exact nomatch (hdead (.find "a") a).2 hlives
  · intro more later f' htenure unwritten
    exact hgone "a" rfl more later f' htenure unwritten later (Int.le_refl later)

/-! ## Rehearsals -/

/-- The deed that a step rehearses, and the time that it takes. Steps of several callers, and of loaders that use the
cache themselves, are no deeds. -/
def CacheStep.deed? : CacheStep → Option (Deed Value Fault × Number)
  | put key v => some (.put key v, 0)
  | find key => some (.find key, 0)
  | get key (.mk takes [] outcome) => some (.get key (CacheRehearsal.outcomeFor outcome), takes)
  | invalidate key => some (.invalidate key, 0)
  | clear => some (.clear, 0)
  | keys => some (.keys, 0)
  | values => some (.values, 0)
  | size => some (.size, 0)
  | advance _ | get _ _ | together .. => none

/-- A rehearsed deed does to the cache and its loads what the deed does. -/
theorem CacheRehearsal.step_flight {c : CacheStep} {d : Deed Value Fault} {takes : Number}
    (h : c.deed? = some (d, takes)) (s : CacheRehearsal) :
    (step c s).2.flight = (s.flight.perform s.now (s.now + takes) d).2 := by
  cases c with
  | get key loader =>
    obtain ⟨time, meanwhile, outcome⟩ := loader
    cases meanwhile with
    | nil =>
      cases h
      unfold step Flight.perform Flight.visit
      simp only [enterAll]
      rcases s.flight.enter key s.now with ⟨b | b | b, f⟩ <;> simp [ledBy, load, runAll, seen]
    | cons first rest => cases h
  | invalidate key =>
    cases h
    unfold step invalidate
    dsimp only
    split <;> rfl
  | put | find | clear | keys | values | size =>
    cases h
    rfl
  | advance | together => cases h

end Steward
