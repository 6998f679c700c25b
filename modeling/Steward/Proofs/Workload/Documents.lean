import Steward.Workload.Schema

/-!
# Documents of workloads are read back

What is written of a workload is a document with an entry for each field. To read it comes to the same workload, as long
as its consistency rule accepts it; and the rule is all that can stand against it, since every part of the document is
read back as it was. So a workload with another run state and other replicas is checked as if it were read for the first
time (`Workload.withHealth_eq_accept`).

## Contents

* `Reading.map_accepted`, `Reading.seq_accepted`, `Reading.under_accepted` — parts that are all accepted;
* `items_map`, `mapOf_anything` — containers;
* `Schema.Restores` — documents that are read back; one lemma for each kind of record;
* `Workload.read_write`, `Workload.withHealth_eq_accept` — workloads.
-/

namespace Steward

variable {α β : Type}

/-! ## Parts that are accepted -/

namespace Reading

@[simp] theorem map_accepted (f : α → β) (a : α) : f <$> accepted a = accepted (f a) :=
  rfl

@[simp] theorem seq_accepted (f : α → β) (a : α) : (accepted f <*> accepted a : Reading β) = accepted (f a) :=
  rfl

@[simp] theorem under_accepted (s : Segment) (a : α) : (accepted a).under s = accepted a :=
  rfl

end Reading

@[simp] theorem text_text (s : String) : text (.text s) = .accepted s :=
  rfl

@[simp] theorem integer_int (n : Int) : integer (.int n) = .accepted n :=
  rfl

@[simp] theorem nullable_text (s : Option String) : nullable text (.ofText? s) = .accepted s := by
  cases s <;> rfl

@[simp] theorem nullable_integer (n : Option Int) : nullable integer (.ofInteger? n) = .accepted n := by
  cases n <;> rfl

/-! ## Containers -/

section

variable {r : Reader α} {write : α → Value}

theorem items_map (h : ∀ a, r (write a) = .accepted a) (i : Nat) (as : List α) :
    items r i (as.map write) = .accepted as := by
  induction as generalizing i with
  | nil => rfl
  | cons a rest ih =>
    rw [List.map_cons]
    unfold items
    rw [h, ih]
    rfl

theorem tupleOf_ofList (h : ∀ a, r (write a) = .accepted a) (as : List α) :
    tupleOf r (.ofList write as) = .accepted as :=
  items_map h 0 as

end

@[simp] theorem mapOf_anything (es : List (String × Value)) : mapOf anything (.map es) = .accepted es := by
  show entries anything es = .accepted es
  induction es with
  | nil => rfl
  | cons e rest ih =>
    unfold entries
    rw [ih]
    rfl

/-! ## Records -/

/-- What is written is read back. It is not written as null, so it can be told from nothing. -/
structure Schema.Restores (s : Schema α) : Prop where
  read_write : ∀ a, s.read (s.write a) = .accepted a
  ne_null : ∀ a, s.write a ≠ .null

namespace Schema.Restores

variable {s : Schema α}

theorem nullable (h : s.Restores) (a : Option α) : nullable s.read (.ofRecord? s.write a) = .accepted a := by
  cases a with
  | none => rfl
  | some a =>
    have hread : Steward.nullable s.read (s.write a) = (s.read (s.write a)).map some := by
      unfold Steward.nullable
      split
      · exact absurd ‹_› (h.ne_null a)
      · rfl
    show Steward.nullable s.read (s.write a) = _
    rw [hread, h.read_write]
    rfl

theorem tupleOf (h : s.Restores) (as : List α) : tupleOf s.read (.ofList s.write as) = .accepted as :=
  tupleOf_ofList h.read_write as

end Schema.Restores

theorem Organization.restores : Organization.schema.Restores where
  read_write o := by simp [schema, record, required, perhaps, optional, Value.lookup, List.lookup_cons]
  ne_null _ := nofun

theorem Space.restores : Space.schema.Restores where
  read_write s := by
    simp [schema, record, required, perhaps, optional, Value.lookup, List.lookup_cons, Organization.restores.nullable]
  ne_null _ := nofun

theorem Health.enumeration_word (h : Health) : enumeration Health.members (.text h.word) = .accepted h := by
  cases h <;> rfl

theorem Replica.restores : Replica.schema.Restores where
  read_write r := by
    simp [schema, record, required, perhaps, optional, Value.lookup, List.lookup_cons, Health.enumeration_word]
  ne_null _ := nofun

theorem Buildpack.restores : Buildpack.schema.Restores where
  read_write b := by simp [schema, record, perhaps, optional, Value.lookup, List.lookup_cons]
  ne_null _ := nofun

theorem SourcePackage.restores : SourcePackage.schema.Restores where
  read_write p := by simp [schema, record, perhaps, optional, Value.lookup, List.lookup_cons]
  ne_null _ := nofun

theorem Droplet.restores : Droplet.schema.Restores where
  read_write d := by
    simp [schema, record, required, perhaps, optional, Value.lookup, List.lookup_cons, Buildpack.restores.tupleOf,
      Space.restores.nullable, SourcePackage.restores.nullable]
  ne_null _ := nofun

theorem Binding.restores : Binding.schema.Restores where
  read_write b := by
    simp [schema, record, required, perhaps, optional, Value.lookup, List.lookup_cons, tupleOf_ofList text_text]
  ne_null _ := nofun

theorem BuildInfo.restores : BuildInfo.schema.Restores where
  read_write b := by simp [schema, record, perhaps, optional, Value.lookup, List.lookup_cons]
  ne_null _ := nofun

theorem ArtifactInfo.restores : ArtifactInfo.schema.Restores where
  read_write a := by simp [schema, record, perhaps, optional, Value.lookup, List.lookup_cons]
  ne_null _ := nofun

/-! ## Workloads -/

theorem RunState.enumeration_word (s : RunState) : enumeration RunState.members (.text s.word) = .accepted s := by
  cases s <;> rfl

namespace Workload

/-- **A written workload is read back** as far as its consistency rule accepts it. -/
theorem read_write (w : Workload) : schema.read (schema.write w) = w.checked := by
  simp [schema, record, required, perhaps, optional, Value.lookup, List.lookup_cons, Space.restores.nullable,
    RunState.enumeration_word, Binding.restores.tupleOf, BuildInfo.restores.read_write, ArtifactInfo.restores.read_write,
    Droplet.restores.nullable, Replica.restores.tupleOf, Reading.check]

/-- **Another run state and other replicas** are checked as if the workload were read for the first time. -/
theorem withHealth_eq_accept (w : Workload) (state : RunState) (replicas : List Replica) :
    w.withHealth state replicas = schema.accept (schema.write { w with state, replicas }) := by
  unfold withHealth Schema.accept
  rw [read_write]
  cases ({ w with state, replicas } : Workload).checked with
  | accepted x => rfl
  | refused problems => rfl

end Workload

end Steward
