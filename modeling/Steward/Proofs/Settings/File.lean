import Steward.Settings.Sources

/-!
# Settings of a file

How the settings of a configuration file are found, and how that fails. A file is meant to fail in one of four ways: it
cannot be read, it is no document, its document is no mapping, or a setting is invalid. There are files that fail
otherwise: bytes that are no text, a mapping with a key that is no text, and what no path leads to. They are told apart
here, and every other file ends as it is meant to.

What loads a document and what validates settings are parameters. Of the one it is known that it fails with faults of
its own or with the fault on which reading stopped, of the other that it refuses settings only as invalid. A name that
begins with an underscore is no setting to it but an argument of its own, and of those nothing is known.

## Contents

* `ConfigFile.Reads`, `ConfigFile.Opens` — what can come of opening and reading a file; `ConfigFile.opens_opened`;
* `Settings.Loads`, `Settings.Validates` — what is known of loading and of validating;
* `Settings.IsNamed`, `Settings.givenBy_named`, `givenBy_unnamed` — mappings that give settings;
* `Settings.Escapes` — how files fail otherwise;
* `Settings.Ends` — how all others end, `Settings.Documented` — ends that are meant;
* `Settings.fromFile_ends` — every file does the one or the other;
* `Settings.loads_patientLoad`, `validates_resolveData` — a loader and a validation of which this is known.
-/

namespace Steward

open Markup (Datum)

/-! ## Opening and reading -/

namespace ConfigFile

/-- The pieces make up the beginning of a text whose bytes are the beginning of these. -/
def Begins (content : ByteArray) (pieces : List String) : Prop :=
  ∃ n s, String.fromUTF8? (content.extract 0 n) = some s ∧
    (String.join pieces).toList <+: Text.normalLines s.toList

/-- **Reading a file with this content.** A text is read to its end, in pieces, with lines that all end alike. Bytes that
are no text stop it sooner or later, and the system may stop it anywhere. -/
inductive Reads (content : ByteArray) : Feed → Prop where
  | whole {pieces : List String} {s : String} (decoded : String.fromUTF8? content = some s)
      (text : String.join pieces = String.ofList (Text.normalLines s.toList)) : Reads content ⟨pieces, none⟩
  | undecoded {pieces : List String} (begins : Begins content pieces) (failed : String.fromUTF8? content = none) :
      Reads content ⟨pieces, some .notUnicode⟩
  | interrupted {pieces : List String} {f : Fault} (begins : Begins content pieces) (system : f.isSystem = true) :
      Reads content ⟨pieces, some f⟩

/-- **Opening the file at a path.** -/
inductive Opens (path : String) : ConfigFile → Except Fault Feed → Prop where
  /-- No file can have this path. -/
  | malformed {file : ConfigFile} (nowhere : isMalformedPath path = true) : Opens path file (.error .pathMalformed)
  /-- There is no file, or it must not be read. -/
  | unreadable {f : Fault} (somewhere : isMalformedPath path = false) (system : f.isSystem = true) :
      Opens path .unreadable (.error f)
  | opened {content : ByteArray} {feed : Feed} (somewhere : isMalformedPath path = false)
      (reads : Reads content feed) : Opens path (.bytes content) (.ok feed)

theorem begins_nil (content : ByteArray) : Begins content [] := by
  refine ⟨0, "", ?_, List.nil_prefix⟩
  have hempty : content.extract 0 0 = ByteArray.empty := by
    ext1
    simp
  rw [hempty]
  decide +kernel

/-- Content may be read in one piece. -/
theorem reads_ofBytes (content : ByteArray) : Reads content (.ofBytes content) := by
  unfold Feed.ofBytes
  cases decoded : String.fromUTF8? content with
  | some s => exact Reads.whole decoded String.empty_append
  | none => exact Reads.undecoded (begins_nil content) decoded

/-- What the program does to open a file is one way of it. -/
theorem opens_opened (path : String) (file : ConfigFile) : file.Opens path (file.opened path) := by
  unfold opened
  cases hpath : isMalformedPath path with
  | true => exact Opens.malformed hpath
  | false =>
    rw [if_neg Bool.false_ne_true]
    cases file with
    | unreadable => exact Opens.unreadable hpath rfl
    | bytes content => exact Opens.opened hpath (reads_ofBytes content)

end ConfigFile

/-! ## Loading and validating -/

namespace Settings

/-- **What is known of loading**: it fails with faults of its own, or with the fault on which reading stopped. -/
def Loads (load : Feed → Except Fault Datum) : Prop :=
  ∀ feed f, load feed = .error f → f.category = .markup ∨ feed.fault = some f

/-- A name that is no setting, but an argument of the validation itself. -/
def isArgument (name : String) : Bool :=
  name.toList.head? = some '_'

/-- **What is known of validating**: settings are refused as invalid, and for no other reason. -/
def Validates (validate : List (String × Datum) → Except Fault Settings) : Prop :=
  ∀ given f, (∀ e ∈ given, isArgument e.1 = false) → validate given = .error f → f.category = .validation

/-! ## Mappings -/

/-- Every entry is named by a text. -/
def IsNamed (entries : List (Datum × Datum)) : Prop :=
  ∀ e ∈ entries, ∃ name, e.1 = .text name

theorem givenBy_cons (name : String) (d : Datum) (rest : List (Datum × Datum)) :
    givenBy ((.text name, d) :: rest) = givenBy rest >>= fun later =>
      .ok (if Keyed.holds later name then later else (name, d) :: later) :=
  rfl

/-- Entries that are named give settings. -/
theorem givenBy_named {entries : List (Datum × Datum)} (h : IsNamed entries) :
    ∃ given, givenBy entries = .ok given := by
  induction entries with
  | nil => exact ⟨[], rfl⟩
  | cons e rest ih =>
    obtain ⟨⟨name, hname⟩, hrest⟩ := List.forall_mem_cons.1 h
    obtain ⟨later, hlater⟩ := ih hrest
    obtain ⟨key, d⟩ := e
    obtain rfl : key = .text name := hname
    rw [givenBy_cons, hlater]
    exact ⟨_, rfl⟩

/-- One entry that is not named is enough to fail, wherever it stands. -/
theorem givenBy_unnamed {entries : List (Datum × Datum)} (h : ¬ IsNamed entries) :
    givenBy entries = .error .settingNotNamed := by
  induction entries with
  | nil => exact absurd (List.forall_mem_nil _) h
  | cons e rest ih =>
    obtain ⟨key, d⟩ := e
    cases key with
    | text name =>
      have hrest : ¬ IsNamed rest := fun hrest => h (List.forall_mem_cons.2 ⟨⟨name, rfl⟩, hrest⟩)
      rw [givenBy_cons, ih hrest]
      rfl
    | null | truth | integer | real | binary | moment | list | map | set => rfl

/-! ## How a file ends -/

/-- The ends that are meant: settings, a fault of the configuration, or invalid settings. -/
def Documented (o : Except Fault Settings) : Prop :=
  ∀ f, o = .error f → f.category = .configuration ∨ f.category = .validation

section

variable (load : Feed → Except Fault Datum) (validate : List (String × Datum) → Except Fault Settings) (path : String)

/-- **The files that fail otherwise**, and with what. -/
inductive Escapes : ConfigFile → Except Fault Feed → Fault → Prop where
  /-- No file can have the path. -/
  | nowhere {file : ConfigFile} (malformed : isMalformedPath path = true) :
      Escapes file (.error .pathMalformed) .pathMalformed
  /-- Loading came to bytes that are no text. -/
  | notUnicode {content : ByteArray} {feed : Feed} (failed : String.fromUTF8? content = none)
      (stops : load feed = .error .notUnicode) : Escapes (.bytes content) (.ok feed) .notUnicode
  /-- The document is a mapping with a key that is no text. -/
  | misnamed {file : ConfigFile} {feed : Feed} {entries : List (Datum × Datum)}
      (holds : load feed = .ok (.map entries)) (unnamed : ¬ IsNamed entries) :
      Escapes file (.ok feed) .settingNotNamed
  /-- The document is a mapping with an argument of the validation, which fails on it. -/
  | misused {file : ConfigFile} {feed : Feed} {entries : List (Datum × Datum)} {given : List (String × Datum)}
      {f : Fault} (holds : load feed = .ok (.map entries)) (gives : givenBy entries = .ok given)
      (argument : ∃ e ∈ given, isArgument e.1 = true) (fails : validate given = .error f)
      (other : ¬ Documented (.error f)) : Escapes file (.ok feed) f

/-- **How a file ends** if it does not fail otherwise. -/
inductive Ends : Except Fault Feed → Except Fault Settings → Prop where
  | unopened {f : Fault} (system : f.isSystem = true) : Ends (.error f) (.error (.configUnreadable path))
  | unread {feed : Feed} {f : Fault} (stops : load feed = .error f) (system : f.isSystem = true) :
      Ends (.ok feed) (.error (.configUnreadable path))
  | malformed {feed : Feed} {f : Fault} (stops : load feed = .error f) (markup : f.category = .markup) :
      Ends (.ok feed) (.error (.configInvalid path))
  | notMapping {feed : Feed} {d : Datum} (holds : load feed = .ok d) (something : d ≠ .null)
      (other : ∀ entries, d ≠ .map entries) : Ends (.ok feed) (.error (.configNotMapping path))
  /-- A file with an empty document gives nothing. -/
  | empty {feed : Feed} (holds : load feed = .ok .null) : Ends (.ok feed) (validate [])
  | given {feed : Feed} {entries : List (Datum × Datum)} {settings : List (String × Datum)}
      (holds : load feed = .ok (.map entries)) (gives : givenBy entries = .ok settings) :
      Ends (.ok feed) (validate settings)

end

variable {load : Feed → Except Fault Datum} {validate : List (String × Datum) → Except Fault Settings} {path : String}
  {file : ConfigFile} {opened : Except Fault Feed}

/-- What is made of a fault of loading, if that is none of the system and none of loading itself. -/
theorem configFault_of_other {f : Fault} (hsystem : f.isSystem = false) (hmarkup : f.category ≠ .markup) :
    configFault path f = f := by
  unfold configFault
  rw [if_neg (by rw [hsystem]; decide), if_neg hmarkup]

theorem configFault_of_isSystem {f : Fault} (h : f.isSystem = true) : configFault path f = .configUnreadable path :=
  if_pos h

theorem configFault_of_markup {f : Fault} (h : f.category = .markup) : configFault path f = .configInvalid path := by
  unfold configFault Fault.isSystem
  rw [h]
  rfl

theorem fromFile_error (f : Fault) : fromFile load validate path (.error f) = .error (configFault path f) :=
  rfl

/-- A file that was opened. -/
theorem fromFile_ok (feed : Feed) : fromFile load validate path (.ok feed) =
    match load feed with
    | .error f => .error (configFault path f)
    | .ok .null => validate []
    | .ok (.map entries) => givenBy entries >>= validate
    | .ok _ => .error (.configNotMapping path) :=
  rfl

/-- A file on which loading fails. -/
theorem fromFile_of_stops {feed : Feed} {f : Fault} (stops : load feed = .error f) :
    fromFile load validate path (.ok feed) = .error (configFault path f) := by
  rw [fromFile_ok, stops]

/-- A file whose document is a mapping. -/
theorem fromFile_of_map {feed : Feed} {entries : List (Datum × Datum)} (holds : load feed = .ok (.map entries)) :
    fromFile load validate path (.ok feed) = givenBy entries >>= validate := by
  rw [fromFile_ok, holds]

/-- A file whose document is nothing at all. -/
theorem fromFile_of_null {feed : Feed} (holds : load feed = .ok .null) :
    fromFile load validate path (.ok feed) = validate [] := by
  rw [fromFile_ok, holds]

/-- A file whose document is something else. -/
theorem fromFile_of_other {feed : Feed} {d : Datum} (holds : load feed = .ok d) (something : d ≠ .null)
    (other : ∀ entries, d ≠ .map entries) :
    fromFile load validate path (.ok feed) = .error (.configNotMapping path) := by
  rw [fromFile_ok, holds]
  cases d with
  | null => exact absurd rfl something
  | map entries => exact absurd rfl (other entries)
  | truth | integer | real | text | binary | moment | list | set => rfl

/-- What fails otherwise fails with just that. -/
theorem fromFile_of_escapes {f : Fault} (h : Escapes load validate path file opened f) :
    fromFile load validate path opened = .error f := by
  cases h with
  | nowhere malformed => rw [fromFile_error, configFault_of_other rfl (by decide)]
  | notUnicode failed stops => rw [fromFile_of_stops stops, configFault_of_other rfl (by decide)]
  | misnamed holds unnamed =>
    rw [fromFile_of_map holds, givenBy_unnamed unnamed]
    rfl
  | misused holds gives argument fails other =>
    rw [fromFile_of_map holds, gives]
    exact fails

/-- What a file escapes with is not meant. -/
theorem not_documented_of_escapes {f : Fault} (h : Escapes load validate path file opened f) :
    ¬ Documented (.error f) := by
  cases h with
  | misused holds gives argument fails other => exact other
  | nowhere | notUnicode | misnamed => exact fun hdocumented => (hdocumented _ rfl).elim nofun nofun

/-- What does not fail otherwise ends by what it holds. -/
theorem ends_of_not_escapes (loads : Loads load) (opens : file.Opens path opened)
    (h : ∀ f, ¬ Escapes load validate path file opened f) :
    Ends load validate path opened (fromFile load validate path opened) := by
  cases opens with
  | malformed nowhere => exact absurd (.nowhere nowhere) (h _)
  | unreadable somewhere system =>
    rw [fromFile_error, configFault_of_isSystem system]
    exact Ends.unopened system
  | @opened content feed somewhere reads =>
    cases hload : load feed with
    | error f =>
      rw [fromFile_of_stops hload]
      rcases loads feed f hload with hmarkup | hfault
      · rw [configFault_of_markup hmarkup]
        exact Ends.malformed hload hmarkup
      · cases reads with
        | whole => cases hfault
        | undecoded begins failed =>
          cases hfault
          exact absurd (.notUnicode failed hload) (h _)
        | interrupted begins system =>
          cases hfault
          rw [configFault_of_isSystem system]
          exact Ends.unread hload system
    | ok d =>
      cases d with
      | null =>
        rw [fromFile_of_null hload]
        exact Ends.empty hload
      | map entries =>
        by_cases hnamed : IsNamed entries
        · obtain ⟨given, hgiven⟩ := givenBy_named hnamed
          rw [fromFile_of_map hload, hgiven]
          exact Ends.given hload hgiven
        · exact absurd (.misnamed hload hnamed) (h _)
      | truth | integer | real | text | binary | moment | list | set =>
        rw [fromFile_of_other hload nofun nofun]
        exact Ends.notMapping hload nofun nofun

/-- Such an end is meant, if no argument of the validation makes it fail. -/
theorem Ends.documented (validates : Validates validate) {o : Except Fault Settings}
    (h : Ends load validate path opened o) (hnone : ∀ f, ¬ Escapes load validate path file opened f) :
    Documented o := by
  cases h with
  | unopened | unread | malformed | notMapping =>
    rintro f ⟨⟩
    exact Or.inl rfl
  | empty => exact fun f hf => Or.inr (validates [] f (List.forall_mem_nil _) hf)
  | @given feed entries settings holds gives =>
    intro f hf
    by_cases hargument : ∃ e ∈ settings, isArgument e.1 = true
    · refine Classical.byContradiction fun hother => hnone f ?_
      exact .misused holds gives hargument hf fun hdocumented => hother (hdocumented f rfl)
    · refine Or.inr (validates settings f ?_ hf)
      intro e he
      exact Bool.eq_false_iff.2 fun hname => hargument ⟨e, he, hname⟩

/-- **How settings of a file are found, and how that fails.** For every path, every file and everything that can come of
opening and reading it, with any loading that fails only with faults of its own or of the reading, and any validation
that refuses settings only as invalid: the end is one that is meant exactly if the file does not fail otherwise. A file
that does fails with just that; any other ends by what it holds. -/
theorem fromFile_ends (loads : Loads load) (validates : Validates validate) (opens : file.Opens path opened) :
    (Documented (fromFile load validate path opened) ↔ ∀ f, ¬ Escapes load validate path file opened f) ∧
      (∀ f, Escapes load validate path file opened f → fromFile load validate path opened = .error f) ∧
      ((∀ f, ¬ Escapes load validate path file opened f) →
        Ends load validate path opened (fromFile load validate path opened)) := by
  refine ⟨⟨?_, fun hnone => (ends_of_not_escapes loads opens hnone).documented validates hnone⟩,
    fun f hf => fromFile_of_escapes hf, ends_of_not_escapes loads opens⟩
  intro hdocumented f hf
  rw [fromFile_of_escapes hf] at hdocumented
  exact not_documented_of_escapes hf hdocumented

/-! ## A loader and a validation -/

/-- A loader that reads everything before it looks for a document, and of a text without one says no more than that. -/
def patientLoad (feed : Feed) : Except Fault Datum :=
  match documentIn feed with
  | .ok d => .ok d
  | .error _ => .error (feed.fault.getD .notADocument)

theorem loads_patientLoad : Loads patientLoad := by
  intro feed f h
  unfold patientLoad at h
  cases hdocument : documentIn feed with
  | ok d =>
    rw [hdocument] at h
    cases h
  | error f' =>
    rw [hdocument] at h
    obtain rfl : feed.fault.getD .notADocument = f := Except.error.inj h
    cases feed.fault with
    | none => exact Or.inl rfl
    | some stopped => exact Or.inr rfl

theorem validates_resolveData (around : Surroundings) : Validates (resolveData around) := by
  intro given f _ hf
  unfold resolveData resolve Schema.accept at hf
  split at hf
  · cases hf
  · cases hf
    rfl

/-- A byte that is no text, and a file that cannot be read: the one fails otherwise, the other as it is meant to. -/
theorem fromFile_ends_strayByte :
    fromFile patientLoad (resolveData default) "config.yaml"
        ((ConfigFile.bytes ⟨#[0xff]⟩).opened "config.yaml") = .error .notUnicode ∧
      Ends patientLoad (resolveData default) "config.yaml" (ConfigFile.unreadable.opened "config.yaml")
        (fromFile patientLoad (resolveData default) "config.yaml" (ConfigFile.unreadable.opened "config.yaml")) ∧
      Documented
        (fromFile patientLoad (resolveData default) "config.yaml" (ConfigFile.unreadable.opened "config.yaml")) := by
  have hends := fun file : ConfigFile => fromFile_ends loads_patientLoad (validates_resolveData default)
    (ConfigFile.opens_opened "config.yaml" file)
  have hsomewhere : isMalformedPath "config.yaml" = false := by decide +kernel
  have hundecoded : String.fromUTF8? ⟨#[0xff]⟩ = none := by decide +kernel
  have hstray : (ConfigFile.bytes ⟨#[0xff]⟩).opened "config.yaml" = .ok ⟨[], some .notUnicode⟩ := by
    unfold ConfigFile.opened Feed.ofBytes
    rw [hsomewhere, if_neg Bool.false_ne_true]
    dsimp only
    rw [hundecoded]
  have hnone : ∀ f, ¬ Escapes patientLoad (resolveData default) "config.yaml" .unreadable
      (ConfigFile.unreadable.opened "config.yaml") f := by
    intro f h
    unfold ConfigFile.opened at h
    rw [hsomewhere, if_neg Bool.false_ne_true] at h
    cases h
  refine ⟨?_, (hends _).2.2 hnone, (hends _).1.2 hnone⟩
  refine (hends _).2.1 _ ?_
  rw [hstray]
  exact Escapes.notUnicode hundecoded rfl

/-- The kind of the fault that a file fails with, if it fails. -/
def failsWith (file : ConfigFile) : Option Category :=
  match fromFile patientLoad (resolveData default) "config.yaml" (file.opened "config.yaml") with
  | .ok _ => none
  | .error f => some f.category

theorem not_documented_of_failsWith (kind : Category) (h : failsWith file = some kind)
    (hkind : kind ≠ .configuration ∧ kind ≠ .validation) :
    ¬ Documented (fromFile patientLoad (resolveData default) "config.yaml" (file.opened "config.yaml")) := by
  intro hdocumented
  unfold failsWith at h
  cases ho : fromFile patientLoad (resolveData default) "config.yaml" (file.opened "config.yaml") with
  | ok s =>
    rw [ho] at h
    cases h
  | error f =>
    rw [ho] at h
    cases h
    exact (hdocumented f ho).elim hkind.1 hkind.2

/-- Bytes that are no text, and a mapping with a number for a key, fail otherwise than it is meant, though nothing is
wrong with loading or validating. -/
theorem fromFile_undocumented :
    Loads patientLoad ∧ Validates (resolveData default) ∧
      ¬ Documented (fromFile patientLoad (resolveData default) "config.yaml"
        ((ConfigFile.bytes ⟨#[0xff]⟩).opened "config.yaml")) ∧
      ¬ Documented (fromFile patientLoad (resolveData default) "config.yaml"
        ((ConfigFile.bytes "1: x\n".toUTF8).opened "config.yaml")) :=
  ⟨loads_patientLoad, validates_resolveData default, not_documented_of_failsWith .encoding (by decide +kernel) (by decide),
    not_documented_of_failsWith .misuse (by decide +kernel) (by decide)⟩

end Settings

end Steward
