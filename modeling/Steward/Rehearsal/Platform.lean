import Steward.Platform.Inquiry
import Steward.Workload.Schema

/-!
# A platform that follows a script

To rehearse what the library does, a script takes the place of the platform. It says for each call, by name and
first argument, what is answered: a payload, nothing, or a fault. A cue may hold several answers for successive
calls; the last one is given again and again.

## Contents

* `Cue`, `Script` — what is answered;
* `Script.take` — the answer to a call, and the script after it;
* `Rehearsal` — a script, and what was called and reported under it;
* `Rehearsal.answer` — the handler of inquiries.
-/

namespace Steward

/-- An answer: a fault, or a payload; null is nothing. -/
inductive Cue where
  | fault (r : Report)
  | payload (v : Value)
  deriving Inhabited

/-- What a platform answers: to calls by name and first argument, and as its applications or their pages. -/
structure Script where
  cues : List ((String × String) × List Cue)
  apps : List Value
  pages : Option (List Cue)
  deriving Inhabited

namespace Script

/-- The first argument that stands for every other one. -/
def anyArgument : String := "*"

/-- Answers without the first, unless it is the last one. -/
def later : List Cue → List Cue
  | _ :: next :: rest => next :: rest
  | cues => cues

/-- The answer to a call, if the script gives one, and the script after it. -/
def take (s : Script) (name argument : String) : Option Cue × Script :=
  let key := if Keyed.holds s.cues (name, argument) then (name, argument) else (name, anyArgument)
  match s.cues.lookup key with
  | none | some [] => (none, s)
  | some (cue :: rest) => (some cue, { s with cues := Keyed.put s.cues key (later (cue :: rest)) })

/-- A script with other answers. Those to other calls, and applications and pages that are not given, stay. -/
def amended (s : Script) (cues : List ((String × String) × List Cue)) (apps : Option (List Value))
    (pages : Option (List Cue)) : Script :=
  { cues := cues.foldl (fun all c => Keyed.put all c.1 c.2) s.cues
    apps := apps.getD s.apps
    pages := pages.or s.pages }

end Script

/-! ## Arguments -/

/-- The first argument of a call, as text. -/
def Call.subject : Call → String
  | listing page .. => (page.map Decimal.text).getD ""
  | application id | environment id | packages id | instances id | deleteApplication id | space id | process id
  | processState id => id
  | createApplication name .. => name
  | droplet id | createPackage id | uploadBits id .. | downloadBits id | package id | createBuild id | build id
  | setDroplet id _ | start id | stop id | restage id | deleteInstance id _ | mapRoute id _
  | unmapRoute id _ => id.getD ""

/-! ## Rehearsals -/

/-- A script, and what was called and reported under it, the latest first. -/
structure Rehearsal where
  script : Script
  calls : List Call
  events : List Event
  /-- The reading of the wall clock. -/
  clock : Number
  deriving Inhabited

namespace Rehearsal

/-- The start of a rehearsal. -/
def ofScript (script : Script) (clock : Number) : Rehearsal :=
  ⟨script, [], [], clock⟩

/-- Whether a payload carries an identifier. -/
def hasGuid (id : String) : Value → Bool
  | .map es => match Value.lookup es "guid" with
    | some (.text guid) => guid = id
    | _ => false
  | _ => false

/-- A payload of a kind, or nothing. -/
def accepted (s : Schema α) : Option Value → Except Fault (Option α)
  | none | some .null => .ok none
  | some v => (s.accept v).map some

/-- Instance reports by key. -/
def acceptedReports : Option Value → Except Fault (Option (Keyed.Map String InstanceReport))
  | none | some .null => .ok none
  | some (.map es) =>
    (es.mapM fun e => (InstanceReport.schema.accept e.2).map fun r => (e.1, r)).map fun reports => some (.ofList reports)
  | some _ => .error (.invalid InstanceReport.schema.title [⟨[], .notRecord⟩])

/-- Bytes, or nothing. -/
def acceptedBytes : Option Value → Except Fault (Option ByteArray)
  | some (.bytes bs) => .ok (some bs)
  | some (.text s) => .ok (some s.toUTF8)
  | _ => .ok none

/-- Text, or nothing. -/
def acceptedText : Option Value → Except Fault (Option String)
  | some (.text s) => .ok (some s)
  | _ => .ok none

/-- The entry of a list before which there are so many. -/
def nth? (items : List α) (i : Int) : Option α :=
  if i < 0 then none else items[i.toNat]?

/-- One page of the applications that have one of some names and are in one of some spaces. -/
def listed (apps : List AppRecord) (page size : Int) (names : List String) (spaces : String) :
    Page AppRecord :=
  let ids := (Text.splitOn ',' spaces.toList).map String.ofList
  let wanted := apps.filter fun a =>
    (names.isEmpty || names.contains a.name) && (spaces = "" || a.spaceGuid.any ids.contains)
  let count : Int := wanted.length
  { totalResults := count
    totalPages := max 1 (-((-count).fdiv size))
    resources := (wanted.drop ((page - 1) * size).toNat).take size.toNat }

/-- The answer to a listing. -/
def answerListing (s : Script) (page size : Int) (names : Option (List String)) (spaces : Option String) :
    Except Fault (Option (Page AppRecord)) :=
  match s.pages with
  | some pages =>
    match nth? pages (page - 1) with
    | some (.fault r) => .error (.reported r)
    | some (.payload v) => accepted Page.ofApplications (some v)
    | none => .ok none
  | none => do
    let apps ← s.apps.mapM AppRecord.schema.accept
    return some (listed apps page size (names.getD []) (spaces.getD ""))

/-- The answer to a call for which the script gives no fault, and the script after it. -/
def answerCall (s : Script) : (c : Call) → (payload : Option Value) → Except Fault c.Answer × Script
  | .listing page size names spaces, _ => (answerListing s (page.getD 1) size names spaces, s)
  | .application id, none => (accepted AppRecord.schema (s.apps.find? (hasGuid id)), s)
  | .application _, some v => (accepted AppRecord.schema (some v), s)
  | .environment _, v => (accepted Environment.schema v, s)
  | .packages _, v => (accepted Page.ofPackages v, s)
  | .droplet _, v => (accepted DropletRecord.schema v, s)
  | .instances _, v => (acceptedReports v, s)
  | .createApplication .., v => (accepted AppRecord.schema v, s)
  | .deleteApplication id, _ => (.ok (), { s with apps := s.apps.filter fun v => !hasGuid id v })
  | .createPackage _, v | .uploadBits .., v | .package _, v => (accepted Package.schema v, s)
  | .downloadBits _, v => (acceptedBytes v, s)
  | .createBuild _, v | .build _, v => (accepted Build.schema v, s)
  | .setDroplet .., _ | .start _, _ | .stop _, _ | .restage _, _ | .deleteInstance .., _ | .mapRoute .., _
  | .unmapRoute .., _ => (.ok (), s)
  | .space _, v => (accepted Space.schema v, s)
  | .process _, v => (accepted ProcessInfo.schema v, s)
  | .processState _, v => (acceptedText v, s)

/-- A call: it is noted, then answered. -/
def call (c : Call) (r : Rehearsal) : Except Fault c.Answer × Rehearsal :=
  let (cue, script) := r.script.take c.name c.subject
  let r := { r with calls := c :: r.calls, script }
  match cue with
  | some (.fault f) => (.error (.reported f), r)
  | some (.payload v) =>
    let (answer, script) := answerCall script c (some v)
    (answer, { r with script })
  | none =>
    let (answer, script) := answerCall script c none
    (answer, { r with script })

/-- An event, noted. -/
def note (e : Event) (r : Rehearsal) : Rehearsal :=
  { r with events := e :: r.events }

/-- Answers inquiries. -/
def answer : Handler Inquiry Rehearsal
  | .call c, r => r.call c
  | .report e, r => ((), r.note e)
  | .clock, r => (r.clock, r)

/-- A rehearsal whose calls and events are forgotten. -/
def cleared (r : Rehearsal) : Rehearsal :=
  { r with calls := [], events := [] }

end Rehearsal

end Steward
