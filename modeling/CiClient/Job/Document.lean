import CiClient.Json.Decode
/-!
# Job documents

The documents the server sends about jobs: the job list of the root document, a job with its
build references, and a build reference. Only the fields the client acts on are typed; every
other field of a job, job summary or build reference is kept unchanged in `extra`.

Reading: a job, job summary or build reference must be an object; `builds` defaults to the empty
list and `firstBuild`/`lastBuild` to none (`null` is none as well); a build number is an
unsigned 64-bit integer; `url` and `color` may be absent or `null`. The root document must hold
`jobs`; its other fields are skipped unread, and it may also be given as an array holding the job
list. Writing gives the typed fields (leaving out an absent `url` or `color`) and then the
`extra` fields.
-/

namespace CiClient.Job

open CiClient.Json
open CiClient.Json.Decode

/-- A reference to a build inside a job document. -/
structure BuildRef where
  number : Nat
  url : Option String
  /-- The other fields, sorted by key. -/
  extra : List (String × Value)
  deriving Repr

end CiClient.Job

namespace CiClient

/-- A job document. -/
structure Job where
  /-- Newest first. -/
  builds : List Job.BuildRef
  firstBuild : Option Job.BuildRef
  lastBuild : Option Job.BuildRef
  extra : List (String × Json.Value)
  deriving Repr

end CiClient

namespace CiClient.Job

open CiClient.Json
open CiClient.Json.Decode

/-- A job entry of the root document. -/
structure JobSummary where
  name : String
  url : Option String
  color : Option String
  extra : List (String × Value)
  deriving Repr

/-- Which build reference of a job to follow. -/
inductive BuildSelector where
  | first
  | last
  deriving DecidableEq, Repr

/-- The field of the job document that holds the selected reference. -/
def BuildSelector.field : BuildSelector → String
  | .first => "firstBuild"
  | .last => "lastBuild"

/-- The selected build reference of a job. -/
def buildRef (j : Job) : BuildSelector → Option BuildRef
  | .first => j.firstBuild
  | .last => j.lastBuild

/-- Reads a field that is not typed: any value, kept under its key. -/
def keepExtra (fuel : Nat) (extra : List (String × Value)) (k : String) :
    Reader (List (String × Value)) := do
  Reader.colon
  let v ← Reader.value fuel
  return insertField k v extra

/-- Fields of a build reference read so far. -/
structure BuildRefFields where
  number : Option Nat := none
  url : Option (Option String) := none
  extra : List (String × Value) := []

/-- Reads a build reference. -/
def BuildRef.read (fuel : Nat) : Reader BuildRef :=
  record "struct BuildRef" do
    let st ← entries (fun (st : BuildRefFields) k =>
      if k = "number" then do
        return { st with number := some (← once "number" st.number u64) }
      else if k = "url" then do
        return { st with url := some (← once "url" st.url (option string)) }
      else do
        return { st with extra := ← keepExtra fuel st.extra k }) fuel true {}
    match st.number with
    | none => missing (.missingField "number")
    | some n => return ⟨n, st.url.getD none, st.extra⟩

/-- Fields of a job read so far. -/
structure JobFields where
  builds : Option (List BuildRef) := none
  firstBuild : Option (Option BuildRef) := none
  lastBuild : Option (Option BuildRef) := none
  extra : List (String × Value) := []

/-- Reads a job document. -/
def read (fuel : Nat) : Reader Job :=
  record "struct Job" do
    let st ← entries (fun (st : JobFields) k =>
      if k = "builds" then do
        return { st with builds := some (← once "builds" st.builds (list (BuildRef.read fuel) fuel)) }
      else if k = "firstBuild" then do
        return { st with
          firstBuild := some (← once "firstBuild" st.firstBuild (option (BuildRef.read fuel))) }
      else if k = "lastBuild" then do
        return { st with
          lastBuild := some (← once "lastBuild" st.lastBuild (option (BuildRef.read fuel))) }
      else do
        return { st with extra := ← keepExtra fuel st.extra k }) fuel true {}
    return ⟨st.builds.getD [], st.firstBuild.getD none, st.lastBuild.getD none, st.extra⟩

/-- Fields of a job summary read so far. -/
structure JobSummaryFields where
  name : Option String := none
  url : Option (Option String) := none
  color : Option (Option String) := none
  extra : List (String × Value) := []

/-- Reads a job summary. -/
def JobSummary.read (fuel : Nat) : Reader JobSummary :=
  record "struct JobSummary" do
    let st ← entries (fun (st : JobSummaryFields) k =>
      if k = "name" then do
        return { st with name := some (← once "name" st.name string) }
      else if k = "url" then do
        return { st with url := some (← once "url" st.url (option string)) }
      else if k = "color" then do
        return { st with color := some (← once "color" st.color (option string)) }
      else do
        return { st with extra := ← keepExtra fuel st.extra k }) fuel true {}
    match st.name with
    | none => missing (.missingField "name")
    | some n => return ⟨n, st.url.getD none, st.color.getD none, st.extra⟩

/-- Reads the root document and gives its job list. -/
def readJobList (fuel : Nat) : Reader (List JobSummary) :=
  let jobs := list (JobSummary.read fuel) fuel
  struct "struct RootDocument"
    (do
      let st ← entries (fun (st : Option (List JobSummary)) k =>
        if k = "jobs" then do return some (← once "jobs" st jobs)
        else do Reader.colon; Reader.skip fuel; return st) fuel true none
      match st with
      | none => missing (.missingField "jobs")
      | some l => return l)
    (do
      match ← element jobs true with
      | none => missing (.invalidLength 0 "struct RootDocument with 1 element")
      | some l => return l)

/-- The value of a build reference: `number`, `url` when present, then the other fields. -/
def BuildRef.toValue (b : BuildRef) : Value :=
  let base := Value.object b.extra
  let base := base.insert "number" (Value.nat b.number)
  match b.url with
  | some u => base.insert "url" (.string u)
  | none => base

/-- The value of an optional build reference: `null` for none. -/
def optionalBuild : Option BuildRef → Value
  | some b => b.toValue
  | none => .null

/-- The value of a job document. -/
def toValue (j : Job) : Value :=
  ((Value.object j.extra).insert "builds" (.array (j.builds.map BuildRef.toValue))
    |>.insert "firstBuild" (optionalBuild j.firstBuild)).insert "lastBuild" (optionalBuild j.lastBuild)

/-- The value of a job summary: `name`, `url` and `color` when present, then the other fields. -/
def JobSummary.toValue (s : JobSummary) : Value :=
  let base := (Value.object s.extra).insert "name" (.string s.name)
  let base := match s.url with
    | some u => base.insert "url" (.string u)
    | none => base
  match s.color with
  | some c => base.insert "color" (.string c)
  | none => base

end CiClient.Job
