import CiClient.Job.Name
/-!
# Request paths of jobs and builds

The paths of the server's job endpoints, relative to a service's base URL. A name goes into a
path as it is, after it has been checked (`Job.pathIssue?`, or `Job.queryIssue?` for the values
of the copy query), so a name that would change the structure of the path never reaches one.
-/

namespace CiClient.Job

/-- Whether a job is to be made buildable or not. -/
inductive Buildable where
  | enable
  | disable
  deriving DecidableEq, Repr

/-- The last segment of the path that sets it. -/
def Buildable.verb : Buildable → String
  | .enable => "enable"
  | .disable => "disable"

/-- The request paths of the job endpoints. -/
inductive Endpoint where
  /-- The root document with the job list. -/
  | root
  /-- A job document. -/
  | job (name : String)
  /-- A build document. -/
  | build (name : String) (number : Nat)
  /-- Making a job buildable or not. -/
  | buildable (name : String) (state : Buildable)
  /-- Creating `dst` as a copy of `src`. -/
  | copy (src dst : String)
  deriving DecidableEq, Repr

/-- The path text of an endpoint. -/
def Endpoint.path : Endpoint → String
  | .root => "api/json"
  | .job n => "job/" ++ n ++ "/api/json"
  | .build n k => "job/" ++ n ++ "/" ++ toString k ++ "/api/json"
  | .buildable n s => "job/" ++ n ++ "/" ++ s.verb
  | .copy src dst => "createItem?name=" ++ dst ++ "&mode=copy&from=" ++ src

/-- A refused name with the reason. -/
structure NameRefusal where
  name : String
  issue : NameIssue
  deriving DecidableEq, Repr

/-- A name checked for use in a path. -/
def checkPathName (name : String) : Except NameRefusal String :=
  match pathIssue? name with
  | some i => .error ⟨name, i⟩
  | none => .ok name

/-- A name checked for use as a query value. -/
def checkQueryName (name : String) : Except NameRefusal String :=
  match queryIssue? name with
  | some i => .error ⟨name, i⟩
  | none => .ok name

/-- The endpoint of a job document, its name checked. -/
def jobPath (name : String) : Except NameRefusal Endpoint := return .job (← checkPathName name)

/-- The endpoint of a build document, its name checked. -/
def buildPath (name : String) (number : Nat) : Except NameRefusal Endpoint :=
  return .build (← checkPathName name) number

/-- The endpoint that makes a job buildable or not, its name checked. -/
def buildablePath (name : String) (state : Buildable) : Except NameRefusal Endpoint :=
  return .buildable (← checkPathName name) state

/-- The endpoint that copies a job: the source is checked before the destination. -/
def copyPath (src dst : String) : Except NameRefusal Endpoint := do
  let s ← checkQueryName src
  let d ← checkQueryName dst
  return .copy s d

end CiClient.Job
