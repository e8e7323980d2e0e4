/-!
# Request methods

GET and POST are the methods the client itself uses; any other method is kept by its name.
-/

namespace CiClient.Http

/-- A request method. -/
inductive Method where
  | get
  | post
  | other (name : String)
  deriving DecidableEq, Repr, Inhabited

/-- The method of a name; names are case-sensitive. -/
def Method.ofName (s : String) : Method :=
  if s = "GET" then .get else if s = "POST" then .post else .other s

/-- The name of a method. -/
def Method.name : Method → String
  | .get => "GET"
  | .post => "POST"
  | .other s => s

end CiClient.Http
