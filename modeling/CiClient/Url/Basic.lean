import CiClient.Url.Host
import CiClient.Url.Path
/-!
# URLs

A URL as the URL standard describes it: a scheme, optional credentials, an optional host and
port, a path, and optional query and fragment. The path is kept as the text it is written as:
a hierarchical path starts with `/` (or is empty, for a scheme that is not special); a URL
without a host whose path does not start with `/` (`mailto:x`) has an opaque path and cannot be
a base for relative references.

The host is `some (.domain "")` for the empty host of `file:///x` or `foo://`: such a URL still
writes `//`. A default port is never stored.
-/

namespace CiClient.Url

/-- The schemes with a host and a path always: they follow stricter rules. -/
def isSpecialScheme (scheme : String) : Bool :=
  ["http", "https", "ws", "wss", "ftp", "file"].contains scheme

/-- The port a special scheme uses when none is written. -/
def defaultPort : String → Option Nat
  | "http" => some 80
  | "https" => some 443
  | "ws" => some 80
  | "wss" => some 443
  | "ftp" => some 21
  | _ => none

end CiClient.Url

namespace CiClient

/-- A URL. -/
structure Url where
  scheme : String
  username : String
  password : Option String
  host : Option Url.Host
  port : Option Nat
  /-- The path as it is written. -/
  path : String
  query : Option String
  fragment : Option String
  deriving DecidableEq, Repr

namespace Url

/-- Whether the URL's scheme is special. -/
def isSpecial (u : Url) : Bool := isSpecialScheme u.scheme

/-- Whether the URL has an opaque path, so that it cannot serve as a base: no host, and a path
that does not start with `/`. -/
def cannotBeABase (u : Url) : Bool := u.host.isNone && !u.path.startsWith "/"

/-- Whether the text before the path ends with `/`: the `file://` of a file URL with an empty
host. -/
def authorityEndsInSlash (u : Url) : Bool := u.host = some (.domain "")

/-- The first segment of a hierarchical path: the text between its first and second `/`. -/
def firstSegment (u : Url) : String :=
  String.ofList ((u.path.toList.drop 1).takeWhile (· ≠ '/'))

/-- The written form of the credentials, with the `@` after them; empty without any. -/
def userinfoText (u : Url) : String :=
  match u.password with
  | some p => u.username ++ ":" ++ p ++ "@"
  | none => if u.username.isEmpty then "" else u.username ++ "@"

/-- Whether the path would read as an authority without a marker: no host, and a path that starts
with `//`. Such a path is written after `/.`. -/
def needsPathMarker (u : Url) : Bool := u.host.isNone && u.path.startsWith "//"

/-- The written form of a URL. -/
def render (u : Url) : String :=
  let authority := match u.host with
    | some h =>
      "//" ++ u.userinfoText ++ h.text ++
        (match u.port with | some p => ":" ++ toString p | none => "")
    | none => if u.needsPathMarker then "/." else ""
  let query := match u.query with | some q => "?" ++ q | none => ""
  let fragment := match u.fragment with | some f => "#" ++ f | none => ""
  u.scheme ++ ":" ++ authority ++ u.path ++ query ++ fragment

end Url

end CiClient
