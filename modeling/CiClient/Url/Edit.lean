import CiClient.Url.Parser
/-!
# Changing URLs

Setting a path reads it by the rules of the URL's scheme, with `?` and `#` taken as part of it;
an opaque path keeps only controls encoded, and a leading `/` becomes `%2F`. A pushed segment is
one segment whatever it holds: `/` and `%` are encoded (and `\` for special schemes), and the
names `.` and `..` push nothing. Both edit the path text the way `Url.readPath` reads it, so a
pushed segment that still reads as `..` once tabs and line breaks are dropped removes the one
before it.
-/

namespace CiClient.Url

/-- The URL with its path set from a text. -/
def setPath (u : Url) (text : String) : Url :=
  let cs := text.toList.filter (!isDropped ·)
  if u.cannotBeABase then
    let (lead, cs) := match cs with
      | '/' :: rest => ("%2F", rest)
      | _ => ("", cs)
    { u with path := lead ++ encode controlsSet (String.ofList cs) }
  else
    let rules : PathRules := ⟨u.isSpecial, u.scheme = "file", .whole⟩
    { u with path := String.ofList (readPathStart rules u.authorityEndsInSlash cs).1 }

/-- The URL without the final `/` of its path, when the path is longer than `/`. -/
def popIfEmpty (u : Url) : Url :=
  if u.path.length > 1 && u.path.endsWith "/" then { u with path := String.ofList u.path.toList.dropLast }
  else u

/-- The URL with one more path segment, written after a `/` unless the path is just `/`. -/
def pushSegment (u : Url) (segment : String) : Url :=
  if segment = "." || segment = ".." then u else
  let path := u.path.toList
  let path := if path.length > 1 || path.isEmpty then path ++ ['/'] else path
  let rules : PathRules := ⟨u.isSpecial, u.scheme = "file", .segment⟩
  let (path, _, _) := readPath rules path (segment.toList.filter (!isDropped ·))
  { u with path := String.ofList path }

/-- The URL without query, fragment and credentials, as errors show it. -/
def sanitize (u : Url) : Url :=
  { u with query := none, fragment := none, username := "", password := none }

end CiClient.Url
