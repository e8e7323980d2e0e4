import CiClient.Url.Percent
/-!
# Paths as text

A hierarchical path is kept as the text it is written as, a `/` before each segment, and it is
read by editing that text, the way the URL library that this client's transport uses does it.
Reading a segment appends its encoded text; a `.` segment leaves the path as it was, with a
final `/`; a `..` segment removes the `/` before it and then the last segment.

The edits work on text, not on a list of segments, and two of them look at the text around the
segment: the `/` before a `..` stays when the segment before it looks like a drive letter (`C:`,
`c|`), whatever the scheme, so that `..` then removes nothing; and a file path keeps a last
segment that is a drive letter. A file path also loses every empty segment at its start.

`PathMode` says what is being read: a path inside a URL (ended by `?` and `#`), a whole path
that is set on its own (`?` and `#` belong to it), or one segment pushed onto a path (`/` and
`\` belong to it too, and are encoded).
-/

namespace CiClient.Url

/-- A drive letter: an ASCII letter and `:` or `|`. -/
def isDriveLetter : List Char → Bool
  | [a, b] => a.isAlpha && (b = ':' || b = '|')
  | _ => false

/-- A drive letter written with `:`. -/
def isNormalizedDriveLetter : List Char → Bool
  | [a, b] => a.isAlpha && b = ':'
  | _ => false

/-- Whether a text starts with a drive letter that is a whole segment: the two characters alone,
or followed by `/`, `\`, `?` or `#`. -/
def startsWithDriveLetter : List Char → Bool
  | [a, b] => isDriveLetter [a, b]
  | a :: b :: c :: _ => isDriveLetter [a, b] && "/\\?#".toList.contains c
  | _ => false

/-- Whether a text is a separator followed by a drive letter segment, as `/C:/x` is. -/
def slashThenDriveLetter : List Char → Bool
  | c :: rest => "/\\?#".toList.contains c && startsWithDriveLetter rest
  | [] => false

/-- Whether a segment, as written, means the parent: `..` with either dot possibly `%2e`. -/
def isDoubleDot (seg : List Char) : Bool :=
  ["..", ".%2e", "%2e.", "%2e%2e"].contains (String.ofList (seg.map Char.toLower))

/-- Whether a segment, as written, means the same directory: `.` or `%2e`. -/
def isSingleDot (seg : List Char) : Bool :=
  [".", "%2e"].contains (String.ofList (seg.map Char.toLower))

/-- What a path text is read as. -/
inductive PathMode where
  /-- A path inside a URL: `?` and `#` end it. -/
  | url
  /-- A whole path set on its own: `?` and `#` belong to it. -/
  | whole
  /-- One segment pushed onto a path: separators belong to it as well. -/
  | segment
  deriving DecidableEq, Repr

/-- The rules a path is read by. -/
structure PathRules where
  /-- The scheme is special: `\` separates segments too. -/
  special : Bool
  /-- The scheme is `file`. -/
  file : Bool
  mode : PathMode
  deriving DecidableEq, Repr

/-- The set a character of a segment is encoded with. -/
def PathRules.encodeSet (r : PathRules) : EncodeSet :=
  match r.mode with
  | .segment => if r.special then specialSegmentSet else segmentSet
  | _ => pathSet

/-- Whether a character ends a segment under the rules. -/
def PathRules.isSeparator (r : PathRules) (c : Char) : Bool :=
  r.mode != .segment && (c = '/' || (r.special && c = '\\'))

/-- Whether a character ends the whole path under the rules. -/
def PathRules.endsPath (r : PathRules) (c : Char) : Bool :=
  r.mode = .url && (c = '?' || c = '#')

/-- The index of the last `/` of a text. -/
def lastSlash (cs : List Char) : Option Nat :=
  (cs.zipIdx.filter (fun p => p.1 = '/')).getLast?.map (·.2)

/-- Whether the final `/` of a path may be removed before a `..` shortens it: the path has
another `/` before it, and the segment after that one is not a drive letter. -/
def slashRemovable (path : List Char) : Bool :=
  match lastSlash path.dropLast with
  | none => false
  | some i => !slashThenDriveLetter (path.drop i)

/-- The path without the text after its last `/`; a file path keeps a last segment that is a
normalized drive letter. -/
def popPath (file : Bool) (path : List Char) : List Char :=
  match lastSlash path with
  | none => path
  | some i => if file && isNormalizedDriveLetter (path.drop (i + 1)) then path else path.take (i + 1)

/-- The path with its last segment removed, unless it is empty. -/
def shortenPath (file : Bool) (path : List Char) : List Char :=
  if file && isNormalizedDriveLetter path then path else popPath file path

/-- Reads one segment: its encoded text (reversed onto `acc`), whether a separator ended it, and
the input after that separator. -/
def readSegment (r : PathRules) (acc : List Char) : List Char → List Char × Bool × List Char
  | [] => (acc.reverse, false, [])
  | c :: cs =>
    if r.isSeparator c then (acc.reverse, true, cs)
    else if r.endsPath c then (acc.reverse, false, c :: cs)
    else readSegment r ((encodeChar r.encodeSet c).toList.reverse ++ acc) cs

/-- Appends one segment that was read to a path, with the `/` after it when a separator ended
it. Returns the path and whether the segment was a drive letter that took the place of a file
URL's host. A segment that is not empty and follows a file path that is a bare drive letter
(`/C:`) gets a `/` before it. -/
def addSegment (file : Bool) (path seg : List Char) (slash : Bool) : List Char × Bool :=
  let endsInSlash (p : List Char) := p.getLast? = some '/'
  let path :=
    if file && !seg.isEmpty && isNormalizedDriveLetter (path.drop 1) then path ++ ['/'] else path
  if isDoubleDot seg then
    let path := if endsInSlash path && slashRemovable path then path.dropLast else path
    let path := shortenPath file path
    (if slash && !endsInSlash path then path ++ ['/'] else path, false)
  else if isSingleDot seg then
    (if endsInSlash path then path else path ++ ['/'], false)
  else if file && path.length = 1 && isDriveLetter seg then
    (path ++ seg.take 1 ++ [':'] ++ (if slash then ['/'] else []), true)
  else (path ++ seg ++ (if slash then ['/'] else []), false)

/-- Reads segments onto a path until the input ends or, in a URL, a `?` or `#` comes. Returns
the path, the input after it, and whether a drive letter took the place of a file URL's host.
A file path then loses the empty segments at its start. The fuel bounds the segments read. -/
def readPath (r : PathRules) (path input : List Char) : List Char × List Char × Bool :=
  let rec go : Nat → List Char → List Char → Bool → List Char × List Char × Bool
    | 0, path, input, dropped => (path, input, dropped)
    | fuel + 1, path, input, dropped =>
      let (seg, slash, rest) := readSegment r [] input
      let (path, drive) := addSegment r.file path seg slash
      if slash then go fuel path rest (dropped || drive) else (path, rest, dropped || drive)
  let (path, rest, dropped) := go (input.length + 1) path input false
  ((if r.file then '/' :: path.dropWhile (· = '/') else path), rest, dropped)

/-- Reads the path that follows an authority, or a whole path that is set. A special path always
starts with `/`, which is written unless the text before the path already ends with one
(`prefixSlash`), and a first `/` or `\` of the input is that one. Any other path is empty when
the input is, or starts with `?` or `#`, and has a `/` written before a first segment that does
not start with one. -/
def readPathStart (r : PathRules) (prefixSlash : Bool) (input : List Char) :
    List Char × List Char × Bool :=
  if r.special then
    if prefixSlash then readPath r [] input
    else match input with
      | c :: rest => if c = '/' || c = '\\' then readPath r ['/'] rest else readPath r ['/'] input
      | [] => readPath r ['/'] []
  else match input with
    | [] => readPath r [] []
    | c :: _ =>
      if c = '?' || c = '#' then ([], input, false)
      else if c = '/' then readPath r [] input
      else readPath r ['/'] input

end CiClient.Url
