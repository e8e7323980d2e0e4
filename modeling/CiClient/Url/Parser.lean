import CiClient.Url.Basic
/-!
# Reading URLs

`Url.parse` reads a URL, relative to an optional base, by the URL standard's rules as the URL
library of the transport implements them: the input is trimmed of controls and spaces at both
ends and loses every tab and line break; a scheme is letters, digits, `+`, `-` and `.`, starting
with a letter and ending at `:`; special schemes take `\` for `/`; paths are read as text by
`Url.readPath`.

A reference without a scheme is resolved against the base: an empty one gives the base without
its fragment, `?` and `#` replace the query or the fragment, two slashes (or backslashes) start a
new authority, one a new path, and anything else replaces the last segment of the base's path.
-/

namespace CiClient.Url

/-- The path rules of a scheme, for a URL being read. -/
def rulesOf (scheme : String) : PathRules :=
  ⟨isSpecialScheme scheme, scheme = "file", .url⟩

/-- Reads `?query` and `#fragment` from what follows the path. -/
def readQueryFragment (special : Bool) (cs : List Char) : Option String × Option String :=
  let fragmentOf (f : List Char) := some (encode fragmentSet (String.ofList f))
  match cs with
  | '?' :: rest =>
    let q := rest.takeWhile (· ≠ '#')
    let query := some (encode (if special then specialQuerySet else querySet) (String.ofList q))
    match rest.dropWhile (· ≠ '#') with
    | _ :: f => (query, fragmentOf f)
    | [] => (query, none)
  | '#' :: f => (none, fragmentOf f)
  | _ => (none, none)

/-- The index of the last `@` among the first `n` characters. -/
def lastAt (cs : List Char) : Option Nat :=
  (cs.zipIdx.filter (fun p => p.1 = '@')).getLast?.map (·.2)

/-- Credentials from the text before the last `@`: the user name up to the first `:`, and a
password if anything follows that `:`. -/
def credentials (info : List Char) : String × Option String :=
  let user := info.takeWhile (· ≠ ':')
  match info.dropWhile (· ≠ ':') with
  | _ :: pw@(_ :: _) =>
    (encode userinfoSet (String.ofList user), some (encode userinfoSet (String.ofList pw)))
  | _ => (encode userinfoSet (String.ofList user), none)

/-- The length of a host's text: it ends at a `:` outside brackets, at `/`, `?`, `#`, or at `\`
for a special scheme. -/
def hostLength (special : Bool) : Bool → List Char → Nat
  | _, [] => 0
  | inside, c :: cs =>
    if (c = ':' && !inside) || c = '/' || c = '?' || c = '#' || (special && c = '\\') then 0
    else if c = '[' then hostLength special true cs + 1
    else if c = ']' then hostLength special false cs + 1
    else hostLength special inside cs + 1

/-- Reads a port after its `:`: digits up to 65535, then the end of the authority. A scheme's
default port is dropped. -/
def readPort (scheme : String) (cs : List Char) : Except ParseError (Option Nat × List Char) := do
  let digits := cs.takeWhile Char.isDigit
  let rest := cs.dropWhile Char.isDigit
  let value : Nat := digits.foldl (fun a c => a * 10 + (c.toNat - 48)) 0
  if value > 65535 then throw .invalidPort
  match rest with
  | c :: _ => if !"/\\?#".toList.contains c then throw .invalidPort
  | [] => pure ()
  if digits.isEmpty || defaultPort scheme = some value then return (none, rest)
  return (some value, rest)

/-- The parts of an authority. -/
structure Authority where
  username : String
  password : Option String
  host : Host
  port : Option Nat

/-- Reads an authority after `//`: credentials before the last `@`, a host, a port. -/
def readAuthority (scheme : String) (cs : List Char) :
    Except ParseError (Authority × List Char) := do
  let special := isSpecialScheme scheme
  let isEnd (c : Char) := c = '/' || c = '?' || c = '#' || (special && c = '\\')
  let scope := cs.takeWhile (fun c => !isEnd c)
  let (user, pw, rest) ← match lastAt scope with
    | none => pure ("", none, cs)
    | some 0 =>
      match cs.drop 1 with
      | c :: _ => if isEnd c then throw ParseError.emptyHost else pure ("", none, cs.drop 1)
      | [] => pure ("", none, [])
    | some k =>
      let (u, p) := credentials (cs.take k)
      pure (u, p, cs.drop (k + 1))
  let n := hostLength special false rest
  let hostText := String.ofList (rest.take n)
  let rest := rest.drop n
  if special && hostText.isEmpty then throw .emptyHost
  let host ← if special then parseSpecialHost hostText else parseOpaqueHost hostText
  if host = .domain "" && rest.head? = some ':' then throw .emptyHost
  let (port, rest) ← match rest with
    | ':' :: more => readPort scheme more
    | _ => pure (none, rest)
  if host = .domain "" && (!user.isEmpty || pw.isSome) then throw .emptyHost
  return (⟨user, pw, host, port⟩, rest)

/-- A URL with an authority and what follows it. -/
def withAuthority (scheme : String) (cs : List Char) : Except ParseError Url := do
  let (auth, rest) ← readAuthority scheme cs
  let (path, rest, _) := readPathStart (rulesOf scheme) false rest
  let (query, fragment) := readQueryFragment (isSpecialScheme scheme) rest
  return ⟨scheme, auth.username, auth.password, some auth.host, auth.port, String.ofList path,
    query, fragment⟩

/-- The base with a new path and what follows it. -/
def withPathFrom (b : Url) (path : List Char) (rest : List Char) : Url :=
  let (query, fragment) := readQueryFragment b.isSpecial rest
  { b with path := String.ofList path, query, fragment }

/-- The base with a new fragment. -/
def withFragment (b : Url) (f : List Char) : Url :=
  { b with fragment := some (encode fragmentSet (String.ofList f)) }

/-- The number of slashes and backslashes a text starts with. -/
def leadingSlashes (cs : List Char) : Nat := (cs.takeWhile (fun c => c = '/' || c = '\\')).length

/-- Resolves a reference without a scheme against a base that is not a file URL. -/
def resolveRelative (b : Url) (cs : List Char) : Except ParseError Url :=
  let rules := rulesOf b.scheme
  match cs with
  | [] => pure { b with fragment := none }
  | '?' :: _ =>
    let (query, fragment) := readQueryFragment b.isSpecial cs
    pure { b with query, fragment }
  | '#' :: f => pure (b.withFragment f)
  | c :: rest =>
    if c = '/' || c = '\\' then
      let slashes := leadingSlashes cs
      if slashes ≥ 2 then
        match cs with
        | '/' :: '/' :: after => withAuthority b.scheme after
        | _ => withAuthority b.scheme (cs.drop slashes)
      else
        let (path, rest, _) := readPath rules ['/'] rest
        pure (b.withPathFrom path rest)
    else
      let path := popPath false b.path.toList
      let path := if path.isEmpty then ['/'] else path
      let (path, rest, _) := readPath rules path cs
      pure (b.withPathFrom path rest)

/-- A file URL with a host (`.domain ""` for none), a path, and what follows the path. -/
def fileUrl (host : Host) (path : List Char) (rest : List Char) : Url :=
  let (query, fragment) := readQueryFragment true rest
  ⟨"file", "", none, some host, none, String.ofList path, query, fragment⟩

/-- Reads a file URL after its scheme, or a reference against a file base. -/
def readFile (cs : List Char) (base : Option Url) : Except ParseError Url := do
  let rules := rulesOf "file"
  let isSlash (c : Char) := c = '/' || c = '\\'
  match cs with
  | c :: rest =>
    if isSlash c then
      match rest with
      | c2 :: rest2 =>
        if isSlash c2 then
          -- a host up to the next slash, `?` or `#`; a drive letter there is no host
          let hostText := rest2.takeWhile (fun c => !(isSlash c || c = '?' || c = '#'))
          if isDriveLetter hostText then
            let (path, more, _) := readPath rules ['/'] rest2
            return fileUrl (.domain "") path more
          let host ← if hostText.isEmpty then pure (Host.domain "")
            else parseSpecialHost (String.ofList hostText)
          let host := if host = .domain "localhost" then .domain "" else host
          let (path, more, dropped) :=
            readPathStart rules (host = .domain "") (rest2.drop hostText.length)
          return fileUrl (if dropped then .domain "" else host) path more
        else readFileSlash cs rest base
      | [] => readFileSlash cs rest base
    else readFileOther cs base
  | [] => readFileOther cs base
where
  /-- After one slash: the base's host, or the drive letter its path starts with, carries over,
  unless the input starts with a drive letter of its own. -/
  readFileSlash (cs rest : List Char) (base : Option Url) : Except ParseError Url :=
    let rules := rulesOf "file"
    let (host, lead) : Host × List Char := match base with
      | some b =>
        if startsWithDriveLetter rest then (.domain "", [])
        else
          let first := b.firstSegment.toList
          if isNormalizedDriveLetter first then (.domain "", '/' :: first)
          else (b.host.getD (.domain ""), [])
      | none => (.domain "", [])
    let (path, more, _) := readPath rules lead cs
    pure (fileUrl host path more)
  /-- No slash first: relative to a file base, or a path of its own. -/
  readFileOther (cs : List Char) (base : Option Url) : Except ParseError Url :=
    let rules := rulesOf "file"
    match base with
    | some b =>
      match cs with
      | [] => pure { b with fragment := none }
      | '?' :: _ =>
        let (query, fragment) := readQueryFragment true cs
        pure { b with query, fragment }
      | '#' :: f => pure (b.withFragment f)
      | _ =>
        if startsWithDriveLetter cs then
          let (path, more, _) := readPath rules ['/'] cs
          pure (fileUrl (.domain "") path more)
        else
          let (path, more, _) := readPath rules (shortenPath true b.path.toList) cs
          pure (b.withPathFrom path more)
    | none =>
      let (path, more, _) := readPath rules ['/'] cs
      pure (fileUrl (.domain "") path more)

/-- A scheme at the start of the input, lower-cased, and what follows its `:`. -/
def readScheme (cs : List Char) : Option (String × List Char) :=
  match cs with
  | c :: _ =>
    if !c.isAlpha then none else
    let name := cs.takeWhile (fun c => c.isAlphanum || c = '+' || c = '-' || c = '.')
    match cs.drop name.length with
    | ':' :: rest => some (String.ofList (name.map Char.toLower), rest)
    | _ => none
  | [] => none

/-- Whether a character is trimmed from the ends of a URL: a control or a space. -/
def isTrimmed (c : Char) : Bool := c.toNat ≤ 0x20

/-- Whether a character is dropped anywhere in a URL: a tab or a line break. -/
def isDropped (c : Char) : Bool := c = '\t' || c = '\n' || c = '\r'

/-- The characters of a URL that are read. -/
def cleanInput (s : String) : List Char :=
  (((s.toList.dropWhile isTrimmed).reverse.dropWhile isTrimmed).reverse).filter (!isDropped ·)

/-- An opaque path: everything up to `?` or `#`, with controls and non-ASCII encoded. -/
def readOpaque (cs : List Char) : String × List Char :=
  let body := cs.takeWhile (fun c => c ≠ '?' && c ≠ '#')
  (encode controlsSet (String.ofList body), cs.drop body.length)

/-- Reads a URL after its scheme. -/
def readWithScheme (scheme : String) (rest : List Char) (base : Option Url) :
    Except ParseError Url :=
  if scheme = "file" then readFile rest (base.filter (·.scheme = "file"))
  else if isSpecialScheme scheme then
    let slashes := leadingSlashes rest
    match base with
    | some b =>
      if slashes < 2 && b.scheme = scheme then resolveRelative b rest
      else withAuthority scheme (rest.drop slashes)
    | none => withAuthority scheme (rest.drop slashes)
  else
    match rest with
    | '/' :: '/' :: after => withAuthority scheme after
    | '/' :: after =>
      let (path, more, _) := readPath (rulesOf scheme) ['/'] after
      let (query, fragment) := readQueryFragment false more
      pure ⟨scheme, "", none, none, none, String.ofList path, query, fragment⟩
    | _ =>
      let (path, more) := readOpaque rest
      let (query, fragment) := readQueryFragment false more
      pure ⟨scheme, "", none, none, none, path, query, fragment⟩

/-- Reads a URL, resolving it against a base when it has no scheme. -/
def parse (input : String) (base : Option Url := none) : Except ParseError Url :=
  let cs := cleanInput input
  match readScheme cs with
  | some (scheme, rest) => readWithScheme scheme rest base
  | none =>
    match base with
    | none => throw .relativeUrlWithoutBase
    | some b =>
      match cs with
      | '#' :: f => pure (b.withFragment f)
      | _ =>
        if b.cannotBeABase then throw .relativeUrlWithCannotBeABaseBase
        else if b.scheme = "file" then readFile cs (some b)
        else resolveRelative b cs

/-- Resolves a reference against this URL as base. -/
def join (b : Url) (reference : String) : Except ParseError Url := parse reference b

end CiClient.Url
