import CiClient.Service.Call
import CiClient.Text.Unicode
/-!
# Diagnostics of responses

What an error keeps from a response: the request id of the first id header that holds plain,
non-blank text; the message of the first common message key of a JSON body; and a snippet of the
body, cut on a character boundary to a size limit.
-/

namespace CiClient.Service

open Http

/-- The headers that may carry a request id, in the order they are tried. -/
def requestIdHeaders : List String :=
  ["x-request-id", "x-correlation-id", "x-jenkins-session", "x-amzn-requestid"]

/-- The request id of a response: the trimmed first value of the first id header whose first
value is plain text and not blank. -/
def requestId (h : HeaderMap) : Option String :=
  requestIdHeaders.findSome? fun name =>
    match h.get? name with
    | some v =>
      if isPlainValue v then
        let t := Text.Unicode.trim (asciiText v)
        if t.isEmpty then none else some t
      else none
    | none => none

/-- The keys that may carry a message in a JSON body, in the order they are tried. -/
def messageKeys : List String := ["message", "error", "error_message", "Message", "Error"]

/-- The message of a body: the trimmed string of the first message key that holds a non-blank
string, when the body is JSON. -/
def extractMessage (body : List UInt8) : Option String :=
  match Json.Value.decode body with
  | .error _ => none
  | .ok v =>
    messageKeys.findSome? fun key =>
      match v.get? key with
      | some (.string s) =>
        let t := Text.Unicode.trim s
        if t.isEmpty then none else some t
      | _ => none

/-- Whether and how much of a body errors keep. -/
structure SnippetConfig where
  enabled : Bool
  maxBytes : Nat
  deriving DecidableEq, Repr

/-- Snippets are kept, up to 4096 octets. -/
def SnippetConfig.default : SnippetConfig := ⟨true, 4096⟩

/-- The snippet of a body: none when disabled or empty, else the longest prefix of its text
within the limit. -/
def bodySnippet (body : List UInt8) (cfg : SnippetConfig) : Option String :=
  if !cfg.enabled || body.isEmpty then none
  else some (Text.Utf8.truncate (Text.Utf8.decodeLossy body) cfg.maxBytes)

end CiClient.Service
