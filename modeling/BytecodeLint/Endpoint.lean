import BytecodeLint.Failure
import BytecodeLint.Url.Basic

/-!
# The trace endpoint

Traces go to the path `/v1/traces` of a collector. A URL that names the collector only gets this
path, and one that ends in the path for logs has it replaced. All other URLs are taken as they are.
-/

namespace BytecodeLint.Endpoint

/-- Replaces a path for logs at the end of a text, which is given in reverse. -/
def tracesText (rev : List Char) : List Char :=
  let logs := "/v1/logs".toList
  if logs.reverse.isPrefixOf rev then (rev.drop logs.length).reverse ++ "/v1/traces".toList
  else rev.reverse

/-- Replaces a path for logs at the end of segments, which are given in reverse; `none` when there
is none. -/
def tracesSegments? (rev : List (List Char)) : Option (List (List Char)) :=
  match rev with
  | logs :: v1 :: before =>
    if logs = "logs".toList ∧ v1 = "v1".toList then
      some ("traces".toList :: v1 :: before).reverse
    else none
  | _ => none

/-- The path to which traces go. A path that is replaced on a file system has a colon behind its
drive. -/
def tracesPath (kind : Url.SchemeKind) : Url.Route → Url.Route
  | .segments [[]] => .segments ["v1".toList, "traces".toList]
  | .segments items =>
    match tracesSegments? items.reverse with
    | some items => .segments (if kind = .file then Url.settleDrive items else items)
    | none => .segments items
  | .flat text => .flat (tracesText text.reverse)

/-- The URL to which traces go. -/
def ofUrl (u : Url) : Url := { u with path := tracesPath (Url.schemeKind u.scheme) u.path }

def normalize (text : String) : Except Url.Fault String :=
  match Url.parse text.toList with
  | .ok u => .ok (String.ofList (ofUrl u).text)
  | .error fault => .error fault

def explain (fault : Url.Fault) : Explanation :=
  (Explanation.ofMessage fault.message).within "parse OTLP endpoint"

end BytecodeLint.Endpoint
