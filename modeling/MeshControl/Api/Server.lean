import MeshControl.Json.Print
import MeshControl.Json.Parse

/-!
A scripted API server. It answers each request with the first rule that matches it by
method, path, a piece of the query, and whether it is a watch; a rule may answer a limited
number of times. A request no rule answers is refused as not found, except a watch, which
stays open and never sends anything. Every request is logged.
-/

namespace MeshControl

/-- A request to the API server; the query is raw, without its `?`. -/
structure ApiRequest where
  method : String
  path : String
  query : String := ""
  body : Option String := none
  deriving Inhabited

/-- Why a request target is no valid URI. -/
inductive TargetError where
  | invalidChar
  | tooLong

/-- The words for each cause. -/
def TargetError.message : TargetError → String
  | .invalidChar => "invalid uri character"
  | .tooLong => "uri too long"

/-- Whether a character may stand as it is in the path of a URI: the visible ASCII
characters but space, `#`, `<`, `>`, `?` and the backquote, and every other character from
DEL up. -/
def pathChar (c : Char) : Bool :=
  let n := c.toNat
  n == 0x21 || n == 0x22 || (0x24 ≤ n && n ≤ 0x3b) || n == 0x3d || (0x40 ≤ n && n ≤ 0x5f) ||
    (0x61 ≤ n && n ≤ 0x7d) || n ≥ 0x7e

/-- Whether a character may stand as it is in the query of a URI: the visible ASCII
characters but space, `"`, `#`, `<` and `>`, and every other character from DEL up. -/
def queryChar (c : Char) : Bool :=
  let n := c.toNat
  n == 0x21 || (0x24 ≤ n && n ≤ 0x3b) || n == 0x3d || n ≥ 0x3f

/-- A request to a target starting with `/`: the path runs up to `?` or `#`, the raw query
from `?` up to `#`, and what follows `#` is dropped. A target over 65534 bytes, or with a
character that may not stand as it is, is refused. -/
def ApiRequest.ofTarget (method target : String) (body : Option String) :
    Except TargetError ApiRequest :=
  if target.utf8ByteSize > 65534 then .error .tooLong
  else
    let cs := target.toList
    let path := cs.takeWhile fun c => c != '?' && c != '#'
    if !path.all pathChar then .error .invalidChar
    else
      match cs.drop path.length with
      | '?' :: more =>
        let query := more.takeWhile (· != '#')
        if query.all queryChar then .ok { method, path := String.ofList path, query := String.ofList query, body }
        else .error .invalidChar
      | _ => .ok { method, path := String.ofList path, body }

/-- Whether a request watches: its query asks for `watch=true` or `watch=1`. -/
def ApiRequest.isWatch (r : ApiRequest) : Bool :=
  ((r.query.splitOn "&").any fun part => part == "watch=true" || part == "watch=1")

/-- The logged form of a request: the query when there is one, and the body as JSON when it
reads as JSON. -/
def ApiRequest.toJson (r : ApiRequest) : Json :=
  .mkObj ([("method", .str r.method), ("path", .str r.path)] ++
    (if r.query.isEmpty then [] else [("query", .str r.query)]) ++
    match r.body with
    | some b =>
      match Json.parse b with
      | .ok j => [("body", j)]
      | .error _ => [("body", .str b)]
    | none => [])

/-- What the server sends back: a status and a body, or a stream that stays open and never
sends anything. -/
structure ApiResponse where
  status : Nat
  body : String
  /-- Whether the stream stays open after the body. -/
  endless : Bool := false
  deriving Inhabited

/-- A rule of the script. -/
structure Rule where
  method : Option String := none
  path : Option String := none
  /-- A piece the raw query must contain. -/
  query : Option String := none
  watch : Option Bool := none
  status : Nat := 200
  body : String := ""
  /-- How many more requests the rule answers; none for every one. -/
  times : Option Nat := none
  deriving Inhabited

/-- Whether a rule answers a request. -/
def Rule.matches (rule : Rule) (r : ApiRequest) : Bool :=
  rule.times != some 0 &&
  (rule.method.all (· == r.method)) &&
  (rule.path.all (· == r.path)) &&
  (rule.query.all fun q => (r.query.splitOn q).length > 1 || q.isEmpty) &&
  (rule.watch.all (· == r.isWatch))

/-- The scripted server: its rules and the requests it got, in order. -/
structure ApiServer where
  rules : List Rule
  log : List ApiRequest := []
  deriving Inhabited

/-- The refusal of a request no rule answers. -/
def notScripted (path : String) : ApiResponse :=
  { status := 404,
    body := (Json.mkObj [("kind", .str "Status"), ("apiVersion", .str "v1"), ("status", .str "Failure"),
      ("message", .str (path ++ " not scripted")), ("reason", .str "NotFound"), ("code", Json.int 404)]).render }

/-- Answers a request with the first matching rule, using up one of its answers. -/
def ApiServer.send (s : ApiServer) (r : ApiRequest) : ApiResponse × ApiServer :=
  let s := { s with log := s.log ++ [r] }
  let rec pick : List Rule → Option (ApiResponse × List Rule)
    | [] => none
    | rule :: rest =>
      if rule.matches r then
        some ({ status := rule.status, body := rule.body }, { rule with times := rule.times.map (· - 1) } :: rest)
      else (pick rest).map fun (resp, rest) => (resp, rule :: rest)
  match pick s.rules with
  | some (resp, rules) => (resp, { s with rules })
  | none =>
    if r.isWatch then ({ status := 200, body := "", endless := true }, s)
    else (notScripted r.path, s)

end MeshControl
