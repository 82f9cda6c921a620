import SystemSketch.Recognition.Pattern

/-!
# Recognising client calls

A page reaches the server by fetching a template literal that begins with the address of the
server and `/api/`, and by opening a realtime connection.

## Main definitions

* `fetchCall` — the pattern of a fetched endpoint.
* `endpointRoots` — the first path segment of every fetched endpoint.
* `usesRealtime` — whether a page opens a realtime connection.
-/

namespace SystemSketch.Recognition

open Text

/-- What stands before the endpoint in a fetched template. -/
def fetchOpening (baseVariable : String) : String :=
  "fetch(`$\x7b" ++ baseVariable ++ "\x7d/api/"

/-- A fetched template; the endpoint, up to the closing backtick, is the named part. -/
def fetchCall (baseVariable : String) : Pattern :=
  .reading "fetch" fun text => do
    let rest ← after? (fetchOpening baseVariable).toList text
    match rest.dropWhile (· != '\x60') with
    | [] => none
    | _ :: after => some ([rest.takeWhile (· != '\x60')], after)

/-- Whether a character ends the first segment of an endpoint. -/
def endsSegment (c : Char) : Bool :=
  c == '/' || c == '?' || c == '#'

/-- The first path segment of an endpoint, without query and fragment. -/
def endpointRoot (endpoint : String) : String :=
  String.ofList (endpoint.toList.takeWhile fun c => !endsSegment c)

/-- The first path segment of every fetched endpoint, in source order. -/
def endpointRoots (baseVariable text : String) : List String :=
  ((fetchCall baseVariable).findAll text).map fun capture => endpointRoot capture.value

/-- Whether the text shows a realtime connection. -/
def usesRealtime (hook text : String) : Bool :=
  (Pattern.literal "realtime" hook).occursIn text

end SystemSketch.Recognition
