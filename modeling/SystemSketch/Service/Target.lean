import SystemSketch.Text.Digits
import SystemSketch.Text.Search
import SystemSketch.Text.Utf8

/-!
# The targets of requests

A client writes the target of a request as an address: a scheme and a host, which may be left
out, a path, a query and a fragment. An address without a scheme or without a host is understood
from the top of the service. Before a path is looked up, its segments `.` and `..` are followed,
and characters that are written by their bytes are read, twice.

## Main definitions

* `Address` — the parts of an address.
* `Target` — the path and the query of a request.
* `Target.read` — the target that is written as an address.
-/

namespace SystemSketch.Service

/-- The parts of an address, as they are written. -/
structure Address where
  scheme : List Char
  host : List Char
  path : List Char
  query : List Char

/-- The path of a request and the values of its query. -/
structure Target where
  path : String
  query : List (String × String)
  deriving DecidableEq

namespace Address

/-- Whether a character may stand in a scheme. -/
def isSchemeChar (c : Char) : Bool :=
  c.isAlphanum || c == '+' || c == '.' || c == '-'

/-- The scheme in front of an address, and what follows its colon. A colon may also stand there
alone. -/
def takeScheme (text : List Char) : List Char × List Char :=
  let scheme := text.takeWhile isSchemeChar
  match text.drop scheme.length with
  | ':' :: rest => if scheme.head?.all Char.isAlpha then (scheme, rest) else ([], text)
  | _ => ([], text)

/-- The host behind two slashes, and what follows it. -/
def takeHost : List Char → List Char × List Char
  | '/' :: '/' :: rest =>
    let host := rest.takeWhile fun c => !(['/', '?', '#'].contains c)
    (host, rest.drop host.length)
  | text => ([], text)

/-- The parts of an address that is written without a fragment. -/
def ofText (text : List Char) : Address :=
  let (scheme, rest) := takeScheme text
  let (host, rest) := takeHost rest
  let path := rest.takeWhile (· != '?')
  ⟨scheme, host, path, (rest.drop path.length).drop 1⟩

/-- Follows one segment. What stands in front of the first slash is never left. -/
def followSegment (passed : List (List Char)) (segment : List Char) : List (List Char) :=
  if segment == ['.'] then passed
  else if segment == ['.', '.'] then (if passed == [[]] then passed else passed.dropLast)
  else passed ++ [segment]

/-- A path in which `.` and `..` are followed. -/
def followDots (path : List Char) : List Char :=
  ['/'].intercalate ((Text.splitOn '/' path).foldl followSegment [])

/-- The path that an address leads to. -/
def place (a : Address) : List Char :=
  let path := if a.scheme.isEmpty && a.host.isEmpty then a.path else followDots a.path
  if a.scheme.isEmpty || a.host.isEmpty then followDots ('/' :: path.dropWhile (· == '/'))
  else path

end Address

/-! ### Reading -/

/-- The bytes of a text in which some are written by two hexadecimal digits behind a percent
sign. -/
def percentBytes : List Char → List UInt8
  | [] => []
  | '%' :: a :: b :: rest =>
    match Text.hexValue? a, Text.hexValue? b with
    | some high, some low => (high * 16 + low).toUInt8 :: percentBytes rest
    | _, _ => Text.Utf8.encode ['%'] ++ percentBytes (a :: b :: rest)
  | c :: rest => Text.Utf8.encode [c] ++ percentBytes rest

/-- A text in which some bytes are written by their digits. -/
def percentDecode (text : List Char) : List Char :=
  let bytes := percentBytes text
  Text.Utf8.decodeLossy (bytes.length + 1) bytes

/-- A name or a value of a query, in which a plus stands for a blank. -/
def queryText (text : List Char) : String :=
  String.ofList (percentDecode (text.map fun c => if c == '+' then ' ' else c))

/-- The names and values of a query. -/
def readQuery (text : List Char) : List (String × String) :=
  ((Text.splitOn '&' text).filter (!·.isEmpty)).map fun pair =>
    let name := pair.takeWhile (· != '=')
    (queryText name, queryText ((pair.drop name.length).drop 1))

/-- The target that is written as an address. -/
def Target.read (text : String) : Target :=
  let address := Address.ofText (text.toList.takeWhile (· != '#'))
  ⟨String.ofList (percentDecode (percentDecode address.place)), readQuery address.query⟩

end SystemSketch.Service
