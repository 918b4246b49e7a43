import ClusterGraph.Client.Exchange
import ClusterGraph.Time.Span

/-!
# ClusterGraph.Client.Connect

**Getting in touch with a database: an address that can be one, and an answer in time.**

Connections are made when they are needed, so a database that is down would show only at the
first call. Therefore a question is asked right away. Whoever cannot be reached is tried
again and again, so what ends the attempt is the time allowed for the answer.
-/

namespace ClusterGraph

/-! ### Addresses -/

namespace Address

/-- The schemes of a database address. -/
def schemes : List String :=
  ["bolt", "bolt+s", "bolt+ssc", "neo4j", "neo4j+s", "neo4j+ssc"]

/-- The schemes after which the slashes in front of the host may be missing. -/
def hostSchemes : List String :=
  ["http", "https", "ws", "wss", "ftp"]

/-- Whether the character may be part of a scheme, after its first letter. -/
def isSchemeChar (c : Char) : Bool :=
  c.isAlphanum || c = '+' || c = '-' || c = '.'

/-- The scheme at the front of an address, in lower case, and what comes after its `:`. -/
def scheme? (cs : List Char) : Option (String × List Char) :=
  match cs.takeWhile isSchemeChar, cs.dropWhile isSchemeChar with
  | c :: name, ':' :: rest =>
      if c.isAlpha then some (String.ofList ((c :: name).map Char.toLower), rest) else none
  | _, _ => none

/-- Whether the character must not be in the name of a host. -/
def isForbiddenInHost (c : Char) : Bool :=
  c.toNat ≤ 0x20 || c.toNat = 0x7f || "#/:<>?@[\\]^|%".toList.contains c

/-- Whether the characters after a host are none, or a `:` and a port below `2 ^ 16`. -/
def isPort : List Char → Bool
  | [] => true
  | ':' :: digits =>
      digits.all Char.isDigit
        && digits.foldl (fun n c => n * 10 + (c.toNat - '0'.toNat)) 0 < 0x10000
  | _ => false

/-- The characters after the last `c`, or all of them if there is none. -/
def afterLast (c : Char) (cs : List Char) : List Char :=
  (cs.reverse.takeWhile (· ≠ c)).reverse

/-- Whether the characters start with a host, up to the first `/`, `?` or `#`. A user before an `@`
is skipped, and a host in square brackets is an address of its own. -/
def startsWithHost (cs : List Char) : Bool :=
  let authority := cs.takeWhile fun c => c ≠ '/' && c ≠ '?' && c ≠ '#'
  match afterLast '@' authority with
  | '[' :: rest => rest.contains ']' && isPort ((rest.dropWhile (· ≠ ']')).drop 1)
  | host =>
      let name := host.takeWhile (· ≠ ':')
      !name.isEmpty && !name.any isForbiddenInHost && isPort (host.drop name.length)

/-- Whether the address is one of the `schemes`, two slashes and a host, or a host alone. In
`localhost:7687` the host is what `scheme?` takes for a scheme. -/
def isUsable (address : String) : Bool :=
  let cs := address.toList
  match scheme? cs with
  | some (scheme, '/' :: '/' :: rest) => schemes.contains scheme && startsWithHost rest
  | some (scheme, _) => !hostSchemes.contains scheme && startsWithHost cs
  | none => startsWithHost cs

end Address

/-! ### Connecting -/

/-- What comes of a question to the database within a time limit: an answer, an error, or
`silence`. -/
inductive Reply (α : Type) where
  | answered (a : α)
  | failed (e : StoreError)
  /-- No answer came in time. -/
  | silence

/-- Connect to the database at `address`. The `first` reply is that to the question whether it is
there. -/
def connect {α : Type} (address : String) (timeout : Span) (first : Reply α) :
    Except StoreError α :=
  if !Address.isUsable address then .error (.during "Failed to create Neo4j connection pool"
    (.database none))
  else
    match first with
    | .answered a => .ok a
    | .failed e => .error (Call.failed .health e)
    | .silence => .error (.noAnswer address timeout.text)

end ClusterGraph
