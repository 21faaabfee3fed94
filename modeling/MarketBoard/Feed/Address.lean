import MarketBoard.Endpoint

/-!
The addresses of feeds, and what has to hold of one before it is worth a connection.

* `Address.hasScheme`: it begins as the address of a feed does.
* `Address.authority`, `Address.path`, `Address.query`: its parts.
* `Authority.check`: the part that names the host, read from left to right.
* `Address.check`: the first thing that is wrong with the parts.
* `Address.endpoint`: where the connection goes.
-/

namespace MarketBoard

/-- What is wrong with an address. -/
inductive AddressError where
  | tooLong
  /-- Nothing follows the scheme. -/
  | empty
  /-- A part has a character that is not allowed in it. -/
  | badCharacter
  /-- Brackets, colons, percent or at signs stand where none may. -/
  | badAuthority
  /-- No host is named. -/
  | noAuthority
deriving DecidableEq, Repr

/-- The words for a cause. -/
def AddressError.message : AddressError → String
  | tooLong => "uri too long"
  | empty => "empty string"
  | badCharacter => "invalid uri character"
  | badAuthority => "invalid authority"
  | noAuthority => "invalid format"

/-! ### The authority -/

namespace Authority

/-- What was read of an authority. A bracket that closes and an at sign begin the count of colons and
percent signs anew. -/
structure Scan where
  colons : Nat := 0
  percent : Bool := false
  opened : Bool := false
  closed : Bool := false
deriving DecidableEq, Repr

/-- The most colons that are read. -/
def mostColons : Nat := 8

/-- Characters that may stand anywhere in an authority: letters, digits, and these signs. -/
def isPlain (c : Char) : Bool := c.isAlphanum || "!$&'()*+,-.;=_~".contains c

namespace Scan

/-- Reads one more character. -/
def next (s : Scan) (c : Char) : Except AddressError Scan :=
  if c = ':' then
    if mostColons ≤ s.colons then .error .badAuthority else .ok { s with colons := s.colons + 1 }
  else if c = '[' then
    if s.percent || s.opened then .error .badAuthority else .ok { s with opened := true }
  else if c = ']' then
    if !s.opened || s.closed then .error .badAuthority
    else .ok { s with closed := true, colons := 0, percent := false }
  else if c = '@' then .ok { s with colons := 0, percent := false }
  else if c = '%' then .ok { s with percent := true }
  else if isPlain c then .ok s
  else .error .badCharacter

/-- What was read can be all: brackets are closed, at most one colon stands before a port, and only
what precedes an at sign is written with percent signs. -/
def isComplete (s : Scan) : Bool := s.opened == s.closed && s.colons ≤ 1 && !s.percent

end Scan

/-- The first thing that is wrong with an authority. -/
def check (text : List Char) : Except AddressError Unit :=
  match text.foldlM Scan.next {} with
  | .error e => .error e
  | .ok s => if s.isComplete && text.getLast? ≠ some '@' then .ok () else .error .badAuthority

end Authority

/-! ### The whole address -/

namespace Address

/-- The beginnings of a feed's address. -/
def schemes : List String := ["ws://", "wss://"]

/-- The address begins as one of a feed does. -/
def hasScheme (url : String) : Bool := schemes.any fun scheme => url.startsWith scheme

/-- What follows the scheme. -/
def afterScheme (url : String) : List Char := (url.toList.dropWhile (· ≠ '/')).drop 2

/-- The host with what belongs to it: all before the path. -/
def authority (url : String) : List Char :=
  (afterScheme url).takeWhile fun c => c ≠ '/' && c ≠ '?' && c ≠ '#'

/-- What follows the authority, without the fragment. -/
def target (url : String) : List Char :=
  ((afterScheme url).drop (authority url).length).takeWhile (· ≠ '#')

/-- The path: all before the first question mark. -/
def path (url : String) : List Char := (target url).takeWhile (· ≠ '?')

/-- The query: all behind the first question mark. -/
def query (url : String) : List Char := (target url).drop ((path url).length + 1)

/-- The host: what follows the last at sign of the authority, up to the port and without brackets. -/
def host (url : String) : String :=
  match ((authority url).reverse.takeWhile (· ≠ '@')).reverse with
  | '[' :: rest => String.ofList (rest.takeWhile (· ≠ ']'))
  | place => String.ofList (place.takeWhile (· ≠ ':'))

/-- The port for an address that names none. -/
def defaultPort (url : String) : Nat := if url.startsWith "wss:" then 443 else 80

/-- The host with the port behind the last colon of the authority, if one can be read there. -/
def endpoint (url : String) : Endpoint where
  host := host url
  port :=
    let back := (authority url).reverse
    if back.contains ':' then (portOf? (back.takeWhile (· ≠ ':')).reverse).getD (defaultPort url)
    else defaultPort url

/-- Characters of a path. -/
def isPathCharacter (c : Char) : Bool :=
  let n := c.toNat
  n = 0x21 || n = 0x22 || 0x24 ≤ n && n ≤ 0x3B || n = 0x3D || 0x40 ≤ n && n ≤ 0x5F ||
    0x61 ≤ n

/-- Characters of a query. -/
def isQueryCharacter (c : Char) : Bool :=
  let n := c.toNat
  n = 0x21 || 0x24 ≤ n && n ≤ 0x3B || n = 0x3D || 0x3F ≤ n

/-- The longest address, in bytes. -/
def longest : Nat := 65534

/-- The first thing that is wrong with an address that has the scheme of a feed. -/
def check (url : String) : Except AddressError Unit :=
  if longest < url.utf8ByteSize then .error .tooLong
  else if (afterScheme url).isEmpty then .error .empty
  else
    match Authority.check (authority url) with
    | .error e => .error e
    | .ok _ =>
      if (authority url).isEmpty then .error .noAuthority
      else if (path url).all isPathCharacter && (query url).all isQueryCharacter then .ok ()
      else .error .badCharacter

/-- An address that is in order names a host. -/
theorem authority_ne_nil {url : String} (h : check url = .ok ()) : authority url ≠ [] := by
  intro none
  have bare : Authority.check [] = .ok () := rfl
  unfold check at h
  rw [none, bare] at h
  split at h
  · cases h
  · split at h <;> simp at h

end Address

end MarketBoard
