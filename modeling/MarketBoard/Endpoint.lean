/-!
Endpoints: where a connection goes.

* `Endpoint.parse?`: a host and a port out of a text.
* `Host.isNumeric`: a host is written in numbers, so that nobody has to be asked where it is.
* `Host.isIPv4`: one to four numbers; `Host.isIPv6`: groups of hexadecimal digits.
-/

namespace MarketBoard

/-- A host with a port. -/
structure Endpoint where
  host : String
  port : Nat
deriving DecidableEq, Repr

/-- The number that a text of digits stands for; the empty text stands for none. A plus sign may
stand before the digits. -/
def natOfDigits? (cs : List Char) : Option Nat :=
  let ds := match cs with
    | '+' :: rest => rest
    | _ => cs
  if ds.isEmpty || !ds.all Char.isDigit then none else some (Nat.ofDigitChars 10 ds 0)

/-- A port in decimal digits. -/
def portOf? (cs : List Char) : Option Nat := (natOfDigits? cs).filter (· < UInt16.size)

namespace Endpoint

/-- The host before the last colon and the port behind it. Behind a host in brackets the port has no
sign. -/
def parse? (s : String) : Option Endpoint :=
  let back := s.toList.reverse
  let port := (back.takeWhile (· ≠ ':')).reverse
  match back.dropWhile (· ≠ ':') with
  | [] => none
  | _ :: host =>
    if host.head? = some ']' && port.head? = some '+' then none
    else (portOf? port).map fun port => ⟨String.ofList host.reverse, port⟩

end Endpoint

/-! ### Hosts in numbers -/

namespace Host

/-- Hexadecimal digits. -/
def isHexDigit (c : Char) : Bool :=
  c.isDigit || 'a' ≤ c && c ≤ 'f' || 'A' ≤ c && c ≤ 'F'

/-- The value of a hexadecimal digit. -/
def digitValue (c : Char) : Nat :=
  if c.isDigit then c.toNat - '0'.toNat else c.toLower.toNat - 'a'.toNat + 10

/-- The number that digits stand for in a base. -/
def numeral (base : Nat) (ds : List Char) : Nat := ds.foldl (fun n d => n * base + digitValue d) 0

/-- A number of an IPv4 address: hexadecimal behind `0x`, octal behind `0`, decimal otherwise. -/
def number? : List Char → Option Nat
  | '0' :: x :: ds =>
    if x = 'x' || x = 'X' then
      if ds.isEmpty || !ds.all isHexDigit then none else some (numeral 16 ds)
    else if (x :: ds).all fun d => '0' ≤ d && d ≤ '7' then some (numeral 8 (x :: ds))
    else none
  | ds => if ds.isEmpty || !ds.all Char.isDigit then none else some (numeral 10 ds)

/-- One to four numbers parted by dots: a byte each, the last one as many bytes as are left of
four. -/
def isIPv4 (host : String) : Bool :=
  match (host.splitOn ".").mapM fun part => number? part.toList with
  | none => false
  | some numbers =>
    numbers.length ≤ 4 && numbers.dropLast.all (· < 256) &&
      numbers.getLastD 0 < 1 <<< (8 * (5 - numbers.length))

/-- Four decimal bytes without needless zeros, as an IPv6 address may end in. -/
def isQuad (text : String) : Bool :=
  let parts := (text.splitOn ".").map String.toList
  parts.length = 4 && parts.all fun ds =>
    !ds.isEmpty && ds.all Char.isDigit && (ds.length = 1 || ds.head? ≠ some '0') &&
      ds.length ≤ 3 && numeral 10 ds < 256

/-- A group of an IPv6 address: one to four hexadecimal digits. -/
def isGroup (text : String) : Bool :=
  !text.isEmpty && text.length ≤ 4 && text.toList.all isHexDigit

/-- The number of groups parted by colons; four bytes at the end stand for two. -/
def groups? (text : String) : Option Nat :=
  let parts := text.splitOn ":"
  if text.isEmpty then some 0
  else if parts.all isGroup then some parts.length
  else if parts.dropLast.all isGroup && isQuad (parts.getLastD "") then some (parts.length + 1)
  else none

/-- Eight groups; two colons stand for one or more groups of zeros. -/
def isIPv6 (host : String) : Bool :=
  match host.splitOn "::" with
  | [all] => groups? all = some 8
  | [front, back] =>
    match groups? front, groups? back with
    | some m, some n => m + n ≤ 7 && !front.contains '.'
    | _, _ => false
  | _ => false

/-- A host that is written in numbers; an IPv6 address may stand in brackets. -/
def isNumeric (host : String) : Bool :=
  isIPv4 host || isIPv6 host ||
    match host.toList with
    | '[' :: rest => rest.getLast? = some ']' && isIPv6 (String.ofList rest.dropLast)
    | _ => false

end Host

end MarketBoard
