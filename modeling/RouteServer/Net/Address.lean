import RouteServer.Text.Numeral
import RouteServer.Text.Split

/-
  **Network addresses** — where a server listens.

  An address is a host and a port.  The host may be written as an IP address of either version or as
  a name; only the network knows the addresses of names.  An address of version 6 stands in
  brackets, which may be left out because the port is behind the last colon.
-/

namespace RouteServer.Net

/-- An IP address: four bytes, or eight groups of sixteen bits. -/
inductive IpAddress where
  | v4 (a b c d : Nat)
  | v6 (groups : List Nat)
  deriving DecidableEq, Repr

namespace IpAddress

/-- A byte in decimal, without leading zeros. -/
def byte? (s : List Char) : Option Nat :=
  if 3 < s.length || (1 < s.length && s.head? == some '0') then none
  else (Text.Numeral.value? 10 s).filter (· < 256)

/-- Four bytes between points, the only form inside an address of version 6. -/
def readV4? (s : List Char) : Option (Nat × Nat × Nat × Nat) :=
  match s.splitOn '.' with
  | [a, b, c, d] =>
    match byte? a, byte? b, byte? c, byte? d with
    | some a, some b, some c, some d => some (a, b, c, d)
    | _, _, _, _ => none
  | _ => none

/-- A part of an address of version 4: hexadecimal behind `0x`, octal behind another zero, else
    decimal. -/
def part? (s : List Char) : Option Nat :=
  match s with
  | '0' :: c :: r =>
    if c = 'x' ∨ c = 'X' then Text.Numeral.value? 16 r else Text.Numeral.value? 8 (c :: r)
  | _ => Text.Numeral.value? 10 s

/-- One to four parts between points.  All but the last are bytes, and the last one is as long as
    what remains of four bytes. -/
def readParts? (s : List Char) : Option Nat :=
  let step := fun (acc : Option (Nat × Nat)) (part : List Char) =>
    match acc, part? part with
    | some (value, count), some n => if n < 256 then some (value * 256 + n, count + 1) else none
    | _, _ => none
  let parts := s.splitOn '.'
  match parts.dropLast.foldl step (some (0, 0)), (parts.getLast?).bind part? with
  | some (value, count), some n =>
    let room := Nat.pow 256 (4 - count)
    if count < 4 ∧ n < room then some (value * room + n) else none
  | _, _ => none

/-- Reads an address of version 4 in any of its forms: `127.0.0.1`, `127.1` and `2130706433` are the
    same one. -/
def readAnyV4? (s : List Char) : Option IpAddress :=
  (readParts? s).map fun n => .v4 (n / 0x1000000) (n / 0x10000 % 256) (n / 0x100 % 256) (n % 256)

/-- A group of up to four hexadecimal digits. -/
def group? (s : List Char) : Option Nat :=
  if 4 < s.length then none else Text.Numeral.value? 16 s

/-- Groups between colons; the last two may be written as four bytes. -/
def groups? : List (List Char) → Option (List Nat)
  | [] => some []
  | [s] =>
    match readV4? s with
    | some (a, b, c, d) => some [a * 256 + b, c * 256 + d]
    | none => (group? s).map ([·])
  | s :: r =>
    match group? s, groups? r with
    | some g, some gs => some (g :: gs)
    | _, _ => none

/-- Groups between colons, or none in an empty text. -/
def groupList? (s : List Char) : Option (List Nat) :=
  if s.isEmpty then some [] else groups? (s.splitOn ':')

/-- Eight groups; two colons stand for a run of zeros. -/
def readV6? (s : List Char) : Option (List Nat) :=
  match Text.findFirst [':', ':'] s with
  | none => (groupList? s).filter (·.length == 8)
  | some (before, after) =>
    if before.contains '.' then none
    else match groupList? before, groupList? after with
      | some b, some a =>
        if b.length + a.length < 8 then some (b ++ List.replicate (8 - b.length - a.length) 0 ++ a)
        else none
      | _, _ => none

def ofText? (s : List Char) : Option IpAddress :=
  match readAnyV4? s with
  | some ip => some ip
  | none => (readV6? s).map .v6

/-- The length of the run of zeros at the front. -/
def zeros (groups : List Nat) : Nat := (groups.takeWhile (· == 0)).length

/-- The start and the length of the first longest run of zeros. -/
def longestRun : Nat → List Nat → Nat × Nat
  | _, [] => (0, 0)
  | i, g :: r =>
    let here := zeros (g :: r)
    let later := longestRun (i + 1) r
    if later.2 ≤ here then (i, here) else later

def showGroups (groups : List Nat) : List Char :=
  [':'].intercalate (groups.map (Nat.toDigits 16))

def showV4 (a b c d : Nat) : List Char :=
  ['.'].intercalate ([a, b, c, d].map Text.Numeral.ofNat)

/-- Eight groups; the first longest run of zeros becomes two colons when it is longer than one. -/
def showV6 (groups : List Nat) : List Char :=
  match groups with
  | [0, 0, 0, 0, 0, 0xFFFF, g, h] =>
    "::ffff:".toList ++ showV4 (g / 256) (g % 256) (h / 256) (h % 256)
  | _ =>
    let (start, length) := longestRun 0 groups
    if length < 2 then showGroups groups
    else showGroups (groups.take start) ++ [':', ':'] ++ showGroups (groups.drop (start + length))

def text : IpAddress → String
  | .v4 a b c d => String.ofList (showV4 a b c d)
  | .v6 groups => String.ofList (showV6 groups)

end IpAddress

inductive Host where
  | ip (a : IpAddress)
  | name (s : String)
  deriving DecidableEq, Repr

structure Address where
  host : Host
  port : Nat
  deriving DecidableEq, Repr

/-- Reads an address; the port is what follows the last colon. -/
def Address.ofString? (s : String) : Option Address :=
  match Text.splitFirst ':' s.toList.reverse with
  | none => none
  | some (port, host) =>
    let host := host.reverse
    if host.contains '\x00' then none
    else match Text.Numeral.unsigned? 10 16 port.reverse with
      | none => none
      | some port =>
        let inside := (Text.stripStart ['['] host).bind (Text.stripEnd [']'])
        match inside.bind IpAddress.readV6? with
        | some groups => some ⟨.ip (.v6 groups), port⟩
        | none =>
          match IpAddress.ofText? host with
          | some ip => some ⟨.ip ip, port⟩
          | none => some ⟨.name (String.ofList host), port⟩

end RouteServer.Net
