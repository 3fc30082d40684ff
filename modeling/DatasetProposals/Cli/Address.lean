/-! Socket addresses as a listening flag takes them: `a.b.c.d:port` or `[v6]:port`, with an
optional `%scope` inside the brackets; the whole text must be used. -/
namespace DatasetProposals
namespace Cli

/-- A socket address: four octets or eight 16-bit groups, and a port. -/
inductive SocketAddress where
  | v4 (octets : List Nat) (port : Nat)
  | v6 (groups : List Nat) (scope : Nat) (port : Nat)
  deriving Repr, BEq, Inhabited

namespace Address

def digitValue (radix : Nat) (c : Char) : Option Nat :=
  if c.isDigit then some (c.toNat - '0'.toNat)
  else if radix == 16 && 'a' ≤ c && c ≤ 'f' then some (c.toNat - 'a'.toNat + 10)
  else if radix == 16 && 'A' ≤ c && c ≤ 'F' then some (c.toNat - 'A'.toNat + 10)
  else none

def digitRun (radix : Nat) : List Char → List Nat × List Char
  | [] => ([], [])
  | c :: cs =>
    match digitValue radix c with
    | some v => let (ds, rest) := digitRun radix cs; (v :: ds, rest)
    | none => ([], c :: cs)

def number (radix : Nat) (maxDigits : Option Nat) (zeroPrefix : Bool) (limit : Nat)
    (cs : List Char) : Option (Nat × List Char) :=
  let (ds, rest) := digitRun radix cs
  let value := ds.foldl (fun acc d => acc * radix + d) 0
  if ds.isEmpty then none
  else if maxDigits.any (ds.length > ·) then none
  else if !zeroPrefix && ds.head? == some 0 && ds.length > 1 then none
  else if value > limit then none
  else some (value, rest)

def given (c : Char) : List Char → Option (List Char)
  | d :: rest => if c == d then some rest else none
  | [] => none

def ipv4 (cs : List Char) : Option (List Nat × List Char) := do
  let (a, cs) ← number 10 (some 3) false 255 cs
  let (b, cs) ← number 10 (some 3) false 255 (← given '.' cs)
  let (c, cs) ← number 10 (some 3) false 255 (← given '.' cs)
  let (d, cs) ← number 10 (some 3) false 255 (← given '.' cs)
  return ([a, b, c, d], cs)

def groups : Nat → Nat → List Char → List Nat × Bool × List Char
  | 0, _, cs => ([], false, cs)
  | left + 1, i, cs =>
    let sep (cs : List Char) : Option (List Char) := if i > 0 then given ':' cs else some cs
    let tail4 : Option (List Nat × List Char) :=
      if left ≥ 1 then (sep cs).bind ipv4 else none
    match tail4 with
    | some (os, rest) =>
      ([(os.getD 0 0) * 256 + os.getD 1 0, (os.getD 2 0) * 256 + os.getD 3 0], true, rest)
    | none =>
      match (sep cs).bind (number 16 (some 4) true 65535) with
      | some (g, rest) =>
        let (gs, v4, rest) := groups left (i + 1) rest
        (g :: gs, v4, rest)
      | none => ([], false, cs)

def ipv6 (cs : List Char) : Option (List Nat × List Char) :=
  let (head, headV4, rest) := groups 8 0 cs
  if head.length == 8 then some (head, rest)
  else if headV4 then none
  else do
    let rest ← given ':' rest
    let rest ← given ':' rest
    let (tail, _, rest) := groups (8 - (head.length + 1)) 0 rest
    let zeros := List.replicate (8 - head.length - tail.length) 0
    return (head ++ zeros ++ tail, rest)

def port (cs : List Char) : Option (Nat × List Char) := do
  number 10 none true 65535 (← given ':' cs)

def socketV4 (cs : List Char) : Option (SocketAddress × List Char) := do
  let (os, cs) ← ipv4 cs
  let (p, cs) ← port cs
  return (.v4 os p, cs)

def socketV6 (cs : List Char) : Option (SocketAddress × List Char) := do
  let cs ← given '[' cs
  let (gs, cs) ← ipv6 cs
  let (scope, cs) := match (given '%' cs).bind (number 10 none true 4294967295) with
    | some r => r
    | none => (0, cs)
  let cs ← given ']' cs
  let (p, cs) ← port cs
  return (.v6 gs scope p, cs)

end Address

def SocketAddress.parse? (s : String) : Option SocketAddress :=
  let cs := s.toList
  match Address.socketV4 cs <|> Address.socketV6 cs with
  | some (a, []) => some a
  | _ => none

end Cli
end DatasetProposals
