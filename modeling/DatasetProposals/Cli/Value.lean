import DatasetProposals.Cli.Address
import DatasetProposals.Cli.Command
import DatasetProposals.Cli.Error
import DatasetProposals.Cli.Similarity
import DatasetProposals.Text.Blank
import DatasetProposals.Text.Decimal
/-! Reading an option's text as the value its kind asks for. A 32-bit count is read as a signed
64-bit number first and then checked against its range, so `-1` is out of range rather than
malformed. -/
namespace DatasetProposals
namespace Cli
open Text

/-- A value read from the command line. -/
inductive Value where
  | text (s : String)
  | number (n : Nat)
  | integer (i : Int)
  | address (a : SocketAddress)
  | choice (name : String)
  | pair (key value : String)
  deriving Repr, BEq, Inhabited

def splitAttribute (raw : String) : Option (String × String) :=
  let cs := raw.toList
  match cs.findIdx? (· == '=') with
  | some i =>
    let key := Text.trim (String.ofList (cs.take i))
    if key.isEmpty then none else some (key, String.ofList (cs.drop (i + 1)))
  | none => none

/-- Where values go: an option or a positional, by identity, with the name messages use. -/
structure Slot where
  id : String
  display : String
  kind : ValueKind
  many : Bool
  deriving Repr, Inhabited

def Arg.slot (a : Arg) : Slot := ⟨a.id, a.spec, a.kind, a.action == .append⟩

def Positional.slot (p : Positional) : Slot := ⟨p.id, p.spec, p.kind, p.many⟩

def ValueKind.choiceNames : ValueKind → List String
  | .choice cs => cs.map (·.name)
  | _ => []

def Slot.read (slot : Slot) (raw : String) : Except UsageError Value :=
  let rejected (reason : String) : Except UsageError Value :=
    .error (.valueRejected slot.display raw reason)
  match slot.kind with
  | .text => .ok (.text raw)
  | .path => if raw.isEmpty then .error (.missingValue slot.display []) else .ok (.text raw)
  | .socketAddress =>
    match SocketAddress.parse? raw with
    | some a => .ok (.address a)
    | none => rejected "invalid socket address syntax"
  | .unsigned64 =>
    match readInteger false 0 18446744073709551615 raw with
    | .ok n => .ok (.number n.toNat)
    | .error f => rejected f.message
  | .unsigned32 =>
    match readInteger true 9223372036854775808 9223372036854775807 raw with
    | .ok n =>
      if 0 ≤ n && n ≤ 4294967295 then .ok (.number n.toNat)
      else .error (.valueRejected slot.display raw (intText n ++ " is not in 0..=4294967295"))
    | .error f => rejected f.message
  | .signed64 =>
    match readInteger true 9223372036854775808 9223372036854775807 raw with
    | .ok n => .ok (.integer n)
    | .error f => rejected f.message
  | .choice cs =>
    if cs.any (·.name == raw) then .ok (.choice raw)
    else
      let names := cs.map (·.name)
      .error (.invalidValue slot.display raw names (closest? raw names))
  | .attribute =>
    match splitAttribute raw with
    | some (k, v) => .ok (.pair k v)
    | none => rejected ("expected KEY=VALUE, got `" ++ raw ++ "`")

end Cli
end DatasetProposals
