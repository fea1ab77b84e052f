import TwoParty.Decimal.Read
import TwoParty.Error

/-!
# TwoParty.CommandLine.Address

Network addresses: a host and a port, with the last colon between them.  Whether
the host exists is left to the network.
-/

namespace TwoParty

namespace CommandLine

/-- A host and a port. -/
structure Address where
  host : String
  port : UInt16
  deriving DecidableEq, Repr

namespace Address

/-- The parts before and after the last colon. -/
def splitLast : List Char → Option (List Char × List Char)
  | [] => none
  | c :: cs =>
    match splitLast cs with
    | some (host, port) => some (c :: host, port)
    | none => if c = ':' then some ([], cs) else none

/-- Read an address. -/
def ofText (s : String) : Except Fault Address :=
  match splitLast s.toList with
  | none => .error .invalidAddress
  | some (host, port) =>
    match Decimal.natural? (UInt16.size - 1) (String.ofList port) with
    | some port => .ok ⟨String.ofList host, UInt16.ofNat port⟩
    | none => .error .invalidPort

end Address

end CommandLine

end TwoParty
