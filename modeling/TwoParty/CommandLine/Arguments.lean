import TwoParty.CommandLine.Help
import TwoParty.CommandLine.Scan
import TwoParty.Version

/-!
# TwoParty.CommandLine.Arguments

The switches and commands of the program, and a command line read by them.
-/

namespace TwoParty

namespace CommandLine

/-- The groups that can be named on a command line. -/
inductive GroupName where
  | secp256k1
  | ristretto
  | modp2048
  deriving DecidableEq, Repr

/-- Which party of a coin toss to play. -/
inductive Role where
  | one
  | two
  deriving DecidableEq, Repr

/-- A command with its values, which have their forms and nothing more. -/
inductive Command where
  /-- Offer two inputs, written in hexadecimal. -/
  | otSend (x0 x1 : String)
  /-- Choose one of two inputs. -/
  | otReceive (choice : UInt8)
  /-- Toss so many bits. -/
  | coinToss (role : Role) (bits : UInt64)
  deriving DecidableEq, Repr

/-- A command line. -/
structure Arguments where
  /-- The address to wait at. -/
  listen : Option String
  /-- The address of a waiting peer. -/
  connect : Option String
  group : GroupName
  malicious : Bool
  command : Command
  deriving DecidableEq, Repr

/-! ## The grammar -/

def GroupName.name : GroupName → String
  | .secp256k1 => "secp256k1"
  | .ristretto => "ristretto"
  | .modp2048 => "modp2048"

def GroupName.all : List GroupName := [.secp256k1, .ristretto, .modp2048]

def Role.name : Role → String
  | .one => "one"
  | .two => "two"

def Role.all : List Role := [.one, .two]

/-- A switch that has to be given. -/
def needed (long placeholder about : String) (form : ValueForm) : Switch :=
  ⟨long, none, about, some ⟨placeholder, form, .required, none⟩⟩

def otSend : Grammar where
  name := "ot-send"
  about := "Offer two inputs as the OT sender"
  switches := [
    needed "x0" "X0" "First input (hex)" .text,
    needed "x1" "X1" "Second input (hex), same length as x0" .text]

def otReceive : Grammar where
  name := "ot-receive"
  about := "Pick one input as the OT receiver"
  switches := [needed "choice" "CHOICE" "Choice bit (0 or 1)" (.signed 255)]

def coinToss : Grammar where
  name := "coin-toss"
  about := "Toss a shared random string"
  switches := [
    needed "role" "ROLE" "Which party to play" (.word (Role.all.map (·.name))),
    ⟨"bits", none, "Output length in bits (multiple of 8)",
      some ⟨"BITS", .natural (UInt64.size - 1), .standard "128", none⟩⟩]

/-- The program. -/
def program : Program where
  main := {
    name := "twopc-party"
    about := "Oblivious transfer and coin tossing between two parties"
    switches := [
      ⟨"listen", some 'l', "Wait for the peer on this address",
        some ⟨"LISTEN", .text, .optional, some "TWOPC_LISTEN"⟩⟩,
      ⟨"connect", some 'c', "Connect to a listening peer",
        some ⟨"CONNECT", .text, .optional, some "TWOPC_CONNECT"⟩⟩,
      ⟨"group", some 'g', "Group both parties run over",
        some ⟨"GROUP", .word (GroupName.all.map (·.name)), .standard "secp256k1",
          some "TWOPC_GROUP"⟩⟩,
      ⟨"malicious", none, "Run the malicious-secure OT variant", none⟩] }
  version := version
  commands := [otSend, otReceive, coinToss]

/-! ## Reading -/

/-- The answer to a command line. -/
inductive Answer where
  | arguments (a : Arguments)
  /-- A help text or the version. -/
  | text (s : String)
  /-- The command line does not fit the grammar. -/
  | refused

/-- The command of a name and its values. -/
def commandOf (name : String) (vs : Values) : Option Command :=
  if name = otSend.name then do
    return .otSend (← vs.value? "x0") (← vs.value? "x1")
  else if name = otReceive.name then do
    return .otReceive (UInt8.ofNat (← (← vs.value? "choice") |> Decimal.signedNatural? 255))
  else if name = coinToss.name then do
    let role ← vs.value? "role"
    return .coinToss (← Role.all.find? fun r => r.name = role)
      (UInt64.ofNat (← (← vs.value? "bits") |> Decimal.natural? (UInt64.size - 1)))
  else none

/-- The arguments of a command and the values in front of it, which may not hold both
addresses. -/
def argumentsOf (vs : Values) (command : Command) : Option Arguments := do
  let group ← vs.value? "group"
  let group ← GroupName.all.find? fun g => g.name = group
  let listen := vs.value? "listen"
  let connect := vs.value? "connect"
  if listen.isSome && connect.isSome then none
  return ⟨listen, connect, group, (vs.value? "malicious").isSome, command⟩

/-- Read the words after the name of a command. -/
def readCommand (environment : String → Option String) (name : String) (words : List String) :
    Except Answer Command :=
  match program.commands.find? fun g => g.name = name with
  | none => .error .refused
  | some g =>
    match scan (g.names false []) ⟨[], none⟩ words with
    | .finished r =>
      match (r.complete environment g).bind (commandOf name) with
      | some c => .ok c
      | none => .error .refused
    | .help => .error (.text (program.commandHelp environment g))
    | _ => .error .refused

/-- Read a command line in an environment. -/
def read (environment : String → Option String) (words : List String) : Answer :=
  match scan (program.main.names true ("help" :: program.commands.map (·.name)))
      ⟨[], none⟩ words with
  | .help => .text (program.help environment)
  | .version => .text program.versionText
  | .command _ "help" rest =>
    match program.helpAnswer environment rest with
    | some s => .text s
    | none => .refused
  | .command r name rest =>
    match readCommand environment name rest with
    | .error answer => answer
    | .ok command =>
      match (r.complete environment program.main).bind fun vs => argumentsOf vs command with
      | some a => .arguments a
      | none => .refused
  | _ => .refused

end CommandLine

end TwoParty
