import TwoParty.ChoiceBit
import TwoParty.CoinToss.Config
import TwoParty.CommandLine.Address
import TwoParty.CommandLine.Arguments
import TwoParty.Group.Choice
import TwoParty.Transfer.Level

/-!
# TwoParty.CommandLine.Job

From the arguments to a session that is ready to run.  The values of the command
are checked first, then the address, so nothing is sent before the command line
was found to be in order.
-/

namespace TwoParty

namespace CommandLine

/-- What to run. -/
inductive Job where
  | send (x0 x1 : Bytes)
  | receive (choice : ChoiceBit)
  | toss (role : Role) (config : TossConfig)

/-- Where the peer is. -/
inductive Endpoint where
  | listen (address : Address)
  | connect (address : Address)
  deriving DecidableEq, Repr

/-- Everything that a run needs. -/
structure Session where
  endpoint : Endpoint
  group : GroupChoice
  level : Level
  job : Job

/-- Why a command line cannot be run. -/
inductive Refusal where
  /-- The input called `name` is not hexadecimal. -/
  | notHex (name : String) (reason : Hex.Error)
  /-- The library refuses a value. -/
  | invalid (reason : Error)
  /-- No peer is named. -/
  | noPeer
  /-- The address to wait at is unusable. -/
  | binding (address : String) (reason : Fault)

namespace Refusal

/-- The wording, and the wording of the cause behind it. -/
def wording : Refusal → String × Option String
  | .notHex name reason => (name ++ " must be hex", some reason.message)
  | .invalid (.io context cause) => ((Error.io context cause).message, some cause.message)
  | .invalid reason => (reason.message, none)
  | .noPeer => ("Exactly one of --listen or --connect is required", none)
  | .binding address reason => ("binding " ++ address, some reason.message)

/-- The text that reports a refusal. -/
def report (r : Refusal) : String :=
  match r.wording with
  | (text, none) => "Error: " ++ text ++ "\n"
  | (text, some cause) => "Error: " ++ text ++ "\n\nCaused by:\n    " ++ cause ++ "\n"

end Refusal

/-! ## Checks -/

/-- The bytes of an input. -/
def inputBytes (name digits : String) : Except Refusal Bytes :=
  (Hex.decode (Bytes.ofText digits)).mapError (.notHex name)

/-- Check the values of a command. -/
def Job.ofCommand : Command → Except Refusal Job
  | .otSend x0 x1 => do
    let x0 ← inputBytes "x0" x0
    let x1 ← inputBytes "x1" x1
    return .send x0 x1
  | .otReceive choice => (ChoiceBit.ofNumber choice.toNat).mapError .invalid |>.map .receive
  | .coinToss role bits => (TossConfig.ofBits bits.toNat).mapError .invalid |>.map (.toss role)

/-- Check where the peer is. -/
def Endpoint.ofArguments (a : Arguments) : Except Refusal Endpoint :=
  match a.listen, a.connect with
  | some address, none => ((Address.ofText address).mapError (.binding address)).map .listen
  | none, some address =>
    ((Address.ofText address).mapError fun f => .invalid (.io "tcp connect" f)).map .connect
  | _, _ => .error .noPeer

/-- The group of a name. -/
def GroupName.choice : GroupName → GroupChoice
  | .secp256k1 => .secp256k1
  | .ristretto => .ristretto255
  | .modp2048 => .safePrime .modp2048

/-- Check all arguments: the command's own first. -/
def Session.ofArguments (a : Arguments) : Except Refusal Session := do
  let job ← Job.ofCommand a.command
  let endpoint ← Endpoint.ofArguments a
  return ⟨endpoint, a.group.choice, if a.malicious then .malicious else .privacy, job⟩

/-! ## The outcome of a command line -/

/-- What a command line comes to. -/
inductive Outcome where
  /-- It does not fit the grammar. -/
  | refused
  /-- It asks for a text. -/
  | text (s : String)
  /-- Its arguments are wrong. -/
  | failed (r : Refusal)
  /-- It can run. -/
  | ready (s : Session)

/-- The outcome of a command line in an environment. -/
def outcome (environment : String → Option String) (words : List String) : Outcome :=
  match read environment words with
  | .refused => .refused
  | .text s => .text s
  | .arguments a =>
    match Session.ofArguments a with
    | .ok s => .ready s
    | .error r => .failed r

end CommandLine

end TwoParty
