import TwoParty.Wire.Message

/-!
# TwoParty.Error

Why a session fails.  An `Error` has a kind, which tells whose fault it is, and
a cause; the wording of every cause is in one place (`Error.message`).

A cause `other` carries the words of a collaborator outside this library.
-/

namespace TwoParty

/-- The caller's inputs break a precondition. -/
inductive Misuse where
  | choiceBit (value : Nat)
  | tossLengthZero
  | tossLengthNotBytes (bits : Nat)
  | kdfLimit (max requested : Nat)
  | hkdfLimit (requested : Nat)
  | kdf1Counter (requested : Nat)
  | notSafePrime
  | notSubgroupGenerator
  | unequalShares (left right : Nat)
  | unknownCommitment (id : CommitmentId)
  | inputOutsideGroup (name group : String)
  | unequalInputs (left right : Nat)
  | frameTooLong (length max : Nat)
  | other (text : String)

def Misuse.message : Misuse → String
  | .choiceBit value => s!"Choice bit must be 0 or 1, got {value}"
  | .tossLengthZero => "Coin toss length must be positive"
  | .tossLengthNotBytes bits => s!"Coin toss length must be a multiple of 8, got {bits}"
  | .kdfLimit max requested =>
    s!"KDF output is limited to {max} bytes, requested {requested}"
  | .hkdfLimit requested => s!"HKDF-SHA-256 output is limited to 8160 bytes, requested {requested}"
  | .kdf1Counter requested => s!"KDF1 output of {requested} bytes exceeds the counter range"
  | .notSafePrime => "p must be a safe prime greater than 5"
  | .notSubgroupGenerator => "g must generate the order-q subgroup of Z_p^*"
  | .unequalShares left right => s!"Shares must have equal length, got {left} and {right}"
  | .unknownCommitment id => s!"Unknown commitment id {id.toNat}"
  | .inputOutsideGroup name group => s!"{name} is not a member of the {group} group"
  | .unequalInputs left right => s!"x0 and x1 must have equal length, got {left} and {right}"
  | .frameTooLong length max =>
    s!"Message of {length} bytes exceeds the frame limit of {max} bytes"
  | .other text => text

/-- The wording of a caller's mistake as a whole error. -/
def Misuse.describe (m : Misuse) : String := "Invalid input: " ++ m.message

/-- A received message does not have the expected form. -/
inductive Malformed where
  | sec1Encoding
  | pointOffCurve
  | scalarLength
  | scalarNotReduced
  | ristrettoLength
  | ristrettoEncoding
  | scalarNotCanonical
  | elementLength (expected got : Nat)
  | exponentLength
  | exponentNotReduced
  | json (reason : Json.Error)
  | unreadable (step : String) (reason : Json.Error)
  | shareLength (expected got : Nat)
  | wrongCommitment (got expected : CommitmentId)
  | unequalCiphertexts (left right : Nat)
  | ciphertextRejected (reason : Misuse)
  | frameTooBig
  | other (text : String)

def Malformed.message : Malformed → String
  | .sec1Encoding => "Invalid SEC1 encoding: elliptic curve point encoding error"
  | .pointOffCurve => "Point is not on secp256k1"
  | .scalarLength => "Invalid scalar length"
  | .scalarNotReduced => "Scalar is not reduced modulo the order"
  | .ristrettoLength => "Invalid Ristretto encoding length"
  | .ristrettoEncoding => "Invalid Ristretto encoding"
  | .scalarNotCanonical => "Scalar is not canonical"
  | .elementLength expected got => s!"Expected a {expected}-byte element, got {got} bytes"
  | .exponentLength => "Invalid exponent length"
  | .exponentNotReduced => "Exponent is not reduced modulo the order"
  | .json reason => reason.message
  | .unreadable step reason => step ++ ": " ++ reason.message
  | .shareLength expected got => s!"Party two's share must be {expected} bytes, got {got}"
  | .wrongCommitment got expected =>
    s!"Message refers to commitment {got.toNat}, expected {expected.toNat}"
  | .unequalCiphertexts left right => s!"c0 and c1 must have equal length, got {left} and {right}"
  | .ciphertextRejected reason => "Ciphertext rejected: " ++ reason.describe
  | .frameTooBig => "Rejected incoming frame: frame size too big"
  | .other text => text

/-- The wording of a malformed message as a whole error. -/
def Malformed.describe (m : Malformed) : String := "Protocol format error: " ++ m.message

/-- A received value fails a membership test, or a proof is refused. -/
inductive Cheating where
  | undecodable (field group : String) (reason : Malformed)
  | outsideGroup (field group : String)
  | nonMember (group : String)
  | baseIsGenerator
  | reusedCommitment (id : CommitmentId)
  | missingKeyProof
  | rejectedKeyProof
  | equalKeys
  | rejectedKnowledge
  | rejectedValue
  | other (text : String)

def Cheating.message : Cheating → String
  | .undecodable field group reason =>
    s!"{field} is not a valid {group} element encoding (" ++ reason.describe ++ ")"
  | .outsideGroup field group => s!"{field} element is not a member of the {group} group"
  | .nonMember group => s!"Element is not a member of the {group}"
  | .baseIsGenerator => "Pedersen parameter h equals the generator"
  | .reusedCommitment id => s!"Commitment id {id.toNat} was reused"
  | .missingKeyProof => "Receiver did not prove knowledge of alpha"
  | .rejectedKeyProof => "Receiver's proof of knowledge of alpha was rejected"
  | .equalKeys => "z0 and z1 are equal"
  | .rejectedKnowledge => "knowledge proof rejected"
  | .rejectedValue => "committed value proof rejected"
  | .other text => text

/-- The transport fails. -/
inductive Fault where
  /-- The end that was to read the message was dropped. -/
  | readerDropped
  /-- The end that messages come from was dropped. -/
  | writerDropped
  | closedByPeer
  | unfinishedFrame
  | connectionReset
  | brokenPipe
  | invalidAddress
  | invalidPort
  | other (text : String)

def Fault.message : Fault → String
  | .readerDropped => "peer end was dropped"
  | .writerDropped => "peer end was dropped"
  | .closedByPeer => "connection closed by peer"
  | .unfinishedFrame => "bytes remaining on stream"
  | .connectionReset => "Connection reset by peer (os error 104)"
  | .brokenPipe => "Broken pipe (os error 32)"
  | .invalidAddress => "invalid socket address"
  | .invalidPort => "invalid port value"
  | .other text => text

/-- What a system calls a failure of its transport. -/
inductive Fault.Kind where
  | brokenPipe
  | unexpectedEnd
  | connectionReset
  | invalidInput
  | other
  deriving DecidableEq, Repr

def Fault.kind : Fault → Fault.Kind
  | .readerDropped => .brokenPipe
  | .writerDropped => .unexpectedEnd
  | .closedByPeer => .unexpectedEnd
  | .unfinishedFrame => .other
  | .connectionReset => .connectionReset
  | .brokenPipe => .brokenPipe
  | .invalidAddress => .invalidInput
  | .invalidPort => .invalidInput
  | .other _ => .other

/-- Why a session fails.  Every error is final for its session. -/
inductive Error where
  /-- Evidence that the peer does not follow the protocol. -/
  | cheatAttempt (cause : Cheating)
  /-- The caller's inputs were refused. -/
  | invalidInput (cause : Misuse)
  /-- A message from the peer does not have the expected form. -/
  | protocolFormat (cause : Malformed)
  /-- The transport failed during `context`. -/
  | io (context : String) (cause : Fault)
  /-- A message of one's own has no written form. -/
  | serialization (cause : Wire.WriteError)

namespace Error

/-- The wording of an error. -/
def message : Error → String
  | .cheatAttempt cause => "Cheat attempt detected: " ++ cause.message
  | .invalidInput cause => cause.describe
  | .protocolFormat cause => cause.describe
  | .io context cause => "I/O error during " ++ context ++ ": " ++ cause.message
  | .serialization cause => "Serialization error: " ++ cause.message

/-- Name the step during which the transport failed; other errors stay as they are. -/
def during (e : Error) (step : String) : Error :=
  match e with
  | .io context cause => .io (step ++ " (" ++ context ++ ")") cause
  | e => e

/-- Does the error give evidence against the peer? -/
def isAbort : Error → Bool
  | .cheatAttempt _ => true
  | .protocolFormat _ => true
  | _ => false

/-- The kinds of errors. -/
inductive Kind where
  | cheatAttempt
  | invalidInput
  | protocolFormat
  | io
  | serialization
  deriving DecidableEq, Repr

def kind : Error → Kind
  | .cheatAttempt _ => .cheatAttempt
  | .invalidInput _ => .invalidInput
  | .protocolFormat _ => .protocolFormat
  | .io _ _ => .io
  | .serialization _ => .serialization

@[simp] theorem kind_during (e : Error) (step : String) : (e.during step).kind = e.kind := by
  cases e <;> rfl

@[simp] theorem isAbort_iff (e : Error) :
    e.isAbort = true ↔ e.kind = .cheatAttempt ∨ e.kind = .protocolFormat := by
  cases e <;> simp [isAbort, kind]

end Error

end TwoParty
