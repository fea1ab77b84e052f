import TwoParty.CommandLine.Play
import TwoParty.Proofs.CoinToss.Blame
import TwoParty.Proofs.Transfer.ReceiverGuard
import TwoParty.Proofs.Transfer.SenderGuard

/-!
# TwoParty.Proofs.CommandLine.Sizes

Where the sizes of a command line are checked.

The check of a command looks at the form of its values only: inputs have to be hexadecimal, a
choice has to be a bit, and a length has to be a positive number of whole bytes.  Two inputs of
different lengths, and lengths beyond the reach of the derivation, become jobs like any others
(`exists_ofCommand`).  They are refused by the part that is played, and so not before there
is a channel to the peer (`checksSizesLate`).
-/

namespace TwoParty

open Party

/-! ## Hexadecimal text -/

/-- Hex digits are ASCII: as text each is its own byte. -/
theorem Hex.utf8EncodeChar_digit : ∀ n < 16,
    String.utf8EncodeChar (Char.ofNat (digit n).toNat) = [digit n] := by
  decide

/-- The bytes of a hex text are the hex encoding. -/
theorem Hex.ofText_text (bs : Bytes) : Bytes.ofText (text bs) = encode bs := by
  rw [Bytes.ofText, text, String.toList_ofList]
  induction bs with
  | nil => rfl
  | cons b bs ih =>
    have hb : b.toNat < 256 := b.toNat_lt
    simp only [encode, List.map_cons, List.flatMap_cons, ih,
      utf8EncodeChar_digit (b.toNat / 16) (by omega),
      utf8EncodeChar_digit (b.toNat % 16) (by omega)]
    rfl

namespace CommandLine

/-- An argument that is the hex text of some bytes is read as these bytes. -/
theorem inputBytes_text (name : String) (bs : Bytes) : inputBytes name (Hex.text bs) = .ok bs := by
  rw [inputBytes, Hex.ofText_text, Hex.decode_encode]
  rfl

namespace Job

/-! ## What the command line lets through -/

/-- Only a length that a machine word holds can be asked for. -/
def IsSpelled : Job → Prop
  | .toss _ config => config.bits < UInt64.size
  | _ => True

/-- Whatever can be asked for is let through, whatever its size. -/
theorem exists_ofCommand {job : Job} (h : job.IsSpelled) :
    ∃ command, Job.ofCommand command = .ok job := by
  cases job with
  | send x0 x1 =>
    refine ⟨.otSend (Hex.text x0) (Hex.text x1), ?_⟩
    rw [ofCommand, inputBytes_text, inputBytes_text]
    rfl
  | receive choice =>
    refine ⟨.otReceive (UInt8.ofNat choice.number), ?_⟩
    cases choice <;> rfl
  | toss role config =>
    refine ⟨.coinToss role (UInt64.ofNat config.bits), ?_⟩
    have hbits : (UInt64.ofNat config.bits).toNat = config.bits := UInt64.toNat_ofNat_of_lt h
    have hconfig : TossConfig.ofBits config.bits = .ok config := by
      rw [TossConfig.ofBits, dif_neg config.pos.ne', dif_pos config.whole]
    rw [ofCommand, hbits, hconfig]
    rfl

/-! ## What the parts let through -/

/-- The sizes with which the part can do its work. -/
def Fits : Job → Prop
  | .send x0 x1 => x0.length = x1.length ∧ x0.length ≤ Kdf.hkdfMax
  | .receive _ => True
  | .toss _ config => config.bytes ≤ Kdf.hkdfMax

/-- The check that the part makes of what it is started with. -/
def check (G : DlogGroup) : Job → Except Error Unit
  | .send x0 x1 => (payload G).validate x0 x1
  | .receive _ => .ok ()
  | .toss _ config => kdf.check config.bytes

variable {G : DlogGroup} {σ : Type} {job : Job} {s : σ} {draw : Challenger} {level : Level}

/-- The limit of the command line is that of HKDF. -/
theorem kdf_check_eq_ok_iff {length : Nat} :
    kdf.check length = .ok () ↔ length ≤ Kdf.hkdfMax := by
  rw [Kdf.check_eq_ok_iff]
  exact ⟨fun h => h _ rfl, fun h max hmax => Option.some.inj hmax ▸ h⟩

/-- A job passes its check exactly if its sizes fit. -/
theorem check_eq_ok_iff : job.check G = .ok () ↔ job.Fits := by
  cases job with
  | send x0 x1 =>
    rw [check, Fits, ← kdf_check_eq_ok_iff]
    by_cases hlength : x0.length = x1.length <;> simp [payload, Payload.byteArray, hlength]
  | receive choice => exact iff_of_true rfl trivial
  | toss role config => exact kdf_check_eq_ok_iff

/-- A failing check is invalid input. -/
theorem kind_of_check {err : Error} (h : job.check G = .error err) : err.kind = .invalidInput := by
  cases job with
  | send x0 x1 =>
    have hvalid : ((PayloadKind.byteArray kdf).payload G).validate x0 x1 = .error err := h
    exact PayloadKind.kind_of_validate_eq_error hvalid
  | receive choice => contradiction
  | toss role config =>
    have hcheck : kdf.check config.bytes = .error err := h
    obtain ⟨max, -, -, rfl⟩ := Kdf.exists_of_check_eq_error hcheck
    rfl

/-! ## Jobs that fit -/

theorem isExact_kdf : kdf.IsExact := Kdf.isExact_hkdf []

theorem isTotal_byteArray : (PayloadKind.byteArray kdf).IsTotal := isExact_kdf.isTotal

/-- A sender whose inputs pass the check never answers with invalid input. -/
theorem blameless_send {x0 x1 : Bytes} (h : (payload G).validate x0 x1 = .ok ()) :
    Blameless (Sender.transfer draw level (payload G) x0 x1) s fun _ _ => True := by
  intro r es v s' r' hrun hmemory
  cases v with
  | ok _ => trivial
  | error err =>
    have hvalid : ((PayloadKind.byteArray kdf).payload G).validate x0 x1 = .ok () := h
    have hcourse := Transfer.senderCourse_of_runs isTotal_byteArray hvalid hrun hmemory
    obtain hio | hformat | hcheat := hcourse.careful.kind_of_error err ⟨s', r', rfl⟩
    · exact .inl hio
    · exact .inr (.inr hformat)
    · exact .inr (.inl hcheat)

/-- The receiver never answers with invalid input. -/
theorem blameless_receive (choice : ChoiceBit) :
    Blameless (Receiver.transfer draw level (payload G) choice) s fun _ _ => True := by
  intro r es v s' r' hrun hmemory
  cases v with
  | ok _ => trivial
  | error err =>
    have hcourse := Transfer.receiverCourse_of_runs isTotal_byteArray hrun hmemory
    have hkind := (hcourse.careful isTotal_byteArray).kind_of_error err ⟨s', r', rfl⟩
    show err.IsExternal
    cases err with
    | cheatAttempt | protocolFormat | io => simp
    | invalidInput | serialization => simp [Error.kind] at hkind

/-- A single toss on a session is blameless if the toss is. -/
theorem blameless_tossOnce {τ : Type} {session : τ}
    {toss : ExceptT Error (Party G τ) TossOutput} {Q : TossOutput → τ → Prop}
    (h : Blameless toss session Q) : Blameless (tossOnce session toss) s fun _ _ => True := by
  refine h.within.bind fun result s' hresult => ?_
  obtain ⟨v, session'⟩ := result
  have hv : Allowed Q v session' := hresult.1
  exact blameless_except (hv.mono fun _ _ => trivial)

/-- A part that can do its work blames its caller for nothing. -/
theorem blameless_play (h : job.Fits) : Blameless (job.play G draw level) s fun _ _ => True := by
  cases job with
  | send x0 x1 =>
    refine (blameless_send (check_eq_ok_iff.2 h)).bind fun _ s' _ => ?_
    exact blameless_except trivial
  | receive choice =>
    refine (blameless_receive choice).bind fun x s' _ => ?_
    exact blameless_except trivial
  | toss role config =>
    have hcheck := kdf_check_eq_ok_iff.2 h
    cases role with
    | one =>
      refine Pedersen.Committer.blameless_setup.bind fun c s' _ => ?_
      refine (blameless_tossOnce (CoinToss.blameless_tossOne isExact_kdf hcheck c)).bind ?_
      exact fun output s' _ => blameless_except trivial
    | two =>
      refine Pedersen.Verifier.blameless_setup.bind fun v s' _ => ?_
      refine (blameless_tossOnce (CoinToss.blameless_tossTwo isExact_kdf hcheck v)).bind ?_
      exact fun output s' _ => blameless_except trivial

/-! ## Jobs that do not fit -/

/-- What the part exchanges with the peer before it looks at its own sizes. -/
def setup (G : DlogGroup) : Job → ExceptT Error (Party G σ) Unit
  | .send _ _ => return ()
  | .receive _ => return ()
  | .toss .one _ => do
    let _ : Pedersen.Committer G ← Pedersen.Committer.setup
  | .toss .two _ => do
    let _ : Pedersen.Verifier G ← Pedersen.Verifier.setup

theorem transfer_of_error {P : Payload G} {x0 x1 : P.Input} {err : Error}
    (h : P.validate x0 x1 = .error err) :
    (Sender.transfer draw level P x0 x1 : ExceptT Error (Party G σ) Unit) = throw err := by
  rw [Sender.transfer, h]
  rfl

theorem tossOnce_of_error {τ : Type} {session : τ} {toss : ExceptT Error (Party G τ) TossOutput}
    {err : Error} (h : toss = throw err) :
    (tossOnce session toss : ExceptT Error (Party G σ) TossOutput) = throw err := by
  subst h
  rfl

/-- What follows a failure does not count. -/
theorem bind_throw {τ α β : Type} (x : ExceptT Error (Party G σ) τ) (err : Error)
    (f : α → ExceptT Error (Party G σ) β) :
    (x >>= fun _ => throw err >>= f) =
      ((x >>= fun _ => pure ()) >>= fun _ : Unit => throw err) :=
  (LawfulMonad.bind_assoc x (fun _ => pure ()) fun _ : Unit => throw err).symm

/-- A part that cannot do its work ends with the refusal, once it is set up. -/
theorem play_eq_of_check {err : Error} (h : job.check G = .error err) :
    (job.play G draw level : ExceptT Error (Party G σ) _) = (do job.setup G; throw err) := by
  cases job with
  | send x0 x1 =>
    rw [play, transfer_of_error h]
    rfl
  | receive choice => contradiction
  | toss role config =>
    have hcheck : kdf.check config.bytes = .error err := h
    cases role with
    | one =>
      have htoss : CoinToss.tossOne config kdf (Pedersen.Committer.side G draw) = throw err := by
        rw [CoinToss.tossOne_eq, hcheck]
        rfl
      simp only [play, setup, tossOnce_of_error htoss]
      exact bind_throw _ err _
    | two =>
      have htoss : CoinToss.tossTwo config kdf (Pedersen.Verifier.side G draw) = throw err := by
        rw [CoinToss.tossTwo_eq, hcheck]
        rfl
      simp only [play, setup, tossOnce_of_error htoss]
      exact bind_throw _ err _

/-! ## Late, not early -/

/-- The command line would let through only what the part lets through. -/
def ChecksSizesFirst : Prop :=
  ∀ {command job}, Job.ofCommand command = .ok job → ∀ G : DlogGroup, job.check G = .ok ()

/-- Two inputs of different lengths get through. -/
theorem not_checksSizesFirst : ¬ ChecksSizesFirst := by
  intro h
  have hjob : Job.ofCommand (.otSend "41" "4242") = .ok (.send [0x41] [0x42, 0x42]) := by rfl
  have hcheck := check_eq_ok_iff.1 (h hjob Secp256k1.group)
  exact absurd hcheck.1 (by decide)

/-- The sizes of a job are looked at by the part that is played and nowhere before. -/
structure ChecksSizesLate (job : Job) : Prop where
  exists_ofCommand : job.IsSpelled → ∃ command, Job.ofCommand command = .ok job
  check_eq_ok_iff : ∀ G, job.check G = .ok () ↔ job.Fits
  not_failsAs_invalidInput : job.Fits → ∀ {G draw level random es e},
    (job.play G draw level : ExceptT Error (Party G Unit) _).run.Runs () random es e →
    (∀ event ∈ es, event.OnMemory) → ¬ FailsAs e .invalidInput
  kind_of_check : ∀ {G err}, job.check G = .error err → err.kind = .invalidInput
  play_eq_of_check : ∀ {G err}, job.check G = .error err → ∀ draw level,
    (job.play G draw level : ExceptT Error (Party G Unit) _) = (do job.setup G; throw err)

/-- Whatever the sizes, they become a job; only the part refuses them, once it is set up. -/
theorem checksSizesLate (job : Job) : job.ChecksSizesLate where
  exists_ofCommand := exists_ofCommand
  check_eq_ok_iff _ := check_eq_ok_iff
  not_failsAs_invalidInput h _ _ _ _ _ _ hrun hmemory hfails := by
    obtain ⟨err, hend, hkind⟩ := hfails
    have hexternal := (blameless_play h).isExternal_of_runs hrun hmemory hend
    simp [Error.IsExternal, hkind] at hexternal
  kind_of_check := kind_of_check
  play_eq_of_check h _ _ := play_eq_of_check h

end Job

end CommandLine

end TwoParty
