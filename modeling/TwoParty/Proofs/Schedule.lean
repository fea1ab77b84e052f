import TwoParty.Proofs.CoinToss.Agreement
import TwoParty.Proofs.CoinToss.Schedule
import TwoParty.Proofs.Transfer.Schedule

/-!
# TwoParty.Proofs.Schedule

Honest runs of the two protocols do not depend on the schedule.

Nothing is assumed about the group, the payload, the derivations, the inputs or the lengths, so
the runs in which one side gives up and drops its end are among them.  All that is asked of the
randomness is that no draw of an exponent fails to return.
-/

namespace TwoParty

open Duet

/-- How the results of a transfer compare. -/
def Transfer.Same {G : DlogGroup} (P : Payload G) : (s : Side) → Result P s → Result P s → Prop
  | .one => Alike Eq
  | .two => Alike Eq

/-- Whatever the schedule, two honest parties of a transfer or of coin tosses both return, with
the same outcomes in every schedule, and no schedule runs into a deadlock. -/
theorem scheduleFree_of_drawsReturn (G : DlogGroup) (draw : Challenger) {σ : Side → Type}
    (store : (s : Side) → σ s) (random : Side → ByteSource) :
    (∀ level (P : Payload G) choice x0 x1,
      (start (Transfer.parties σ draw level P choice x0 x1) store random).DrawsReturn →
      (start (Transfer.parties σ draw level P choice x0 x1) store random).ScheduleFree
        (Transfer.Same P)) ∧
    (∀ config kdf n,
      (start (CoinToss.sessions G σ draw config kdf n) store random).DrawsReturn →
      (start (CoinToss.sessions G σ draw config kdf n) store random).ScheduleFree
        fun _ => CoinToss.SameSession) := by
  constructor
  · intro level P choice x0 x1 h
    exact (Transfer.concludes_transfer (areFed_of_drawsReturn h)).settles.scheduleFree
  · intro config kdf n h
    exact (CoinToss.settles_session (areFed_of_drawsReturn h)).scheduleFree

/-- A transfer modulo 23, and tosses of different lengths. -/
theorem scheduleFree_of_drawsReturn_small :
    (start (Transfer.parties (fun _ => Unit) (fun _ _ n => List.replicate n 0) .malicious
        (PayloadKind.groupElement.payload SafePrime.small.group) .one (2 : Nat) (3 : Nat))
      (fun _ => ()) (fun _ => SafePrime.threes 0)).ScheduleFree (Transfer.Same _) ∧
    (start (CoinToss.sessions SafePrime.small.group (fun _ => Unit)
        (fun _ _ n => List.replicate n 0)
        (fun | .one => .standard | .two => { bits := 64 }) (fun _ => Kdf.hkdf []) 2)
      (fun _ => ()) (fun _ => SafePrime.threes 0)).ScheduleFree
        fun _ => CoinToss.SameSession := by
  let supply : ByteSource → Prop := fun r => ∃ used, r = SafePrime.threes used
  have hadvance : ∀ r n, supply r → supply (r.advance n) := by
    rintro _ n ⟨used, rfl⟩
    exact ⟨used + n, rfl⟩
  have hsample : ∀ r, supply r →
      ∃ x rest, SafePrime.small.group.sample r = some (x, rest) ∧ supply rest := by
    rintro _ ⟨used, rfl⟩
    exact ⟨_, _, SafePrime.sample_threes used, _, rfl⟩
  have h := @scheduleFree_of_drawsReturn SafePrime.small.group (fun _ _ n => List.replicate n 0)
    (fun _ => Unit) (fun _ => ()) (fun _ => SafePrime.threes 0)
  have hsupply : ∀ _ : Side, supply (SafePrime.threes 0) := fun _ => ⟨0, rfl⟩
  exact ⟨h.1 _ _ _ _ _ (drawsReturn_of_supply hadvance hsample hsupply),
    h.2 _ _ _ (drawsReturn_of_supply hadvance hsample hsupply)⟩

end TwoParty
