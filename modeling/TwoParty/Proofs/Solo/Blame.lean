import TwoParty.Proofs.Solo.Memory
import TwoParty.Proofs.Solo.Service

/-!
# TwoParty.Proofs.Solo.Blame

Parties that blame no failure on their caller.

`Blameless x s Q` is a triple of partial correctness for one party at an end of a memory
channel, with anyone at the other end.  From the store `s`, a run of `x` fails for a reason that
lies with the transport or the peer, or it ends with a result and a store for which `Q` holds,
or it never ends.

What `Q` says of the store is what the next part of a sequence relies on
(`Blameless.bind`): that is how a later part knows that the store has an entry which an earlier
part put there.
-/

namespace TwoParty

/-! ## Reasons outside -/

namespace Error

/-- The reason lies with the transport or with the peer. -/
def IsExternal (err : Error) : Prop :=
  err.kind = .io ∨ err.kind = .cheatAttempt ∨ err.kind = .protocolFormat

@[simp] theorem isExternal_io (context : String) (cause : Fault) : (io context cause).IsExternal :=
  .inl rfl

@[simp] theorem isExternal_cheatAttempt (cause : Cheating) : (cheatAttempt cause).IsExternal :=
  .inr (.inl rfl)

@[simp] theorem isExternal_protocolFormat (cause : Malformed) :
    (protocolFormat cause).IsExternal :=
  .inr (.inr rfl)

@[simp] theorem isExternal_during (err : Error) (step : String) :
    (err.during step).IsExternal ↔ err.IsExternal := by
  simp [IsExternal]

end Error

namespace Party

/-- The transport's answer to a send on a memory channel. -/
theorem Event.OnMemory.isExternal_of_sent {m : Bytes} {err : Error}
    (h : Event.OnMemory (.sent m (some (.error err)))) : err.IsExternal := by
  cases h
  exact Error.isExternal_io _ _

theorem Event.OnMemory.isExternal_of_received {err : Error}
    (h : Event.OnMemory (.received (some (.error err)))) : err.IsExternal := by
  cases h
  exact Error.isExternal_io _ _

variable {G : DlogGroup} {σ α β : Type} {s : σ}

/-- A result for which `Q` holds, or a failure for a reason outside. -/
def Allowed (Q : α → σ → Prop) : Except Error α → σ → Prop
  | .ok a, s => Q a s
  | .error err, _ => err.IsExternal

/-- What is made of a result does not change the reasons to fail. -/
theorem Allowed.map {Q : β → σ → Prop} {v : Except Error α} {f : α → β}
    (h : Allowed (fun a => Q (f a)) v s) : Allowed Q (v.map f) s := by
  cases v <;> exact h

theorem Allowed.mono {τ : Type} {Q : α → σ → Prop} {Q' : α → τ → Prop} {v : Except Error α}
    {s' : τ} (h : Allowed Q v s) (hQ : ∀ a, Q a s → Q' a s') : Allowed Q' v s' := by
  cases v with
  | ok a => exact hQ a h
  | error err => exact h

/-- A send ends as the channel answers. -/
theorem allowed_of_sent {Q : Unit → σ → Prop} {m : Bytes} {answer : Except Error Unit}
    {step : String} (hmemory : Event.OnMemory (.sent m (some answer))) (h : Q () s) :
    Allowed Q (answer.mapError (·.during step)) s := by
  cases answer with
  | ok _ => exact h
  | error err => exact (Error.isExternal_during err step).2 hmemory.isExternal_of_sent

/-- Whatever the peer does, the party ends as `Q` says or fails for a reason outside. -/
def Blameless (x : ExceptT Error (Party G σ) α) (s : σ) (Q : α → σ → Prop) : Prop :=
  ∀ r es v s' r', x.run.Runs s r es (some (v, s', r')) → (∀ event ∈ es, event.OnMemory) →
    Allowed Q v s'

namespace Blameless

variable {x : ExceptT Error (Party G σ) α} {f : α → ExceptT Error (Party G σ) β}
  {Q : α → σ → Prop} {R : β → σ → Prop}

/-- One part after the other. -/
theorem bind (hx : Blameless x s Q) (hf : ∀ a s', Q a s' → Blameless (f a) s' R) :
    Blameless (x >>= f) s R := by
  intro r es v s' r' hrun hmemory
  rcases runs_bind_except.1 hrun with
    ⟨h, -⟩ | ⟨err, s₁, r₁, h, hx'⟩ | ⟨es₁, es₂, a, s₁, r₁, rfl, hx', hf'⟩
  · contradiction
  · cases h
    exact hx _ _ _ _ _ hx' hmemory
  · obtain ⟨h₁, h₂⟩ := List.forall_mem_append.1 hmemory
    exact hf a s₁ (hx _ _ _ _ _ hx' h₁) _ _ _ _ _ hf' h₂

/-- A step that is known to succeed. -/
theorem ok_bind {a : α} (h : Blameless (f a) s R) :
    Blameless (liftM (.ok a : Except Error α) >>= f) s R := h

/-- The failures of a party that is not to blame. -/
theorem isExternal_of_runs (hx : Blameless x s Q) {r : ByteSource} {es : List Event}
    {e : Ending σ (Except Error α)} (hrun : x.run.Runs s r es e)
    (hmemory : ∀ event ∈ es, event.OnMemory) {err : Error} (he : EndsAs e (.error err)) :
    err.IsExternal := by
  obtain ⟨s', r', rfl⟩ := he
  exact hx _ _ _ _ _ hrun hmemory

end Blameless

/-! ## Single steps -/

/-- A computation is blameless if its errors have reasons outside. -/
theorem blameless_except {v : Except Error α} {Q : α → σ → Prop} (h : Allowed Q v s) :
    Blameless (liftM v : ExceptT Error (Party G σ) α) s Q := by
  intro r es v' s' r' hrun _
  obtain ⟨-, he⟩ := runs_except.1 hrun
  cases he
  exact h

/-- A draw of bytes gives as many as were asked for. -/
theorem blameless_drawBytes (n : Nat) :
    Blameless (liftM (MonadBytes.drawBytes n : Party G σ _) : ExceptT Error (Party G σ) Bytes) s
      fun bs s' => bs.length = n ∧ s' = s := by
  intro r es v s' r' hrun _
  cases hrun with
  | bytes hrun =>
    obtain ⟨-, he⟩ := runs_done.1 hrun
    cases he
    exact ⟨ByteSource.length_peek r n, rfl⟩

theorem blameless_drawExponent :
    Blameless (liftM (Party.drawExponent : Party G σ _) : ExceptT Error (Party G σ) G.Exponent) s
      fun _ s' => s' = s := by
  intro r es v s' r' hrun _
  cases hrun with
  | exponent _ hrun =>
    obtain ⟨-, he⟩ := runs_done.1 hrun
    cases he
    rfl

/-- A send fails by the transport only. -/
theorem blameless_sendBytes (step : String) (data : Bytes) :
    Blameless (Channel.sendBytes step data : ExceptT Error (Party G σ) Unit) s
      fun _ s' => s' = s := by
  intro r es v s' r' hrun hmemory
  obtain ⟨answer, rfl, he⟩ := runs_sendBytes.1 hrun
  obtain ⟨u, rfl, hu⟩ := Option.map_eq_some_iff.1 he.symm
  cases hu
  exact allowed_of_sent (hmemory _ (List.mem_singleton_self _)) rfl

theorem blameless_receiveBytes (step : String) :
    Blameless (Channel.receiveBytes step : ExceptT Error (Party G σ) Bytes) s
      fun _ s' => s' = s := by
  intro r es v s' r' hrun hmemory
  obtain ⟨answer, rfl, he⟩ := runs_receiveBytes.1 hrun
  obtain ⟨u, rfl, hu⟩ := Option.map_eq_some_iff.1 he.symm
  cases hu
  cases u with
  | ok data => rfl
  | error err =>
    have herr := (hmemory _ (List.mem_singleton_self _)).isExternal_of_received
    exact (Error.isExternal_during err step).2 herr

/-- What was not understood is the doing of the peer or the transport. -/
theorem isExternal_of_understood [Message α] {step : String} {answer : Except Error Bytes}
    {err : Error} (h : (understood step answer : Except Error α) = .error err)
    (hmemory : Event.OnMemory (.received (some answer))) : err.IsExternal := by
  cases answer with
  | error reason =>
    cases h
    exact (Error.isExternal_during reason step).2 hmemory.isExternal_of_received
  | ok data =>
    have hread : (Channel.readMessage step data : Except Error α) = .error err := h
    cases hmessage : (Message.read data : Except Json.Error α) with
    | error reason =>
      rw [Channel.readMessage_of_error step hmessage] at hread
      cases hread
      exact Error.isExternal_protocolFormat _
    | ok m =>
      rw [Channel.readMessage_of_read step hmessage] at hread
      contradiction

/-- Receiving a message fails by the transport or by the peer that wrote it. -/
theorem blameless_receiveMessage [Message α] (step : String) :
    Blameless (Channel.receiveMessage step : ExceptT Error (Party G σ) α) s
      fun _ s' => s' = s := by
  intro r es v s' r' hrun hmemory
  obtain ⟨answer, rfl, he⟩ := runs_receiveMessage.1 hrun
  obtain ⟨u, rfl, hu⟩ := Option.map_eq_some_iff.1 he.symm
  obtain ⟨rfl, rfl, rfl⟩ := hu
  cases hunderstood : (understood step u : Except Error α) with
  | ok m => rfl
  | error err =>
    exact isExternal_of_understood hunderstood (hmemory _ (List.mem_singleton_self _))

/-- Sending a message fails by the transport only. -/
theorem blameless_sendMessage [Message α] [LawfulMessage α] (step : String) (m : α) :
    Blameless (Channel.sendMessage step m : ExceptT Error (Party G σ) Unit) s
      fun _ s' => s' = s := by
  rw [Channel.sendMessage, LawfulMessage.write_eq]
  exact blameless_sendBytes step _

/-- A party with a store of its own. -/
theorem Blameless.within {τ : Type} {own : τ} {x : ExceptT Error (Party G τ) α}
    {Q : α → τ → Prop} (hx : Blameless x own Q) :
    Blameless (liftM (Party.within own x.run : Party G σ _) :
      ExceptT Error (Party G σ) (Except Error α × τ)) s
      fun result s' => Allowed Q result.1 result.2 ∧ s' = s := by
  intro r es v s' r' hrun hmemory
  rcases runs_bind.1 hrun with ⟨h, -⟩ | ⟨es₁, es₂, result, s₁, r₁, rfl, hrun₁, hdone⟩
  · contradiction
  obtain ⟨rfl, he⟩ := runs_done.1 hdone
  cases he
  obtain ⟨e', hown, he'⟩ := hrun₁.of_within
  obtain ⟨w, rfl, hw⟩ := Option.map_eq_some_iff.1 he'.symm
  cases hw
  rw [List.append_nil] at hmemory
  exact ⟨hx _ _ _ _ _ hown hmemory, rfl⟩

end Party

end TwoParty
