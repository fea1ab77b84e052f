import TwoParty.Proofs.Duet.Dialogue
import TwoParty.Proofs.Wire.Messages

/-!
# TwoParty.Proofs.Duet.Says

What a part of a protocol says and what it ends with, as a triple: `Says` gives the
dialogue, the result, and the store and randomness that are left.  There is one rule
for each primitive of the parties, and `Says.bind` composes them.

After its peer is gone, a party's sends may be refused and its receives fail, in either
case with an I/O error (`keeps_sendMessage_late`, `keeps_receiveMessage_late`).
-/

namespace TwoParty

variable {G : DlogGroup} {σ τ α β : Type} {side : Side} {late : Bool}
  {Q : Except Error β → σ → ByteSource → Prop} {D E : Dialogue}
  {store store' : σ} {random random' : ByteSource}

/-- From this store and randomness, the party at `side` goes through the dialogue `D`
and ends with `v`, leaving `store'` and `random'`. -/
def Says (side : Side) (D : Dialogue) (x : ExceptT Error (Party G σ) α) (store : σ)
    (random : ByteSource) (v : Except Error α) (store' : σ) (random' : ByteSource) : Prop :=
  Party.Keeps side false (fun a s r => a = v ∧ s = store' ∧ r = random') D x.run store random

/-- What was said is one way to keep to the dialogue. -/
theorem Says.keeps {x : ExceptT Error (Party G σ) β} {v : Except Error β}
    (h : Says side D x store random v store' random') (hQ : Q v store' random') :
    x.run.Keeps side late Q D store random := by
  refine (Party.Keeps.mono h ?_).toLate
  intro a s r ha
  obtain ⟨rfl, rfl, rfl⟩ := ha
  exact hQ

/-! ## Sequencing -/

section
variable {x : ExceptT Error (Party G σ) α} {f : α → ExceptT Error (Party G σ) β}

/-- After a part that succeeds the rest keeps to the rest of the dialogue. -/
theorem Says.bind {a : α} (hx : Says side D x store random (.ok a) store' random')
    (hf : (f a).run.Keeps side late Q E store' random') :
    (x >>= f).run.Keeps side late Q (D ++ E) store random := by
  refine Party.Keeps.bind hx ?_
  intro v s r hv
  obtain ⟨rfl, rfl, rfl⟩ := hv
  exact hf

/-- A part that fails is the last one. -/
theorem Says.bind_error {e : Error} (hx : Says side D x store random (.error e) store' random')
    (hQ : Q (.error e) store' random') : (x >>= f).run.Keeps side late Q D store random := by
  rw [← List.append_nil D]
  refine Party.Keeps.bind hx ?_
  intro v s r hv
  obtain ⟨rfl, rfl, rfl⟩ := hv
  exact .done hQ

end

/-! ## Parts without messages -/

theorem says_pure (a : α) :
    Says side [] (pure a : ExceptT Error (Party G σ) α) store random (.ok a) store random :=
  .done ⟨rfl, rfl, rfl⟩

/-- A check or computation without effects. -/
theorem says_except {x v : Except Error α} (h : x = v) :
    Says side [] (liftM x : ExceptT Error (Party G σ) α) store random v store random := by
  subst h
  cases x <;> exact .done ⟨rfl, rfl, rfl⟩

theorem says_except_bind {x : Except Error α} {f : α → Except Error β} {v : Except Error β}
    (h : x >>= f = v) :
    Says side [] (do f (← x) : ExceptT Error (Party G σ) β) store random v store random := by
  subst h
  cases x with
  | error e => exact (says_except rfl).bind_error ⟨rfl, rfl, rfl⟩
  | ok a => exact (says_except rfl).bind (E := []) (says_except rfl)

/-- A party without failures. -/
theorem says_lift {p : Party G σ α} {v : α}
    (h : p.Keeps side false (fun a s r => a = v ∧ s = store' ∧ r = random') D store random) :
    Says side D (liftM p : ExceptT Error (Party G σ) α) store random (.ok v) store' random' := by
  refine Party.Keeps.bind_late h ?_
  intro a s r ha
  obtain ⟨rfl, rfl, rfl⟩ := ha
  exact .done ⟨rfl, rfl, rfl⟩

/-- A party with a store of its own. -/
theorem keeps_within {own : τ} {p : Party G τ α} {R : α → τ → Prop}
    (h : p.Keeps side late (fun a s _ => R a s) D own random) :
    (liftM (Party.within own p : Party G σ _) : ExceptT Error (Party G σ) _).run.Keeps side late
      (fun v _ _ => ∃ a s, v = .ok (a, s) ∧ R a s) D store random := by
  refine Party.Keeps.bind_late (Party.Keeps.within h) ?_
  intro v s r hv
  exact .done ⟨v.1, v.2, rfl, hv.2⟩

theorem says_throw (e : Error) :
    Says side [] (throw e : ExceptT Error (Party G σ) α) store random (.error e) store random :=
  .done ⟨rfl, rfl, rfl⟩

theorem says_get :
    Says side [] (get : ExceptT Error (Party G σ) σ) store random (.ok store) store random :=
  .read (.done ⟨rfl, rfl, rfl⟩)

theorem says_set (new : σ) :
    Says side [] (set new : ExceptT Error (Party G σ) PUnit) store random (.ok ⟨⟩) new random :=
  .write (.done ⟨rfl, rfl, rfl⟩)

/-- A draw of an exponent moves the randomness on, and is quiet. -/
theorem says_drawExponent {e : G.Exponent} (h : G.sample random = some (e, random')) :
    Says side [] (liftM (Party.drawExponent : Party G σ _) : ExceptT Error (Party G σ) _) store
      random (.ok e) store random' :=
  .exponent h (.done ⟨rfl, rfl, rfl⟩)

/-- A draw of bytes takes the head of the randomness, and is quiet. -/
theorem says_drawBytes (n : Nat) :
    Says side [] (liftM (MonadBytes.drawBytes n : Party G σ _) : ExceptT Error (Party G σ) _) store
      random (.ok (random.peek n)) store (random.advance n) :=
  .bytes (.done ⟨rfl, rfl, rfl⟩)

/-! ## Messages -/

/-- A send says the bytes. -/
theorem says_sendBytes (step : String) (data : Bytes) :
    Says side [(side, data)] (Channel.sendBytes step data : ExceptT Error (Party G σ) Unit) store
      random (.ok ()) store random :=
  .send (.done ⟨rfl, rfl, rfl⟩)

/-- A receive hears the bytes from the other side. -/
theorem says_receiveBytes (step : String) (data : Bytes) :
    Says side [(side.other, data)] (Channel.receiveBytes step : ExceptT Error (Party G σ) Bytes)
      store random (.ok data) store random :=
  .receive (.done ⟨rfl, rfl, rfl⟩)

section
variable [Message α] [LawfulMessage α]

/-- A message is said as its text. -/
theorem says_sendMessage (step : String) (a : α) :
    Says side [(side, LawfulMessage.text a)]
      (Channel.sendMessage step a : ExceptT Error (Party G σ) Unit) store random (.ok ())
      store random := by
  rw [Channel.sendMessage, LawfulMessage.write_eq]
  exact says_sendBytes step _

theorem says_receiveMessage (step : String) (a : α) :
    Says side [(side.other, LawfulMessage.text a)]
      (Channel.receiveMessage step : ExceptT Error (Party G σ) α) store random (.ok a)
      store random := by
  have hread : Channel.readMessage step (LawfulMessage.text a) = .ok a :=
    Channel.readMessage_of_read step (LawfulMessage.read_text a)
  exact (says_receiveBytes step _).bind (E := []) (says_except hread)

end

/-! ## After the peer is gone -/

/-- The result is an I/O error. -/
def IsIo (v : Except Error β) : Prop := ∃ e, v = .error e ∧ e.kind = .io

section
variable [Message α] {f : α → ExceptT Error (Party G σ) β} {g : Unit → ExceptT Error (Party G σ) β}

/-- Without its peer a send may be refused or lost in the inbox; either way nothing more is said.
-/
theorem keeps_sendBytes_late (step : String) (data : Bytes)
    (herror : ∀ v, IsIo v → Q v store random)
    (hg : (g ()).run.Keeps side true Q [] store random) :
    (Channel.sendBytes step data >>= g).run.Keeps side true Q [] store random := by
  refine .sendLate rfl hg (.done ?_)
  exact herror _ ⟨_, rfl, rfl⟩

theorem keeps_sendMessage_late [LawfulMessage α] (step : String) (a : α)
    (herror : ∀ v, IsIo v → Q v store random)
    (hg : (g ()).run.Keeps side true Q [] store random) :
    (Channel.sendMessage step a >>= g).run.Keeps side true Q [] store random := by
  rw [Channel.sendMessage, LawfulMessage.write_eq]
  exact keeps_sendBytes_late step _ herror hg

/-- Without its peer a receive is an I/O error. -/
theorem keeps_receiveBytes_late (step : String) {f : Bytes → ExceptT Error (Party G σ) β}
    (herror : ∀ v, IsIo v → Q v store random) :
    (Channel.receiveBytes step >>= f).run.Keeps side true Q [] store random := by
  refine .receiveLate rfl (.done ?_)
  exact herror _ ⟨_, rfl, rfl⟩

theorem keeps_receiveMessage_late (step : String) (herror : ∀ v, IsIo v → Q v store random) :
    (Channel.receiveMessage step >>= f).run.Keeps side true Q [] store random := by
  refine .receiveLate rfl (.done ?_)
  exact herror _ ⟨_, rfl, rfl⟩

end

end TwoParty
