import TwoParty.Party

/-!
# TwoParty.Proofs.Solo.Basic

One party against a transport and a peer that may do anything.

`Party.Runs` lists what can happen: whatever the party asks of its transport is answered in
any way, or never.  Everything the party does between two answers is determined, so a
statement about all runs is a statement about all peers.

* `runs_bind`, `runs_bind_except` — the runs of a sequence, taken apart;
* `runs_sendBytes`, `runs_receiveBytes` — the runs of the channel operations.
-/

namespace TwoParty

namespace Party

/-- What a party asks of its transport, with the answer; `none` if there never is one. -/
inductive Event where
  | sent (message : Bytes) (answer : Option (Except Error Unit))
  | received (answer : Option (Except Error Bytes))

namespace Event

def isSent : Event → Bool
  | .sent _ _ => true
  | .received _ => false

def message? : Event → Option Bytes
  | .sent m _ => some m
  | .received _ => none

def passed? : Event → Option Bytes
  | .sent m (some (.ok ())) => some m
  | _ => none

def heard? : Event → Option Bytes
  | .received (some (.ok m)) => some m
  | _ => none

end Event

/-- The messages that the party put out. -/
def messages (es : List Event) : List Bytes := es.filterMap Event.message?

def passed (es : List Event) : List Bytes := es.filterMap Event.passed?

def heard (es : List Event) : List Bytes := es.filterMap Event.heard?

/-- What happens before the party waits for the first time. -/
def before (es : List Event) : List Event := es.takeWhile Event.isSent

/-- What happens from then on. -/
def after (es : List Event) : List Event := es.dropWhile Event.isSent

@[simp] theorem messages_append (es es' : List Event) :
    messages (es ++ es') = messages es ++ messages es' := List.filterMap_append

@[simp] theorem passed_append (es es' : List Event) :
    passed (es ++ es') = passed es ++ passed es' := List.filterMap_append

@[simp] theorem heard_append (es es' : List Event) :
    heard (es ++ es') = heard es ++ heard es' := List.filterMap_append

/-- What got through was put out. -/
theorem passed_sublist_messages (es : List Event) : (passed es).Sublist (messages es) := by
  induction es with
  | nil => exact .slnil
  | cons event es ih =>
    match event with
    | .sent m (some (.ok _)) => exact ih.cons_cons m
    | .sent m (some (.error _)) => exact ih.cons m
    | .sent m none => exact ih.cons m
    | .received _ => exact ih

variable {G : DlogGroup} {σ α β : Type}

/-- How a run ends: the result, the store and what is left of the randomness, or `none` if
the party is never finished. -/
abbrev Ending (σ α : Type) := Option (α × σ × ByteSource)

/-- From this store and randomness, the party can meet with these events and end so. -/
inductive Runs : Party G σ α → σ → ByteSource → List Event → Ending σ α → Prop where
  | done {a s r} : Runs (.done a) s r [] (some (a, s, r))
  | read {next s r es e} (h : Runs (next s) s r es e) : Runs (.read next) s r es e
  | write {new next s r es e} (h : Runs next new r es e) : Runs (.write new next) s r es e
  | exponent {next s r x rest es e} (hx : G.sample r = some (x, rest))
    (h : Runs (next x) s rest es e) : Runs (.exponent next) s r es e
  | starved {next s r} (hx : G.sample r = none) : Runs (.exponent next) s r [] none
  | bytes {n next s r es e} (h : Runs (next (r.peek n)) s (r.advance n) es e) :
    Runs (.bytes n next) s r es e
  | send {m next s r answer es e} (h : Runs (next answer) s r es e) :
    Runs (.send m next) s r (.sent m (some answer) :: es) e
  | sendStuck {m next s r} : Runs (.send m next) s r [.sent m none] none
  | receive {next s r answer es e} (h : Runs (next answer) s r es e) :
    Runs (.receive next) s r (.received (some answer) :: es) e
  | receiveStuck {next s r} : Runs (.receive next) s r [.received none] none

/-- Every party has runs; in one of them the transport never answers. -/
theorem exists_runs (p : Party G σ α) (s : σ) (r : ByteSource) : ∃ es e, p.Runs s r es e := by
  induction p generalizing s r with
  | done a => exact ⟨_, _, .done⟩
  | read next ih =>
    obtain ⟨es, e, h⟩ := ih s s r
    exact ⟨es, e, .read h⟩
  | write new next ih =>
    obtain ⟨es, e, h⟩ := ih new r
    exact ⟨es, e, .write h⟩
  | exponent next ih =>
    cases hx : G.sample r with
    | none => exact ⟨_, _, .starved hx⟩
    | some drawn =>
      obtain ⟨es, e, h⟩ := ih drawn.1 s drawn.2
      exact ⟨es, e, .exponent hx h⟩
  | bytes n next ih =>
    obtain ⟨es, e, h⟩ := ih (r.peek n) s (r.advance n)
    exact ⟨es, e, .bytes h⟩
  | send m next ih => exact ⟨_, _, .sendStuck⟩
  | receive next ih => exact ⟨_, _, .receiveStuck⟩

variable {p : Party G σ α} {s : σ} {r : ByteSource} {es : List Event}

/-! ## Sequences -/

/-- A finished party does nothing more. -/
theorem runs_done {a : α} {e : Ending σ α} :
    (.done a : Party G σ α).Runs s r es e ↔ es = [] ∧ e = some (a, s, r) := by
  constructor
  · intro h
    cases h
    exact ⟨rfl, rfl⟩
  · rintro ⟨rfl, rfl⟩
    exact .done

/-- One party after the other. -/
theorem Runs.bind {f : α → Party G σ β} {a : α} {s' : σ} {r' : ByteSource} {es' : List Event}
    {e : Ending σ β} (h : p.Runs s r es (some (a, s', r'))) (hf : (f a).Runs s' r' es' e) :
    (p.bind f).Runs s r (es ++ es') e := by
  generalize hend : (some (a, s', r') : Ending σ α) = e₁ at h
  induction h with
  | done =>
    cases hend
    exact hf
  | read h ih => exact .read (ih hend)
  | write h ih => exact .write (ih hend)
  | exponent hx h ih => exact .exponent hx (ih hend)
  | starved hx => cases hend
  | bytes h ih => exact .bytes (ih hend)
  | send h ih => exact .send (ih hend)
  | sendStuck => cases hend
  | receive h ih => exact .receive (ih hend)
  | receiveStuck => cases hend

/-- A party that is never finished has no successor. -/
theorem Runs.bind_none {f : α → Party G σ β} (h : p.Runs s r es none) :
    (p.bind f).Runs s r es none := by
  generalize hend : (none : Ending σ α) = e at h
  induction h with
  | done => cases hend
  | read h ih => exact .read (ih hend)
  | write h ih => exact .write (ih hend)
  | exponent hx h ih => exact .exponent hx (ih hend)
  | starved hx => exact .starved hx
  | bytes h ih => exact .bytes (ih hend)
  | send h ih => exact .send (ih hend)
  | sendStuck => exact .sendStuck
  | receive h ih => exact .receive (ih hend)
  | receiveStuck => exact .receiveStuck

/-- A party with a store of its own has its runs inside another one. -/
theorem Runs.within {τ : Type} {own : τ} {p : Party G τ α} {e : Ending τ α}
    (h : p.Runs own r es e) (store : σ) :
    (p.within own).Runs store r es (e.map fun v => ((v.1, v.2.1), store, v.2.2)) := by
  induction h with
  | done => exact .done
  | read h ih => exact ih
  | write h ih => exact ih
  | exponent hx h ih => exact .exponent hx ih
  | starved hx => exact .starved hx
  | bytes h ih => exact .bytes ih
  | send h ih => exact .send ih
  | sendStuck => exact .sendStuck
  | receive h ih => exact .receive ih
  | receiveStuck => exact .receiveStuck

/-- The runs of a party with a store of its own are those that it has by itself. -/
theorem Runs.of_within {τ : Type} {own : τ} {p : Party G τ α} {e : Ending σ (α × τ)}
    (h : (p.within own).Runs s r es e) :
    ∃ e', p.Runs own r es e' ∧ e = e'.map fun v => ((v.1, v.2.1), s, v.2.2) := by
  induction p generalizing own r es with
  | done a =>
    cases h
    exact ⟨_, .done, rfl⟩
  | read next ih =>
    obtain ⟨e', hrun, he⟩ := ih own h
    exact ⟨e', .read hrun, he⟩
  | write new next ih =>
    obtain ⟨e', hrun, he⟩ := ih h
    exact ⟨e', .write hrun, he⟩
  | exponent next ih =>
    cases h with
    | exponent hx h =>
      obtain ⟨e', hrun, he⟩ := ih _ h
      exact ⟨e', .exponent hx hrun, he⟩
    | starved hx => exact ⟨none, .starved hx, rfl⟩
  | bytes n next ih =>
    cases h with
    | bytes h =>
      obtain ⟨e', hrun, he⟩ := ih _ h
      exact ⟨e', .bytes hrun, he⟩
  | send m next ih =>
    cases h with
    | send h =>
      obtain ⟨e', hrun, he⟩ := ih _ h
      exact ⟨e', .send hrun, he⟩
    | sendStuck => exact ⟨none, .sendStuck, rfl⟩
  | receive next ih =>
    cases h with
    | receive h =>
      obtain ⟨e', hrun, he⟩ := ih _ h
      exact ⟨e', .receive hrun, he⟩
    | receiveStuck => exact ⟨none, .receiveStuck, rfl⟩

/-- The runs of a sequence: the first part is never finished, or the second one follows. -/
theorem runs_bind {f : α → Party G σ β} {e : Ending σ β} :
    (p.bind f).Runs s r es e ↔
      (e = none ∧ p.Runs s r es none) ∨
      ∃ es₁ es₂ a s₁ r₁, es = es₁ ++ es₂ ∧ p.Runs s r es₁ (some (a, s₁, r₁)) ∧
        (f a).Runs s₁ r₁ es₂ e := by
  constructor
  · intro h
    -- A run is cut where the first party has returned, if it gets there.
    induction p generalizing s r es with
    | done a => exact .inr ⟨[], es, a, s, r, rfl, .done, h⟩
    | read next ih =>
      cases h with
      | read h =>
        rcases ih _ h with ⟨he, hp⟩ | ⟨es₁, es₂, a, s₁, r₁, hes, hp, hf⟩
        · exact .inl ⟨he, .read hp⟩
        · exact .inr ⟨es₁, es₂, a, s₁, r₁, hes, .read hp, hf⟩
    | write new next ih =>
      cases h with
      | write h =>
        rcases ih h with ⟨he, hp⟩ | ⟨es₁, es₂, a, s₁, r₁, hes, hp, hf⟩
        · exact .inl ⟨he, .write hp⟩
        · exact .inr ⟨es₁, es₂, a, s₁, r₁, hes, .write hp, hf⟩
    | exponent next ih =>
      cases h with
      | exponent hx h =>
        rcases ih _ h with ⟨he, hp⟩ | ⟨es₁, es₂, a, s₁, r₁, hes, hp, hf⟩
        · exact .inl ⟨he, .exponent hx hp⟩
        · exact .inr ⟨es₁, es₂, a, s₁, r₁, hes, .exponent hx hp, hf⟩
      | starved hx => exact .inl ⟨rfl, .starved hx⟩
    | bytes n next ih =>
      cases h with
      | bytes h =>
        rcases ih _ h with ⟨he, hp⟩ | ⟨es₁, es₂, a, s₁, r₁, hes, hp, hf⟩
        · exact .inl ⟨he, .bytes hp⟩
        · exact .inr ⟨es₁, es₂, a, s₁, r₁, hes, .bytes hp, hf⟩
    | send m next ih =>
      cases h with
      | send h =>
        rcases ih _ h with ⟨he, hp⟩ | ⟨es₁, es₂, a, s₁, r₁, rfl, hp, hf⟩
        · exact .inl ⟨he, .send hp⟩
        · exact .inr ⟨_ :: es₁, es₂, a, s₁, r₁, rfl, .send hp, hf⟩
      | sendStuck => exact .inl ⟨rfl, .sendStuck⟩
    | receive next ih =>
      cases h with
      | receive h =>
        rcases ih _ h with ⟨he, hp⟩ | ⟨es₁, es₂, a, s₁, r₁, rfl, hp, hf⟩
        · exact .inl ⟨he, .receive hp⟩
        · exact .inr ⟨_ :: es₁, es₂, a, s₁, r₁, rfl, .receive hp, hf⟩
      | receiveStuck => exact .inl ⟨rfl, .receiveStuck⟩
  · rintro (⟨rfl, h⟩ | ⟨es₁, es₂, a, s₁, r₁, rfl, h, hf⟩)
    · exact h.bind_none
    · exact h.bind hf

section
variable {x : ExceptT Error (Party G σ) α} {f : α → ExceptT Error (Party G σ) β}

/-- The runs of a sequence that an error cuts short. -/
theorem runs_bind_except {e : Ending σ (Except Error β)} :
    (x >>= f).run.Runs s r es e ↔
      (e = none ∧ x.run.Runs s r es none) ∨
      (∃ err s₁ r₁, e = some (.error err, s₁, r₁) ∧
        x.run.Runs s r es (some (.error err, s₁, r₁))) ∨
      ∃ es₁ es₂ a s₁ r₁, es = es₁ ++ es₂ ∧ x.run.Runs s r es₁ (some (.ok a, s₁, r₁)) ∧
        (f a).run.Runs s₁ r₁ es₂ e := by
  refine runs_bind.trans ?_
  constructor
  · rintro (h | ⟨es₁, es₂, a, s₁, r₁, rfl, hx, hf⟩)
    · exact .inl h
    · cases a with
      | ok a => exact .inr (.inr ⟨es₁, es₂, a, s₁, r₁, rfl, hx, hf⟩)
      | error err =>
        obtain ⟨rfl, rfl⟩ := runs_done.1 hf
        rw [List.append_nil]
        exact .inr (.inl ⟨err, s₁, r₁, rfl, hx⟩)
  · rintro (h | ⟨err, s₁, r₁, rfl, hx⟩ | ⟨es₁, es₂, a, s₁, r₁, rfl, hx, hf⟩)
    · exact .inl h
    · exact .inr ⟨es, [], .error err, s₁, r₁, (List.append_nil es).symm, hx, .done⟩
    · exact .inr ⟨es₁, es₂, .ok a, s₁, r₁, rfl, hx, hf⟩

end

/-! ## Single steps -/

theorem runs_except {v : Except Error α} {e : Ending σ (Except Error α)} :
    (liftM v : ExceptT Error (Party G σ) α).run.Runs s r es e ↔ es = [] ∧ e = some (v, s, r) := by
  cases v <;> exact runs_done

theorem runs_throw {err : Error} {e : Ending σ (Except Error α)} :
    (throw err : ExceptT Error (Party G σ) α).run.Runs s r es e ↔
      es = [] ∧ e = some (.error err, s, r) := runs_done

section
variable {f : α → ExceptT Error (Party G σ) β} {e : Ending σ (Except Error β)}

/-- A computation that succeeds is followed by the rest. -/
theorem runs_ok_bind {a : α} :
    (liftM (.ok a : Except Error α) >>= f : ExceptT Error (Party G σ) β).run.Runs s r es e ↔
      (f a).run.Runs s r es e := Iff.rfl

theorem runs_error_bind {err : Error} :
    (liftM (.error err : Except Error α) >>= f : ExceptT Error (Party G σ) β).run.Runs s r es e ↔
      es = [] ∧ e = some (.error err, s, r) := runs_done

/-- A draw of bytes takes them off the randomness. -/
theorem runs_drawBytes_bind {n : Nat} {f : Bytes → ExceptT Error (Party G σ) β} :
    (liftM (MonadBytes.drawBytes n : Party G σ _) >>= f : ExceptT Error (Party G σ) β).run.Runs
      s r es e ↔ (f (r.peek n)).run.Runs s (r.advance n) es e := by
  constructor
  · intro h
    cases h with
    | bytes h => exact h
  · exact .bytes

end

section
variable {e : Ending σ (Except Error β)}

theorem runs_get_bind {f : σ → ExceptT Error (Party G σ) β} :
    (get >>= f).run.Runs s r es e ↔ (f s).run.Runs s r es e := by
  constructor
  · intro h
    cases h with
    | read h => exact h
  · exact .read

theorem runs_set_bind {new : σ} {f : PUnit → ExceptT Error (Party G σ) β} :
    (set new >>= f).run.Runs s r es e ↔ (f ⟨⟩).run.Runs new r es e := by
  constructor
  · intro h
    cases h with
    | write h => exact h
  · exact .write

/-- A draw of an exponent starves the party, or the rest goes on with it. -/
theorem runs_drawExponent_bind {f : G.Exponent → ExceptT Error (Party G σ) β} :
    (liftM (Party.drawExponent : Party G σ _) >>= f : ExceptT Error (Party G σ) β).run.Runs
      s r es e ↔
      (G.sample r = none ∧ es = [] ∧ e = none) ∨
      ∃ x r', G.sample r = some (x, r') ∧ (f x).run.Runs s r' es e := by
  constructor
  · intro h
    cases h with
    | exponent hx h => exact .inr ⟨_, _, hx, h⟩
    | starved hx => exact .inl ⟨hx, rfl, rfl⟩
  · rintro (⟨hx, rfl, rfl⟩ | ⟨x, r', hx, h⟩)
    · exact .starved hx
    · exact .exponent hx h

end

/-- A send is one event, and ends as the transport answers. -/
theorem runs_sendBytes {step : String} {data : Bytes} {e : Ending σ (Except Error Unit)} :
    (Channel.sendBytes step data : ExceptT Error (Party G σ) Unit).run.Runs s r es e ↔
      ∃ answer, es = [.sent data answer] ∧
        e = answer.map fun v => (v.mapError (·.during step), s, r) := by
  constructor
  · intro h
    cases h with
    | send h =>
      obtain ⟨rfl, rfl⟩ := runs_done.1 h
      exact ⟨_, rfl, rfl⟩
    | sendStuck => exact ⟨none, rfl, rfl⟩
  · rintro ⟨answer, rfl, rfl⟩
    cases answer with
    | none => exact .sendStuck
    | some v => exact .send .done

/-- A receive is one event, and ends as the transport answers. -/
theorem runs_receiveBytes {step : String} {e : Ending σ (Except Error Bytes)} :
    (Channel.receiveBytes step : ExceptT Error (Party G σ) Bytes).run.Runs s r es e ↔
      ∃ answer, es = [.received answer] ∧
        e = answer.map fun v => (v.mapError (·.during step), s, r) := by
  constructor
  · intro h
    cases h with
    | receive h =>
      obtain ⟨rfl, rfl⟩ := runs_done.1 h
      exact ⟨_, rfl, rfl⟩
    | receiveStuck => exact ⟨none, rfl, rfl⟩
  · rintro ⟨answer, rfl, rfl⟩
    cases answer with
    | none => exact .receiveStuck
    | some v => exact .receive .done

/-- A message that got through. -/
theorem runs_sendBytes_ok {step : String} {data : Bytes} {u : Unit} {s' : σ} {r' : ByteSource} :
    (Channel.sendBytes step data : ExceptT Error (Party G σ) Unit).run.Runs s r es
      (some (.ok u, s', r')) ↔ es = [.sent data (some (.ok ()))] ∧ s' = s ∧ r' = r := by
  rw [runs_sendBytes]
  constructor
  · rintro ⟨answer, rfl, hanswer⟩
    obtain ⟨v, rfl, hv⟩ := Option.map_eq_some_iff.1 hanswer.symm
    cases v with
    | error err => cases hv
    | ok _ =>
      cases hv
      exact ⟨rfl, rfl, rfl⟩
  · rintro ⟨rfl, rfl, rfl⟩
    exact ⟨_, rfl, rfl⟩

/-- What comes of waiting for a message. -/
theorem runs_receiveBytes_bind {step : String} {f : Bytes → ExceptT Error (Party G σ) β}
    {e : Ending σ (Except Error β)} :
    (Channel.receiveBytes step >>= f).run.Runs s r es e ↔
      (es = [.received none] ∧ e = none) ∨
      (∃ err, es = [.received (some (.error err))] ∧
        e = some (.error (err.during step), s, r)) ∨
      ∃ data es', es = .received (some (.ok data)) :: es' ∧ (f data).run.Runs s r es' e := by
  constructor
  · intro h
    cases h with
    | receiveStuck => exact .inl ⟨rfl, rfl⟩
    | @receive _ _ _ answer es' _ h =>
      cases answer with
      | error err =>
        obtain ⟨rfl, rfl⟩ := runs_done.1 h
        exact .inr (.inl ⟨err, rfl, rfl⟩)
      | ok data => exact .inr (.inr ⟨data, es', rfl, h⟩)
  · rintro (⟨rfl, rfl⟩ | ⟨err, rfl, rfl⟩ | ⟨data, es', rfl, h⟩)
    · exact .receiveStuck
    · exact .receive .done
    · exact .receive h

/-! ## Failures -/

/-- The run does not end with a result. -/
def Failed (e : Ending σ (Except Error α)) : Prop := ∀ a s r, e ≠ some (.ok a, s, r)

theorem failed_error (err : Error) (s : σ) (r : ByteSource) :
    Failed (some (.error err, s, r) : Ending σ (Except Error α)) := by
  intro a s r h
  cases h

theorem failed_none : Failed (none : Ending σ (Except Error α)) := by
  intro a s r h
  cases h

/-- A failed call does not answer with a result. -/
theorem Failed.answer_ne {e : Ending σ (Except Error α)} (h : Failed e) (a : α) :
    e.map (·.1) ≠ some (.ok a) := by
  intro ha
  obtain ⟨⟨v, s, r⟩, rfl, rfl⟩ := Option.map_eq_some_iff.1 ha
  exact h a s r rfl

/-- A sequence fails with its first part, or goes on after it. -/
theorem Runs.of_bind {x : ExceptT Error (Party G σ) α} {f : α → ExceptT Error (Party G σ) β}
    {e : Ending σ (Except Error β)} (h : (x >>= f).run.Runs s r es e) :
    (∃ e', x.run.Runs s r es e' ∧ Failed e' ∧ Failed e) ∨
      ∃ es₁ es₂ a s₁ r₁, es = es₁ ++ es₂ ∧ x.run.Runs s r es₁ (some (.ok a, s₁, r₁)) ∧
        (f a).run.Runs s₁ r₁ es₂ e := by
  rcases runs_bind_except.1 h with ⟨rfl, hx⟩ | ⟨err, s₁, r₁, rfl, hx⟩ | h
  · exact .inl ⟨_, hx, failed_none, failed_none⟩
  · exact .inl ⟨_, hx, failed_error err s₁ r₁, failed_error err s₁ r₁⟩
  · exact .inr h

/-! ## Parties that say nothing -/

/-- In no run of this part a message is put out. -/
def Silent (x : ExceptT Error (Party G σ) α) : Prop :=
  ∀ s r es e, x.run.Runs s r es e → messages es = []

/-- Silent parts make a silent whole. -/
theorem Silent.bind {x : ExceptT Error (Party G σ) α} {f : α → ExceptT Error (Party G σ) β}
    (hx : Silent x) (hf : ∀ a, Silent (f a)) : Silent (x >>= f) := by
  intro s r es e h
  rcases h.of_bind with ⟨e', hrun, -⟩ | ⟨es₁, es₂, a, s₁, r₁, rfl, hrun, hrest⟩
  · exact hx _ _ _ _ hrun
  · rw [messages_append, hx _ _ _ _ hrun, hf a _ _ _ _ hrest, List.append_nil]

theorem silent_except (v : Except Error α) : Silent (liftM v : ExceptT Error (Party G σ) α) := by
  intro s r es e h
  rw [(runs_except.1 h).1]
  rfl

theorem silent_pure (a : α) : Silent (pure a : ExceptT Error (Party G σ) α) := by
  intro s r es e h
  rw [(runs_done.1 h).1]
  rfl

theorem silent_get : Silent (get : ExceptT Error (Party G σ) σ) := by
  intro s r es e h
  cases h with
  | read h =>
    rw [(runs_done.1 h).1]
    rfl

theorem silent_set (new : σ) : Silent (set new : ExceptT Error (Party G σ) PUnit) := by
  intro s r es e h
  cases h with
  | write h =>
    rw [(runs_done.1 h).1]
    rfl

/-- Whoever only receives is silent. -/
theorem silent_receiveMessage [Message α] (step : String) :
    Silent (Channel.receiveMessage step : ExceptT Error (Party G σ) α) := by
  refine Silent.bind ?_ fun data => silent_except _
  intro s r es e h
  obtain ⟨answer, rfl, -⟩ := runs_receiveBytes.1 h
  rfl

end Party

end TwoParty
