import TwoParty.Proofs.Solo.Duet

/-!
# TwoParty.Proofs.Solo.Announce

Parts of a party that only talk.

The answers of the transport cannot change what such a part says; they can only stop it, at
the first message that does not get through.  `Announces` gives the messages that the part
puts out if nothing stops it, and how it ends then.  There is one rule for each primitive,
and `Announces.bind` composes them.
-/

namespace TwoParty

namespace Party

variable {G : DlogGroup} {σ α β : Type}

/-- The events of messages that all get through. -/
def delivered (ms : List Bytes) : List Event := ms.map fun m => .sent m (some (.ok ()))

@[simp] theorem messages_delivered (ms : List Bytes) : messages (delivered ms) = ms := by
  simp [messages, delivered, List.filterMap_map, Function.comp_def, Event.message?]

theorem delivered_append (ms ms' : List Bytes) :
    delivered (ms ++ ms') = delivered ms ++ delivered ms' := List.map_append

@[simp] theorem passed_delivered (ms : List Bytes) : passed (delivered ms) = ms := by
  simp [passed, delivered, List.filterMap_map, Function.comp_def, Event.passed?]

@[simp] theorem heard_delivered (ms : List Bytes) : heard (delivered ms) = [] := by
  simp [heard, delivered, List.filterMap_map, Function.comp_def, Event.heard?]

theorem isSent_of_mem_delivered {ms : List Bytes} {event : Event} (h : event ∈ delivered ms) :
    event.isSent = true := by
  obtain ⟨m, -, rfl⟩ := List.mem_map.1 h
  rfl

@[simp] theorem before_delivered_append (ms : List Bytes) (es : List Event) :
    before (delivered ms ++ es) = delivered ms ++ before es :=
  List.takeWhile_append_of_pos fun _ h => isSent_of_mem_delivered h

@[simp] theorem after_delivered_append (ms : List Bytes) (es : List Event) :
    after (delivered ms ++ es) = after es :=
  List.dropWhile_append_of_pos fun _ h => isSent_of_mem_delivered h

/-- One of the messages does not get through: those before it do, it is the last that is
put out, and the run fails with it. -/
inductive Interrupted (ms : List Bytes) : List Event → Ending σ (Except Error α) → Prop where
  | refused {sent m rest err f s r} (h : ms = sent ++ m :: rest) (hkind : f.kind = err.kind) :
    Interrupted ms (delivered sent ++ [.sent m (some (.error err))]) (some (.error f, s, r))
  | stuck {sent m rest} (h : ms = sent ++ m :: rest) :
    Interrupted ms (delivered sent ++ [.sent m none]) none

/-- Whatever the transport answers, the part puts out these messages and ends so, unless a
message does not get through. -/
def Announces (x : ExceptT Error (Party G σ) α) (s : σ) (r : ByteSource) (ms : List Bytes)
    (out : Ending σ (Except Error α)) : Prop :=
  ∀ es e, x.run.Runs s r es e → (es = delivered ms ∧ e = out) ∨ Interrupted ms es e

variable {s s' : σ} {r r' : ByteSource} {ms ms' : List Bytes} {es : List Event}

/-! ## Interruptions -/

/-- An interrupted party has no result. -/
theorem Interrupted.failed {e : Ending σ (Except Error α)} (h : Interrupted ms es e) :
    Failed e := by
  cases h with
  | refused => exact failed_error _ _ _
  | stuck => exact failed_none

theorem not_interrupted_nil {e : Ending σ (Except Error α)} : ¬ Interrupted [] es e := by
  intro h
  cases h with
  | refused h => simp at h
  | stuck h => simp at h

/-- A single message is interrupted at itself. -/
theorem Interrupted.eq_singleton {m : Bytes} {e : Ending σ (Except Error α)}
    (h : Interrupted [m] es e) : ∃ answer, es = [.sent m answer] := by
  cases h with
  | refused h =>
    obtain ⟨rfl, rfl, -⟩ := by simpa [List.cons_eq_append_iff] using h
    exact ⟨_, rfl⟩
  | stuck h =>
    obtain ⟨rfl, rfl, -⟩ := by simpa [List.cons_eq_append_iff] using h
    exact ⟨_, rfl⟩

/-- An interrupted party has not yet waited for anything. -/
theorem Interrupted.before_eq {e : Ending σ (Except Error α)} (h : Interrupted ms es e) :
    before es = es := by
  cases h with
  | refused => rw [before_delivered_append]; rfl
  | stuck => rw [before_delivered_append]; rfl

/-- An interrupted party does not come to wait. -/
theorem Interrupted.after_eq {e : Ending σ (Except Error α)} (h : Interrupted ms es e) :
    after es = [] := by
  cases h with
  | refused => rw [after_delivered_append]; rfl
  | stuck => rw [after_delivered_append]; rfl

/-- An interrupted party has said the first of its messages. -/
theorem Interrupted.isPrefix_messages {e : Ending σ (Except Error α)} (h : Interrupted ms es e) :
    messages es <+: ms := by
  cases h with
  | refused h =>
    rw [messages_append, messages_delivered, h]
    exact ⟨_, List.append_assoc _ _ _⟩
  | stuck h =>
    rw [messages_append, messages_delivered, h]
    exact ⟨_, List.append_assoc _ _ _⟩

/-- Some send of an interrupted party did not succeed. -/
theorem Interrupted.exists_sent {e : Ending σ (Except Error α)} (h : Interrupted ms es e) :
    ∃ m answer, .sent m answer ∈ es ∧ answer ≠ some (.ok ()) := by
  cases h with
  | refused => exact ⟨_, _, List.mem_append_right _ (List.mem_singleton_self _), by simp⟩
  | stuck => exact ⟨_, _, List.mem_append_right _ (List.mem_singleton_self _), by simp⟩

/-- What would have come after an interruption does not matter. -/
theorem Interrupted.append {e : Ending σ (Except Error α)} (h : Interrupted ms es e) :
    Interrupted (ms ++ ms') es e := by
  cases h with
  | refused h hkind => exact .refused (by rw [h, List.append_assoc, List.cons_append]) hkind
  | stuck h => exact .stuck (by rw [h, List.append_assoc, List.cons_append])

/-- What got through before an interruption. -/
theorem Interrupted.prepend {e : Ending σ (Except Error α)} (h : Interrupted ms' es e) :
    Interrupted (ms ++ ms') (delivered ms ++ es) e := by
  cases h with
  | refused h hkind =>
    rw [← List.append_assoc, ← delivered_append]
    exact .refused (by rw [h, List.append_assoc]) hkind
  | stuck h =>
    rw [← List.append_assoc, ← delivered_append]
    exact .stuck (by rw [h, List.append_assoc])

/-! ## Sequences -/

section
variable {x : ExceptT Error (Party G σ) α} {f : α → ExceptT Error (Party G σ) β}
  {out : Ending σ (Except Error α)} {e : Ending σ (Except Error β)}

/-- The runs of a sequence whose first part only talks. -/
theorem Announces.of_bind (hx : Announces x s r ms out) (h : (x >>= f).run.Runs s r es e) :
    Interrupted ms es e ∨ (es = delivered ms ∧ out = none ∧ e = none) ∨
      (∃ err s' r', es = delivered ms ∧ out = some (.error err, s', r') ∧
        e = some (.error err, s', r')) ∨
      ∃ es' a s' r', es = delivered ms ++ es' ∧ out = some (.ok a, s', r') ∧
        (f a).run.Runs s' r' es' e := by
  rcases runs_bind_except.1 h with ⟨rfl, hrun⟩ | ⟨err, s₁, r₁, rfl, hrun⟩ |
    ⟨es₁, es₂, a, s₁, r₁, rfl, hrun, hrest⟩
  · rcases hx _ _ hrun with ⟨rfl, hout⟩ | hstop
    · exact .inr (.inl ⟨rfl, hout.symm, rfl⟩)
    · cases hstop with
      | stuck hms => exact .inl (.stuck hms)
  · rcases hx _ _ hrun with ⟨rfl, hout⟩ | hstop
    · exact .inr (.inr (.inl ⟨err, s₁, r₁, rfl, hout.symm, rfl⟩))
    · cases hstop with
      | refused hms hkind => exact .inl (.refused hms hkind)
  · rcases hx _ _ hrun with ⟨rfl, hout⟩ | hstop
    · exact .inr (.inr (.inr ⟨es₂, a, s₁, r₁, rfl, hout.symm, hrest⟩))
    · exact absurd rfl (hstop.failed _ _ _)

/-- The announcements of one part and then of the next. -/
theorem Announces.bind {a : α} {out : Ending σ (Except Error β)}
    (hx : Announces x s r ms (some (.ok a, s', r'))) (hf : Announces (f a) s' r' ms' out) :
    Announces (x >>= f) s r (ms ++ ms') out := by
  intro es e h
  rcases hx.of_bind h with hstop | ⟨-, hout, -⟩ | ⟨err, s₁, r₁, -, hout, -⟩ |
    ⟨es', b, s₁, r₁, rfl, hout, hrest⟩
  · exact .inr hstop.append
  · cases hout
  · cases hout
  · cases hout
    rcases hf _ _ hrest with ⟨rfl, rfl⟩ | hstop
    · exact .inl ⟨(delivered_append ms ms').symm, rfl⟩
    · exact .inr hstop.prepend

/-- A part that never ends is the last one. -/
theorem Announces.bind_none (hx : Announces x s r ms none) : Announces (x >>= f) s r ms none := by
  intro es e h
  rcases hx.of_bind h with hstop | ⟨rfl, -, rfl⟩ | ⟨err, s₁, r₁, -, hout, -⟩ |
    ⟨es', b, s₁, r₁, -, hout, -⟩
  · exact .inr hstop
  · exact .inl ⟨rfl, rfl⟩
  · cases hout
  · cases hout

end

/-! ## Parts without messages -/

/-- A party without messages has one run only. -/
theorem Keeps.eq_of_runs {side : Side} {Q : α → σ → ByteSource → Prop} {p : Party G σ α}
    {e : Ending σ α} (h : p.Keeps side false Q [] s r) (hrun : p.Runs s r es e) :
    es = [] ∧ ∃ a s' r', Q a s' r' ∧ e = some (a, s', r') := by
  -- The induction needs the dialogue to be a variable.
  generalize hD : ([] : Dialogue) = D at h
  induction h with
  | done h =>
    obtain ⟨rfl, rfl⟩ := runs_done.1 hrun
    exact ⟨rfl, _, _, _, h, rfl⟩
  | read h ih =>
    cases hrun with
    | read hrun => exact ih hrun hD
  | write h ih =>
    cases hrun with
    | write hrun => exact ih hrun hD
  | exponent hx h ih =>
    cases hrun with
    | exponent hx' hrun =>
      cases hx.symm.trans hx'
      exact ih hrun hD
    | starved hx' => cases hx.symm.trans hx'
  | bytes h ih =>
    cases hrun with
    | bytes hrun => exact ih hrun hD
  | send | receive => cases hD
  | sendLate hlate => contradiction
  | receiveLate hlate => contradiction

/-- Without messages it does not matter at which side the party sits. -/
theorem Announces.quiet {x : ExceptT Error (Party G σ) α} {v : Except Error α}
    (h : Says .one [] x s r v s' r') : Announces x s r [] (some (v, s', r')) := by
  intro es e hrun
  obtain ⟨rfl, _, _, _, ⟨rfl, rfl, rfl⟩, rfl⟩ := h.eq_of_runs hrun
  exact .inl ⟨rfl, rfl⟩

theorem Announces.bind_quiet {x : ExceptT Error (Party G σ) α}
    {f : α → ExceptT Error (Party G σ) β} {a : α} {out : Ending σ (Except Error β)}
    (hx : Says .one [] x s r (.ok a) s' r') (hf : Announces (f a) s' r' ms out) :
    Announces (x >>= f) s r ms out :=
  .bind (.quiet hx) hf

/-- The randomness has no exponent in reach. -/
theorem announces_starved (h : G.sample r = none) :
    Announces (liftM (Party.drawExponent : Party G σ _) : ExceptT Error (Party G σ) _) s r []
      none := by
  intro es e hrun
  cases hrun with
  | exponent hx => cases h.symm.trans hx
  | starved => exact .inl ⟨rfl, rfl⟩

/-! ## Messages -/

/-- A send announces its message. -/
theorem announces_sendMessage [Message α] [LawfulMessage α] (step : String) (a : α) :
    Announces (Channel.sendMessage step a : ExceptT Error (Party G σ) Unit) s r
      [LawfulMessage.text a] (some (.ok (), s, r)) := by
  intro es e hrun
  rw [Channel.sendMessage, LawfulMessage.write_eq] at hrun
  obtain ⟨answer, rfl, rfl⟩ := runs_sendBytes.1 hrun
  have hsplit : [LawfulMessage.text a] = [] ++ LawfulMessage.text a :: [] := rfl
  rcases answer with _ | err | _
  · exact .inr (.stuck hsplit)
  · exact .inr (.refused hsplit (Error.kind_during err step))
  · exact .inl ⟨rfl, rfl⟩

end Party

end TwoParty
