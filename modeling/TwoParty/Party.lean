import TwoParty.Channel.Basic
import TwoParty.Channel.Memory
import TwoParty.Group.Basic

/-!
# TwoParty.Party

What a party does, as a tree of steps: read or replace its own store, draw an
exponent or bytes, send a message, or wait for one.  The tree says nothing about
the other side.  It can be run against any channel, any source of randomness and
any peer; `Party.run` runs it at one end of a memory channel until it has to wait.
-/

namespace TwoParty

/-- A party over the group `G` that keeps a store of type `σ` and ends with a result
of type `α`. -/
inductive Party (G : DlogGroup) (σ α : Type) where
  /-- The party is finished. -/
  | done (result : α)
  /-- Look at the store. -/
  | read (next : σ → Party G σ α)
  /-- Replace the store. -/
  | write (store : σ) (next : Party G σ α)
  /-- Draw an exponent between one and the order less one. -/
  | exponent (next : G.Exponent → Party G σ α)
  /-- Draw bytes. -/
  | bytes (count : Nat) (next : Bytes → Party G σ α)
  /-- Send a message; the transport may refuse it. -/
  | send (message : Bytes) (next : Except Error Unit → Party G σ α)
  /-- Wait for a message; the transport may fail. -/
  | receive (next : Except Error Bytes → Party G σ α)

namespace Party

variable {G : DlogGroup} {σ τ α β : Type}

/-! ## Sequencing -/

/-- Go on with `f` when the party is finished. -/
protected def bind : Party G σ α → (α → Party G σ β) → Party G σ β
  | .done a, f => f a
  | .read next, f => .read fun s => (next s).bind f
  | .write s next, f => .write s (next.bind f)
  | .exponent next, f => .exponent fun e => (next e).bind f
  | .bytes n next, f => .bytes n fun bs => (next bs).bind f
  | .send m next, f => .send m fun r => (next r).bind f
  | .receive next, f => .receive fun r => (next r).bind f

instance : Monad (Party G σ) where
  pure := .done
  bind := Party.bind

@[simp] theorem pure_eq (a : α) : (pure a : Party G σ α) = .done a := rfl

@[simp] theorem bind_eq (p : Party G σ α) (f : α → Party G σ β) : p >>= f = p.bind f := rfl

theorem bind_done (p : Party G σ α) : p.bind .done = p := by
  induction p <;> simp_all [Party.bind]

theorem bind_assoc {γ : Type} (p : Party G σ α) (f : α → Party G σ β) (g : β → Party G σ γ) :
    (p.bind f).bind g = p.bind fun a => (f a).bind g := by
  induction p <;> simp_all [Party.bind]

instance : LawfulMonad (Party G σ) :=
  LawfulMonad.mk' _ (fun p => bind_done p) (fun _ _ => rfl) (fun p f g => bind_assoc p f g)

instance : MonadStateOf σ (Party G σ) where
  get := .read .done
  set s := .write s (.done ())
  modifyGet f := .read fun s => .write (f s).2 (.done (f s).1)

/-! ## Single steps -/

/-- Draw an exponent. -/
def drawExponent : Party G σ G.Exponent := .exponent .done

instance : MonadBytes (Party G σ) where
  drawBytes n := .bytes n .done

instance : MonadChannel (Party G σ) where
  send message := .send message .done
  receive := .receive .done

/-- Run a party with a store of its own inside a party with another one. -/
def within : τ → Party G τ α → Party G σ (α × τ)
  | s, .done a => .done (a, s)
  | s, .read next => within s (next s)
  | _, .write s next => within s next
  | s, .exponent next => .exponent fun e => within s (next e)
  | s, .bytes n next => .bytes n fun bs => within s (next bs)
  | s, .send m next => .send m fun r => within s (next r)
  | s, .receive next => .receive fun r => within s (next r)

/-! ## Running at one end of a memory channel -/

/-- A party's surroundings: its store, its randomness, and the channel that it holds
one end of. -/
structure Desk (σ : Type) where
  store : σ
  random : ByteSource
  channel : MemoryChannel
  side : Side

/-- Where a run stands. -/
inductive Progress (G : DlogGroup) (σ α : Type) where
  /-- The party is finished. -/
  | finished (result : α)
  /-- The party waits for a message. -/
  | waiting (next : Except Error Bytes → Party G σ α)
  /-- No exponent is in reach of the party's randomness. -/
  | starved

/-- Run a party until it is finished or has to wait. -/
def run : Party G σ α → Desk σ → Progress G σ α × Desk σ
  | .done a, d => (.finished a, d)
  | .read next, d => (next d.store).run d
  | .write s next, d => next.run { d with store := s }
  | .exponent next, d =>
    match G.sample d.random with
    | some (e, r) => (next e).run { d with random := r }
    | none => (.starved, d)
  | .bytes n next, d => (next (d.random.peek n)).run { d with random := d.random.advance n }
  | .send m next, d =>
    let (r, c) := d.channel.send d.side m
    (next r).run { d with channel := c }
  | .receive next, d =>
    match d.channel.receive d.side with
    | (.message m, c) => (next (.ok m)).run { d with channel := c }
    | (.ended, _) => (next (.error MemoryChannel.receiveError)).run d
    | (.pending, _) => (.waiting next, d)

end Party

end TwoParty
