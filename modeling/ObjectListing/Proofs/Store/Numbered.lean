import ObjectListing.Client
import ObjectListing.Proofs.Retry

/-!
Stores whose calls are numbered, from zero. A numbered store answers as the store itself does, but its replies
may be changed by the number of the call (`Backend.numbered`): so a store breaks at a certain call, fails
for a while, or has its caller stopped in the middle of a call. A client may have all its stores replaced at
once (`Client.wrapped`).
-/

namespace ObjectListing

variable {σ τ α : Type}

/-- A reply of a store that counts its calls. -/
def Reply.counted (n : Nat) (r : Reply σ α) : Reply (σ × Nat) α :=
  ⟨r.answer, (r.store, n), r.events, r.stops, r.waits⟩

/-- The question to a store whose reply is changed by the number of the call and by the state of the store
before it. -/
def numbering (change : (α : Type) → Nat → σ → Reply σ α → Reply σ α) (f : σ → Reply σ α)
    (s : σ × Nat) : Reply (σ × Nat) α :=
  (change α s.2 s.1 (f s.1)).counted (s.2 + 1)

/-- A store that counts its calls and whose replies are changed by their number. -/
def Backend.numbered (change : (α : Type) → Nat → σ → Reply σ α → Reply σ α) (b : Backend σ) :
    Backend (σ × Nat) where
  name := b.name
  listObjects request := numbering change (b.listObjects request)
  listBuckets := numbering change b.listBuckets
  getObject bucket key := numbering change (b.getObject bucket key)

namespace World

/-- The world with another store. -/
def withStore (t : τ) (w : World σ) : World τ where
  store := t
  clock := w.clock
  epoch := w.epoch
  sharedSignal := w.sharedSignal
  waitEndsFirst := w.waitEndsFirst
  dice := w.dice
  callTimes := w.callTimes
  journal := w.journal

/-- The world with a store that counts its calls, before the first of them. -/
def numbered (w : World σ) : World (σ × Nat) := w.withStore (w.store, 0)

/-- Worlds at the same time, with the same chances before them and the same calls behind: their stores, the
shared signal and the events so far may differ. -/
structure Abreast (w : World σ) (v : World τ) : Prop where
  clock : v.clock = w.clock
  epoch : v.epoch = w.epoch
  first : v.waitEndsFirst = w.waitEndsFirst
  dice : v.dice = w.dice
  calls : v.callTimes = w.callTimes

namespace Abreast

variable {w : World σ} {v : World τ}

theorem report (h : Abreast w v) (e e' : Event) : Abreast (w.report e) (v.report e') :=
  ⟨h.clock, h.epoch, h.first, h.dice, h.calls⟩

theorem moment_eq (h : Abreast w v) : v.moment = w.moment := by
  rw [moment, moment, now, now, h.clock, h.epoch]

theorem draw_fst (h : Abreast w v) (most : Nat) : (v.draw most).1 = (w.draw most).1 := by
  rw [World.draw, World.draw, h.dice]

theorem draw (h : Abreast w v) (most : Nat) : Abreast (w.draw most).2 (v.draw most).2 :=
  ⟨h.clock, h.epoch, h.first, congrArg List.tail h.dice, h.calls⟩

/-- Calls that let their callers wait alike. -/
theorem call (h : Abreast w v) {f : σ → Reply σ α} {g : τ → Reply τ α}
    (hwaits : (g v.store).waits = (f w.store).waits) : Abreast (w.call f).2 (v.call g).2 := by
  refine ⟨?_, ?_, ?_, ?_, ?_⟩
  · rw [clock_call, clock_call, hwaits, h.clock]
  · rw [epoch_call, epoch_call, h.epoch]
  · rw [waitEndsFirst_call, waitEndsFirst_call, h.first]
  · rw [dice_call, dice_call, h.dice]
  · rw [callTimes_call, callTimes_call, now, now, h.clock, h.calls]

theorem waitEnd_eq (h : Abreast w v) (milliseconds : Nat) :
    v.waitEnd milliseconds = w.waitEnd milliseconds := by
  rw [waitEnd, waitEnd, h.clock]

/-- Waits that are stopped at the same tick, if at all. -/
theorem wait (h : Abreast w v) {s : StopSignal} (hstop : v.stopAt s = w.stopAt s)
    (milliseconds : Nat) :
    (v.wait milliseconds s).1 = (w.wait milliseconds s).1 ∧
      Abreast (w.wait milliseconds s).2 (v.wait milliseconds s).2 := by
  rw [World.wait, World.wait, hstop, h.waitEnd_eq, h.clock, h.first]
  cases w.stopAt s with
  | none => exact ⟨rfl, rfl, h.epoch, rfl, h.dice, h.calls⟩
  | some tick =>
    dsimp only
    split
    · exact ⟨rfl, rfl, h.epoch, rfl, h.dice, h.calls⟩
    · exact ⟨rfl, rfl, h.epoch, rfl, h.dice, h.calls⟩

end Abreast

/-- Worlds around a store and around the same store when its calls are numbered, the first of which came after
`base` others. -/
structure Beside (base : Nat) (w : World σ) (v : World (σ × Nat)) : Prop extends Abreast w v where
  store : v.store.1 = w.store
  made : v.callTimes.length = base + v.store.2

namespace Beside

variable {base : Nat} {w : World σ} {v : World (σ × Nat)}

theorem numbered (w : World σ) : Beside w.callTimes.length w w.numbered :=
  ⟨⟨rfl, rfl, rfl, rfl, rfl⟩, rfl, rfl⟩

theorem report (h : Beside base w v) (e e' : Event) : Beside base (w.report e) (v.report e') :=
  ⟨h.toAbreast.report e e', h.store, h.made⟩

theorem draw (h : Beside base w v) (most : Nat) : Beside base (w.draw most).2 (v.draw most).2 :=
  ⟨h.toAbreast.draw most, h.store, h.made⟩

/-- Calls whose replies are changed in their answers only, or in their signals. -/
theorem call (h : Beside base w v)
    {change : (α : Type) → Nat → σ → Reply σ α → Reply σ α} (f : σ → Reply σ α)
    (hstore : ∀ n s r, (change α n s r).store = r.store)
    (hwaits : ∀ n s r, (change α n s r).waits = r.waits) :
    Beside base (w.call f).2 (v.call (numbering change f)).2 := by
  have hreply : numbering change f v.store =
      (change α v.store.2 w.store (f w.store)).counted (v.store.2 + 1) := by
    rw [numbering, h.store]
  refine ⟨h.toAbreast.call ?_, ?_, ?_⟩
  · rw [hreply]
    exact hwaits ..
  · rw [store_call, store_call, hreply]
    exact hstore ..
  · rw [callTimes_call, store_call, hreply, List.length_cons, h.made]
    rfl

theorem wait (h : Beside base w v) {s : StopSignal} (hstop : v.stopAt s = w.stopAt s)
    (milliseconds : Nat) :
    (v.wait milliseconds s).1 = (w.wait milliseconds s).1 ∧
      Beside base (w.wait milliseconds s).2 (v.wait milliseconds s).2 := by
  obtain ⟨hended, habreast⟩ := h.toAbreast.wait hstop milliseconds
  refine ⟨hended, habreast, ?_, ?_⟩
  · rw [store_wait, store_wait]
    exact h.store
  · rw [callTimes_wait, store_wait]
    exact h.made

/-- Pauses that are stopped at the same tick, if at all. -/
theorem rest (h : Beside base w v) {s : StopSignal} (hstop : v.stopAt s = w.stopAt s)
    (p : RetryPolicy) (operation : String) (failed : Nat) (e : StoreError) :
    (Retry.rest p operation s failed e v).1 = (Retry.rest p operation s failed e w).1 ∧
      Beside base (Retry.rest p operation s failed e w).2 (Retry.rest p operation s failed e v).2 := by
  have hpause : Retry.pause p failed v = Retry.pause p failed w := by
    rw [Retry.pause, Retry.pause, h.draw_fst]
  rw [Retry.rest, Retry.rest, hpause]
  exact ((h.draw (p.jitterRange failed)).report _ _).wait hstop _

end Beside

end World

namespace Lister

/-- A lister over a store in place of its own. -/
def wrapped (change : Backend σ → Backend τ) (l : Lister σ) : Lister τ := ⟨change l.backend, l.config⟩

end Lister

/-- Stores in place of stores. -/
def Stores.wrapped (change : Backend σ → Backend τ) : Stores σ → Stores τ
  | one b => one (change b)
  | byScheme remote files => byScheme (change remote) fun root => change (files root)

namespace Client

/-- A client over stores in place of its own. -/
def wrapped (change : Backend σ → Backend τ) (c : Client σ) : Client τ where
  config := c.config
  stores := c.stores.wrapped change
  fileRoot := c.fileRoot
  opened := c.opened

variable {change : Backend σ → Backend τ} {c : Client σ}

theorem storeFor_wrapped (scheme : Scheme) :
    (c.wrapped change).storeFor scheme =
      (change (c.storeFor scheme).1, (c.storeFor scheme).2.wrapped change) := by
  obtain ⟨config, stores, fileRoot, opened⟩ := c
  cases stores with
  | one b => rfl
  | byScheme remote files =>
    cases scheme with
    | s3 => rfl
    | file => rfl

@[simp] theorem wrapped_config : (c.wrapped change).config = c.config := rfl

@[simp] theorem storeFor_config (c : Client σ) (scheme : Scheme) :
    (c.storeFor scheme).2.config = c.config := by
  obtain ⟨config, stores, fileRoot, opened⟩ := c
  cases stores with
  | one b => rfl
  | byScheme remote files =>
    cases scheme with
    | s3 => rfl
    | file => rfl

theorem openListing_of_parse {uri : Text} {parsed : Uri} (h : Uri.parse uri = .ok parsed)
    (options : ListOptions) (c : Client σ) :
    c.openListing uri options = (.ok (⟨(c.storeFor parsed.scheme).1, c.config⟩,
      .opened ⟨parsed, options.recursive, options.cap, options.filter⟩),
        (c.storeFor parsed.scheme).2) := by
  rw [openListing, h, ← storeFor_config c parsed.scheme]

theorem openListing_wrapped (uri : Text) (options : ListOptions) :
    (c.wrapped change).openListing uri options =
      ((c.openListing uri options).1.map fun opened => (opened.1.wrapped change, opened.2),
        (c.openListing uri options).2.wrapped change) := by
  rw [openListing, openListing]
  cases Uri.parse uri with
  | error e => rfl
  | ok parsed =>
    dsimp only
    rw [storeFor_wrapped]
    rfl

end Client

end ObjectListing
