/-
This file is a small library of processes over a durable store. A program reads the store, commits
transactions to it, asks the world outside for answers it does not control, and emits events. A
process may stop after any of its steps, a crash and an error alike, and what it committed stays;
between two of its steps other tasks may commit transactions of their own. A life is any number of
processes, one after the other. The trace of a life lists every commit and every event in order.

The rule of the library is that an invariant of the store and the trace holds in every state of
every life if each program is safe for it. Safety is computed along the program: it asks for the
invariant after each commit and after each event, and lets the other tasks move in between.
-/

import Mathlib.Logic.Basic

namespace Durable

/-- A program over a store, with the transactions it may commit, the events it may emit and the
type of its result. -/
inductive Program (Store Call Event Result : Type) : Type 1
  | done (result : Result)
  | fail (message : String)
  | read (next : Store → Program Store Call Event Result)
  | commit (call : Call) (next : Program Store Call Event Result)
  | ask {Answer : Type} (next : Answer → Program Store Call Event Result)
  | emit (event : Event) (next : Program Store Call Event Result)

variable {Store Call Event : Type}

namespace Program

variable {First Second : Type}

/-- One program after another. -/
def bind (next : First → Program Store Call Event Second) :
    Program Store Call Event First → Program Store Call Event Second
  | .done result => next result
  | .fail message => .fail message
  | .read rest => .read fun store => (rest store).bind next
  | .commit call rest => .commit call (rest.bind next)
  | .ask rest => .ask fun answer => (rest answer).bind next
  | .emit event rest => .emit event (rest.bind next)

instance : Monad (Program Store Call Event) where
  pure := .done
  bind program next := program.bind next

/-- The store as it is now. -/
def get : Program Store Call Event Store := .read .done

/-- Commit one transaction; if it fails, so does the program. -/
def run (call : Call) : Program Store Call Event Unit := .commit call (.done ())

/-- An answer of the world outside. -/
def answer (Answer : Type) : Program Store Call Event Answer := .ask .done

/-- Emit one event. -/
def tell (event : Event) : Program Store Call Event Unit := .emit event (.done ())

/-- Go on only if the world outside says so. -/
def require (message : String) : Program Store Call Event Unit :=
  .ask fun holds : Bool => if holds then .done () else .fail message

end Program

/-! ### Worlds and lives -/

/-- What a trace lists: a commit with the store it left, or an event. -/
inductive Entry (Store Call Event : Type)
  | committed (call : Call) (store : Store)
  | emitted (event : Event)

/-- The store and the trace so far. -/
structure World (Store Call Event : Type) where
  store : Store
  trace : List (Entry Store Call Event)

/-- The world after a commit. -/
def World.committed (world : World Store Call Event) (call : Call) (store : Store) :
    World Store Call Event :=
  ⟨store, world.trace ++ [.committed call store]⟩

/-- The world after an event. -/
def World.emitted (world : World Store Call Event) (event : Event) : World Store Call Event :=
  ⟨world.store, world.trace ++ [.emitted event]⟩

/-- Every commit of the trace, from the first store on, is a step that the world before it allows,
and every event is one that it allows. -/
inductive Follows (Step : World Store Call Event → Call → Store → Prop)
    (Says : World Store Call Event → Event → Prop) (initial : Store) :
    World Store Call Event → Prop
  | start : Follows Step Says initial ⟨initial, []⟩
  | committed {world : World Store Call Event} {call : Call} {store : Store}
      (earlier : Follows Step Says initial world) (step : Step world call store) :
      Follows Step Says initial (world.committed call store)
  | emitted {world : World Store Call Event} {event : Event}
      (earlier : Follows Step Says initial world) (stated : Says world event) :
      Follows Step Says initial (world.emitted event)

section Semantics

variable (apply : Call → Store → Except String Store) (others : Call → Prop)

/-- What other tasks do between two steps. -/
inductive Disturbs : World Store Call Event → World Store Call Event → Prop
  | none (world : World Store Call Event) : Disturbs world world
  | more {before after : World Store Call Event} {call : Call} {store : Store}
      (earlier : Disturbs before after) (other : others call)
      (accepted : apply call after.store = .ok store) :
      Disturbs before (after.committed call store)

/-- A process: the world it starts in and the world it leaves when it stops. -/
inductive Exec {Result : Type} : Program Store Call Event Result → World Store Call Event →
    World Store Call Event → Prop
  | stop (program : Program Store Call Event Result) (world : World Store Call Event) :
      Exec program world world
  | disturbed {program : Program Store Call Event Result}
      {before between after : World Store Call Event}
      (others : Disturbs apply others before between) (rest : Exec program between after) :
      Exec program before after
  | read {next : Store → Program Store Call Event Result} {before after : World Store Call Event}
      (rest : Exec (next before.store) before after) : Exec (.read next) before after
  | commit {call : Call} {next : Program Store Call Event Result}
      {before after : World Store Call Event} {store : Store}
      (accepted : apply call before.store = .ok store)
      (rest : Exec next (before.committed call store) after) :
      Exec (.commit call next) before after
  | ask {Answer : Type} {next : Answer → Program Store Call Event Result}
      {before after : World Store Call Event} (answer : Answer)
      (rest : Exec (next answer) before after) : Exec (.ask next) before after
  | emit {event : Event} {next : Program Store Call Event Result}
      {before after : World Store Call Event} (rest : Exec next (before.emitted event) after) :
      Exec (.emit event next) before after

/-- A life: processes that run some of the programs, one after the other. -/
inductive Lives (programs : Program Store Call Event Unit → Prop) (initial : Store) :
    World Store Call Event → Prop
  | start : Lives programs initial ⟨initial, []⟩
  | process {before after : World Store Call Event} (earlier : Lives programs initial before)
      (program : Program Store Call Event Unit) (known : programs program)
      (exec : Exec apply others program before after) : Lives programs initial after

/-! ### Safety -/

variable (Inv : World Store Call Event → Prop)

/-- A program is safe in a world if the invariant holds after each of its commits and events, and
its result meets the condition, whatever the answers are and whatever other tasks do. -/
def Safe {Result : Type} (post : Result → World Store Call Event → Prop) :
    Program Store Call Event Result → World Store Call Event → Prop
  | .done result, world => post result world
  | .fail _, _ => True
  | .read next, world => ∀ later, Disturbs apply others world later →
      Safe post (next later.store) later
  | .commit call next, world => ∀ later, Disturbs apply others world later →
      ∀ store, apply call later.store = .ok store →
        Inv (later.committed call store) ∧ Safe post next (later.committed call store)
  | .ask next, world => ∀ answer, Safe post (next answer) world
  | .emit event next, world => ∀ later, Disturbs apply others world later →
      Inv (later.emitted event) ∧ Safe post next (later.emitted event)

variable {apply : Call → Store → Except String Store} {others : Call → Prop}
  {Inv : World Store Call Event → Prop}

theorem Disturbs.trans {first second third : World Store Call Event}
    (before : Disturbs apply others first second) (after : Disturbs apply others second third) :
    Disturbs apply others first third := by
  induction after with
  | none => exact before
  | more _ other accepted inductionHypothesis => exact .more inductionHypothesis other accepted

theorem Disturbs.keeps (Fact : World Store Call Event → Prop)
    (kept : ∀ world call store, others call → apply call world.store = .ok store → Fact world →
      Fact (world.committed call store))
    {before after : World Store Call Event} (disturbs : Disturbs apply others before after)
    (holds : Fact before) : Fact after := by
  induction disturbs with
  | none => exact holds
  | more _ other accepted inductionHypothesis =>
    exact kept _ _ _ other accepted inductionHypothesis

variable {world : World Store Call Event}

/-- A program is safe after another if it is safe in the worlds that one leaves. -/
theorem Safe.bind {First Second : Type} {post : Second → World Store Call Event → Prop}
    {next : First → Program Store Call Event Second} {program : Program Store Call Event First}
    (safe : Safe apply others Inv (fun result => Safe apply others Inv post (next result))
      program world) : Safe apply others Inv post (program >>= next) world := by
  show Safe apply others Inv post (program.bind next) world
  induction program generalizing world with
  | done => exact safe
  | fail => trivial
  | read _ inductionHypothesis =>
    exact fun later disturbs => inductionHypothesis _ (safe later disturbs)
  | commit _ _ inductionHypothesis =>
    intro later disturbs store accepted
    obtain ⟨holds, rest⟩ := safe later disturbs store accepted
    exact ⟨holds, inductionHypothesis rest⟩
  | ask _ inductionHypothesis => exact fun answer => inductionHypothesis answer (safe answer)
  | emit _ _ inductionHypothesis =>
    intro later disturbs
    obtain ⟨holds, rest⟩ := safe later disturbs
    exact ⟨holds, inductionHypothesis rest⟩

/-- A weaker condition on the result. -/
theorem Safe.mono {Result : Type} {post weaker : Result → World Store Call Event → Prop}
    {program : Program Store Call Event Result} (safe : Safe apply others Inv post program world)
    (implies : ∀ result after, post result after → weaker result after) :
    Safe apply others Inv weaker program world := by
  induction program generalizing world with
  | done result => exact implies result world safe
  | fail => trivial
  | read _ inductionHypothesis =>
    exact fun later disturbs => inductionHypothesis _ (safe later disturbs)
  | commit _ _ inductionHypothesis =>
    intro later disturbs store accepted
    obtain ⟨holds, rest⟩ := safe later disturbs store accepted
    exact ⟨holds, inductionHypothesis rest⟩
  | ask _ inductionHypothesis => exact fun answer => inductionHypothesis answer (safe answer)
  | emit _ _ inductionHypothesis =>
    intro later disturbs
    obtain ⟨holds, rest⟩ := safe later disturbs
    exact ⟨holds, inductionHypothesis rest⟩

theorem Safe.later {Result : Type} {program : Program Store Call Event Result}
    {before after : World Store Call Event}
    (safe : Safe apply others Inv (fun _ _ => True) program before)
    (moved : Disturbs apply others before after) :
    Safe apply others Inv (fun _ _ => True) program after := by
  induction program with
  | done | fail => trivial
  | read | commit | emit => exact fun later disturbs => safe later (moved.trans disturbs)
  | ask _ inductionHypothesis => exact fun answer => inductionHypothesis answer (safe answer)

/-- The invariant holds wherever a process with a safe program stops. -/
theorem Exec.invariant {Result : Type} {program : Program Store Call Event Result}
    {before after : World Store Call Event} (exec : Exec apply others program before after)
    (kept : ∀ world call store, others call → apply call world.store = .ok store → Inv world →
      Inv (world.committed call store))
    (holds : Inv before) (safe : Safe apply others Inv (fun _ _ => True) program before) :
    Inv after := by
  induction exec with
  | stop => exact holds
  | disturbed moved _ inductionHypothesis =>
    exact inductionHypothesis (moved.keeps Inv kept holds) (safe.later moved)
  | read _ inductionHypothesis => exact inductionHypothesis holds (safe _ (.none _))
  | commit accepted _ inductionHypothesis =>
    obtain ⟨next, rest⟩ := safe _ (.none _) _ accepted
    exact inductionHypothesis next rest
  | ask answer _ inductionHypothesis => exact inductionHypothesis holds (safe answer)
  | emit _ inductionHypothesis =>
    obtain ⟨next, rest⟩ := safe _ (.none _)
    exact inductionHypothesis next rest

/-- The invariant holds in every state of every life if it holds at the start, other tasks keep it
and every program is safe for it. -/
theorem Lives.invariant {programs : Program Store Call Event Unit → Prop} {initial : Store}
    (lives : Lives apply others programs initial world) (start : Inv ⟨initial, []⟩)
    (kept : ∀ world call store, others call → apply call world.store = .ok store → Inv world →
      Inv (world.committed call store)) (safe : ∀ program, programs program → ∀ world, Inv world →
      Safe apply others Inv (fun _ _ => True) program world) : Inv world := by
  induction lives with
  | start => exact start
  | process _ program known exec inductionHypothesis =>
    exact exec.invariant kept inductionHypothesis (safe program known _ inductionHypothesis)

end Semantics

end Durable
