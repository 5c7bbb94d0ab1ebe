import BluetoothHost.Registry

/-!
# `Registry.Bench` — a registry with named handles

A registry on its own, with handles kept under names beside it. Callbacks are tags that only count
how often they are called; a call through a slot and a call through a handle of the same
registration count together.

## Contents
- `Bench`: the registry, the handles, and the calls made so far.
- `Bench.Step`, `Bench.Report`, `Bench.step`: one step and what is seen of it.
- `Bench.run`: a list of steps, from an empty registry.
-/

namespace BluetoothHost

/-- A registry, named handles, and the registrations called so far. -/
structure Bench where
  registry : Registry String := .empty
  handles : List (String × Registration String) := []
  /-- How many registrations have been made. -/
  issued : Nat := 0
  /-- The numbers of the registrations called, the last call first. -/
  called : List Nat := []

namespace Bench

/-- What can be done to a registry and to the handles taken from it. -/
inductive Step where
  | set (kind : EventKind) (tag : String)
  | unset (kind : EventKind)
  | clear
  /-- Keep what a slot holds under a name; an empty slot leaves the name as it was. -/
  | hold (kind : EventKind) (name : String)
  | call (kind : EventKind)
  | callHeld (name : String)

/-- What a step answers. -/
inductive Answer where
  | nothing
  | kind (kind : EventKind)
  | found (found : Bool)
  deriving DecidableEq

/-- What is seen of a step: its answer, the calls it made with their counts, the slots set. -/
structure Report where
  answer : Answer
  calls : List (String × Nat)
  set : List EventKind

/-- The handle kept under a name. -/
def handle? (b : Bench) (name : String) : Option (Registration String) := b.handles.lookup name

/-- Calls a registration, if there is one. The call is counted from one. -/
def callOn (b : Bench) : Option (Registration String) → Bench × Answer × List (String × Nat)
  | none => (b, .found false, [])
  | some r =>
    ({ b with called := r.number :: b.called }, .found true,
      [(r.callback, b.called.count r.number + 1)])

/-- Carries out a step. -/
def perform (b : Bench) : Step → Bench × Answer × List (String × Nat)
  | .set kind tag =>
    ({ b with registry := b.registry.set ⟨b.issued, kind, tag⟩, issued := b.issued + 1 },
      .kind kind, [])
  | .unset kind => ({ b with registry := b.registry.unset kind }, .nothing, [])
  | .clear => ({ b with registry := b.registry.clear }, .nothing, [])
  | .hold kind name =>
    match b.registry.get kind with
    | none => (b, .found false, [])
    | some r => ({ b with handles := (name, r) :: b.handles }, .found true, [])
  | .call kind => b.callOn (b.registry.get kind)
  | .callHeld name => b.callOn (b.handle? name)

/-- Carries out a step and reports what is seen of it. -/
def step (b : Bench) (s : Step) : Bench × Report :=
  let (after, answer, calls) := b.perform s
  (after, ⟨answer, calls, after.registry.kinds⟩)

/-- The reports of a list of steps. -/
def runFrom (b : Bench) : List Step → List Report
  | [] => []
  | s :: rest => (b.step s).2 :: (b.step s).1.runFrom rest

/-- The reports of a list of steps on an empty registry. -/
def run (steps : List Step) : List Report := ({} : Bench).runFrom steps

/-- Every registration on the bench stands in the slot of its kind. -/
theorem sorted_perform {b : Bench} (sorted : b.registry.Sorted) (s : Step) :
    (b.perform s).1.registry.Sorted := by
  cases s with
  | set kind tag => exact sorted.set _
  | unset kind => exact sorted.unset kind
  | clear => exact Registry.sorted_empty
  | hold kind name => simp only [perform]; split <;> exact sorted
  | call kind => simp only [perform, callOn]; split <;> exact sorted
  | callHeld name => simp only [perform, callOn]; split <;> exact sorted

end Bench

end BluetoothHost
