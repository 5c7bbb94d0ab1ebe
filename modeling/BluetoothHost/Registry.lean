import BluetoothHost.EventKind

/-!
# `Registry` — the callbacks an application has registered

A registry has one slot per kind of event, each empty or holding the registration made last. A
registration is more than its callback: two registrations of equal callbacks are two, told apart
by their number, and whoever holds one may still call it after its slot has changed.

## Contents
- `Registration`: a registered callback, its kind and its number.
- `Registry`, with `set`, `unset` and `clear`; `get_set`, `get_unset` and `get_clear` say what each
  slot holds afterwards, `isSet_set` and its like whether it holds anything.
- `Registry.Sorted`: every registration stands in the slot of its kind; kept by all of them.
-/

namespace BluetoothHost

/-- A registered callback. -/
structure Registration (κ : Type) where
  /-- Registrations are numbered in the order they are made. -/
  number : Nat
  kind : EventKind
  callback : κ

/-- One slot per kind of event. -/
@[ext] structure Registry (κ : Type) where
  get : EventKind → Option (Registration κ)

namespace Registry

variable {κ : Type}

/-- The registry whose slots are all empty. -/
def empty : Registry κ := ⟨fun _ => none⟩

instance : Inhabited (Registry κ) := ⟨empty⟩

/-- Puts a registration into the slot of its kind, in place of the one there. -/
def set (r : Registry κ) (registration : Registration κ) : Registry κ where
  get k := if k = registration.kind then some registration else r.get k

/-- Empties a slot. -/
def unset (r : Registry κ) (kind : EventKind) : Registry κ where
  get k := if k = kind then none else r.get k

/-- Empties every slot. -/
def clear (_ : Registry κ) : Registry κ := empty

/-- Whether a slot holds a registration. -/
def isSet (r : Registry κ) (kind : EventKind) : Bool := (r.get kind).isSome

/-- The kinds whose slots hold a registration. -/
def kinds (r : Registry κ) : List EventKind := EventKind.all.filter r.isSet

/-! ## Slots -/

@[simp] theorem get_empty (k : EventKind) : (empty : Registry κ).get k = none := rfl

@[simp] theorem get_set_self (r : Registry κ) (registration : Registration κ) :
    (r.set registration).get registration.kind = some registration := by
  simp [set]

theorem get_set_of_ne {r : Registry κ} {registration : Registration κ} {k : EventKind}
    (h : k ≠ registration.kind) : (r.set registration).get k = r.get k := by
  simp [set, h]

@[simp] theorem get_unset_self (r : Registry κ) (k : EventKind) : (r.unset k).get k = none := by
  simp [unset]

theorem get_unset_of_ne {r : Registry κ} {kind k : EventKind} (h : k ≠ kind) :
    (r.unset kind).get k = r.get k := by
  simp [unset, h]

@[simp] theorem get_clear (r : Registry κ) (k : EventKind) : r.clear.get k = none := rfl

theorem isSet_set_self (r : Registry κ) (registration : Registration κ) :
    (r.set registration).isSet registration.kind = true := by
  simp [isSet]

theorem isSet_set_of_ne {r : Registry κ} {registration : Registration κ} {k : EventKind}
    (h : k ≠ registration.kind) : (r.set registration).isSet k = r.isSet k := by
  rw [isSet, get_set_of_ne h]
  rfl

theorem isSet_unset_self (r : Registry κ) (k : EventKind) : (r.unset k).isSet k = false := by
  simp [isSet]

theorem isSet_unset_of_ne {r : Registry κ} {kind k : EventKind} (h : k ≠ kind) :
    (r.unset kind).isSet k = r.isSet k := by
  rw [isSet, get_unset_of_ne h]
  rfl

theorem isSet_clear (r : Registry κ) (k : EventKind) : r.clear.isSet k = false := rfl

/-! ## Every registration in the slot of its kind -/

/-- Every registration stands in the slot of its kind. -/
def Sorted (r : Registry κ) : Prop :=
  ∀ k registration, r.get k = some registration → registration.kind = k

theorem sorted_empty : (empty : Registry κ).Sorted := by
  intro k registration h
  simp at h

theorem Sorted.set {r : Registry κ} (sorted : r.Sorted) (registration : Registration κ) :
    (r.set registration).Sorted := by
  intro k other h
  by_cases hk : k = registration.kind
  · subst hk
    rw [get_set_self] at h
    exact congrArg Registration.kind (Option.some.inj h).symm
  · rw [get_set_of_ne hk] at h
    exact sorted k other h

theorem Sorted.unset {r : Registry κ} (sorted : r.Sorted) (kind : EventKind) :
    (r.unset kind).Sorted := by
  intro k other h
  by_cases hk : k = kind
  · subst hk
    simp at h
  · rw [get_unset_of_ne hk] at h
    exact sorted k other h

end Registry

end BluetoothHost
