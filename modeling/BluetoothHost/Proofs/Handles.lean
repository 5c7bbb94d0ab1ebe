import BluetoothHost.Proofs.Histories
import BluetoothHost.Proofs.Matching
import BluetoothHost.Registry.Bench

/-!
# `Proofs.Handles` — registrations outlive their slots

A slot holds one registration, and handles that were taken from it may hold others, which it held before.
What slots and handles hold can be told from the steps that led there, without a registry: `Standing` says
what the last filling of a slot has put into it, `Kept` what stood in a slot when a handle was taken. A step
changes the bench as it changes both (`get_perform_eq_some_iff`, `handle?_perform_eq_some_iff`), so the
bench follows its history all along (`registry_follows_history`).

A registration is one, however it is reached: a call through its slot and a call through a handle are counted
together. Since no two of those in slots have one number (`Orderly`), nothing that is done to one kind tells
on the callbacks of another.

## Contents
- `Step.Fills`, `Step.Empties`, `Bench.Calls`: what steps do, with `get_perform_eq_some_iff` and
  `handle?_perform_eq_some_iff`.
- `Standing` and `Kept`, with `get_after_eq_some_iff` and `handle?_after_eq_some_iff`; `isSet_after_iff`.
- `throughSlot` and `throughHandle`, with `count_called_after`.
- `Orderly`, with `call_perform_of_ne`: kinds are apart.
- `Bench.Follows`, `registry_follows_history`.
-/

namespace BluetoothHost

namespace Bench

/-! ## Steps -/

namespace Step

/-- The kind of a step that is about one slot. -/
def kind? : Step → Option EventKind
  | .set kind _ | .unset kind | .hold kind _ | .call kind => some kind
  | .clear | .callHeld _ => none

/-- Whether a step makes a registration. -/
def registers : Step → Bool
  | .set .. => true
  | _ => false

/-- The step fills the slot of a kind. -/
def Fills (k : EventKind) (s : Step) : Prop := ∃ tag, s = .set k tag

/-- The step empties the slot of a kind. -/
def Empties (k : EventKind) (s : Step) : Prop := s = .unset k ∨ s = .clear

end Step

/-- The step calls a registration and nothing else: its callback is called, with the count of its calls. -/
def Calls (b : Bench) (s : Step) (r : Registration String) : Prop :=
  b.perform s = ({ b with called := r.number :: b.called }, .found true,
    [(r.callback, b.called.count r.number + 1)])

section Perform

variable {b : Bench} {k : EventKind} {name : String} {r : Registration String}

@[simp] theorem registry_callOn (b : Bench) (r? : Option (Registration String)) :
    (b.callOn r?).1.registry = b.registry := by
  cases r? <;> rfl

@[simp] theorem handles_callOn (b : Bench) (r? : Option (Registration String)) :
    (b.callOn r?).1.handles = b.handles := by
  cases r? <;> rfl

@[simp] theorem issued_callOn (b : Bench) (r? : Option (Registration String)) :
    (b.callOn r?).1.issued = b.issued := by
  cases r? <;> rfl

theorem perform_hold_of_none (h : b.registry.get k = none) :
    b.perform (.hold k name) = (b, .found false, []) := by
  simp [perform, h]

theorem perform_hold_of_some (h : b.registry.get k = some r) :
    b.perform (.hold k name) = ({ b with handles := (name, r) :: b.handles }, .found true, []) := by
  simp [perform, h]

/-- A handle is taken just if the slot holds something. -/
theorem perform_hold_snd (b : Bench) (k : EventKind) (name : String) :
    (b.perform (.hold k name)).2 = (.found (b.registry.isSet k), []) := by
  cases h : b.registry.get k with
  | none => rw [perform_hold_of_none h, Registry.isSet, h]; rfl
  | some r => rw [perform_hold_of_some h, Registry.isSet, h]; rfl

/-- Taking a handle changes handles only. -/
theorem perform_hold_eq (b : Bench) (k : EventKind) (name : String) :
    (b.perform (.hold k name)).1 = { b with handles := (b.perform (.hold k name)).1.handles } := by
  cases h : b.registry.get k with
  | none => rw [perform_hold_of_none h]
  | some r => rw [perform_hold_of_some h]

theorem calls_of_get (h : b.registry.get k = some r) : b.Calls (.call k) r := by
  simp [Calls, perform, callOn, h]

theorem perform_call_of_none (h : b.registry.get k = none) :
    b.perform (.call k) = (b, .found false, []) := by
  simp [perform, callOn, h]

theorem calls_of_handle? (h : b.handle? name = some r) : b.Calls (.callHeld name) r := by
  simp [Calls, perform, callOn, h]

theorem perform_callHeld_of_none (h : b.handle? name = none) :
    b.perform (.callHeld name) = (b, .found false, []) := by
  simp [perform, callOn, h]

/-- A slot is filled or emptied, and else it holds what it held. -/
theorem get_perform_eq_some_iff (b : Bench) (s : Step) (k : EventKind) (r : Registration String) :
    (b.perform s).1.registry.get k = some r ↔
      (∃ tag, s = .set k tag ∧ r = ⟨b.issued, k, tag⟩) ∨
        (¬ (s.Fills k ∨ s.Empties k) ∧ b.registry.get k = some r) := by
  cases s with
  | set kind tag =>
    by_cases hk : k = kind
    · subst hk
      simp [perform, Step.Fills, Registry.set, eq_comm]
    · simp [perform, Step.Fills, Step.Empties, Registry.set, hk, Ne.symm hk]
  | unset kind =>
    by_cases hk : k = kind
    · subst hk
      simp [perform, Step.Empties]
    · simp [perform, Step.Fills, Step.Empties, Registry.get_unset_of_ne hk, Ne.symm hk]
  | clear => simp [perform, Step.Empties]
  | hold kind name =>
    rw [perform_hold_eq]
    simp [Step.Fills, Step.Empties]
  | call kind => simp [perform, Step.Fills, Step.Empties]
  | callHeld name => simp [perform, Step.Fills, Step.Empties]

/-- A name is given to what a slot holds, and else it stands for what it stood for. -/
theorem handle?_perform_eq_some_iff (b : Bench) (s : Step) (name : String) (r : Registration String) :
    (b.perform s).1.handle? name = some r ↔
      (∃ k, s = .hold k name ∧ b.registry.get k = some r) ∨
        (¬ (∃ k other, s = .hold k name ∧ b.registry.get k = some other) ∧
          b.handle? name = some r) := by
  cases s with
  | hold kind given =>
    cases hr : b.registry.get kind with
    | none =>
      rw [perform_hold_of_none hr]
      simp [hr]
    | some held =>
      rw [perform_hold_of_some hr]
      by_cases hname : name = given
      · subst hname
        simp [handle?, hr]
      · simp [handle?, List.lookup_cons, beq_eq_false_iff_ne.mpr hname, Ne.symm hname]
  | call kind => simp [perform, handle?]
  | callHeld other => simp [perform, handle?]
  | set | unset | clear => simp [perform, handle?]

/-- Registrations are counted as they are made. -/
theorem issued_perform (b : Bench) (s : Step) :
    (b.perform s).1.issued = b.issued + if s.registers then 1 else 0 := by
  cases s with
  | hold kind name => rw [perform_hold_eq]; rfl
  | call kind => exact b.issued_callOn _
  | callHeld name => exact b.issued_callOn _
  | set | unset | clear => rfl

end Perform

/-! ## What slots and handles hold, by the steps alone -/

/-- The bench after some steps. -/
def after (steps : List Step) : Bench := steps.foldl (fun b s => (b.perform s).1) {}

@[simp] theorem after_concat (steps : List Step) (s : Step) :
    after (steps ++ [s]) = ((after steps).perform s).1 := by
  simp [after]

/-- How many registrations some steps make. The next one has this number. -/
def madeBy (steps : List Step) : Nat := steps.countP Step.registers

theorem issued_after (steps : List Step) : (after steps).issued = madeBy steps := by
  induction steps using List.reverseRecOn with
  | nil => rfl
  | append_singleton steps s ih =>
    rw [after_concat, issued_perform, ih, madeBy, madeBy, List.countP_append, List.countP_singleton]

/-- The registration in the slot of a kind after some steps: that of the last step that fills the slot, if no
    step behind it empties it. -/
def Standing (k : EventKind) (steps : List Step) (r : Registration String) : Prop :=
  Latest (fun m => ∃ tag, m.2 = .set k tag ∧ r = ⟨madeBy m.1, k, tag⟩)
    (fun m => m.2.Fills k ∨ m.2.Empties k) (moments steps)

/-- The registration kept under a name after some steps: that which stood in its slot at the last step that
    took anything from a slot under this name. -/
def Kept (name : String) (steps : List Step) (r : Registration String) : Prop :=
  Latest (fun m => ∃ k, m.2 = .hold k name ∧ Standing k m.1 r)
    (fun m => ∃ k other, m.2 = .hold k name ∧ Standing k m.1 other) (moments steps)

theorem standing_set (k : EventKind) (tag : String) (steps : List Step) :
    Standing k (steps ++ [.set k tag]) ⟨madeBy steps, k, tag⟩ :=
  latest_moments_snoc.mpr (.inl ⟨tag, rfl, rfl⟩)

theorem kept_hold {k : EventKind} {steps : List Step} {r : Registration String} (h : Standing k steps r)
    (name : String) : Kept name (steps ++ [.hold k name]) r :=
  latest_moments_snoc.mpr (.inl ⟨k, rfl, h⟩)

/-- What is kept under a name stays, whatever comes later, if the name is not given anew. -/
theorem Kept.append {name : String} {steps later : List Step} {r : Registration String}
    (h : Kept name steps r) (hlater : ∀ s ∈ later, ∀ k, s ≠ .hold k name) :
    Kept name (steps ++ later) r := by
  induction later using List.reverseRecOn with
  | nil => rwa [List.append_nil]
  | append_singleton later s ih =>
    rw [← List.append_assoc]
    refine latest_moments_snoc.mpr (.inr ⟨?_, ih fun x hx => hlater x (List.mem_append_left _ hx)⟩)
    rintro ⟨k, -, hs, -⟩
    exact hlater s (List.mem_append_right _ List.mem_cons_self) k hs

/-- **A slot holds the registration of the last step that fills it**, if it was not emptied after it. -/
theorem get_after_eq_some_iff (k : EventKind) (steps : List Step) (r : Registration String) :
    (after steps).registry.get k = some r ↔ Standing k steps r := by
  unfold Standing
  induction steps using List.reverseRecOn with
  | nil => exact iff_of_false (by simp [after]) not_latest_nil
  | append_singleton steps s ih =>
    rw [after_concat, get_perform_eq_some_iff, latest_moments_snoc, ih, issued_after]

/-- **A handle stays with the registration that it was taken from**, whatever becomes of the slot. -/
theorem handle?_after_eq_some_iff (name : String) (steps : List Step) (r : Registration String) :
    (after steps).handle? name = some r ↔ Kept name steps r := by
  unfold Kept
  induction steps using List.reverseRecOn with
  | nil => exact iff_of_false (by simp [after, handle?]) not_latest_nil
  | append_singleton steps s ih =>
    rw [after_concat, handle?_perform_eq_some_iff, latest_moments_snoc, ih]
    simp only [get_after_eq_some_iff]

/-- A slot holds something if it is filled, or not emptied. -/
theorem isSet_perform_iff (b : Bench) (s : Step) (k : EventKind) :
    (b.perform s).1.registry.isSet k = true ↔
      s.Fills k ∨ (¬ s.Empties k ∧ b.registry.isSet k = true) := by
  rw [Registry.isSet, Registry.isSet, Option.isSome_iff_exists, Option.isSome_iff_exists]
  simp only [get_perform_eq_some_iff]
  constructor
  · rintro ⟨r, ⟨tag, hs, -⟩ | ⟨hs, hr⟩⟩
    · exact .inl ⟨tag, hs⟩
    · exact .inr ⟨fun hempties => hs (.inr hempties), r, hr⟩
  · rintro (⟨tag, hs⟩ | ⟨hempties, r, hr⟩)
    · exact ⟨_, .inl ⟨tag, hs, rfl⟩⟩
    · by_cases hfills : s.Fills k
      · obtain ⟨tag, hs⟩ := hfills
        exact ⟨_, .inl ⟨tag, hs, rfl⟩⟩
      · exact ⟨r, .inr ⟨not_or.mpr ⟨hfills, hempties⟩, hr⟩⟩

/-- **A slot holds something just if it was filled and not emptied after it.** -/
theorem isSet_after_iff (k : EventKind) (steps : List Step) :
    (after steps).registry.isSet k = true ↔ Latest (Step.Fills k) (Step.Empties k) steps := by
  induction steps using List.reverseRecOn with
  | nil => exact iff_of_false (by simp [after, Registry.isSet]) not_latest_nil
  | append_singleton steps s ih => rw [after_concat, isSet_perform_iff, latest_snoc, ih]

/-! ## How often a registration is called -/

/-- The registration of this number is called through its slot. -/
def throughSlot (number : Nat) (m : List Step × Step) : Bool :=
  match m.2 with
  | .call k => ((after m.1).registry.get k).any (·.number == number)
  | _ => false

/-- The registration of this number is called through a handle. -/
def throughHandle (number : Nat) (m : List Step × Step) : Bool :=
  match m.2 with
  | .callHeld name => ((after m.1).handle? name).any (·.number == number)
  | _ => false

/-- Each call counts for the registration called, and for no other. -/
theorem count_called_callOn (b : Bench) (r? : Option (Registration String)) (number : Nat) :
    (b.callOn r?).1.called.count number =
      b.called.count number + if r?.any (·.number == number) then 1 else 0 := by
  cases r? with
  | none => rfl
  | some r => exact List.count_cons

/-- **The calls of a registration are those through its slot and those through its handles.** -/
theorem count_called_after (steps : List Step) (number : Nat) :
    (after steps).called.count number =
      (moments steps).countP (throughSlot number) + (moments steps).countP (throughHandle number) := by
  induction steps using List.reverseRecOn with
  | nil => rfl
  | append_singleton steps s ih =>
    rw [after_concat, moments_concat, List.countP_append, List.countP_append, List.countP_singleton,
      List.countP_singleton]
    cases s with
    | call k =>
      have hcalled := (after steps).count_called_callOn ((after steps).registry.get k) number
      rw [ih] at hcalled
      exact hcalled.trans (Nat.add_right_comm _ _ _)
    | callHeld name =>
      have hcalled := (after steps).count_called_callOn ((after steps).handle? name) number
      rw [ih] at hcalled
      exact hcalled.trans (Nat.add_assoc _ _ _)
    | hold k name =>
      rw [perform_hold_eq]
      simpa [throughSlot, throughHandle] using ih
    | set | unset | clear => simpa [throughSlot, throughHandle, perform] using ih

/-! ## Kinds apart -/

/-- Registrations in slots have numbers that were handed out, each its own, and stand in the slots of their
    kinds. -/
structure Orderly (b : Bench) : Prop where
  sorted : b.registry.Sorted
  issued : ∀ k r, b.registry.get k = some r → r.number < b.issued
  apart : ∀ k k' r r', b.registry.get k = some r → b.registry.get k' = some r' →
    r.number = r'.number → k = k'

/-- Every step keeps this order. -/
theorem Orderly.perform {b : Bench} (hb : b.Orderly) (s : Step) : (b.perform s).1.Orderly := by
  refine ⟨sorted_perform hb.sorted s, ?issued, ?apart⟩
  case issued =>
    intro k r hr
    rw [issued_perform]
    rcases (get_perform_eq_some_iff b s k r).mp hr with ⟨tag, rfl, rfl⟩ | ⟨-, hold⟩
    · exact Nat.lt_succ_self _
    · exact Nat.lt_add_right _ (hb.issued k r hold)
  case apart =>
    intro k k' r r' hr hr' hnumber
    rcases (get_perform_eq_some_iff b s k r).mp hr with ⟨tag, hs, rfl⟩ | ⟨-, hold⟩
    · rcases (get_perform_eq_some_iff b s k' r').mp hr' with ⟨tag', hs', rfl⟩ | ⟨-, hold'⟩
      · exact (Step.set.inj (hs.symm.trans hs')).1
      · exact absurd hnumber (Nat.ne_of_gt (hb.issued k' r' hold'))
    · rcases (get_perform_eq_some_iff b s k' r').mp hr' with ⟨tag', hs', rfl⟩ | ⟨-, hold'⟩
      · exact absurd hnumber (Nat.ne_of_lt (hb.issued k r hold))
      · exact hb.apart k k' r r' hold hold' hnumber

theorem orderly_after (steps : List Step) : (after steps).Orderly := by
  induction steps using List.reverseRecOn with
  | nil => exact ⟨Registry.sorted_empty, by simp [after], by simp [after]⟩
  | append_singleton steps s ih =>
    rw [after_concat]
    exact ih.perform s

section Apart

variable {b : Bench} {s : Step} {k k' : EventKind}

/-- A step on one kind leaves the slots of all others as they are. -/
theorem get_perform_of_ne (hs : s.kind? = some k') (hk : k ≠ k') :
    (b.perform s).1.registry.get k = b.registry.get k := by
  have hfills : ¬ (s.Fills k ∨ s.Empties k) := by
    rintro (⟨tag, rfl⟩ | rfl | rfl)
    · exact hk (Option.some.inj hs)
    · exact hk (Option.some.inj hs)
    · exact absurd hs (by simp [Step.kind?])
  refine Option.ext fun r => ?_
  rw [get_perform_eq_some_iff]
  constructor
  · rintro (⟨tag, hset, -⟩ | ⟨-, hr⟩)
    · exact absurd (.inl ⟨tag, hset⟩) hfills
    · exact hr
  · exact fun hr => .inr ⟨hfills, hr⟩

/-- Nor does it count as a call of what they hold. -/
theorem Orderly.count_called_perform_of_ne (hb : b.Orderly) (hs : s.kind? = some k') (hk : k ≠ k')
    {r : Registration String} (hr : b.registry.get k = some r) :
    (b.perform s).1.called.count r.number = b.called.count r.number := by
  cases s with
  | call kind =>
    obtain rfl := Option.some.inj hs
    -- what is called stands in another slot, and has another number
    have hother : ((b.registry.get kind).any (·.number == r.number)) = false := by
      rw [Option.any_eq_false]
      intro r' hr'
      exact beq_eq_false_iff_ne.mpr fun hnumber => hk (hb.apart k kind r r' hr hr' hnumber.symm)
    refine (b.count_called_callOn _ _).trans ?_
    rw [hother]
    rfl
  | callHeld name => exact absurd hs (by simp [Step.kind?])
  | hold kind name => rw [perform_hold_eq]
  | set | unset | clear => rfl

/-- **A step on one kind does not tell on a call through the slot of another.** -/
theorem Orderly.call_perform_of_ne (hb : b.Orderly) (hs : s.kind? = some k') (hk : k ≠ k') :
    ((b.perform s).1.perform (.call k)).2 = (b.perform (.call k)).2 := by
  show ((b.perform s).1.callOn _).2 = (b.callOn _).2
  rw [get_perform_of_ne hs hk]
  cases hr : b.registry.get k with
  | none => rfl
  | some r =>
    simp only [callOn]
    rw [hb.count_called_perform_of_ne hs hk hr]

end Apart

/-! ## The bench and its history -/

theorem runFrom_concat (b : Bench) (steps : List Step) (s : Step) :
    b.runFrom (steps ++ [s]) =
      b.runFrom steps ++ [((steps.foldl (fun b s => (b.perform s).1) b).step s).2] := by
  induction steps generalizing b with
  | nil => rfl
  | cons first rest ih => exact congrArg _ (ih _)

/-- What a bench holds and does, told by the steps that led to it. -/
structure Follows (b : Bench) (steps : List Step) : Prop where
  /-- A slot holds something just if it was filled, and not emptied after it, -/
  isSet_iff : ∀ k, b.registry.isSet k = true ↔ Latest (Step.Fills k) (Step.Empties k) steps
  /-- and that is the registration of the last step that filled it. -/
  get_iff : ∀ k r, b.registry.get k = some r ↔ Standing k steps r
  /-- A handle is taken from a slot just if it holds something. -/
  hold : ∀ k name, (b.perform (.hold k name)).2 = (.found (b.registry.isSet k), [])
  /-- A call through a slot is one of the registration in it, -/
  call : ∀ k r, Standing k steps r → b.Calls (.call k) r
  /-- and none if it is empty. -/
  call_empty : ∀ k, (∀ r, ¬ Standing k steps r) → b.perform (.call k) = (b, .found false, [])
  /-- A call through a handle is one of the registration that it was taken from, -/
  callHeld : ∀ name r, Kept name steps r → b.Calls (.callHeld name) r
  /-- and none if there is no such handle. -/
  callHeld_unkept : ∀ name, (∀ r, ¬ Kept name steps r) →
    b.perform (.callHeld name) = (b, .found false, [])
  /-- A registration was called through its slot and through its handles, and in no other way. -/
  called : ∀ number, b.called.count number =
    (moments steps).countP (throughSlot number) + (moments steps).countP (throughHandle number)
  /-- A step on one kind changes no slot of another, nor what is seen of a call through it. -/
  apart : ∀ s k', s.kind? = some k' → ∀ k, k ≠ k' →
    (b.perform s).1.registry.get k = b.registry.get k ∧
    (b.perform s).1.registry.isSet k = b.registry.isSet k ∧
    ((b.perform s).1.perform (.call k)).2 = (b.perform (.call k)).2
  /-- Registrations stand in the slots of their kinds, -/
  kind : ∀ k r, b.registry.get k = some r → r.kind = k
  /-- so a host with these slots passes nobody over to whom it owes an event. -/
  passed : ∀ h : Host String, h.registry = b.registry → ∀ e r, e.isReported = true →
    b.registry.get e.kind = some r →
      h.due? e = some ⟨r, e⟩ ∧ Invocation.passed? ⟨r, e⟩ = some e.arguments

/-- **A registry with handles follows its history.** After any steps, each slot holds the registration of the
    last step that filled it, if none emptied it after that, and each handle what it was taken from; calls
    through either are counted together; and what is done to one kind of callback does not tell on another. What
    is seen of a list of steps is what is seen of each on the bench after those before it. -/
theorem registry_follows_history (steps : List Step) :
    (after steps).Follows steps ∧
      run [] = [] ∧ ∀ s, run (steps ++ [s]) = run steps ++ [((after steps).step s).2] := by
  refine ⟨?_, rfl, runFrom_concat {} steps⟩
  have horderly := orderly_after steps
  constructor
  case isSet_iff => exact fun k => isSet_after_iff k steps
  case get_iff => exact fun k r => get_after_eq_some_iff k steps r
  case hold => exact (after steps).perform_hold_snd
  case call => exact fun k r hr => calls_of_get ((get_after_eq_some_iff k steps r).mpr hr)
  case call_empty =>
    intro k hempty
    refine perform_call_of_none (Option.eq_none_iff_forall_ne_some.mpr fun r hr => ?_)
    exact hempty r ((get_after_eq_some_iff k steps r).mp hr)
  case callHeld => exact fun name r hr => calls_of_handle? ((handle?_after_eq_some_iff name steps r).mpr hr)
  case callHeld_unkept =>
    intro name hunkept
    refine perform_callHeld_of_none (Option.eq_none_iff_forall_ne_some.mpr fun r hr => ?_)
    exact hunkept r ((handle?_after_eq_some_iff name steps r).mp hr)
  case called => exact count_called_after steps
  case apart =>
    intro s k' hs k hk
    have hget := get_perform_of_ne (b := after steps) hs hk
    exact ⟨hget, congrArg Option.isSome hget, horderly.call_perform_of_ne hs hk⟩
  case kind => exact horderly.sorted
  case passed =>
    intro h hregistry e r hreported hr
    have hsorted : h.registry.Sorted := hregistry ▸ horderly.sorted
    exact hsorted.exists_passed? hreported (hregistry ▸ hr)

/-- Another callback takes the place of one that is still held. -/
def replacedWhileHeld : List Step :=
  [.set .adapterName "first"] ++ [.hold .adapterName "held"] ++ [.set .adapterName "second"]

/-- Both can be called, the one through its handle and the other through its slot, until the slot is
    emptied. -/
theorem registry_follows_history_replacedWhileHeld :
    ((after replacedWhileHeld).perform (.callHeld "held")).2 = (.found true, [("first", 1)]) ∧
      ((after replacedWhileHeld).perform (.call .adapterName)).2 = (.found true, [("second", 1)]) ∧
      (after (replacedWhileHeld ++ [.clear])).perform (.call .adapterName) =
        (after (replacedWhileHeld ++ [.clear]), .found false, []) ∧
      ((after (replacedWhileHeld ++ [.clear])).perform (.callHeld "held")).2 =
        (.found true, [("first", 1)]) := by
  have hkept : Kept "held" ([.set .adapterName "first"] ++ [.hold .adapterName "held"])
      ⟨0, .adapterName, "first"⟩ := kept_hold (standing_set .adapterName "first" []) "held"
  obtain ⟨hreplaced, -⟩ := registry_follows_history replacedWhileHeld
  obtain ⟨hcleared, -⟩ := registry_follows_history (replacedWhileHeld ++ [.clear])
  refine ⟨?_, ?_, ?_, ?_⟩
  · rw [hreplaced.callHeld "held" _ (hkept.append (by simp))]
    rfl
  · rw [hreplaced.call .adapterName _ (standing_set _ _ _)]
    rfl
  · refine hcleared.call_empty .adapterName fun r hr => ?_
    rcases latest_moments_snoc.mp hr with ⟨tag, hset, -⟩ | ⟨hkeeps, -⟩
    · exact absurd hset nofun
    · exact hkeeps (.inr (.inr rfl))
  · rw [hcleared.callHeld "held" _ ((hkept.append (by simp)).append (by simp))]
    rfl

end Bench

end BluetoothHost
