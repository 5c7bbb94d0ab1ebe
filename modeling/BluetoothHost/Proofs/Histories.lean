import Mathlib.Data.List.Induction

/-!
# `Proofs.Histories` — what happened last

A history is a list of what has happened, the first thing first. What holds at its end is often decided by
the last thing of some sort: the last call that starts the stack, the last step that fills a slot. `Latest`
says that there is such a thing and that nothing behind it has undone it. The last element of a history
settles it or leaves it to those before (`latest_snoc`), so it can be followed along a run.

Where it matters what a thing comes after, it is the `moments` of a history that are looked at.

## Contents
- `Latest`, with `latest_snoc` and `latest_split`.
- `moments`, with `moments_concat` and `latest_moments_snoc`.
-/

namespace BluetoothHost

/-! ## What happened last -/

/-- An element with `P` is in the list, and none with `Q` comes behind it. -/
def Latest {α : Type} (P Q : α → Prop) (l : List α) : Prop :=
  ∃ before x after, l = before ++ x :: after ∧ P x ∧ ∀ y ∈ after, ¬ Q y

theorem not_latest_nil {α : Type} {P Q : α → Prop} : ¬ Latest P Q [] := by
  rintro ⟨before, x, after, h, -, -⟩
  exact absurd h (by simp)

/-- The last element decides: it has `P`, or it has not `Q` and those before it decide. -/
theorem latest_snoc {α : Type} {P Q : α → Prop} {l : List α} {z : α} :
    Latest P Q (l ++ [z]) ↔ P z ∨ (¬ Q z ∧ Latest P Q l) := by
  constructor
  · -- the element found is the last one, or lies before it
    rintro ⟨before, x, after, h, hx, hafter⟩
    rcases List.eq_nil_or_concat after with rfl | ⟨init, y, rfl⟩
    · have hz : z = x := (List.append_inj' h rfl).2 |> List.singleton_inj.mp
      exact .inl (hz ▸ hx)
    · rw [List.concat_eq_append, ← List.cons_append, ← List.append_assoc] at h
      obtain ⟨hl, hz⟩ := List.append_inj' h rfl
      obtain rfl := List.singleton_inj.mp hz
      refine .inr ⟨hafter z (by simp), before, x, init, hl, hx, ?_⟩
      exact fun y hy => hafter y (by simp [hy])
  · rintro (hz | ⟨hz, before, x, after, rfl, hx, hafter⟩)
    · exact ⟨l, z, [], rfl, hz, fun y hy => absurd hy List.not_mem_nil⟩
    · refine ⟨before, x, after ++ [z], by simp, hx, ?_⟩
      intro y hy
      rcases List.mem_append.mp hy with h | h
      · exact hafter y h
      · rw [List.mem_singleton.mp h]; exact hz

/-- What came last with `P` has `R`, and no `Q` behind it, or it is the last of all with `P` or `Q`. -/
theorem latest_split {α : Type} {P Q R : α → Prop} {l : List α} :
    Latest P Q l ↔
      Latest (fun x => P x ∧ R x) Q l ∨ Latest (fun x => P x ∧ ¬ R x) (fun x => P x ∨ Q x) l := by
  induction l using List.reverseRecOn with
  | nil => simp [not_latest_nil]
  | append_singleton l z ih =>
    rw [latest_snoc, latest_snoc, latest_snoc, ih]
    by_cases hP : P z
    · by_cases hR : R z
      · simp [hP, hR]
      · simp [hP, hR]
    · by_cases hQ : Q z
      · simp [hP, hQ]
      · simp [hP, hQ]

/-! ## Moments -/

/-- The moments of a history: each thing, with all that came before it. -/
def moments {α : Type} : List α → List (List α × α)
  | [] => []
  | x :: rest => ([], x) :: (moments rest).map fun m => (x :: m.1, m.2)

/-- What happens next comes after all that has happened. -/
theorem moments_concat {α : Type} (l : List α) (z : α) : moments (l ++ [z]) = moments l ++ [(l, z)] := by
  induction l with
  | nil => rfl
  | cons x rest ih => simp [moments, ih]

/-- The last moment decides. -/
theorem latest_moments_snoc {α : Type} {P Q : List α × α → Prop} {l : List α} {z : α} :
    Latest P Q (moments (l ++ [z])) ↔ P (l, z) ∨ (¬ Q (l, z) ∧ Latest P Q (moments l)) := by
  rw [moments_concat, latest_snoc]

end BluetoothHost
