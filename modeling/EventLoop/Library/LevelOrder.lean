import Mathlib.Data.List.Basic

/-!
# First in, first out over a forest

A server takes the item that has waited longest, makes an entry of it, and appends
the items that entry brings up to those still waiting. What it serves from a queue
of roots is then the forest below them level by level: first the roots, then
everything the roots brought up, and so on, each level in the order of the one
above. Nothing is assumed of items and entries, nor that the forest is known
beforehand.
-/

namespace LevelOrder

universe u v
variable {α : Type u} {β : Type v} (item : α → β) (children : α → List β)

/-- From the first queue the server makes the entries, in order, and leaves the
second queue waiting. -/
inductive Serves : List β → List α → List β → Prop
  | idle (waiting : List β) : Serves waiting [] waiting
  | next {entry : α} {waiting left : List β} {later : List α}
      (rest : Serves (waiting ++ children entry) later left) :
      Serves (item entry :: waiting) (entry :: later) left

/-- The entries are the forest below the roots, level by level. -/
inductive Levels : List β → List α → Prop
  | done : Levels [] []
  | level {roots : List β} {entries later : List α} (here : entries.map item = roots)
      (below : Levels (entries.flatMap children) later) : Levels roots (entries ++ later)

variable {item children} {roots waiting left : List β} {entries : List α}

/-- One entry more. -/
theorem Serves.snoc {entry : α}
    (serves : Serves item children roots entries (item entry :: waiting)) :
    Serves item children roots (entries ++ [entry]) (waiting ++ children entry) := by
  generalize queued : item entry :: waiting = pending at serves
  induction serves with
  | idle pending =>
    subst queued
    exact .next (.idle _)
  | next rest inductionHypothesis => exact .next (inductionHypothesis queued)

/-- Everything that was waiting or was brought up is served or still waits, in the
order it came in. -/
theorem Serves.in_order (serves : Serves item children roots entries left) :
    entries.map item ++ left = roots ++ entries.flatMap children := by
  induction serves with
  | idle waiting => simp
  | next rest inductionHypothesis =>
    simp only [List.map_cons, List.cons_append, inductionHypothesis, List.flatMap_cons,
      List.append_assoc]

/-- What waits in front is served first, and brings up what comes next after the
rest. -/
theorem Serves.split (front : List β)
    (serves : Serves item children (front ++ waiting) entries []) :
    ∃ first later, entries = first ++ later ∧ first.map item = front ∧
      Serves item children (waiting ++ first.flatMap children) later [] := by
  induction front generalizing waiting entries with
  | nil => exact ⟨[], entries, rfl, rfl, by simpa using serves⟩
  | cons root front inductionHypothesis =>
    cases serves with
    | @next entry _ _ rest serves =>
      have rotated : Serves item children (front ++ (waiting ++ children entry)) rest [] := by
        rw [← List.append_assoc]
        exact serves
      obtain ⟨first, later, rfl, served, below⟩ := inductionHypothesis rotated
      refine ⟨entry :: first, later, rfl, by rw [List.map_cons, served], ?_⟩
      simpa only [List.flatMap_cons, List.append_assoc] using below

/-- A server that leaves nothing waiting has gone through the forest level by
level. -/
theorem Serves.levels (serves : Serves item children roots entries []) :
    Levels item children roots entries := by
  induction size : entries.length using Nat.strongRecOn generalizing roots entries with
  | _ size inductionHypothesis =>
    cases roots with
    | nil =>
      cases serves with
      | idle => exact .done
    | cons root rest =>
      have whole : Serves item children ((root :: rest) ++ []) entries [] := by simpa using serves
      obtain ⟨first, later, rfl, served, below⟩ := whole.split
      refine .level served (inductionHypothesis later.length ?_ below rfl)
      have nonempty : first.length = rest.length + 1 := by
        rw [← List.length_map item, served, List.length_cons]
      rw [← size, List.length_append]
      omega

end LevelOrder
