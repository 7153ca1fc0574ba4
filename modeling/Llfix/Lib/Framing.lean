import Mathlib.Data.List.Basic

/-!
# Frames between delimiters

A stream is cut into frames by a delimiter. What stands behind the last delimiter is an open frame,
which later elements complete. `HasFrames d xs frames rest` says that `xs` has these frames and this
open one.

Results:
1. `HasFrames.unique`: a stream has one list of frames.
2. `HasFrames.append`: the frames of two streams, one behind the other, are those of the first and
   those of its open frame with the second.
3. `HasFrames.snoc_delimiter`, `HasFrames.snoc`: what one more element does.
-/

namespace Framing

variable {α : Type*} [DecidableEq α] {d : α}

/-- The stream has the frames, and an open one at its end. -/
def HasFrames (d : α) (xs : List α) (frames : List (List α)) (rest : List α) : Prop :=
  xs.splitOn d = frames ++ [rest]

theorem framed_nil : HasFrames d [] [] [] := List.splitOn_nil d

theorem framed_exists (d : α) (xs : List α) : ∃ frames rest, HasFrames d xs frames rest :=
  ⟨_, _, (List.dropLast_append_getLast (List.splitOn_ne_nil d xs)).symm⟩

namespace HasFrames

variable {xs ys rest more : List α} {frames others : List (List α)}

theorem unique (h : HasFrames d xs frames rest) (h' : HasFrames d xs others more) :
    frames = others ∧ rest = more := by
  obtain ⟨hframes, hrest⟩ := List.append_inj' (h.symm.trans h') rfl
  exact ⟨hframes, List.singleton_inj.mp hrest⟩

/-- A delimiter ends an empty frame in front of the others. -/
theorem cons_delimiter (h : HasFrames d xs frames rest) :
    HasFrames d (d :: xs) ([] :: frames) rest := by
  rw [HasFrames, List.splitOn_cons_eq_if_modifyHead, if_pos (beq_self_eq_true d), h]
  rfl

/-- Another element belongs to the first frame, be it open or not. -/
theorem cons {c : α} (hc : c ≠ d) (h : HasFrames d xs frames rest) :
    HasFrames d (c :: xs) ((frames.head?.map (c :: ·)).toList ++ frames.tail)
      (if frames = [] then c :: rest else rest) := by
  rw [HasFrames, List.splitOn_cons_eq_if_modifyHead, if_neg (by rwa [beq_iff_eq]), h]
  cases frames with
  | nil => rfl
  | cons frame frames => rfl

theorem append (h : HasFrames d xs frames rest) (h' : HasFrames d (rest ++ ys) others more) :
    HasFrames d (xs ++ ys) (frames ++ others) more := by
  induction xs generalizing frames rest others more with
  | nil =>
    obtain ⟨rfl, rfl⟩ := framed_nil.unique h
    exact h'
  | cons c xs ih =>
    obtain ⟨inner, last, hxs⟩ := framed_exists d xs
    by_cases hc : c = d
    · subst hc
      obtain ⟨rfl, rfl⟩ := hxs.cons_delimiter.unique h
      exact (ih hxs h').cons_delimiter
    · obtain ⟨rfl, rfl⟩ := (hxs.cons hc).unique h
      cases inner with
      | nil =>
        -- no frame has ended: the element is the first of the open one
        obtain ⟨inner, last', hlast⟩ := framed_exists d (last ++ ys)
        obtain ⟨rfl, rfl⟩ := (hlast.cons hc).unique h'
        exact (ih hxs hlast).cons hc
      | cons frame inner => exact (ih hxs h').cons hc

theorem not_mem (h : HasFrames d xs frames rest) : d ∉ rest := by
  induction xs generalizing frames rest with
  | nil =>
    obtain ⟨-, rfl⟩ := framed_nil.unique h
    exact List.not_mem_nil
  | cons c xs ih =>
    obtain ⟨inner, last, hxs⟩ := framed_exists d xs
    by_cases hc : c = d
    · subst hc
      obtain ⟨-, rfl⟩ := hxs.cons_delimiter.unique h
      exact ih hxs
    · obtain ⟨-, rfl⟩ := (hxs.cons hc).unique h
      split
      · rintro (_ | ⟨_, hmem⟩)
        · exact hc rfl
        · exact ih hxs hmem
      · exact ih hxs

/-- An open frame by itself. -/
theorem of_not_mem (h : d ∉ xs) : HasFrames d xs [] xs := List.splitOn_eq_singleton h

theorem snoc_delimiter (h : HasFrames d xs frames rest) :
    HasFrames d (xs ++ [d]) (frames ++ [rest]) [] := by
  have hended : HasFrames d (rest ++ [d]) [rest] [] := by
    rw [HasFrames, List.splitOn_append_cons_self_of_not_mem h.not_mem, List.splitOn_nil]
    rfl
  exact h.append hended

theorem snoc {c : α} (hc : c ≠ d) (h : HasFrames d xs frames rest) :
    HasFrames d (xs ++ [c]) frames (rest ++ [c]) := by
  have hopen : d ∉ rest ++ [c] := by
    rw [List.mem_append, List.mem_singleton]
    rintro (hmem | rfl)
    · exact h.not_mem hmem
    · exact hc rfl
  have hboth := h.append (of_not_mem hopen)
  rwa [List.append_nil] at hboth

end HasFrames

end Framing
