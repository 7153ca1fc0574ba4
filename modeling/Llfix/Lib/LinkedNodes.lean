import Mathlib.Data.List.Basic
import Mathlib.Data.List.Nodup

/-!
# Linked nodes in a block

The nodes of a block are numbered, and a pointer is the number of a node or null. `next` gives the
pointer of a node; a number that is not in the block has none.

Results:
1. `leads_append`: a path is followed part by part.
2. `Leads.frame`: a path depends on the pointers of its own nodes only.
3. `Leads.redirect`: the last pointer of a path may be set anew.
-/

namespace LinkedNodes

variable {next next' : Nat → Option (Option Nat)} {start stop : Option Nat} {path : List Nat}

/-- From `start` the pointers lead through the nodes of `path`, in this order, to `stop`. -/
def Leads (next : Nat → Option (Option Nat)) : Option Nat → List Nat → Option Nat → Prop
  | start, [], stop => start = stop
  | start, i :: path, stop => start = some i ∧ ∃ p, next i = some p ∧ Leads next p path stop

/-- A path ends with its last node. -/
theorem leads_append {front back : List Nat} :
    Leads next start (front ++ back) stop ↔
      ∃ p, Leads next start front p ∧ Leads next p back stop := by
  induction front generalizing start with
  | nil =>
    constructor
    · exact fun h => ⟨start, rfl, h⟩
    · rintro ⟨p, rfl, h⟩
      exact h
  | cons i front ih =>
    constructor
    · rintro ⟨hstart, p, hp, h⟩
      obtain ⟨q, hfront, hback⟩ := ih.mp h
      exact ⟨q, ⟨hstart, p, hp, hfront⟩, hback⟩
    · rintro ⟨q, ⟨hstart, p, hp, hfront⟩, hback⟩
      exact ⟨hstart, p, hp, ih.mpr ⟨q, hfront, hback⟩⟩

namespace Leads

theorem frame (h : Leads next start path stop) (hagree : ∀ i ∈ path, next' i = next i) :
    Leads next' start path stop := by
  induction path generalizing start with
  | nil => exact h
  | cons i path ih =>
    obtain ⟨hstart, p, hp, hrest⟩ := h
    have hi := hagree i List.mem_cons_self
    exact ⟨hstart, p, hi.trans hp, ih hrest fun j hj => hagree j (List.mem_cons_of_mem i hj)⟩

/-- Every node of a path is in the block. -/
theorem mem_block (h : Leads next start path stop) {i : Nat} (hi : i ∈ path) :
    (next i).isSome = true := by
  induction path generalizing start with
  | nil => exact absurd hi List.not_mem_nil
  | cons j path ih =>
    obtain ⟨-, p, hp, hrest⟩ := h
    rcases List.mem_cons.mp hi with rfl | hi
    · exact Option.isSome_of_eq_some hp
    · exact ih hrest hi

/-- The pointer of the last node is set anew, and the path goes on from there. -/
theorem redirect {front back : List Nat} {i : Nat} {p q : Option Nat}
    (h : Leads next start (front ++ [i]) q) (hi : i ∉ front) (hnext : next' i = some p)
    (hagree : ∀ j ∈ front, j ≠ i → next' j = next j) (hback : Leads next' p back stop) :
    Leads next' start (front ++ [i] ++ back) stop := by
  obtain ⟨r, hfront, hlast⟩ := leads_append.mp h
  have hkept : Leads next' start front r := hfront.frame fun j hj =>
    hagree j hj fun hji => hi (hji ▸ hj)
  exact leads_append.mpr ⟨p, leads_append.mpr ⟨r, hkept, hlast.1, p, hnext, rfl⟩, hback⟩

end Leads

end LinkedNodes
