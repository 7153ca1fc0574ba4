import Mathlib.Data.List.Chain
import Mathlib.Data.Option.Basic

/-!
# A vigil over a peer

A party looks at the clock from time to time. When it has not heard of its peer for a while, it asks
for a sign of life, and when the question stays unanswered, it gives the peer up.

Results:
1. `looks_early`: a peer is not given up before both intervals are over.
2. `looks_late`: with looks that are not too far apart, it is given up soon afterwards.
-/

namespace Watchdog

/-- How long the peer may be silent before it is asked, and how long it may leave the question
unanswered. -/
structure Limits where
  quiet : Nat
  patience : Nat
deriving DecidableEq, Repr

/-- When the peer was last heard, and when it was asked since. -/
structure Vigil where
  heard : Nat
  asked : Option Nat := none
deriving DecidableEq, Repr

variable (l : Limits)

/-- A look at the clock; none when the peer is given up. -/
def Vigil.look (w : Vigil) (now : Nat) : Option Vigil :=
  match w.asked with
  | none => some (if w.heard + l.quiet ≤ now then { w with asked := some now } else w)
  | some question => if question + l.patience ≤ now then none else some w

/-- Several looks, with nothing heard in between. -/
def Vigil.looks (w : Vigil) (times : List Nat) : Option Vigil :=
  times.foldlM (Vigil.look l) w

variable {l} {w w' : Vigil} {now d start last : Nat} {times : List Nat}

theorem looks_cons (w : Vigil) (now : Nat) (times : List Nat) :
    w.looks l (now :: times) = (w.look l now).bind fun w => w.looks l times := rfl

/-- What a look that does not give up leaves. -/
theorem look_cases (h : w.look l now = some w') :
    (w' = w ∧ w.asked = none ∧ now < w.heard + l.quiet) ∨
      (w' = { w with asked := some now } ∧ w.asked = none ∧ w.heard + l.quiet ≤ now) ∨
      ∃ question, w' = w ∧ w.asked = some question ∧ now < question + l.patience := by
  unfold Vigil.look at h
  split at h
  · next hasked =>
    split at h
    · next hquiet => exact .inr (.inl ⟨(Option.some.inj h).symm, hasked, hquiet⟩)
    · next hheard => exact .inl ⟨(Option.some.inj h).symm, hasked, Nat.lt_of_not_le hheard⟩
  · next question hasked =>
    split at h
    · cases h
    · next hpatient =>
      exact .inr (.inr ⟨question, (Option.some.inj h).symm, hasked, Nat.lt_of_not_le hpatient⟩)

/-- The peer was asked after it had been silent for long enough. -/
def Vigil.Fair (l : Limits) (w : Vigil) : Prop :=
  ∀ question ∈ w.asked, w.heard + l.quiet ≤ question

theorem look_fair (h : w.look l now = some w') (hfair : w.Fair l) :
    w'.Fair l ∧ w'.heard = w.heard := by
  rcases look_cases h with ⟨rfl, -, -⟩ | ⟨rfl, -, hquiet⟩ | ⟨_, rfl, -, -⟩
  · exact ⟨hfair, rfl⟩
  · refine ⟨fun question hquestion => ?_, rfl⟩
    obtain rfl := Option.mem_some.mp hquestion
    exact hquiet
  · exact ⟨hfair, rfl⟩

/-- A peer is not given up before both intervals are over. -/
theorem looks_early (hfair : w.Fair l) (h : w.looks l times = none) :
    ∃ now ∈ times, w.heard + l.quiet + l.patience ≤ now := by
  induction times generalizing w with
  | nil => cases h
  | cons now times ih =>
    rw [looks_cons] at h
    cases hlook : w.look l now with
    | none =>
      refine ⟨now, List.mem_cons_self, ?_⟩
      unfold Vigil.look at hlook
      split at hlook
      · cases hlook
      · next question hasked =>
        split at hlook
        · next hexpired =>
          exact Nat.le_trans (Nat.add_le_add_right (hfair question hasked) _) hexpired
        · cases hlook
    | some w' =>
      rw [hlook] at h
      obtain ⟨hfair', hheard⟩ := look_fair hlook hfair
      obtain ⟨late, hmem, hlate⟩ := ih hfair' h
      exact ⟨late, List.mem_cons_of_mem _ hmem, hheard ▸ hlate⟩

/-- Times that go on from `start`, each at most `d` behind the one before. -/
def Paced (d start : Nat) (times : List Nat) : Prop :=
  List.IsChain (fun now next => now ≤ next ∧ next ≤ now + d) (start :: times)

/-- At the time `now` no question and no end is overdue. -/
def Vigil.InTime (l : Limits) (d now : Nat) (w : Vigil) : Prop :=
  match w.asked with
  | none => now ≤ w.heard + l.quiet
  | some question => question ≤ w.heard + l.quiet + d ∧ now ≤ question + l.patience

theorem look_inTime (h : w.look l now = some w') (hin : w.InTime l d start)
    (hpace : now ≤ start + d) : w'.InTime l d now ∧ w'.heard = w.heard := by
  unfold Vigil.InTime at hin ⊢
  rcases look_cases h with ⟨rfl, hasked, hheard⟩ | ⟨rfl, hasked, -⟩ | ⟨question, rfl, hasked, hlt⟩
  · rw [hasked]
    exact ⟨Nat.le_of_lt hheard, rfl⟩
  · rw [hasked] at hin
    exact ⟨⟨Nat.le_trans hpace (Nat.add_le_add_right hin d), Nat.le_add_right _ _⟩, rfl⟩
  · rw [hasked] at hin ⊢
    exact ⟨⟨hin.1, Nat.le_of_lt hlt⟩, rfl⟩

/-- With looks at most `d` apart, a silent peer is given up at the first one that is more than `d`
behind both intervals. -/
theorem looks_late (hin : w.InTime l d start) (hpaced : Paced d start times)
    (h : w.looks l times = some w') :
    ∀ now ∈ times, now ≤ w.heard + l.quiet + l.patience + d := by
  induction times generalizing w start with
  | nil => exact fun now hnow => absurd hnow List.not_mem_nil
  | cons now times ih =>
    obtain ⟨⟨-, hpace⟩, hrest⟩ := List.isChain_cons_cons.mp hpaced
    rw [looks_cons] at h
    obtain ⟨w₁, hlook, hlooks⟩ := Option.bind_eq_some_iff.mp h
    obtain ⟨hin', hheard⟩ := look_inTime hlook hin hpace
    intro t ht
    rcases List.mem_cons.mp ht with rfl | ht
    · rw [← hheard]
      unfold Vigil.InTime at hin'
      split at hin'
      · omega
      · omega
    · rw [← hheard]
      exact ih hin' hrest hlooks t ht

end Watchdog
