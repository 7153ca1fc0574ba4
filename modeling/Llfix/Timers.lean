import Llfix.Lib.Watchdog
import Llfix.NewMessages

/-!
# What the timers of a session look at

`process_outgoing_test_request_if_necessary` is a look at the clock: a TestRequest is the question,
and the time of the last received message and that of the TestRequest are what it goes by. The other
steps of `process` leave both alone.

Results:
1. `outgoingTestRequestDue_eq`, `outgoingTestRequestExpired_eq`: the two tests, in whole numbers.
2. `Looks.after`, `Looks.next`: a look among other steps.
3. `LooksEachPass.late`, `LooksEachPass.early`: over a run, a silent peer is given up in time and
   not before.
-/

namespace Llfix

/-- What `process` sends goes out, and the schedule is open. -/
structure ProcessEnv.Undisturbed (env : ProcessEnv) : Prop where
  testRequest : env.testRequestSend.result = .ok
  testResponse : env.testResponseSend.result = .ok
  heartbeat : env.heartbeatSend.result = .ok
  schedule : env.scheduleValid = true

namespace FixSession

open Watchdog GuardedRun

/-- The time of the last received message, and that of a TestRequest without an answer. -/
def vigil (s : FixSession) : Vigil where
  heard := s.lastReceivedMessageTimestampNanoseconds.toNat
  asked :=
    if s.expectingResponseForOutgoingTestRequest then
      some s.outgoingTestRequestTimestampNanoseconds.toNat
    else none

/-- The two intervals of the TestRequest. -/
def limits (s : FixSession) : Limits where
  quiet := s.settings.outgoingTestRequestIntervalInNanoseconds.toNat
  patience := (s.settings.heartbeatIntervalInNanoseconds * 2).toNat

/-- The clock has not gone back since the last message and the last TestRequest. -/
def Clocked (s : FixSession) (now : Nat) : Prop :=
  s.vigil.heard ≤ now ∧ ∀ question ∈ s.vigil.asked, question ≤ now

variable {s s' s'' : FixSession} {now : UInt64}

theorem le_sub_iff {interval last : UInt64} (h : last.toNat ≤ now.toNat) :
    interval ≤ now - last ↔ last.toNat + interval.toNat ≤ now.toNat := by
  rw [UInt64.le_iff_toNat_le, UInt64.toNat_sub_of_le _ _ (UInt64.le_iff_toNat_le.mpr h),
    Nat.le_sub_iff_add_le h, Nat.add_comm]

theorem outgoingTestRequestDue_eq (h : s.vigil.heard ≤ now.toNat) :
    s.outgoingTestRequestDue now =
      decide (s.vigil.heard + s.limits.quiet ≤ now.toNat) :=
  decide_eq_decide.mpr (le_sub_iff h)

theorem outgoingTestRequestExpired_eq
    (h : s.outgoingTestRequestTimestampNanoseconds.toNat ≤ now.toNat) :
    s.outgoingTestRequestExpired now =
      decide (s.outgoingTestRequestTimestampNanoseconds.toNat + s.limits.patience ≤ now.toNat) :=
  decide_eq_decide.mpr (le_sub_iff h)

theorem vigil_of_core (h : s'.core = s.core) : s'.vigil = s.vigil :=
  show s'.core.vigil = s.core.vigil by rw [h]

/-- From `s` to `s'` nothing is heard and nothing asked, and a session that has ended stays so. -/
structure Unheard (s s' : FixSession) : Prop where
  vigil : s'.vigil = s.vigil
  settings : s'.settings = s.settings
  live : isStateLive s'.state = true → isStateLive s.state = true

theorem Unheard.refl (s : FixSession) : Unheard s s := ⟨rfl, rfl, id⟩

theorem Unheard.trans (h : Unheard s s') (h' : Unheard s' s'') : Unheard s s'' :=
  ⟨h'.vigil.trans h.vigil, h'.settings.trans h.settings, h.live ∘ h'.live⟩

theorem Unheard.of_core (h : s'.core = s.core)
    (hlive : isStateLive s'.state = true → isStateLive s.state = true) : Unheard s s' :=
  ⟨vigil_of_core h, settings_of_core h, hlive⟩

/-- A session that has ended is watched no more. -/
theorem Unheard.ended (hvigil : s'.vigil = s.vigil) (hsettings : s'.settings = s.settings)
    (h : isStateLive s'.state = false) : Unheard s s' :=
  ⟨hvigil, hsettings, fun hlive => by rw [h] at hlive; cases hlive⟩

theorem Unheard.limits (h : Unheard s s') : s'.limits = s.limits := by
  rw [FixSession.limits, FixSession.limits, h.settings]

/-- From `s` to `s'` the session takes one look at the clock: it ends when it gives its peer up. -/
structure Looks (now : Nat) (s s' : FixSession) : Prop where
  settings : s'.settings = s.settings
  givenUp : s.vigil.look s.limits now = none → isStateLive s'.state = false
  looked : ∀ w, s.vigil.look s.limits now = some w → isStateLive s'.state = true → s'.vigil = w

theorem Looks.after {now : Nat} (h : Unheard s s') (h' : Looks now s' s'') : Looks now s s'' where
  settings := h'.settings.trans h.settings
  givenUp hnone := h'.givenUp (by rw [h.vigil, h.limits]; exact hnone)
  looked w hsome hlive := h'.looked w (by rw [h.vigil, h.limits]; exact hsome) hlive

theorem Looks.next {now : Nat} (h : Looks now s s') (h' : Unheard s' s'') : Looks now s s'' where
  settings := h'.settings.trans h.settings
  givenUp hnone := by
    rw [← Bool.not_eq_true]
    intro hlive
    have hended := h.givenUp hnone
    rw [h'.live hlive] at hended
    cases hended
  looked w hsome hlive := h'.vigil.trans (h.looked w hsome (h'.live hlive))

/-- A session that ends is watched no more. -/
theorem Looks.ended {now : Nat} (hsettings : s'.settings = s.settings)
    (h : isStateLive s'.state = false) : Looks now s s' where
  settings := hsettings
  givenUp _ := h
  looked w _ hlive := by
    rw [h] at hlive
    cases hlive

/-- A session that has not asked, at a look. -/
theorem look_of_heard (hexpecting : s.expectingResponseForOutgoingTestRequest = false)
    (hclock : s.Clocked now.toNat) :
    s.vigil.look s.limits now.toNat =
      some (if s.outgoingTestRequestDue now then { s.vigil with asked := some now.toNat }
        else s.vigil) := by
  have hasked : s.vigil.asked = none := by
    rw [vigil, hexpecting]
    rfl
  rw [Vigil.look, hasked, outgoingTestRequestDue_eq hclock.1]
  simp only [decide_eq_true_eq]

/-- A session that waits for the answer to its TestRequest, at a look. -/
theorem look_of_asked (hexpecting : s.expectingResponseForOutgoingTestRequest = true)
    (hclock : s.Clocked now.toNat) :
    s.vigil.look s.limits now.toNat =
      if s.outgoingTestRequestExpired now then none else some s.vigil := by
  have hasked : s.vigil.asked = some s.outgoingTestRequestTimestampNanoseconds.toNat := by
    rw [vigil, hexpecting]
    rfl
  rw [Vigil.look, hasked, outgoingTestRequestExpired_eq (hclock.2 _ (Option.mem_def.mpr hasked))]
  simp only [decide_eq_true_eq]

/-- A look that finds nothing to do. -/
theorem Looks.idle {now : Nat} (h : s.vigil.look s.limits now = some s.vigil) : Looks now s s where
  settings := rfl
  givenUp hnone := by
    rw [h] at hnone
    cases hnone
  looked w hsome _ := by
    rw [h] at hsome
    exact Option.some.inj hsome

/-- A look that asks. -/
theorem Looks.asks (hexpecting : s.expectingResponseForOutgoingTestRequest = false)
    (hclock : s.Clocked now.toNat) (hdue : s.outgoingTestRequestDue now = true)
    (h : Unheard s s') : Looks now.toNat s (s'.testRequestSent now) := by
  have hlook := look_of_heard hexpecting hclock
  rw [if_pos hdue] at hlook
  refine ⟨h.settings, fun hnone => ?_, fun w hsome _ => ?_⟩
  · rw [hlook] at hnone
    cases hnone
  · rw [hlook] at hsome
    obtain rfl := Option.some.inj hsome
    exact congrArg (Vigil.mk · (some now.toNat)) (congrArg Vigil.heard h.vigil)

/-- The looks of a session that has not ended leave the clock where it is. -/
theorem Looks.clocked {now : Nat} (h : Looks now s s') (hlive : isStateLive s'.state = true)
    (hclocked : s.Clocked now) :
    ∃ w, s.vigil.look s.limits now = some w ∧ s'.vigil = w ∧ s'.limits = s.limits ∧
      s'.Clocked now := by
  have hlimits : s'.limits = s.limits := by
    rw [limits, limits, h.settings]
  cases hlook : s.vigil.look s.limits now with
  | none =>
    rw [h.givenUp hlook] at hlive
    cases hlive
  | some w =>
    have hvigil := h.looked w hlook hlive
    refine ⟨w, rfl, hvigil, hlimits, ?_⟩
    unfold Clocked
    rw [hvigil]
    rcases look_cases hlook with ⟨rfl, -, -⟩ | ⟨rfl, -, -⟩ | ⟨_, rfl, -, -⟩
    · exact hclocked
    · refine ⟨hclocked.1, fun question hquestion => ?_⟩
      obtain rfl := Option.mem_some.mp hquestion
      exact Nat.le_refl _
    · exact hclocked

/-- The session has heard of its peer and has not asked since, and at the time `start` it need not
ask yet. -/
structure Hears (s : FixSession) (start : Nat) : Prop where
  heard : s.vigil.heard ≤ start
  unasked : s.expectingResponseForOutgoingTestRequest = false
  notDue : start ≤ s.vigil.heard + s.limits.quiet

namespace Hears

variable {start : Nat} (h : s.Hears start)
include h

theorem asked : s.vigil.asked = none := by
  rw [vigil, h.unasked]
  rfl

theorem clocked : s.Clocked start :=
  ⟨h.heard, fun question hquestion => by rw [h.asked] at hquestion; cases hquestion⟩

theorem fair : s.vigil.Fair s.limits := fun question hquestion => by
  rw [h.asked] at hquestion
  cases hquestion

theorem inTime (d : Nat) : s.vigil.InTime s.limits d start := by
  rw [Vigil.InTime, h.asked]
  exact h.notDue

end Hears

/-- The first time at which both intervals are over. -/
def silenceEnds (s : FixSession) : Nat := s.vigil.heard + s.limits.quiet + s.limits.patience

/-! ## Runs -/

section Run

variable {σ ε : Type} {session : σ → FixSession} {step : σ → ε → σ} {time : ε → Option Nat}
  {Ok : ε → Prop} {I : σ → Prop} {x : σ} {es : List ε} {start : Nat}

/-- As long as the session is live, it takes one look at the clock in each step that has a time, and
in the others nothing is heard and nothing asked. -/
structure LooksEachPass (session : σ → FixSession) (step : σ → ε → σ) (time : ε → Option Nat)
    (I : σ → Prop) (Ok : ε → Prop) : Prop where
  keeps : ∀ x e, I x → Ok e → isStateLive (session x).state = true →
    isStateLive (session (step x e)).state = true → I (step x e)
  rests : ∀ x e, I x → Ok e → isStateLive (session x).state = true →
    isStateLive (session (step x e)).state = true → time e = none →
      Unheard (session x) (session (step x e))
  looks : ∀ x e, I x → Ok e → isStateLive (session x).state = true →
    isStateLive (session (step x e)).state = true → ∀ now, time e = some now →
      (session x).Clocked now → Looks now (session x) (session (step x e))

namespace LooksEachPass

variable (h : LooksEachPass session step time I Ok)
include h

theorem mono {Ok' : ε → Prop} (hok : ∀ e, Ok' e → Ok e) :
    LooksEachPass session step time I Ok' :=
  ⟨fun x e hx he => h.keeps x e hx (hok e he), fun x e hx he => h.rests x e hx (hok e he),
    fun x e hx he => h.looks x e hx (hok e he)⟩

/-- The vigil of a session that stays live is what the looks of the run make of it. -/
theorem looks_run (hx : I x) (hok : ∀ e ∈ es, Ok e) (hclocked : (session x).Clocked start)
    (hsorted : List.IsChain (· ≤ ·) (start :: es.filterMap time))
    (hlive : ∀ before, before <+: es →
      isStateLive (session (run step x before)).state = true) :
    (session x).vigil.looks (session x).limits (es.filterMap time) =
      some (session (run step x es)).vigil := by
  induction es generalizing x start with
  | nil => rfl
  | cons e es ih =>
    obtain ⟨he, hes⟩ := List.forall_mem_cons.mp hok
    have hnow : isStateLive (session x).state = true := hlive [] List.nil_prefix
    have hnext : isStateLive (session (step x e)).state = true :=
      hlive [e] (List.prefix_append [e] es)
    have hlater : ∀ before, before <+: es →
        isStateLive (session (run step (step x e) before)).state = true := fun before hbefore =>
      hlive (e :: before) (List.cons_prefix_cons.mpr ⟨rfl, hbefore⟩)
    have hstep := h.keeps x e hx he hnow hnext
    cases htime : time e with
    | none =>
      have hrests := h.rests x e hx he hnow hnext htime
      rw [List.filterMap_cons_none htime] at hsorted ⊢
      have hclocked' : (session (step x e)).Clocked start := by
        rw [Clocked, hrests.vigil]
        exact hclocked
      rw [← hrests.vigil, ← hrests.limits]
      exact ih hstep hes hclocked' hsorted hlater
    | some now =>
      rw [List.filterMap_cons_some htime] at hsorted ⊢
      obtain ⟨hle, hsorted'⟩ := List.isChain_cons_cons.mp hsorted
      have hclocked' : (session x).Clocked now :=
        ⟨Nat.le_trans hclocked.1 hle, fun q hq => Nat.le_trans (hclocked.2 q hq) hle⟩
      obtain ⟨w, hlook, hvigil, hlimits, hclocked''⟩ :=
        (h.looks x e hx he hnow hnext now htime hclocked').clocked hnext hclocked'
      rw [looks_cons, hlook, Option.bind_some, ← hvigil, ← hlimits]
      exact ih hstep hes hclocked'' hsorted' hlater

/-- With looks at most `d` apart, a session whose peer is silent has ended at some point of a run
that takes a look more than `d` behind both intervals. -/
theorem late (hx : I x) (hok : ∀ e ∈ es, Ok e) {d : Nat} (hhears : (session x).Hears start)
    (hpaced : Paced d start (es.filterMap time))
    (hlate : ∃ now ∈ es.filterMap time, (session x).silenceEnds + d < now) :
    ∃ before, before <+: es ∧ isStateLive (session (run step x before)).state = false := by
  by_contra hnever
  have hlive : ∀ before, before <+: es →
      isStateLive (session (run step x before)).state = true := by
    intro before hbefore
    rw [← Bool.not_eq_false]
    exact fun hended => hnever ⟨before, hbefore, hended⟩
  have hsorted : List.IsChain (· ≤ ·) (start :: es.filterMap time) :=
    List.IsChain.imp (fun _ _ h => h.1) hpaced
  obtain ⟨now, hmem, hnow⟩ := hlate
  have hlooks := h.looks_run hx hok hhears.clocked hsorted hlive
  exact absurd hnow (Nat.not_lt.mpr (looks_late (hhears.inTime d) hpaced hlooks now hmem))

/-- Where a session ends in no other way, it stays live until both intervals are over. -/
theorem early
    (hheld : ∀ x e, I x → Ok e → isStateLive (session x).state = true →
      (∀ now, time e = some now → (session x).Clocked now ∧
        (session x).vigil.look (session x).limits now ≠ none) →
          isStateLive (session (step x e)).state = true)
    (hx : I x) (hok : ∀ e ∈ es, Ok e) (hclocked : (session x).Clocked start)
    (hfair : (session x).vigil.Fair (session x).limits)
    (hsorted : List.IsChain (· ≤ ·) (start :: es.filterMap time))
    (hearly : ∀ now ∈ es.filterMap time, now < (session x).silenceEnds)
    (hlive : isStateLive (session x).state = true) :
    isStateLive (session (run step x es)).state = true := by
  induction es generalizing x start with
  | nil => exact hlive
  | cons e es ih =>
    obtain ⟨he, hes⟩ := List.forall_mem_cons.mp hok
    cases htime : time e with
    | none =>
      have hnext := hheld x e hx he hlive fun now hnow => by
        rw [htime] at hnow
        cases hnow
      have hrests := h.rests x e hx he hlive hnext htime
      rw [List.filterMap_cons_none htime] at hsorted hearly
      refine ih (h.keeps x e hx he hlive hnext) hes ?_ ?_ hsorted (fun now hmem => ?_) hnext
      · rw [Clocked, hrests.vigil]
        exact hclocked
      · rw [hrests.vigil, hrests.limits]
        exact hfair
      · rw [silenceEnds, hrests.vigil, hrests.limits]
        exact hearly now hmem
    | some now =>
      rw [List.filterMap_cons_some htime] at hsorted hearly
      obtain ⟨hle, hsorted'⟩ := List.isChain_cons_cons.mp hsorted
      obtain ⟨hnow, hlater⟩ := List.forall_mem_cons.mp hearly
      have hclocked' : (session x).Clocked now :=
        ⟨Nat.le_trans hclocked.1 hle, fun q hq => Nat.le_trans (hclocked.2 q hq) hle⟩
      have hlook : (session x).vigil.look (session x).limits now ≠ none := by
        intro hnone
        have hnone' : (session x).vigil.looks (session x).limits [now] = none := by
          rw [looks_cons, hnone, Option.bind_none]
        obtain ⟨t, ht, hlate⟩ := looks_early hfair hnone'
        obtain rfl := List.mem_singleton.mp ht
        exact absurd hlate (Nat.not_le.mpr hnow)
      have hnext := hheld x e hx he hlive fun t ht => by
        obtain rfl := Option.some.inj (htime.symm.trans ht)
        exact ⟨hclocked', hlook⟩
      obtain ⟨w, hsome, hvigil, hlimits, hclocked''⟩ :=
        (h.looks x e hx he hlive hnext now htime hclocked').clocked hnext hclocked'
      obtain ⟨hfair', hheard⟩ := look_fair hsome hfair
      refine ih (h.keeps x e hx he hlive hnext) hes hclocked'' ?_ hsorted' (fun t ht => ?_) hnext
      · rw [hvigil, hlimits]
        exact hfair'
      · rw [silenceEnds, hvigil, hlimits, hheard]
        exact hlater t ht

end LooksEachPass

end Run

end FixSession

end Llfix
