import Llfix.Client.Timers
import Llfix.LinkedSides
import Llfix.Server.OtherSessions
import Llfix.Server.Timers

/-!
# Silent peers

A peer is silent when nothing arrives from it, over a connection that need not notice. What the
application sends meanwhile, how the sends end, and what arrives for the other sessions of a server
makes no difference.

Results:
1. `FixServer.process_looks`: a `process` is one look at the clock for each session.
2. `FixServer.occur_looks`, `FixClient.occur_looks`: a run looks at the clock in each `process`.
3. `silentPeer_givenUp`: either engine gives a silent peer up in time, and not before.
-/

namespace Llfix

open FixSession GuardedRun Watchdog

/-! ## The server -/

namespace FixServer

variable {i p : Nat} {srv : FixServer} {env : Nat → ProcessEnv}

/-- The turns of some sessions. -/
def turns (srv : FixServer) (env : Nat → ProcessEnv) (js : List Nat) : FixServer :=
  js.foldl (fun srv j => srv.processTurn j (env j)) srv

theorem turns_unheard {js : List Nat} (hi : i ∉ js) (srv : FixServer) (env : Nat → ProcessEnv) :
    Unheard i p srv (srv.turns env js) := by
  unfold turns
  induction js generalizing srv with
  | nil => exact .refl srv
  | cons j js ih =>
    rw [List.mem_cons, not_or] at hi
    rw [List.foldl_cons]
    exact (processTurn_unheard (Ne.symm hi.1)).trans (ih hi.2 _)

theorem turns_spares {js : List Nat} (hi : i ∉ js) (srv : FixServer) (env : Nat → ProcessEnv) :
    Spares i p srv (srv.turns env js) := by
  unfold turns
  induction js generalizing srv with
  | nil => exact .refl srv
  | cons j js ih =>
    rw [List.mem_cons, not_or] at hi
    rw [List.foldl_cons]
    exact (processTurn_spares (Ne.symm hi.1) srv _).trans (ih hi.2 _)

/-- A `process` gives session `i` one turn, among those of the others. -/
theorem process_split (hrunning : srv.isStopping = false) (hin : i < srv.sessionCount)
    (env : Nat → ProcessEnv) :
    ∃ before behind : List Nat, i ∉ before ∧ i ∉ behind ∧
      srv.process env = ((srv.turns env before).processTurn i (env i)).turns env behind := by
  obtain ⟨before, behind, hsplit⟩ := List.append_of_mem (List.mem_range.mpr hin)
  have hnodup : (List.range srv.sessionCount).Nodup := List.nodup_range
  rw [hsplit, List.nodup_append] at hnodup
  obtain ⟨-, hcons, hdisjoint⟩ := hnodup
  refine ⟨before, behind, fun hi => hdisjoint i hi i List.mem_cons_self rfl,
    (List.nodup_cons.mp hcons).1, ?_⟩
  unfold process turns
  rw [if_pos hrunning, hsplit, List.foldl_append, List.foldl_cons]

/-- Session `i` is served by connection `p` while it is live, and `process` gives it its turn. -/
structure Attends (i p : Nat) (srv : FixServer) : Prop where
  serves : srv.Serves i p
  running : srv.isStopping = false
  session : i < srv.sessionCount

/-- What spares a live session. -/
theorem Spares.live (h : Spares i p srv srv') (hserves : srv.Serves i p)
    (hlive : isStateLive (srv.sessions i).state = true) :
    srv'.Serves i p ∧ srv'.sessions i = srv.sessions i := by
  obtain ⟨hp, hserved⟩ := hserves hlive
  obtain ⟨hholding, hp', hsame⟩ := h (fun _ => hserved) hp
  exact ⟨fun _ => ⟨hp', hholding hp'⟩, hsame⟩

/-- A `process` is one look of the session at the clock, whatever the other sessions do in it. -/
theorem process_looks (h : srv.Attends i p) (hidle : (srv.sessions i).Idle)
    (hlive : isStateLive (srv.sessions i).state = true)
    (hclock : (srv.sessions i).Clocked (env i).testRequestTimestamp.toNat) :
    Looks (env i).testRequestTimestamp.toNat (srv.sessions i) ((srv.process env).sessions i) := by
  obtain ⟨before, behind, hbefore, hbehind, hprocess⟩ := process_split h.running h.session env
  obtain ⟨hserves, hsame⟩ := (turns_spares hbefore srv env).live h.serves hlive
  rw [← hsame] at hidle hlive hclock ⊢
  have hlooks := processTurn_looks hserves hidle hlive hclock
  have hlast : Unheard i p _ (((srv.turns env before).processTurn i (env i)).turns env behind) :=
    turns_unheard hbehind _ env
  rw [hprocess]
  exact hlooks.next hlast.session

theorem process_serves (h : srv.Attends i p) (hidle : (srv.sessions i).Idle) :
    (srv.process env).Serves i p := by
  obtain ⟨before, behind, hbefore, hbehind, hprocess⟩ := process_split h.running h.session env
  have hfirst : Unheard i p srv (srv.turns env before) := turns_unheard hbefore srv env
  have hidle' : ((srv.turns env before).sessions i).Idle :=
    (turns_moves (p := p) srv hidle before env).session.keeps.idle hidle
  have hserves : ((srv.turns env before).processTurn i (env i)).Serves i p :=
    processTurn_serves (hfirst.serves h.serves) hidle'
  rw [hprocess]
  exact (turns_unheard hbehind _ env).serves hserves

/-- A `process` leaves the state of a session as it is, when what the session sends goes out and
nothing but its vigil could end it. -/
theorem process_state (h : srv.Attends i p) (hcalm : (srv.sessions i).Calm)
    (hundisturbed : (env i).Undisturbed) (hlive : isStateLive (srv.sessions i).state = true)
    (hclock : (srv.sessions i).Clocked (env i).testRequestTimestamp.toNat)
    (hlook : (srv.sessions i).vigil.look (srv.sessions i).limits
      (env i).testRequestTimestamp.toNat ≠ none) :
    ((srv.process env).sessions i).state = (srv.sessions i).state := by
  obtain ⟨before, behind, hbefore, hbehind, hprocess⟩ := process_split h.running h.session env
  obtain ⟨hserves, hsame⟩ := (turns_spares hbefore srv env).live h.serves hlive
  rw [← hsame] at hcalm hlive hclock hlook ⊢
  have hstate := processTurn_state hcalm hundisturbed hlive hclock hlook
  have hserves' : ((srv.turns env before).processTurn i (env i)).Serves i p :=
    processTurn_serves hserves hcalm.toIdle
  rw [← hstate] at hlive
  obtain ⟨-, hsame'⟩ := (turns_spares hbehind _ env).live hserves' hlive
  rw [hprocess, hsame', hstate]

/-! ### The number of sessions -/

theorem Effects.sessionCount (h : Effects srv srv') : srv'.sessionCount = srv.sessionCount := by
  induction h with
  | refl => rfl
  | modify i f _ ih => exact ih
  | send i p _ _ ih => exact ih
  | @disconnect srv' p _ ih =>
    cases hp : srv'.connectors.getSession p with
    | none => rw [onClientDisconnected_unmapped _ p hp]; exact ih
    | some i => rw [onClientDisconnected_mapped _ p hp]; exact ih
  | closeInvalid _ ih => exact ih
  | setRole b _ ih => exact ih

theorem rxStep_sessionCount (q : Nat) (l : RxLoop) (e : RxMessage × ServerRxEnv) :
    (rxStep q l e).server.sessionCount = l.server.sessionCount := by
  cases hreturned : l.returned with
  | true => rw [rxStep, if_pos hreturned]
  | false =>
    rcases htarget : l.target q e with ⟨srv, _ | j⟩
    · obtain ⟨-, -, rfl⟩ := target_none htarget
      rw [rxStep_none hreturned htarget]
      exact (closeConnection_effects l.server (some q)).sessionCount
    · rw [rxStep_some hreturned htarget, (handleMessage_effects srv j q e.1 e.2).sessionCount]
      rcases target_some htarget with ⟨-, rfl⟩ | ⟨-, -, rfl⟩
      · rfl
      · rfl

theorem step_sessionCount (srv : FixServer) (e : Event) :
    (srv.step e).sessionCount = srv.sessionCount := by
  cases e with
  | connect q => rfl
  | receive q messages =>
    have hend := run_invariant (I := fun l : RxLoop => l.server.sessionCount = srv.sessionCount)
      (fun l e hl => (rxStep_sessionCount q l e).trans hl) messages
      (show ({ server := srv, session := srv.connectors.getSession q } :
        RxLoop).server.sessionCount = srv.sessionCount from rfl)
    unfold step onDataReady
    dsimp only
    split
    · split
      · exact hend
      · exact (closeConnection_effects _ (some q)).sessionCount.trans hend
    · rfl
  | disconnect q =>
    rw [step]
    split
    · exact (closeConnection_effects srv (some q)).sessionCount
    · rfl
  | process env => exact (process_effects srv env).sessionCount
  | pushAdminCommand j command => rfl

/-! ### Whatever happens -/

/-- What happens at a server: the application sends on a session, or the reactor does something. -/
inductive Occurrence
  | send (j : Nat) (m : OutgoingFixMessage) (o : SendOutcome)
  | event (e : Event)

def occur (srv : FixServer) : Occurrence → FixServer
  | .send j m o => srv.sendOutgoingMessage j m o
  | .event e => srv.step e

/-- When session `i` looks at the clock. -/
def Occurrence.time (i : Nat) : Occurrence → Option Nat
  | .event (.process env) => some (env i).testRequestTimestamp.toNat
  | _ => none

/-- Connection `p` of session `i` brings nothing, and there is no command for the session. -/
def Occurrence.Silent (i p : Nat) : Occurrence → Prop
  | .event (.receive q _) => q ≠ p
  | .event (.pushAdminCommand j _) => j ≠ i
  | _ => True

/-- The connection stays, what goes out on it is sent, and the schedule is open. -/
def Occurrence.Undisturbed (i p : Nat) : Occurrence → Prop
  | .send j _ o => j = i → o.result = .ok
  | .event (.disconnect q) => q ≠ p
  | .event (.process env) => (env i).Undisturbed
  | _ => True

section Occur

variable {x : Occurrence}

theorem occur_attends (h : srv.Attends i p) (hserves : (srv.occur x).Serves i p) :
    (srv.occur x).Attends i p := by
  refine ⟨hserves, ?_, ?_⟩
  · cases x with
    | send j m o => exact (sendOutgoingMessage_effects srv j m o).isStopping.trans h.running
    | event e => exact (act_isStopping srv (.event e)).trans h.running
  · cases x with
    | send j m o =>
      rw [occur, (sendOutgoingMessage_effects srv j m o).sessionCount]
      exact h.session
    | event e =>
      rw [occur, step_sessionCount]
      exact h.session

/-- What is sent on any session. -/
theorem send_keeps (srv : FixServer) (j : Nat) (m : OutgoingFixMessage) (o : SendOutcome) :
    Keeps (srv.sessions i) ((srv.sendOutgoingMessage j m o).sessions i) :=
  have hsteps := sendOutgoingMessage_steps srv j m o
  .of_core (hsteps.core i)
    (hsteps.relates Passive Passive.refl (fun _ _ _ => Passive.trans)
      (fun s => .setState s SessionState.noConfusion) (fun _ _ => SendUpdate.passive) i).waits

/-- What happens between the looks: nothing is heard, and the session keeps what it has. -/
theorem occur_rests (hserves : srv.Serves i p) (hsilent : x.Silent i p)
    (hlive : isStateLive (srv.sessions i).state = true) (htime : x.time i = none) :
    Unheard i p srv (srv.occur x) ∧ Keeps (srv.sessions i) ((srv.occur x).sessions i) := by
  have hspared : ∀ srv', Spares i p srv srv' →
      Unheard i p srv srv' ∧ Keeps (srv.sessions i) (srv'.sessions i) := by
    intro srv' hspares
    obtain ⟨hserves', hsame⟩ := hspares.live hserves hlive
    rw [hsame]
    exact ⟨⟨hsame ▸ .refl _, fun _ => hserves'⟩, .refl _⟩
  cases x with
  | send j m o => exact ⟨.sendBytes srv j _ o, send_keeps srv j m o⟩
  | event e =>
    rw [occur]
    cases e with
    | connect q =>
      refine hspared _ fun h hp => ⟨fun _ => (h hp).of_connectors rfl (h hp).known, ?_, rfl⟩
      show Function.update srv.connected q true p = true
      rw [Function.update_apply]
      split
      · rfl
      · exact hp
    | receive q messages =>
      rw [step]
      split
      · exact hspared _ (onDataReady_spares hsilent messages hlive)
      · exact hspared _ (.refl srv)
    | disconnect q =>
      rw [step]
      split
      · exact ⟨.disconnect srv q, (Moves.disconnect (p := p) srv q).session.keeps⟩
      · exact hspared _ (.refl srv)
    | process env => cases htime
    | pushAdminCommand j command =>
      exact hspared _ (.modify hsilent srv (·.pushAdminCommand command))

/-- Whatever happens in silence, the session keeps what it has, and its connection. -/
theorem occur_keeps (h : srv.Attends i p) (hidle : (srv.sessions i).Idle)
    (hsilent : x.Silent i p)
    (hlive : isStateLive (srv.sessions i).state = true) :
    (srv.occur x).Attends i p ∧ Keeps (srv.sessions i) ((srv.occur x).sessions i) := by
  cases htime : x.time i with
  | none =>
    obtain ⟨hunheard, hkeeps⟩ := occur_rests h.serves hsilent hlive htime
    exact ⟨occur_attends h (hunheard.serves h.serves), hkeeps⟩
  | some now =>
    cases x with
    | send j m o => cases htime
    | event e =>
      cases e with
      | process env =>
        exact ⟨occur_attends h (process_serves h hidle),
          (process_moves (p := p) srv hidle h.running env).session.keeps⟩
      | connect q => cases htime
      | receive q messages => cases htime
      | disconnect q => cases htime
      | pushAdminCommand j command => cases htime

/-- A session whose peer is silent looks at the clock once in each `process`. -/
theorem occur_looks (i p : Nat) {P : FixSession → Prop} (hidle : ∀ s, P s → s.Idle)
    (hkept : ∀ s s', Keeps s s' → P s → P s') :
    LooksEachPass (·.sessions i) occur (Occurrence.time i)
      (fun srv => srv.Attends i p ∧ P (srv.sessions i)) (Occurrence.Silent i p) where
  keeps srv x h hsilent hlive _ := by
    obtain ⟨hattends, hkeeps⟩ := occur_keeps h.1 (hidle _ h.2) hsilent hlive
    exact ⟨hattends, hkept _ _ hkeeps h.2⟩
  rests srv x h hsilent hlive _ htime := (occur_rests h.1.serves hsilent hlive htime).1.session
  looks srv x h _ hlive _ now htime hclock := by
    cases x with
    | send j m o => cases htime
    | event e =>
      cases e with
      | process env =>
        obtain rfl := Option.some.inj htime
        exact process_looks h.1 (hidle _ h.2) hlive hclock
      | connect q => cases htime
      | receive q messages => cases htime
      | disconnect q => cases htime
      | pushAdminCommand j command => cases htime

/-- Undisturbed, a session ends only at a look that gives its peer up. -/
theorem occur_state (h : srv.Attends i p) (hcalm : (srv.sessions i).Calm)
    (hsilent : x.Silent i p) (hundisturbed : x.Undisturbed i p)
    (hlive : isStateLive (srv.sessions i).state = true)
    (hlook : ∀ now, x.time i = some now → (srv.sessions i).Clocked now ∧
      (srv.sessions i).vigil.look (srv.sessions i).limits now ≠ none) :
    ((srv.occur x).sessions i).state = (srv.sessions i).state := by
  have hspared : ∀ srv', Spares i p srv srv' → (srv'.sessions i).state = (srv.sessions i).state :=
    fun srv' hspares => by rw [(hspares.live h.serves hlive).2]
  cases x with
  | send j m o =>
    by_cases hj : j = i
    · exact sendBytes_state srv j _ (hundisturbed hj)
    · exact hspared _ (sendBytes_spares hj srv _ o)
  | event e =>
    rw [occur]
    cases e with
    | connect q => rfl
    | receive q messages =>
      rw [step]
      split
      · exact hspared _ (onDataReady_spares hsilent messages hlive)
      · rfl
    | disconnect q =>
      rw [step]
      split
      · exact hspared _ (.disconnect hundisturbed srv)
      · rfl
    | process env =>
      obtain ⟨hclock, hheld⟩ := hlook _ rfl
      exact process_state h hcalm hundisturbed hlive hclock hheld
    | pushAdminCommand j command =>
      exact hspared _ (.modify hsilent srv (·.pushAdminCommand command))

end Occur

end FixServer

/-! ## The client -/

namespace FixClient

/-- What happens at a client: the application sends, or the engine does something. -/
inductive Occurrence
  | send (m : OutgoingFixMessage) (o : SendOutcome)
  | event (e : Event)

def occur (c : FixClient) : Occurrence → FixClient
  | .send m o => c.sendOutgoingMessage m o
  | .event e => c.step e

/-- When the client looks at the clock. -/
def Occurrence.time : Occurrence → Option Nat
  | .event (.process env) => some env.testRequestTimestamp.toNat
  | _ => none

/-- The connection brings nothing, and there is neither a new one nor a command. -/
def Occurrence.Silent : Occurrence → Prop
  | .send _ _ => True
  | .event (.process env) => env.Silent
  | .event _ => False

/-- The connection stays, what goes out on it is sent, and the schedule is open. -/
def Occurrence.Undisturbed : Occurrence → Prop
  | .send _ o => o.result = .ok
  | .event (.process env) => env.Undisturbed ∧ env.read ≠ .lost
  | .event _ => True

section Occur

variable {c : FixClient} {x : Occurrence}

theorem occur_keeps (hidle : c.session.Idle) (hsilent : x.Silent) :
    Keeps c.session (c.occur x).session := by
  cases x with
  | send m o => exact .of_core (c.sendOutgoingMessage_core m o) (c.sendBytes_passive _ o).waits
  | event e =>
    cases e with
    | process env => exact process_keeps hidle hsilent
    | connect env => cases hsilent
    | shutdown graceful env => cases hsilent
    | pushAdminCommand command => cases hsilent

/-- A client whose peer is silent looks at the clock once in each `process`. -/
theorem occur_looks {P : FixSession → Prop} (hidle : ∀ s, P s → s.Idle)
    (hkept : ∀ s s', Keeps s s' → P s → P s') :
    LooksEachPass (·.session) occur Occurrence.time (P ·.session) Occurrence.Silent where
  keeps c x h hsilent _ _ := hkept _ _ (occur_keeps (hidle _ h) hsilent) h
  rests c x _ hsilent _ _ htime := by
    cases x with
    | send m o => exact c.sendBytes_unheard _ o
    | event e =>
      cases e with
      | process env => cases htime
      | connect env => cases hsilent
      | shutdown graceful env => cases hsilent
      | pushAdminCommand command => cases hsilent
  looks c x h hsilent hlive _ now htime hclock := by
    cases x with
    | send m o => cases htime
    | event e =>
      cases e with
      | process env =>
        obtain rfl := Option.some.inj htime
        exact process_looks (hidle _ h) hsilent hlive hclock
      | connect env => cases htime
      | shutdown graceful env => cases htime
      | pushAdminCommand command => cases htime

/-- Undisturbed, the session ends only at a look that gives the peer up. -/
theorem occur_state (hcalm : c.session.Calm) (hsilent : x.Silent) (hundisturbed : x.Undisturbed)
    (hlive : isStateLive c.session.state = true)
    (hlook : ∀ now, x.time = some now → c.session.Clocked now ∧
      c.session.vigil.look c.session.limits now ≠ none) :
    (c.occur x).session.state = c.session.state := by
  cases x with
  | send m o => exact c.sendBytes_state _ hundisturbed
  | event e =>
    cases e with
    | process env =>
      obtain ⟨hclock, hheld⟩ := hlook _ rfl
      exact process_state hcalm hsilent hundisturbed.1 hundisturbed.2 hlive hclock hheld
    | connect env => cases hsilent
    | shutdown graceful env => cases hsilent
    | pushAdminCommand command => cases hsilent

end Occur

end FixClient

/-! ## In time -/

/-- In a run in which the peer is silent the session has ended when it looks at the clock more than
`d` behind both intervals, and undisturbed it does not end before they are over. -/
structure GivesUpInTime {σ ε : Type} (session : σ → FixSession) (step : σ → ε → σ)
    (time : ε → Option Nat) (Undisturbed : ε → Prop) (d : Nat) (x : σ) (es : List ε) : Prop where
  late : (∃ now ∈ es.filterMap time, (session x).silenceEnds + d < now) →
    ∃ before, before <+: es ∧ isStateLive (session (run step x before)).state = false
  early : isStateLive (session x).state = true →
    (session x).state ≠ .inRetransmissionInitiatedBySelf → (∀ e ∈ es, Undisturbed e) →
      (∀ now ∈ es.filterMap time, now < (session x).silenceEnds) →
        isStateLive (session (run step x es)).state = true

theorem FixClient.givesUpInTime {c : FixClient} {xs : List FixClient.Occurrence} {d start : Nat}
    (hidle : c.session.Idle) (hhears : c.session.Hears start) (hsilent : ∀ x ∈ xs, x.Silent)
    (hpaced : Paced d start (xs.filterMap FixClient.Occurrence.time)) :
    GivesUpInTime (·.session) FixClient.occur FixClient.Occurrence.time
      FixClient.Occurrence.Undisturbed d c xs where
  late := (FixClient.occur_looks (fun _ => id) fun _ _ => Keeps.idle).late hidle hsilent hhears
    hpaced
  early hlive hwaitsNot hundisturbed hearly := by
    have hlooks : LooksEachPass (·.session) FixClient.occur FixClient.Occurrence.time
        (·.session.Calm) (fun x => x.Silent ∧ x.Undisturbed) :=
      (FixClient.occur_looks (fun _ => Calm.toIdle) fun _ _ => Keeps.calm).mono fun _ h => h.1
    have hsorted : List.IsChain (· ≤ ·) (start :: xs.filterMap FixClient.Occurrence.time) :=
      List.IsChain.imp (fun _ _ h => h.1) hpaced
    refine hlooks.early (fun c x hcalm hx hlive hlook => ?_) ⟨hidle, hwaitsNot⟩
      (fun x hx => ⟨hsilent x hx, hundisturbed x hx⟩) hhears.clocked hhears.fair hsorted hearly
      hlive
    rw [FixClient.occur_state hcalm hx.1 hx.2 hlive hlook]
    exact hlive

theorem FixServer.givesUpInTime {i p : Nat} {srv : FixServer} {xs : List FixServer.Occurrence}
    {d start : Nat} (hattends : srv.Attends i p) (hidle : (srv.sessions i).Idle)
    (hhears : (srv.sessions i).Hears start) (hsilent : ∀ x ∈ xs, x.Silent i p)
    (hpaced : Paced d start (xs.filterMap (FixServer.Occurrence.time i))) :
    GivesUpInTime (·.sessions i) FixServer.occur (FixServer.Occurrence.time i)
      (FixServer.Occurrence.Undisturbed i p) d srv xs where
  late := (FixServer.occur_looks i p (fun _ => id) fun _ _ => Keeps.idle).late ⟨hattends, hidle⟩
    hsilent hhears hpaced
  early hlive hwaitsNot hundisturbed hearly := by
    have hlooks : LooksEachPass (·.sessions i) FixServer.occur (FixServer.Occurrence.time i)
        (fun srv => srv.Attends i p ∧ (srv.sessions i).Calm)
        (fun x => x.Silent i p ∧ x.Undisturbed i p) :=
      (FixServer.occur_looks i p (fun _ => Calm.toIdle) fun _ _ => Keeps.calm).mono fun _ h => h.1
    have hsorted : List.IsChain (· ≤ ·) (start :: xs.filterMap (FixServer.Occurrence.time i)) :=
      List.IsChain.imp (fun _ _ h => h.1) hpaced
    refine hlooks.early (fun srv x h hx hlive hlook => ?_) ⟨hattends, hidle, hwaitsNot⟩
      (fun x hx => ⟨hsilent x hx, hundisturbed x hx⟩) hhears.clocked hhears.fair hsorted hearly
      hlive
    rw [FixServer.occur_state h.1 h.2 hx.1 hx.2 hlive hlook]
    exact hlive

/-- Either engine gives a silent peer up in time and not before: the client, and the server in each
of its sessions, whatever arrives for the others. -/
theorem silentPeer_givenUp {c : FixClient} {xs : List FixClient.Occurrence} {srv : FixServer}
    {ys : List FixServer.Occurrence} {i p d start : Nat}
    (hclient : c.session.Idle ∧ c.session.Hears start) (hxs : ∀ x ∈ xs, x.Silent)
    (hpacedXs : Paced d start (xs.filterMap FixClient.Occurrence.time))
    (hserver : srv.Attends i p ∧ (srv.sessions i).Idle ∧ (srv.sessions i).Hears start)
    (hys : ∀ y ∈ ys, y.Silent i p)
    (hpacedYs : Paced d start (ys.filterMap (FixServer.Occurrence.time i))) :
    GivesUpInTime (·.session) FixClient.occur FixClient.Occurrence.time
        FixClient.Occurrence.Undisturbed d c xs ∧
      GivesUpInTime (·.sessions i) FixServer.occur (FixServer.Occurrence.time i)
        (FixServer.Occurrence.Undisturbed i p) d srv ys :=
  ⟨FixClient.givesUpInTime hclient.1 hclient.2 hxs hpacedXs,
    FixServer.givesUpInTime hserver.1 hserver.2.1 hserver.2.2 hys hpacedYs⟩

/-- A session that asks behind 10 nanoseconds and waits for 20. -/
def exampleWatched : FixSession where
  state := .loggedOn
  settings :=
    { exampleSettings with
      heartbeatIntervalInNanoseconds := 10
      outgoingTestRequestIntervalInNanoseconds := 10 }

/-- A `process` every 10 nanoseconds. -/
def examplePasses : List ProcessEnv :=
  [10, 20, 30, 40, 50].map fun n => { testRequestTimestamp := n }

def exampleClientPasses : List FixClient.Occurrence :=
  examplePasses.map fun env => .event (.process { env with })

def exampleServerPasses : List FixServer.Occurrence :=
  .event (.connect 1) :: examplePasses.map fun env => .event (.process fun _ => env)

theorem silentPeer_givenUp_example :
    (∃ before, before <+: exampleClientPasses ∧
        isStateLive (run FixClient.occur { session := exampleWatched, socketOpen := true }
          before).session.state = false) ∧
      ∃ before, before <+: exampleServerPasses ∧
        isStateLive ((run FixServer.occur
          { Pair.exampleAgreed.server with sessions := fun _ => exampleWatched }
            before).sessions 0).state = false := by
  have hidle : exampleWatched.Idle := ⟨rfl, rfl, rfl⟩
  have hhears : exampleWatched.Hears 0 := ⟨Nat.le_refl 0, rfl, Nat.zero_le _⟩
  have hattends : FixServer.Attends 0 0
      { Pair.exampleAgreed.server with sessions := fun _ => exampleWatched } :=
    ⟨fun _ => ⟨rfl, Pair.exampleAgreed_servedBy.of_connectors rfl SessionState.noConfusion⟩, rfl,
      Nat.zero_lt_one⟩
  have hpaced : Paced 10 0 [10, 20, 30, 40, 50] := by
    unfold Paced
    decide
  have hxs : ∀ x ∈ exampleClientPasses, x.Silent := by
    intro x hx
    obtain ⟨env, -, rfl⟩ := List.mem_map.mp hx
    exact ⟨trivial, fun _ => rfl⟩
  have hys : ∀ y ∈ exampleServerPasses, y.Silent 0 0 := by
    intro y hy
    rcases List.mem_cons.mp hy with rfl | hy
    · trivial
    · obtain ⟨env, -, rfl⟩ := List.mem_map.mp hy
      trivial
  obtain ⟨hclient, hserver⟩ := silentPeer_givenUp
    (c := { session := exampleWatched, socketOpen := true })
    ⟨hidle, hhears⟩ hxs hpaced ⟨hattends, hidle, hhears⟩ hys hpaced
  have hlate : ∃ now ∈ [10, 20, 30, 40, 50], exampleWatched.silenceEnds + 10 < now :=
    ⟨50, by decide, by decide⟩
  exact ⟨hclient.late hlate, hserver.late hlate⟩

end Llfix
