import Llfix.ManagementConnections
import Llfix.Server.SlotIsolation

/-!
# Connection isolation on the reactor

Both servers close a connection inside the handler of what was received on it, and both go on with
the buffer of the slot: the management server in any case, the FIX server unless the session is
`DISCONNECTED`. `receive_done` closes such a slot once more, so that a new connection never finds
anything in it; in between the old one reads from the free slot, retains bytes in it or sends on it.
-/

namespace Llfix

open GuardedRun

/-- A server that has no connection yet. -/
def newServer (sessions : Nat → FixSession) (sessionCount : Nat)
    (isHaPrimary refreshResendCacheDuringPromotion : Bool) : FixServer :=
  { sessions, sessionCount, isHaPrimary, refreshResendCacheDuringPromotion }

/-- Along every run of either server the slots are isolated exactly when every answer that loses
its connection (to a Logon or a Logout, to any command) is the last thing in its buffer. -/
theorem connectionIsolation_iff (specs : RepeatingGroupSpecs) (rxBufferCapacity : Nat)
    (sessions : Nat → FixSession) (sessionCount : Nat)
    (isHaPrimary refreshResendCacheDuringPromotion : Bool)
    (events : List FixServer.ReactorEvent) (managementRxBufferCapacity : Nat)
    (managementEvents : List ManagementServer.ReactorEvent) :
    (Isolated (run (FixServer.reactorStep specs rxBufferCapacity)
        (newServer sessions sessionCount isHaPrimary refreshResendCacheDuringPromotion)
        events).slotOperations ↔
      Guarded (FixServer.reactorStep specs rxBufferCapacity)
        (FixServer.EventKeepsIsolation specs rxBufferCapacity)
        (newServer sessions sessionCount isHaPrimary refreshResendCacheDuringPromotion)
        events) ∧
    (Isolated (run (ManagementServer.step managementRxBufferCapacity) [] managementEvents) ↔
      Guarded (ManagementServer.step managementRxBufferCapacity)
        (ManagementServer.EventKeepsIsolation managementRxBufferCapacity) [] managementEvents) := by
  have htables : (newServer sessions sessionCount isHaPrimary
      refreshResendCacheDuringPromotion).TablesInOrder :=
    ⟨fun _ _ => ⟨nofun, nofun⟩, fun _ _ => nofun, fun _ => rfl⟩
  exact ⟨FixServer.run_reactorStep_isolated_iff htables inOrder_nil events,
    ManagementServer.run_step_isolated_iff inOrder_nil managementEvents⟩

/-- A Logon of the peer, and then a Logout with a Heartbeat behind it. -/
def logoutAndHeartbeat : List FixServer.ReactorEvent :=
  [.connect 0,
    .readable 0 (peerMessage exampleSettings msgTypeLogon 1
      [(tagEncryptMethod, text "0"), (tagHeartBtInt, text "30")]).buffer fun _ => {},
    .readable 0 ((peerMessage exampleSettings msgTypeLogout 2 []).buffer ++
      (peerMessage exampleSettings msgTypeHeartbeat 3 []).buffer)
      fun _ => { send := { result := .connectionLost } }]

/-- A read of two commands; the connection is lost with every response. -/
def twoCommands : List ManagementServer.ReactorEvent :=
  [.connect 0,
    .readable 0 (text "a|b|") fun _ => { response := text "x", send := .connectionLost }]

/-- The answer to the Logout closes the slot, and the Heartbeat is read from it; so is the second
command behind the response to the first one. -/
theorem connectionIsolation_fails :
    ¬ Isolated (run (FixServer.reactorStep {} 4096)
      (newServer (fun _ => { state := .disconnected, settings := exampleSettings }) 1 true false)
      logoutAndHeartbeat).slotOperations ∧
    ¬ Isolated (run (ManagementServer.step 4096) [] twoCommands) := by
  decide +kernel

end Llfix
