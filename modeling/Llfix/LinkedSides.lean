import Llfix.Channels

/-!
# Two sides that are linked

A client and a session of a server whose numbers agree: what is on its way to a side takes it to the
last number that its peer has used, by new messages alone or, with `repairs`, by the answer to a
ResendRequest as well. The applications send as they like, both sides process and read in any
order, and no command sets a number.

Results:
1. `Tracks.send`: a channel grows at one end and is read at the other.
2. `step_linked`: an event keeps the two sides linked, and hands on what it reads.
3. `nothingLost`: over every interleaving no gap is noticed, and the messages of each side reach the
   application of the other exactly once and in order.
-/

namespace Llfix

open FixSession GuardedRun

/-! ## Channels -/

theorem encodedMessage_seqNum (settings : FixSessionSettings) (encoder : EncoderSettings)
    (sendingTime : Bytes) (incomingSeqNo : UInt32) (m : OutgoingFixMessage) (n : UInt32) :
    (encodedMessage settings encoder sendingTime incomingSeqNo m n).seqNum = n := by
  have hvalue : (encodedMessage settings encoder sendingTime incomingSeqNo m n).message.getTagValue
      tagMsgSeqNum = unsignedIntToChars n := rfl
  rw [RxMessage.seqNum, IncomingFixMessage.getTagValueAsUInt32, hvalue,
    charsToUnsignedInt_unsignedIntToChars]

/-- New messages arrive with consecutive numbers. -/
theorem NewMessages.consecutive {n : UInt32} {xs : List (Transmission × UInt32)}
    (h : NewMessages n xs) {arrive : Nat → Transmission × UInt32 → RxMessage}
    (harrive : ∀ k m number incomingSeqNo,
      (arrive k (.original m number, incomingSeqNo)).seqNum = number ∧
        (arrive k (.original m number, incomingSeqNo)).msgType = m.msgType) :
    Consecutive n (xs.mapIdx arrive) := by
  induction xs generalizing n arrive with
  | nil => trivial
  | cons x xs ih =>
    obtain ⟨t, incomingSeqNo⟩ := x
    obtain ⟨⟨m, rfl, hm⟩, hrest⟩ := h
    obtain ⟨hseq, htype⟩ := harrive 0 m (n + 1) incomingSeqNo
    rw [List.mapIdx_cons]
    exact ⟨⟨hseq, htype ▸ hm⟩, ih hrest fun k => harrive (k + 1)⟩

/-- New messages arrive with the numbers behind the last one used. -/
theorem FixSession.Exchanges.consecutive {taken : List RxMessage} {s s' : FixSession}
    (h : Exchanges taken s s') (wire : WireEnv) (encoder : EncoderSettings) :
    Consecutive s.sequenceStore.outgoingSeqNo (wire.sent encoder s s') ∧
      s'.sequenceStore.outgoingSeqNo =
        s.sequenceStore.outgoingSeqNo + UInt32.ofNat (wire.sent encoder s s').length := by
  obtain ⟨os, htrace, hnew, hout, -⟩ := h
  rw [WireEnv.sent, since_of_append htrace]
  refine ⟨hnew.consecutive fun k m number incomingSeqNo =>
    ⟨encodedMessage_seqNum _ _ _ _ m number, rfl⟩, ?_⟩
  rw [hout, List.length_mapIdx]

theorem FixSession.Tracks.send {repairs : Bool} {s s' r : FixSession}
    {channel taken : List RxMessage} (h : Tracks repairs s.sequenceStore.outgoingSeqNo r channel)
    (hexchanges : Exchanges taken s s') (wire : WireEnv) (encoder : EncoderSettings) :
    Tracks repairs s'.sequenceStore.outgoingSeqNo r (channel ++ wire.sent encoder s s') := by
  obtain ⟨hconsecutive, hout⟩ := hexchanges.consecutive wire encoder
  rw [hout]
  exact h.append hconsecutive

/-- Without an answer on its way, what is read are consecutive numbers, and the session does not
wait. -/
theorem FixSession.tracks_false_iff {final : UInt32} {s : FixSession} {channel : List RxMessage} :
    Tracks false final s channel ↔
      s.needsToSendResendRequest = false ∧ s.state ≠ .inRetransmissionInitiatedBySelf ∧
        Consecutive s.sequenceStore.incomingSeqNo channel ∧
          final = s.sequenceStore.incomingSeqNo + UInt32.ofNat channel.length := by
  constructor
  · rintro ⟨last, k, hawaits, hfeeds⟩
    cases hfeeds with
    | new hconsecutive hfinal =>
      have hsame : s.sequenceStore.incomingSeqNo = last := UInt32.toNat_inj.mp hawaits.incoming
      refine ⟨hawaits.asksNothing, fun hwaits => ?_, hsame ▸ hconsecutive, hsame ▸ hfinal⟩
      obtain ⟨hbelow, hreached⟩ := hawaits.waits hwaits
      exact absurd hbelow (Nat.not_lt.mpr hreached)
    | resend hrepairs => cases hrepairs
    | skip hrepairs => cases hrepairs
  · rintro ⟨hasks, hwaits, hconsecutive, hfinal⟩
    exact ⟨_, _, ⟨rfl, hasks, fun h => absurd h hwaits⟩, .new hconsecutive hfinal⟩

namespace Pair

/-! ## Linked sides -/

section Linked

variable (i p : Nat)

/-- Neither side has just noticed a gap, and the channels take each side to the number of the other.
What the client sends counts as long as its connection is up. -/
structure Linked (repairs : Bool) (w : Pair) : Prop where
  client : w.client.session.Idle
  server : (w.server.sessions i).Idle
  holding : w.server.Holding i p
  running : w.server.isStopping = false
  toClient : Tracks repairs (w.server.sessions i).sequenceStore.outgoingSeqNo w.client.session
    w.toClient
  toServer : w.server.connected p = true →
    Tracks repairs w.client.session.sequenceStore.outgoingSeqNo (w.server.sessions i) w.toServer

/-- The applications send no messages that the engines keep for themselves, what arrives is
accepted, and a shutdown outside of the schedule finds nothing more to read. -/
def Regular (w : Pair) : Event → Prop
  | .clientSend m _ _ => isOrdinaryType m.msgType = true
  | .serverSend m _ _ => isOrdinaryType m.msgType = true
  | .clientProcess env arrivals _ _ =>
    (w.clientReads = true → Guarded FixClient.rxStep
      (fun l e => l.returned = false → l.client.Accepts e) { client := w.client }
      (w.toClient.zip arrivals)) ∧
    (env.scheduleValid = false → env.scheduleShutdown.reads = [])
  | .serverReceive arrivals _ =>
    w.server.connected p = true → Guarded (FixServer.rxStep p)
      (fun l e => l.returned = false → l.server.Accepts i e)
      { server := w.server, session := w.server.connectors.getSession p }
      (w.toServer.zip arrivals)
  | .serverProcess _ _ => True

/-- What the client puts on its channel in an event. -/
def clientSends (w : Pair) (event : Event) : List RxMessage :=
  let c := (w.step i p event).client.session
  match event with
  | .clientSend _ _ wire => wire.sent w.clientEncoder w.client.session c
  | .clientProcess _ _ _ wire => wire.sent w.clientEncoder w.client.session c
  | _ => []

/-- What the session of the server puts on its channel in an event. -/
def serverSends (w : Pair) (event : Event) : List RxMessage :=
  let s := (w.step i p event).server.sessions i
  match event with
  | .serverSend _ _ wire => wire.sent w.serverEncoder (w.server.sessions i) s
  | .serverReceive _ wire =>
    if w.server.connected p then wire.sent w.serverEncoder (w.server.sessions i) s else []
  | .serverProcess _ wire => wire.sent w.serverEncoder (w.server.sessions i) s
  | _ => []

/-- All that is put on a channel in a run. -/
def allSent (sends : Pair → Event → List RxMessage) : Pair → List Event → List RxMessage
  | _, [] => []
  | w, event :: events => sends w event ++ allSent sends (w.step i p event) events

/-- The messages of each side, those that were on their way and those that have been sent since,
have reached the application of the other or are still on their way. -/
structure Forwards (w w' : Pair) (sentToServer sentToClient : List RxMessage) : Prop where
  toClient : w'.client.session.deliveredMessages ++ applicationMessages w'.toClient =
    w.client.session.deliveredMessages ++ applicationMessages (w.toClient ++ sentToClient)
  toServer : w'.server.connected p = true → w.server.connected p = true ∧
    (w'.server.sessions i).deliveredMessages ++ applicationMessages w'.toServer =
      (w.server.sessions i).deliveredMessages ++ applicationMessages (w.toServer ++ sentToServer)

end Linked

section Steps

variable {i p : Nat} {repairs : Bool} {w : Pair}

theorem Forwards.trans {w' w'' : Pair} {a b c d : List RxMessage} (h : Forwards i p w w' a b)
    (h' : Forwards i p w' w'' c d) : Forwards i p w w'' (a ++ c) (b ++ d) where
  toClient := by
    rw [h'.toClient, applicationMessages_append, ← List.append_assoc, h.toClient,
      List.append_assoc, ← applicationMessages_append, List.append_assoc]
  toServer hconnected := by
    obtain ⟨hconnected', hsame'⟩ := h'.toServer hconnected
    obtain ⟨hconnected'', hsame⟩ := h.toServer hconnected'
    refine ⟨hconnected'', ?_⟩
    rw [hsame', applicationMessages_append, ← List.append_assoc, hsame, List.append_assoc,
      ← applicationMessages_append, List.append_assoc]

/-- A step of the client. -/
theorem Linked.setClient (h : Linked i p repairs w) {c : FixClient} {taken : List RxMessage}
    {n : Nat} {wire : WireEnv} (hreads : Reads taken w.client.session c.session)
    (htaken : w.toClient = taken ++ w.toClient.drop n)
    (htracks : Tracks repairs (w.server.sessions i).sequenceStore.outgoingSeqNo c.session
      (w.toClient.drop n)) :
    Linked i p repairs (w.setClient c n wire) ∧
      Forwards i p w (w.setClient c n wire)
        (wire.sent w.clientEncoder w.client.session c.session) [] := by
  refine ⟨⟨hreads.keeps.idle h.client, h.server, h.holding, h.running, htracks,
    fun hconnected => (h.toServer hconnected).send hreads.exchanges wire w.clientEncoder⟩,
    ?_, fun hconnected => ⟨hconnected, rfl⟩⟩
  rw [List.append_nil]
  show c.session.deliveredMessages ++ applicationMessages (w.toClient.drop n) = _
  rw [hreads.exchanges.delivered, List.append_assoc, ← applicationMessages_append, ← htaken]

/-- A step of the server. -/
theorem Linked.setServer (h : Linked i p repairs w) {srv : FixServer} {taken : List RxMessage}
    {n : Nat} {wire : WireEnv} (hreads : FixServer.Reads i p taken w.server srv)
    (hrunning : srv.isStopping = false)
    (htracks : srv.connected p = true → w.toServer = taken ++ w.toServer.drop n ∧
      Tracks repairs w.client.session.sequenceStore.outgoingSeqNo (srv.sessions i)
        (w.toServer.drop n)) :
    Linked i p repairs (w.setServer i srv n wire) ∧
      Forwards i p w (w.setServer i srv n wire) []
        (wire.sent w.serverEncoder (w.server.sessions i) (srv.sessions i)) := by
  refine ⟨⟨h.client, hreads.session.keeps.idle h.server, hreads.holding h.holding, hrunning,
    h.toClient.send hreads.session.exchanges wire w.serverEncoder,
    fun hconnected => (htracks hconnected).2⟩, rfl,
    fun hconnected => ⟨hreads.connected hconnected, ?_⟩⟩
  rw [List.append_nil]
  show (srv.sessions i).deliveredMessages ++ applicationMessages (w.toServer.drop n) = _
  rw [hreads.session.exchanges.delivered, List.append_assoc, ← applicationMessages_append,
    ← (htracks hconnected).1]

/-- What the reads of a `process` take. -/
theorem processReads_reads (h : Linked i p repairs w) {env : ClientProcessEnv}
    {arrivals : List ClientRxEnv} {lostAfter : Bool}
    (haccepts : w.clientReads = true → Guarded FixClient.rxStep
      (fun l e => l.returned = false → l.client.Accepts e) { client := w.client }
      (w.toClient.zip arrivals)) :
    ∃ taken, w.toClient = taken ++ w.toClient.drop (if w.clientReads then arrivals.length else 0) ∧
      Reads taken w.client.session
        (w.client.processReads (w.reading env arrivals lostAfter)).session ∧
      Tracks repairs (w.server.sessions i).sequenceStore.outgoingSeqNo
        (w.client.processReads (w.reading env arrivals lostAfter)).session
        (w.toClient.drop (if w.clientReads then arrivals.length else 0)) := by
  cases hreads : w.clientReads with
  | false =>
    rw [clientReads, Bool.and_eq_false_iff] at hreads
    have hnothing : w.client.processReads (w.reading env arrivals lostAfter) = w.client := by
      unfold FixClient.processReads
      split
      · next hrank =>
        have hclosed : w.client.socketOpen = false :=
          hreads.resolve_left (ne_of_eq_of_ne (decide_eq_true hrank) Bool.true_eq_false.mp)
        unfold FixClient.processIncomingMessages
        rw [hclosed, if_neg Bool.false_ne_true]
      · rfl
    rw [hnothing]
    exact ⟨[], rfl, .refl _, h.toClient⟩
  | true =>
    have haccepts' := haccepts hreads
    rw [clientReads, Bool.and_eq_true, decide_eq_true_eq] at hreads
    obtain ⟨hrank, hopen⟩ := hreads
    have hstate : w.client.session.state ≠ .disconnected := by
      intro hstate
      rw [hstate] at hrank
      exact absurd hrank (Nat.lt_irrefl _)
    have hchannel := zip_append_drop w.toClient arrivals
    have htracks := h.toClient
    rw [hchannel] at htracks
    obtain ⟨hbuffer, hrest⟩ := FixClient.foldl_rxStep_tracks (l := { client := w.client }) rfl
      hstate htracks haccepts'
    refine ⟨_, hchannel, ?_⟩
    unfold FixClient.processReads FixClient.processIncomingMessages
    rw [if_pos hrank, if_pos hopen]
    dsimp only [reading]
    split
    · have hlost := FixClient.onConnectionLost_moves
        (w.client.processRxBuffer (w.toClient.zip arrivals))
      exact ⟨hbuffer.next hlost, hrest.moves hlost⟩
    · exact ⟨hbuffer, hrest⟩

/-- An event keeps the two sides linked, and hands on what it reads. -/
theorem step_linked (h : Linked i p repairs w) {event : Event} (hregular : Regular i p w event) :
    Linked i p repairs (w.step i p event) ∧
      Forwards i p w (w.step i p event) (clientSends i p w event) (serverSends i p w event) := by
  cases event with
  | clientSend m o wire =>
    have hmoves := w.client.sendOutgoingMessage_moves hregular o
    exact h.setClient ⟨hmoves.exchanges, hmoves.keeps⟩ rfl (h.toClient.moves hmoves)
  | serverSend m o wire =>
    have hmoves : FixServer.Moves i p [] w.server (w.server.sendOutgoingMessage i m o) :=
      .sendOutgoingMessage w.server i hregular o
    have hrunning := (FixServer.sendOutgoingMessage_effects w.server i m o).isStopping
    exact h.setServer hmoves.reads (hrunning.trans h.running) fun hup =>
      ⟨rfl, (h.toServer (hmoves.connected hup)).moves hmoves.session⟩
  | clientProcess env arrivals lostAfter wire =>
    obtain ⟨haccepts, hschedule⟩ := hregular
    obtain ⟨taken, htaken, hreads, htracks⟩ := processReads_reads h haccepts
    have hprocess := FixClient.processAfterReads_moves
      (w.client.processReads (w.reading env arrivals lostAfter)) (w.reading env arrivals lostAfter)
      (hreads.keeps.idle h.client) w.client.session.state hschedule
    exact h.setClient (hreads.next hprocess) htaken (htracks.moves hprocess)
  | serverReceive arrivals wire =>
    cases hconnected : w.server.connected p with
    | false =>
      have hstep : w.step i p (.serverReceive arrivals wire) = w := by
        rw [step, hconnected, if_neg Bool.false_ne_true]
      have hsends : serverSends i p w (.serverReceive arrivals wire) = [] := by
        rw [serverSends, hconnected]
        rfl
      rw [hstep, hsends]
      refine ⟨h, by rw [List.append_nil], fun hup => ?_⟩
      rw [hconnected] at hup
      cases hup
    | true =>
      have hchannel := zip_append_drop w.toServer arrivals
      have htracks := h.toServer hconnected
      rw [hchannel] at htracks
      obtain ⟨taken, hreads, hstopping, hall⟩ :=
        FixServer.onDataReady_tracks hconnected h.holding htracks (hregular hconnected)
      have hstep : w.step i p (.serverReceive arrivals wire) = w.setServer i
          (w.server.onDataReady p (w.toServer.zip arrivals)) arrivals.length wire := by
        rw [step, hconnected, if_pos rfl]
      have hsends : serverSends i p w (.serverReceive arrivals wire) =
          wire.sent w.serverEncoder (w.server.sessions i)
            ((w.server.onDataReady p (w.toServer.zip arrivals)).sessions i) := by
        rw [serverSends, hstep]
        exact if_pos hconnected
      rw [hsends, hstep]
      refine h.setServer hreads (hstopping.trans h.running) fun hup => ?_
      obtain ⟨htaken, hrest⟩ := hall hup
      exact ⟨htaken ▸ hchannel, hrest⟩
  | serverProcess env wire =>
    have hmoves : FixServer.Moves i p [] w.server (w.server.process env) :=
      FixServer.process_moves w.server h.server h.running env
    have hrunning := (FixServer.process_effects w.server env).isStopping
    exact h.setServer hmoves.reads (hrunning.trans h.running) fun hup =>
      ⟨rfl, (h.toServer (hmoves.connected hup)).moves hmoves.session⟩

end Steps

/-! ## Runs -/

/-- A run keeps the two sides linked, and hands on what it reads. -/
theorem run_linked {i p : Nat} {repairs : Bool} {w : Pair} {events : List Event}
    (h : Linked i p repairs w) (hregular : Guarded (step i p) (Regular i p) w events) :
    Linked i p repairs (run (step i p) w events) ∧
      Forwards i p w (run (step i p) w events) (allSent i p (clientSends i p) w events)
        (allSent i p (serverSends i p) w events) := by
  induction events generalizing w with
  | nil =>
    have hnone : Forwards i p w w [] [] :=
      ⟨by rw [List.append_nil], fun hconnected => ⟨hconnected, by rw [List.append_nil]⟩⟩
    exact ⟨h, hnone⟩
  | cons event events ih =>
    obtain ⟨hstep, hforwards⟩ := step_linked h hregular.1
    obtain ⟨hrun, hforwards'⟩ := ih (w := w.step i p event) hstep hregular.2
    exact ⟨hrun, hforwards.trans hforwards'⟩

/-- From two linked sides, over every interleaving of sends, reads and `process` in which what
arrives is accepted: they stay linked, so that no gap is noticed any more, and the messages for the
application of each side reach it exactly once and in the order in which they were sent, or are
still on their way. Towards the server this holds as long as the connection is up. -/
theorem nothingLost (i p : Nat) (repairs : Bool) (w : Pair) (events : List Event)
    (h : Linked i p repairs w) (hregular : Guarded (step i p) (Regular i p) w events) :
    Linked i p repairs (run (step i p) w events) ∧
      Forwards i p w (run (step i p) w events) (allSent i p (clientSends i p) w events)
        (allSent i p (serverSends i p) w events) :=
  run_linked h hregular

/-- Both sides are logged on and agree: the client has sent 9 messages and the server 5. -/
def exampleAgreed : Pair where
  client :=
    { session :=
        { state := .loggedOn
          sequenceStore := { outgoingSeqNo := 9, incomingSeqNo := 5 }
          settings := exampleSettings }
      socketOpen := true }
  server :=
    { sessions := fun _ =>
        { state := .loggedOn
          sequenceStore := { outgoingSeqNo := 5, incomingSeqNo := 9 }
          settings := peerSettings exampleSettings }
      sessionCount := 1
      connectors := FixServerConnectors.update {} 0 0
      connected := fun p => p = 0 }

/-- An order and a report that cross each other. -/
def exampleTrade : List Event :=
  [.clientSend (OutgoingFixMessage.setMsgType msgTypeNewOrder) {} exampleWire,
    .serverSend (OutgoingFixMessage.setMsgType msgTypeExecutionReport) {} exampleWire,
    .serverReceive [{}] exampleWire,
    .clientProcess {} [{}] false exampleWire]

theorem exampleAgreed_servedBy : exampleAgreed.server.ServedBy 0 0 where
  session := rfl
  peer := rfl
  sole q hq := by
    by_contra hne
    have hnone : (none : Option Nat) = some 0 := (Function.update_of_ne hne _ _).symm.trans hq
    cases hnone
  own j hj := by
    by_contra hne
    have hnone : (none : Option Nat) = some 0 := (Function.update_of_ne hne _ _).symm.trans hj
    cases hnone
  known := SessionState.noConfusion

theorem exampleAgreed_linked : Linked 0 0 false exampleAgreed where
  client := ⟨rfl, rfl, rfl⟩
  server := ⟨rfl, rfl, rfl⟩
  holding _ := exampleAgreed_servedBy
  running := rfl
  toClient := tracks_false_iff.mpr ⟨rfl, SessionState.noConfusion, trivial, rfl⟩
  toServer _ := tracks_false_iff.mpr ⟨rfl, SessionState.noConfusion, trivial, rfl⟩

/-- A read of one message, when the client accepts whatever is on its way. -/
theorem regular_readOne {w : Pair} (wire : WireEnv)
    (h : w.toClient.all (fun rx => w.client.session.verdict rx 0 = .valid) = true) :
    Regular 0 0 w (.clientProcess {} [{}] false wire) := by
  refine ⟨fun _ => ?_, fun hfalse => nomatch hfalse⟩
  cases hchannel : w.toClient with
  | nil => trivial
  | cons rx rest =>
    rw [hchannel, List.all_cons, Bool.and_eq_true] at h
    have hvalid : w.client.session.verdict rx 0 = .valid := of_decide_eq_true h.1
    rw [List.zip_cons_cons, List.zip_nil_right]
    exact ⟨fun _ => hvalid, trivial⟩

theorem nothingLost_trade :
    Linked 0 0 false (run (step 0 0) exampleAgreed exampleTrade) ∧
      Forwards 0 0 exampleAgreed (run (step 0 0) exampleAgreed exampleTrade)
        (allSent 0 0 (clientSends 0 0) exampleAgreed exampleTrade)
        (allSent 0 0 (serverSends 0 0) exampleAgreed exampleTrade) := by
  have horder : isOrdinaryType [msgTypeNewOrder] = true := by decide
  have hreport : isOrdinaryType [msgTypeExecutionReport] = true := by decide
  refine nothingLost 0 0 false exampleAgreed exampleTrade exampleAgreed_linked
    ⟨horder, hreport, fun _ => ⟨fun _ => ⟨?_, ?_⟩, trivial⟩,
      regular_readOne exampleWire ?_, trivial⟩
  · decide +kernel
  · decide +kernel
  · decide +kernel

end Pair

end Llfix
