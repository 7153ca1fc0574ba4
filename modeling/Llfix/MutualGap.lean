import Llfix.Client.Retransmission
import Llfix.Encoding
import Llfix.Server.Retransmission

/-!
# A gap on both sides

A client and a session of a server, joined by a channel each way. What one side sends completely
arrives at the other in the same order. Both may have missed messages of the other, so that the
ResendRequest with which each asks for them is itself above the number the other expects.

Results:
1. `step_invariant`: while both sides wait, a ResendRequest is on its way.
2. `noMutualGapDeadlock`: so the two never wait for each other for good, as long as no
   ResendRequest arrives above the expected number.
3. `mutualGapDeadlock`: with a gap on both sides they do.
-/

namespace Llfix

open FixSession GuardedRun

/-! ## The two parties -/

/-- A client, a server and what is on its way between them, oldest message first. -/
structure Pair where
  client : FixClient
  server : FixServer
  toServer : List RxMessage := []
  toClient : List RxMessage := []
  clientEncoder : EncoderSettings := {}
  serverEncoder : EncoderSettings := {}

/-- What the encoder takes from outside during an event: the time of each message, and the
message that a replayed number stands for. -/
structure WireEnv where
  sendingTime : Nat → Bytes
  replayed : UInt32 → RxMessage

/-- A transmission as the peer receives it. What is sent is taken to be encodable: a message that is
not, with a delimiter in a value say, is read by the peer as another one, and `encodedMessage` does
not stand for that. -/
def WireEnv.received (wire : WireEnv) (settings : FixSessionSettings) (encoder : EncoderSettings)
    (position : Nat) (incomingSeqNo : UInt32) : Transmission → RxMessage
  | .original m n =>
    encodedMessage settings encoder (wire.sendingTime position) incomingSeqNo m n
  | .control m n =>
    encodedMessage settings encoder (wire.sendingTime position) incomingSeqNo m n
  | .replay n => wire.replayed n

/-- The messages a session has sent completely between two of its states. -/
def WireEnv.sent (wire : WireEnv) (encoder : EncoderSettings) (s s' : FixSession) :
    List RxMessage :=
  ((since s s').filterMap sentMessage).mapIdx fun position m =>
    wire.received s'.settings encoder position m.2 m.1

namespace Pair

/-- What happens next. The client reads inside of `process`; `arrivals` has an entry for each
message a read takes from the channel. -/
inductive Event
  | clientSend (m : OutgoingFixMessage) (o : SendOutcome) (wire : WireEnv)
  | serverSend (m : OutgoingFixMessage) (o : SendOutcome) (wire : WireEnv)
  | clientProcess (env : ClientProcessEnv) (arrivals : List ClientRxEnv) (lostAfter : Bool)
      (wire : WireEnv)
  | serverReceive (arrivals : List ServerRxEnv) (wire : WireEnv)
  | serverProcess (env : Nat → ProcessEnv) (wire : WireEnv)

/-- The client reads from its connection in `process`. -/
def clientReads (w : Pair) : Bool :=
  SessionState.disconnected.rank < w.client.session.state.rank && w.client.socketOpen

/-- The environment of a `process` of the client that reads from the channel. -/
def reading (w : Pair) (env : ClientProcessEnv) (arrivals : List ClientRxEnv) (lostAfter : Bool) :
    ClientProcessEnv :=
  { env with read := .data (w.toClient.zip arrivals) lostAfter }

/-- The client has come to be `c` and has taken messages from its channel. -/
def setClient (w : Pair) (c : FixClient) (taken : Nat) (wire : WireEnv) : Pair :=
  { w with
    client := c
    toClient := w.toClient.drop taken
    toServer := w.toServer ++ wire.sent w.clientEncoder w.client.session c.session }

section Server

variable (i p : Nat)

/-- The server has come to be `srv`; session `i` has taken messages from its channel. -/
def setServer (w : Pair) (srv : FixServer) (taken : Nat) (wire : WireEnv) : Pair :=
  { w with
    server := srv
    toServer := w.toServer.drop taken
    toClient := w.toClient ++ wire.sent w.serverEncoder (w.server.sessions i) (srv.sessions i) }

/-- One event. The server knows the client as session `i`, on connection `p`. -/
def step (w : Pair) : Event → Pair
  | .clientSend m o wire => w.setClient (w.client.sendOutgoingMessage m o) 0 wire
  | .serverSend m o wire => w.setServer i (w.server.sendOutgoingMessage i m o) 0 wire
  | .clientProcess env arrivals lostAfter wire =>
    w.setClient (w.client.process (w.reading env arrivals lostAfter))
      (if w.clientReads then arrivals.length else 0) wire
  | .serverReceive arrivals wire =>
    if w.server.connected p then
      w.setServer i (w.server.onDataReady p (w.toServer.zip arrivals)) arrivals.length wire
    else w
  | .serverProcess env wire => w.setServer i (w.server.process env) 0 wire

/-- Both sides are logged on, and the connection of the client serves the session. -/
structure LoggedOn (w : Pair) : Prop where
  client : w.client.session.state = .loggedOn
  server : (w.server.sessions i).state = .loggedOn
  serves : w.server.connectors.getSession p = some i

/-- Both sides wait for a retransmission, and nothing will end it: no message is on its way and
neither side has a ResendRequest to answer. -/
structure Deadlocked (w : Pair) : Prop where
  client : w.client.session.state = .inRetransmissionInitiatedBySelf
  server : (w.server.sessions i).state = .inRetransmissionInitiatedBySelf
  toServer : w.toServer = []
  toClient : w.toClient = []
  clientAnswered : w.client.session.needsRespondingToIncomingResendRequest = false
  serverAnswered : (w.server.sessions i).needsRespondingToIncomingResendRequest = false

/-! ## The conditions -/

/-- A ResendRequest meets the client at the number it expects or below. -/
def ClientExpects (c : FixClient) (e : RxMessage × ClientRxEnv) : Prop :=
  e.1.isResendRequest = true → c.ResendRequestArrives e ∧ c.session.aboveExpected e.1 = false

/-- A ResendRequest meets the session at the number it expects or below. -/
def ServerExpects (srv : FixServer) (e : RxMessage × ServerRxEnv) : Prop :=
  e.1.isResendRequest = true →
    srv.ResendRequestArrives i e ∧ (srv.sessions i).aboveExpected e.1 = false

/-- Every ResendRequest that arrives in the event has the expected number or one below it, and
every ResendRequest that is sent in it goes out. -/
def NoGapAtRequests (w : Pair) : Event → Prop
  | .clientSend _ _ _ => True
  | .serverSend _ _ _ => True
  | .clientProcess env arrivals lostAfter _ =>
    (w.clientReads = true → Guarded FixClient.rxStep
      (fun l e => l.returned = false → ClientExpects l.client e) { client := w.client }
      (w.toClient.zip arrivals)) ∧
    (isStateLive w.client.session.state = true →
      ((w.client.processReads (w.reading env arrivals lostAfter)).processAdminCommands
        (w.reading env arrivals lostAfter)).ResendRequestGoesOut (w.reading env arrivals lostAfter))
  | .serverReceive arrivals _ =>
    w.server.connected p = true → Guarded (FixServer.rxStep p)
      (fun l e => l.returned = false → ServerExpects i l.server e)
      { server := w.server, session := w.server.connectors.getSession p }
      (w.toServer.zip arrivals)
  | .serverProcess env _ =>
    w.server.isStopping = false → Guarded (fun srv j => srv.processTurn j (env j))
      (fun srv j => j = i → srv.TurnGoesOut j (env j)) w.server (List.range w.server.sessionCount)

/-- The client takes the ResendRequest up, unless its number is too low. -/
def ClientTakesUp (c : FixClient) (e : RxMessage × ClientRxEnv) : Prop :=
  e.1.isResendRequest = true → c.session.belowExpected e.1 = false →
    (c.handleMessage e.1 e.2).session.needsRespondingToIncomingResendRequest = true

/-- The session takes the ResendRequest up, unless its number is too low. -/
def ServerTakesUp (srv : FixServer) (e : RxMessage × ServerRxEnv) : Prop :=
  e.1.isResendRequest = true → (srv.sessions i).belowExpected e.1 = false →
    ((srv.handleMessage i p e.1 e.2).sessions i).needsRespondingToIncomingResendRequest = true

/-- Every ResendRequest that arrives in the event is taken up. -/
def RequestsTakenUp (w : Pair) : Event → Prop
  | .clientSend _ _ _ => True
  | .serverSend _ _ _ => True
  | .clientProcess _ arrivals _ _ =>
    w.clientReads = true → Guarded FixClient.rxStep
      (fun l e => l.returned = false → ClientTakesUp l.client e) { client := w.client }
      (w.toClient.zip arrivals)
  | .serverReceive arrivals _ =>
    w.server.connected p = true → Guarded (FixServer.rxStep p)
      (fun l e => l.returned = false → ServerTakesUp i p l.server e)
      { server := w.server, session := w.server.connectors.getSession p }
      (w.toServer.zip arrivals)
  | .serverProcess _ _ => True

/-! ## The invariant -/

/-- While both sides wait, a ResendRequest is on its way; and the connection is still the one of
the session. -/
structure Answerable (w : Pair) : Prop where
  request : w.client.session.state = .inRetransmissionInitiatedBySelf →
    (w.server.sessions i).state = .inRetransmissionInitiatedBySelf →
    ∃ rx ∈ w.toServer ++ w.toClient, rx.isResendRequest = true
  serves : w.server.connected p = true → w.server.connectors.getSession p = some i

variable {i p}

theorem LoggedOn.answerable {w : Pair} (h : LoggedOn i p w) : Answerable i p w where
  request hclient := by
    rw [h.client] at hclient
    cases hclient
  serves _ := h.serves

theorem Answerable.not_deadlocked {w : Pair} (h : Answerable i p w) : ¬ Deadlocked i w := by
  intro hdead
  obtain ⟨rx, hmem, _⟩ := h.request hdead.client hdead.server
  rw [hdead.toServer, hdead.toClient] at hmem
  cases hmem

end Server

/-! ## The channels -/

/-- A session that has asked has a ResendRequest on the wire. -/
theorem request_of_asked {s s' : FixSession} (h : Asked s s') (wire : WireEnv)
    (encoder : EncoderSettings) :
    ∃ rx ∈ wire.sent encoder s s', rx.isResendRequest = true := by
  obtain ⟨before, after, t, n, htrace, ht⟩ := h
  rw [List.append_assoc] at htrace
  have hmem : (t, n) ∈ (since s s').filterMap sentMessage := by
    rw [since_of_append htrace, List.filterMap_append, List.filterMap_cons]
    exact List.mem_append_right _ List.mem_cons_self
  obtain ⟨k, hk, hget⟩ := List.getElem_of_mem hmem
  refine ⟨_, List.mem_mapIdx.mpr ⟨k, hk, rfl⟩, ?_⟩
  rw [hget]
  cases t with
  | original m number => exact ht
  | control m number => cases ht
  | replay number => cases ht

/-- A message of the channel is read or stays. -/
theorem mem_zip_or_drop {α β : Type*} {x : α} : ∀ {xs : List α} (ys : List β), x ∈ xs →
    (∃ y, (x, y) ∈ xs.zip ys) ∨ x ∈ xs.drop ys.length
  | _ :: _, [], h => .inr h
  | x' :: xs, y :: ys, h => by
    rw [List.zip_cons_cons, List.length_cons, List.drop_succ_cons]
    rcases List.mem_cons.mp h with rfl | h
    · exact .inl ⟨y, List.mem_cons_self⟩
    · rcases mem_zip_or_drop ys h with ⟨y', hy'⟩ | hdrop
      · exact .inl ⟨y', List.mem_cons_of_mem _ hy'⟩
      · exact .inr hdrop

/-! ## Reads -/

/-- A client that waits after a buffer has read no ResendRequest in it. -/
theorem clientBuffer_waits {messages : List (RxMessage × ClientRxEnv)} {l : FixClient.RxLoop}
    (hreturned : l.returned = true → l.client.session.state ≠ .inRetransmissionInitiatedBySelf)
    (h : Guarded FixClient.rxStep (fun l e => l.returned = false → ClientExpects l.client e) l
      messages)
    (hwaits : (messages.foldl FixClient.rxStep l).client.session.state =
      .inRetransmissionInitiatedBySelf) :
    ∀ e ∈ messages, e.1.isResendRequest = false := by
  induction messages generalizing l with
  | nil => exact fun e he => absurd he List.not_mem_nil
  | cons e messages ih =>
    obtain ⟨hexpects, hrest⟩ := h
    have hnext : (FixClient.rxStep l e).client.session.state = .inRetransmissionInitiatedBySelf :=
      (FixClient.foldl_rxStep_passive messages _).waits hwaits
    have hreturned' : (FixClient.rxStep l e).returned = true →
        (FixClient.rxStep l e).client.session.state ≠ .inRetransmissionInitiatedBySelf := by
      intro hleft
      cases hl : l.returned with
      | true =>
        simp only [FixClient.rxStep, hl, if_true]
        exact hreturned hl
      | false =>
        simp only [FixClient.rxStep, hl, Bool.false_eq_true, if_false, decide_eq_true_eq]
          at hleft ⊢
        rw [hleft]
        decide
    intro e' he'
    rcases List.mem_cons.mp he' with rfl | he'
    · cases hl : l.returned with
      | true =>
        simp only [FixClient.rxStep, hl, if_true] at hnext
        exact absurd hnext (hreturned hl)
      | false =>
        cases hrequest : e'.1.isResendRequest with
        | false => rfl
        | true =>
          obtain ⟨harrives, habove⟩ := hexpects hl hrequest
          have hends := (FixClient.handleMessage_takesUp harrives habove).1
          simp only [FixClient.rxStep, hl, Bool.false_eq_true, if_false] at hnext
          exact absurd hnext hends
    · exact ih hreturned' hrest hwaits e' he'

section ServerBuffer

variable {i p : Nat}

theorem rxStep_mapped {l : FixServer.RxLoop} (hsession : l.session = some i)
    (hreturned : l.returned = false) (e : RxMessage × ServerRxEnv) :
    FixServer.rxStep p l e =
      { server := l.server.handleMessage i p e.1 e.2, session := some i,
        returned := ((l.server.handleMessage i p e.1 e.2).sessions i).state = .disconnected } := by
  have htarget : l.target p e = (l.server, some i) := by
    unfold FixServer.RxLoop.target
    rw [hsession]
  unfold FixServer.rxStep
  rw [hreturned, if_neg Bool.false_ne_true, htarget]

theorem rxStep_left {l : FixServer.RxLoop} (hreturned : l.returned = true)
    (e : RxMessage × ServerRxEnv) : FixServer.rxStep p l e = l := by
  unfold FixServer.rxStep
  rw [hreturned, if_pos rfl]

theorem rxStep_session {l : FixServer.RxLoop} (hsession : l.session = some i)
    (e : RxMessage × ServerRxEnv) : (FixServer.rxStep p l e).session = some i := by
  cases hreturned : l.returned with
  | true => rw [rxStep_left hreturned, hsession]
  | false => rw [rxStep_mapped hsession hreturned]

theorem rxStep_proceeds {l : FixServer.RxLoop} (hsession : l.session = some i)
    (e : RxMessage × ServerRxEnv) :
    FixServer.Proceeds i l.server (FixServer.rxStep p l e).server := by
  cases hreturned : l.returned with
  | true =>
    rw [rxStep_left hreturned]
    exact .refl _
  | false =>
    rw [rxStep_mapped hsession hreturned]
    exact FixServer.handleMessage_proceeds l.server i p e.1 e.2

theorem foldl_rxStep_proceeds (messages : List (RxMessage × ServerRxEnv))
    {l : FixServer.RxLoop} (hsession : l.session = some i) :
    FixServer.Proceeds i l.server (messages.foldl (FixServer.rxStep p) l).server := by
  induction messages generalizing l with
  | nil => exact .refl _
  | cons e messages ih =>
    exact (rxStep_proceeds hsession e).trans (ih (rxStep_session hsession e))

/-- The session has left the wait during the read, or is where it was before it. -/
theorem rxStep_endsWait {start : FixServer} {l : FixServer.RxLoop}
    {e : RxMessage × ServerRxEnv} (hserves : start.connectors.getSession p = some i)
    (hproceeds : FixServer.Proceeds i start l.server) (hsession : l.session = some i)
    (hreturned : l.returned = false) (hrequest : e.1.isResendRequest = true)
    (hexpects : ServerExpects i l.server e) :
    ((FixServer.rxStep p l e).server.sessions i).state ≠ .inRetransmissionInitiatedBySelf ∨
      Asked (start.sessions i) ((FixServer.rxStep p l e).server.sessions i) := by
  have hstep := rxStep_proceeds (p := p) hsession e
  obtain ⟨harrives, habove⟩ := hexpects hrequest
  rcases hproceeds.unmaps p hserves with hmapped | hstate | hasked
  · left
    rw [rxStep_mapped hsession hreturned]
    exact FixServer.handleMessage_endsWait hmapped harrives habove
  · rcases hstep.session with hpassive | hasked
    · exact .inl fun hwaits => hstate (hpassive.waits hwaits)
    · rcases hproceeds.session with hpassive | hasked'
      · exact .inr (hpassive.asked hasked)
      · exact .inr (hasked'.trace_append hasked.trace)
  · exact .inr (hasked.trace_append hstep.session.trace)

/-- A session that waits after a buffer has read no ResendRequest in it, or has asked meanwhile. -/
theorem serverBuffer_waits {start : FixServer} {messages : List (RxMessage × ServerRxEnv)}
    {l : FixServer.RxLoop} (hserves : start.connectors.getSession p = some i)
    (hproceeds : FixServer.Proceeds i start l.server) (hsession : l.session = some i)
    (hreturned : l.returned = true →
      (l.server.sessions i).state ≠ .inRetransmissionInitiatedBySelf)
    (h : Guarded (FixServer.rxStep p)
      (fun l e => l.returned = false → ServerExpects i l.server e) l messages)
    (hwaits : ((messages.foldl (FixServer.rxStep p) l).server.sessions i).state =
      .inRetransmissionInitiatedBySelf) :
    Asked (start.sessions i) ((messages.foldl (FixServer.rxStep p) l).server.sessions i) ∨
      ∀ e ∈ messages, e.1.isResendRequest = false := by
  -- A ResendRequest ends the wait, so a session that waits at the end has begun to wait behind it.
  induction messages generalizing l with
  | nil => exact .inr fun e he => absurd he List.not_mem_nil
  | cons e messages ih =>
    obtain ⟨hexpects, hrest⟩ := h
    have hsession' := rxStep_session (p := p) hsession e
    have hstep := rxStep_proceeds (p := p) hsession e
    have hfold := foldl_rxStep_proceeds (p := p) messages hsession'
    have hreturned' : (FixServer.rxStep p l e).returned = true →
        ((FixServer.rxStep p l e).server.sessions i).state ≠
          .inRetransmissionInitiatedBySelf := by
      cases hl : l.returned with
      | true =>
        rw [rxStep_left hl]
        exact hreturned
      | false =>
        rw [rxStep_mapped hsession hl]
        intro hleft
        rw [of_decide_eq_true hleft]
        decide
    rcases ih (hproceeds.trans hstep) hsession' hreturned' hrest hwaits with hasked | hnone
    · exact .inl hasked
    · cases hrequest : e.1.isResendRequest with
      | false => exact .inr fun e' he' => (List.mem_cons.mp he').elim (· ▸ hrequest) (hnone e')
      | true =>
        left
        have hends : ((FixServer.rxStep p l e).server.sessions i).state ≠
              .inRetransmissionInitiatedBySelf ∨
            Asked (start.sessions i) ((FixServer.rxStep p l e).server.sessions i) := by
          cases hl : l.returned with
          | true =>
            rw [rxStep_left hl]
            exact .inl (hreturned hl)
          | false => exact rxStep_endsWait hserves hproceeds hsession hl hrequest (hexpects hl)
        rcases hends with hends | hasked
        · rcases hfold.session with hpassive | hasked
          · exact absurd (hpassive.waits hwaits) hends
          · rcases (hproceeds.trans hstep).session with hpassive | hasked'
            · exact hpassive.asked hasked
            · exact hasked'.trace_append hasked.trace
        · exact hasked.trace_append hfold.session.trace

end ServerBuffer

/-! ## Steps -/

section Step

variable {i p : Nat} {w : Pair}

/-- A step of the client that starts from the channels' invariant. -/
theorem Answerable.setClient (h : Answerable i p w) {c : FixClient} {taken : Nat} {wire : WireEnv}
    (hclient : c.session.state = .inRetransmissionInitiatedBySelf →
      Asked w.client.session c.session ∨
        (w.client.session.state = .inRetransmissionInitiatedBySelf ∧
          ∀ rx ∈ w.toClient, rx.isResendRequest = true → rx ∈ w.toClient.drop taken)) :
    Answerable i p (w.setClient c taken wire) where
  request hc hs := by
    show ∃ rx ∈ (w.toServer ++ _) ++ w.toClient.drop taken, _
    rcases hclient hc with hasked | ⟨hbefore, hkept⟩
    · obtain ⟨rx, hmem, hrx⟩ := request_of_asked hasked wire w.clientEncoder
      exact ⟨rx, List.mem_append_left _ (List.mem_append_right _ hmem), hrx⟩
    · obtain ⟨rx, hmem, hrx⟩ := h.request hbefore hs
      refine ⟨rx, ?_, hrx⟩
      rcases List.mem_append.mp hmem with hmem | hmem
      · exact List.mem_append_left _ (List.mem_append_left _ hmem)
      · exact List.mem_append_right _ (hkept rx hmem hrx)
  serves := h.serves

theorem Answerable.setServer (h : Answerable i p w) {srv : FixServer} {taken : Nat}
    {wire : WireEnv} (hproceeds : FixServer.Proceeds i w.server srv)
    (hserver : (srv.sessions i).state = .inRetransmissionInitiatedBySelf →
      Asked (w.server.sessions i) (srv.sessions i) ∨
        ((w.server.sessions i).state = .inRetransmissionInitiatedBySelf ∧
          ∀ rx ∈ w.toServer, rx.isResendRequest = true → rx ∈ w.toServer.drop taken)) :
    Answerable i p (w.setServer i srv taken wire) where
  request hc hs := by
    show ∃ rx ∈ w.toServer.drop taken ++ (w.toClient ++ _), _
    rcases hserver hs with hasked | ⟨hbefore, hkept⟩
    · obtain ⟨rx, hmem, hrx⟩ := request_of_asked hasked wire w.serverEncoder
      exact ⟨rx, List.mem_append_right _ (List.mem_append_right _ hmem), hrx⟩
    · obtain ⟨rx, hmem, hrx⟩ := h.request hc hbefore
      refine ⟨rx, ?_, hrx⟩
      rcases List.mem_append.mp hmem with hmem | hmem
      · exact List.mem_append_left _ (hkept rx hmem hrx)
      · exact List.mem_append_right _ (List.mem_append_left _ hmem)
  serves hp := by
    obtain ⟨hp, hserves⟩ := hproceeds.peers p hp
    exact hserves.trans (h.serves hp)

/-- The server has read nothing. -/
theorem Answerable.setServer_proceeds (h : Answerable i p w) {srv : FixServer} {wire : WireEnv}
    (hproceeds : FixServer.Proceeds i w.server srv) :
    Answerable i p (w.setServer i srv 0 wire) :=
  h.setServer hproceeds fun hwaits => by
    rcases hproceeds.session with hpassive | hasked
    · exact .inr ⟨hpassive.waits hwaits, fun _ hmem _ => hmem⟩
    · exact .inl hasked

/-- After the read of a `process`, a client that waits has left every ResendRequest in the
channel. -/
theorem processReads_waits {env : ClientProcessEnv} {arrivals : List ClientRxEnv}
    {lostAfter : Bool}
    (hexpects : w.clientReads = true → Guarded FixClient.rxStep
      (fun l e => l.returned = false → ClientExpects l.client e) { client := w.client }
      (w.toClient.zip arrivals))
    (hwaits : (w.client.processReads (w.reading env arrivals lostAfter)).session.state =
      .inRetransmissionInitiatedBySelf) :
    ∀ rx ∈ w.toClient, rx.isResendRequest = true →
      rx ∈ w.toClient.drop (if w.clientReads then arrivals.length else 0) := by
  intro rx hmem hrequest
  cases hreads : w.clientReads with
  | false => exact hmem
  | true =>
    have hconditions := hreads
    simp only [clientReads, Bool.and_eq_true, decide_eq_true_eq] at hconditions
    obtain ⟨hrank, hopen⟩ := hconditions
    have hbuffer : (w.client.processRxBuffer (w.toClient.zip arrivals)).session.state =
        .inRetransmissionInitiatedBySelf := by
      unfold FixClient.processReads FixClient.processIncomingMessages at hwaits
      rw [if_pos hrank, if_pos hopen] at hwaits
      dsimp only [reading] at hwaits
      split at hwaits
      · cases hwaits
      · exact hwaits
    have hnone := clientBuffer_waits (l := { client := w.client }) (fun hfalse => nomatch hfalse)
      (hexpects hreads) hbuffer
    rcases mem_zip_or_drop arrivals hmem with ⟨env', hzip⟩ | hdrop
    · have hnot := hnone _ hzip
      rw [hrequest] at hnot
      cases hnot
    · exact hdrop

theorem clientProcess_answerable (h : Answerable i p w) {env : ClientProcessEnv}
    {arrivals : List ClientRxEnv} {lostAfter : Bool} {wire : WireEnv}
    (hgap : NoGapAtRequests i p w (.clientProcess env arrivals lostAfter wire)) :
    Answerable i p (w.step i p (.clientProcess env arrivals lostAfter wire)) := by
  obtain ⟨hexpects, hgoesOut⟩ := hgap
  have hreads := w.client.processReads_passive (w.reading env arrivals lostAfter)
  refine h.setClient fun hwaits => ?_
  rcases FixClient.process_proceeds hgoesOut with hpassive | hasked
  · have hread := hpassive.waits hwaits
    exact .inr ⟨hreads.waits hread, processReads_waits hexpects hread⟩
  · exact .inl (hreads.asked hasked)

theorem serverReceive_answerable (h : Answerable i p w) {arrivals : List ServerRxEnv}
    {wire : WireEnv} (hgap : NoGapAtRequests i p w (.serverReceive arrivals wire)) :
    Answerable i p (w.step i p (.serverReceive arrivals wire)) := by
  unfold step
  dsimp only
  split
  · next hconnected =>
    have hserves := h.serves hconnected
    have hbuffer : FixServer.Proceeds i w.server
        (w.server.processRxBuffer p (w.toServer.zip arrivals)).server :=
      foldl_rxStep_proceeds (l := { server := w.server, session :=
        w.server.connectors.getSession p }) _ hserves
    have hready : FixServer.Proceeds i
        (w.server.processRxBuffer p (w.toServer.zip arrivals)).server
        (w.server.onDataReady p (w.toServer.zip arrivals)) := by
      unfold FixServer.onDataReady
      dsimp only
      split
      · exact .refl _
      · exact .disconnect _ p
    refine h.setServer (hbuffer.trans hready) fun hwaits => ?_
    rcases hready.session with hpassive | hasked
    · have hwaits' := hpassive.waits hwaits
      rcases serverBuffer_waits (l := { server := w.server, session :=
          w.server.connectors.getSession p }) hserves (.refl _) hserves
          (fun hfalse => nomatch hfalse) (hgap hconnected) hwaits' with hasked | hnone
      · exact .inl (hasked.trace_append hready.session.trace)
      · rcases hbuffer.session with hpassive' | hasked
        · refine .inr ⟨hpassive'.waits hwaits', fun rx hmem hrequest => ?_⟩
          rcases mem_zip_or_drop arrivals hmem with ⟨env, hzip⟩ | hdrop
          · have hnot := hnone _ hzip
            rw [hrequest] at hnot
            cases hnot
          · exact hdrop
        · exact .inl (hasked.trace_append hready.session.trace)
    · rcases hbuffer.session with hpassive | hasked'
      · exact .inl (hpassive.asked hasked)
      · exact .inl (hasked'.trace_append hasked.trace)
  · exact h

/-- Every turn of a `process` proceeds. -/
theorem process_proceeds {srv : FixServer} {env : Nat → ProcessEnv}
    (hgap : srv.isStopping = false → Guarded (fun srv j => srv.processTurn j (env j))
      (fun srv j => j = i → srv.TurnGoesOut j (env j)) srv (List.range srv.sessionCount)) :
    FixServer.Proceeds i srv (srv.process env) := by
  have hturns : ∀ (js : List Nat) (srv : FixServer),
      Guarded (fun srv j => srv.processTurn j (env j))
        (fun srv j => j = i → srv.TurnGoesOut j (env j)) srv js →
      FixServer.Proceeds i srv (js.foldl (fun srv j => srv.processTurn j (env j)) srv) := by
    intro js
    induction js with
    | nil => exact fun srv _ => .refl srv
    | cons j js ih =>
      intro srv hguarded
      exact (FixServer.processTurn_proceeds hguarded.1).trans (ih _ hguarded.2)
  unfold FixServer.process
  split
  · next hstopping => exact hturns _ srv (hgap hstopping)
  · exact FixServer.sendLogoutMessagesToAllSessions_proceeds srv env

theorem step_answerable (h : Answerable i p w) {event : Event}
    (hgap : NoGapAtRequests i p w event) : Answerable i p (w.step i p event) := by
  cases event with
  | clientSend m o wire =>
    refine h.setClient fun hwaits => .inr ⟨?_, fun _ hmem _ => hmem⟩
    exact (FixClient.sendBytes_passive w.client _ o).waits hwaits
  | serverSend m o wire =>
    exact h.setServer_proceeds (FixServer.sendOutgoingMessage_proceeds w.server i m o)
  | clientProcess env arrivals lostAfter wire => exact clientProcess_answerable h hgap
  | serverReceive arrivals wire => exact serverReceive_answerable h hgap
  | serverProcess env wire => exact h.setServer_proceeds (process_proceeds hgap)

/-- Where no ResendRequest meets a gap, every one is taken up. -/
theorem requestsTakenUp_of_noGap {event : Event} (hgap : NoGapAtRequests i p w event) :
    RequestsTakenUp i p w event := by
  cases event with
  | clientSend m o wire => trivial
  | serverSend m o wire => trivial
  | serverProcess env wire => trivial
  | clientProcess env arrivals lostAfter wire =>
    refine fun hreads => (hgap.1 hreads).mono fun l e hexpects hreturned hrequest hbelow => ?_
    obtain ⟨harrives, habove⟩ := hexpects hreturned hrequest
    exact (FixClient.handleMessage_takesUp harrives habove).2 hbelow
  | serverReceive arrivals wire =>
    refine fun hconnected =>
      (hgap hconnected).mono fun l e hexpects hreturned hrequest hbelow => ?_
    obtain ⟨harrives, habove⟩ := hexpects hreturned hrequest
    exact (FixServer.handleMessage_takesUp harrives habove hbelow).1

end Step

/-! ## Runs -/

/-- From two sides that are logged on, over every interleaving in which no ResendRequest arrives
above the expected number: every ResendRequest is taken up, and the two never wait for each
other. -/
theorem noMutualGapDeadlock (i p : Nat) (w : Pair) (events : List Event) (h : LoggedOn i p w)
    (hgap : Guarded (step i p) (NoGapAtRequests i p) w events) :
    Guarded (step i p) (RequestsTakenUp i p) w events ∧
      ∀ start, List.IsPrefix start events → ¬ Deadlocked i (run (step i p) w start) := by
  refine ⟨hgap.mono fun _ _ => requestsTakenUp_of_noGap, fun start hstart => ?_⟩
  have hanswerable : Answerable i p (run (step i p) w start) :=
    (hgap.initial hstart).invariant (I := Answerable i p)
      (fun _ _ hw hok => step_answerable hw hok) h.answerable
  exact hanswerable.not_deadlocked

/-! ## The deadlock -/

/-- The settings of the peer of a session. -/
def peerSettings (settings : FixSessionSettings) : FixSessionSettings :=
  { settings with
    senderCompId := settings.targetCompId
    targetCompId := settings.senderCompId }

/-- Both sides are logged on. The client has missed the server's 6 and 7, and the server the
client's messages behind `incomingSeqNo`, up to 9. -/
def exampleGaps (incomingSeqNo : UInt32) (toServer : List RxMessage) : Pair where
  client :=
    { session :=
        { state := .loggedOn
          sequenceStore := { outgoingSeqNo := 9, incomingSeqNo := 5 }
          settings := exampleSettings }
      socketOpen := true }
  server :=
    { sessions := fun _ =>
        { state := .loggedOn
          sequenceStore := { outgoingSeqNo := 7, incomingSeqNo := incomingSeqNo }
          settings := peerSettings exampleSettings }
      sessionCount := 1
      connectors := FixServerConnectors.update {} 0 0
      connected := fun p => p = 0 }
  toServer := toServer

def exampleWire : WireEnv where
  sendingTime _ := text "20260101-00:00:00"
  replayed n := peerMessage exampleSettings msgTypeNewOrder n []

/-- The ResendRequest of the client, on its way to a server that has missed nothing. -/
def exampleRequest : RxMessage :=
  peerMessage (peerSettings exampleSettings) msgTypeResendRequest 10
    [(tagBeginSeqNo, text "6"), (tagEndSeqNo, text "0")]

theorem noMutualGapDeadlock_request :
    Guarded (step 0 0) (RequestsTakenUp 0 0) (exampleGaps 9 [exampleRequest])
        [.serverReceive [{}] exampleWire] ∧
      ∀ start, List.IsPrefix start [.serverReceive [{}] exampleWire] →
        ¬ Deadlocked 0 (run (step 0 0) (exampleGaps 9 [exampleRequest]) start) := by
  refine noMutualGapDeadlock 0 0 (exampleGaps 9 [exampleRequest])
    [.serverReceive [{}] exampleWire] ⟨rfl, rfl, rfl⟩ ⟨fun _ => ⟨fun _ _ => ⟨?_, ?_⟩, trivial⟩,
      trivial⟩
  · exact ⟨by decide +kernel, by decide +kernel, by decide +kernel, by decide +kernel⟩
  · decide +kernel

/-- Each side sends a message, notices its own gap, asks for a resend, and reads the request of
the other. -/
def exampleGapsRun : List Event :=
  [.clientSend (OutgoingFixMessage.setMsgType msgTypeNewOrder) {} exampleWire,
    .serverSend (OutgoingFixMessage.setMsgType msgTypeExecutionReport) {} exampleWire,
    .serverReceive [{}] exampleWire,
    .clientProcess {} [{}] false exampleWire,
    .serverProcess (fun _ => {}) exampleWire,
    .serverReceive [{}] exampleWire,
    .clientProcess {} [{}] false exampleWire]

/-- A run of two sides with a gap each, without a lost message or a failed send, that ends with
both waiting for each other. -/
theorem mutualGapDeadlock :
    LoggedOn 0 0 (exampleGaps 7 []) ∧
      Deadlocked 0 (run (step 0 0) (exampleGaps 7 []) exampleGapsRun) := by
  refine ⟨⟨rfl, rfl, rfl⟩, ⟨?_, ?_, ?_, ?_, ?_, ?_⟩⟩
  · decide +kernel
  · decide +kernel
  · decide +kernel
  · decide +kernel
  · decide +kernel
  · decide +kernel

end Pair

end Llfix
