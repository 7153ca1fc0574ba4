import Mathlib.Algebra.GroupWithZero.Nat
import Llfix.AdminUtility
import Llfix.Lib.GuardedRun

/-!
# The outgoing stream of a connection

`TCPConnector::send` and `TcpReactor::send` are the same loop: it offers the socket what is left
of the message until all of it is taken, the connection is lost, or `send_try_count` tries are
used up. A try counts whether the socket has taken something or not.

Results:
1. `sendLoop_exhausted_iff`: when a send gives up, and how much of the message is out by then.
2. `wholeMessages_iff`: the stream consists of whole messages, and a failed send leaves nothing of
   its message on an open connection, exactly when no send gives up behind a part of its message.
-/

namespace Llfix

open GuardedRun

/-- What the socket answers to one try: that it takes the bytes it is offered as far as there is
room, or that it takes none, with or without an error that stands for a lost connection. -/
inductive SocketAnswer
  | takes (room : Nat)
  | fails (connectionLost : Bool)
deriving DecidableEq, Repr

/-- The bytes that the socket has room for. -/
def SocketAnswer.room : SocketAnswer → Nat
  | .takes room => room
  | .fails _ => 0

/-- How far a call of `send` has come; it has no result while it waits for the socket. -/
structure SendProgress where
  bytesSent : Nat
  result : Option SendResult
deriving DecidableEq, Repr

/-- The test at the head of the loop. A `send_try_count` of 0 stands for no limit. -/
def triesUsedUp (sendTryCount iteration : Nat) : Bool :=
  0 < sendTryCount && iteration = sendTryCount

/-- The loop of `send`, for a message of `size` bytes. -/
def sendLoop (sendTryCount size : Nat) : Nat → Nat → List SocketAnswer → SendProgress
  | iteration, bytesSent, [] =>
    if triesUsedUp sendTryCount iteration then ⟨bytesSent, some .tryCountExhausted⟩
    else ⟨bytesSent, none⟩
  | iteration, bytesSent, answer :: answers =>
    if triesUsedUp sendTryCount iteration then ⟨bytesSent, some .tryCountExhausted⟩
    else if answer = .fails true then ⟨bytesSent, some .connectionLost⟩
    else
      let bytesSent := bytesSent + min answer.room (size - bytesSent)
      if bytesSent = size then ⟨bytesSent, some .ok⟩
      else
        sendLoop sendTryCount size (if 0 < sendTryCount then iteration + 1 else iteration)
          bytesSent answers

/-- The sending side of a connection. -/
structure TxConnection where
  sendTryCount : Nat
  /-- The bytes that were put on the connection. -/
  stream : Bytes := []
  /-- The connection is up, and no call of `send` waits on it. -/
  isOpen : Bool := true
deriving DecidableEq, Repr

/-- One call of `send`: the message, and the answers of the socket to the tries. -/
structure SendCall where
  message : Bytes
  answers : List SocketAnswer
deriving DecidableEq, Repr

namespace TxConnection

def progress (c : TxConnection) (call : SendCall) : SendProgress :=
  sendLoop c.sendTryCount call.message.length 0 0 call.answers

/-- `send`. -/
def send (c : TxConnection) (call : SendCall) : TxConnection :=
  if c.isOpen then
    { c with
      stream := c.stream ++ call.message.take (c.progress call).bytesSent
      isOpen :=
        (c.progress call).result = some .ok || (c.progress call).result = some .tryCountExhausted }
  else c

/-- A send that fails and leaves the connection up has put nothing on it. -/
def AllOrNothing (c : TxConnection) (call : SendCall) : Prop :=
  c.isOpen = true → (c.progress call).result ≠ some .ok → (c.send call).isOpen = true →
    (c.send call).stream = c.stream

end TxConnection

/-- The stream is whole messages, of which the last may be cut short. -/
def Framed (messages : List Bytes) (stream : Bytes) : Prop :=
  ∃ whole cut, stream = whole.flatten ++ cut ∧ List.Sublist whole messages ∧
    (cut = [] ∨ ∃ message ∈ messages, cut <+: message)

/-- What a list of sends on a new connection should do. -/
def WholeMessages (sendTryCount : Nat) (calls : List SendCall) : Prop :=
  Guarded TxConnection.send TxConnection.AllOrNothing { sendTryCount } calls ∧
    Framed (calls.map SendCall.message)
      (run TxConnection.send { sendTryCount } calls).stream

/-! ## The loop -/

section

variable {sendTryCount size iteration bytesSent : Nat}

theorem sendLoop_bytesSent_le (answers : List SocketAnswer) (h : bytesSent ≤ size) :
    (sendLoop sendTryCount size iteration bytesSent answers).bytesSent ≤ size := by
  induction answers generalizing iteration bytesSent with
  | nil =>
    unfold sendLoop
    split <;> exact h
  | cons answer answers ih =>
    have hmin : bytesSent + min answer.room (size - bytesSent) ≤ size := by omega
    unfold sendLoop
    split
    · exact h
    · split
      · exact h
      · dsimp only
        split
        · exact hmin
        · exact ih hmin

/-- A send that succeeds has sent the message. -/
theorem sendLoop_ok {answers : List SocketAnswer}
    (h : (sendLoop sendTryCount size iteration bytesSent answers).result = some .ok) :
    (sendLoop sendTryCount size iteration bytesSent answers).bytesSent = size := by
  induction answers generalizing iteration bytesSent with
  | nil =>
    unfold sendLoop at h
    split at h <;> cases h
  | cons answer answers ih =>
    unfold sendLoop at h ⊢
    split at h
    · cases h
    · split at h
      · cases h
      · next hused hlost =>
        rw [if_neg hused, if_neg hlost]
        dsimp only at h ⊢
        split at h
        · next hall => rw [if_pos hall, hall]
        · next hall =>
          rw [if_neg hall]
          exact ih h

/-- The tries of a send are used up behind the answers that leave a part of the message over. -/
def UsesUpTries (tries room : Nat) (answers : List SocketAnswer) : Prop :=
  tries ≤ answers.length ∧ .fails true ∉ answers.take tries ∧
    ((answers.take tries).map SocketAnswer.room).sum < room

theorem usesUpTries_zero {room : Nat} (hroom : 0 < room) (answers : List SocketAnswer) :
    UsesUpTries 0 room answers :=
  ⟨Nat.zero_le _, List.not_mem_nil, hroom⟩

theorem usesUpTries_succ {tries room : Nat} {answer : SocketAnswer} {answers : List SocketAnswer} :
    UsesUpTries (tries + 1) room (answer :: answers) ↔
      answer ≠ .fails true ∧ answer.room < room ∧
        UsesUpTries tries (room - answer.room) answers := by
  simp only [UsesUpTries, List.length_cons, List.take_succ_cons, List.mem_cons, not_or,
    List.map_cons, List.sum_cons, Nat.add_le_add_iff_right, ne_eq, eq_comm (a := answer)]
  constructor
  · rintro ⟨hlength, ⟨hanswer, hlost⟩, hsum⟩
    exact ⟨hanswer, by omega, hlength, hlost, by omega⟩
  · rintro ⟨hanswer, hroom, hlength, hlost, hsum⟩
    exact ⟨hlength, ⟨hanswer, hlost⟩, by omega⟩

/-- A send that waits for its next try gives up exactly when the answers to the tries it has left
do not make up for what is left of the message. Then it has sent what they have room for. -/
theorem sendLoop_exhausted_iff {tries : Nat} (hcount : 0 < sendTryCount)
    (htries : iteration + tries = sendTryCount) (hlt : bytesSent < size)
    (answers : List SocketAnswer) :
    ((sendLoop sendTryCount size iteration bytesSent answers).result = some .tryCountExhausted ↔
      UsesUpTries tries (size - bytesSent) answers) ∧
    (UsesUpTries tries (size - bytesSent) answers →
      (sendLoop sendTryCount size iteration bytesSent answers).bytesSent =
        bytesSent + ((answers.take tries).map SocketAnswer.room).sum) := by
  -- The induction is on the tries that are left, not on the answers.
  induction tries generalizing iteration bytesSent answers with
  | zero =>
    have hloop : sendLoop sendTryCount size iteration bytesSent answers =
        ⟨bytesSent, some .tryCountExhausted⟩ := by
      have hused : triesUsedUp sendTryCount iteration = true := by
        obtain rfl : iteration = sendTryCount := htries
        simp [triesUsedUp, hcount]
      cases answers with
      | nil => exact if_pos hused
      | cons answer answers => exact if_pos hused
    rw [hloop]
    exact ⟨iff_of_true rfl (usesUpTries_zero (Nat.sub_pos_of_lt hlt) answers), fun _ => rfl⟩
  | succ tries ih =>
    have hused : ¬ triesUsedUp sendTryCount iteration = true := by
      simp only [triesUsedUp, Bool.and_eq_true, decide_eq_true_eq]
      omega
    cases answers with
    | nil =>
      have hnot : ¬ UsesUpTries (tries + 1) (size - bytesSent) [] := fun h =>
        absurd h.1 (Nat.not_succ_le_zero tries)
      rw [sendLoop, if_neg hused]
      exact ⟨iff_of_false (by simp) hnot, fun h => absurd h hnot⟩
    | cons answer answers =>
      rw [sendLoop, if_neg hused, usesUpTries_succ]
      by_cases hlost : answer = .fails true
      · rw [if_pos hlost]
        exact ⟨iff_of_false (by simp) fun h => h.1 hlost, fun h => absurd hlost h.1⟩
      · rw [if_neg hlost]
        dsimp only
        split
        · next hall =>
          have hnot : ¬ answer.room < size - bytesSent := by omega
          exact ⟨iff_of_false (by simp) fun h => hnot h.2.1, fun h => absurd h.2.1 hnot⟩
        · next hall =>
          have hroom : answer.room < size - bytesSent := by omega
          have hmin : bytesSent + min answer.room (size - bytesSent) = bytesSent + answer.room := by
            omega
          have hnext : iteration + 1 + tries = sendTryCount := by omega
          have hleft : bytesSent + answer.room < size := by omega
          obtain ⟨hiff, hbytes⟩ := ih hnext hleft answers
          rw [hmin, hiff, Nat.sub_add_eq, List.take_succ_cons, List.map_cons,
            List.sum_cons, ← Nat.add_assoc]
          rw [Nat.sub_add_eq] at hbytes
          exact ⟨⟨fun h => ⟨hlost, hroom, h⟩, fun h => h.2.2⟩, fun h => hbytes h.2.2⟩

/-- Without a limit a send does not give up. -/
theorem sendLoop_unlimited (answers : List SocketAnswer) :
    (sendLoop 0 size iteration bytesSent answers).result ≠ some .tryCountExhausted := by
  induction answers generalizing iteration bytesSent with
  | nil =>
    unfold sendLoop
    simp [triesUsedUp]
  | cons answer answers ih =>
    have hused : ¬ triesUsedUp 0 iteration = true := by simp [triesUsedUp]
    rw [sendLoop, if_neg hused]
    split
    · simp
    · dsimp only
      split
      · simp
      · exact ih

end

/-! ## One send -/

/-- The tries of a send are used up when a part of the message is out and another is not. -/
def SendCall.GivesUpPartway (sendTryCount : Nat) (call : SendCall) : Prop :=
  0 < sendTryCount ∧ UsesUpTries sendTryCount call.message.length call.answers ∧
    0 < ((call.answers.take sendTryCount).map SocketAnswer.room).sum

namespace TxConnection

variable (c : TxConnection) (call : SendCall)

/-- The tries suffice for the whole message, or nothing of it is taken. -/
def TriesSuffice : Prop := c.isOpen = true → ¬ call.GivesUpPartway c.sendTryCount

theorem progress_bytesSent_le : (c.progress call).bytesSent ≤ call.message.length :=
  sendLoop_bytesSent_le call.answers (Nat.zero_le _)

theorem givesUpPartway_iff :
    call.GivesUpPartway c.sendTryCount ↔
      (c.progress call).result = some .tryCountExhausted ∧ 0 < (c.progress call).bytesSent := by
  have hle := c.progress_bytesSent_le call
  unfold SendCall.GivesUpPartway progress
  rcases Nat.eq_zero_or_pos c.sendTryCount with hcount | hcount
  · rw [hcount]
    exact iff_of_false (fun h => absurd h.1 (Nat.lt_irrefl 0)) fun h => sendLoop_unlimited _ h.1
  · rcases Nat.eq_zero_or_pos call.message.length with hempty | hpos
    · rw [hempty] at hle
      refine iff_of_false (fun h => ?_) fun h => absurd (h.2.trans_le hle) (Nat.lt_irrefl 0)
      exact absurd h.2.1.2.2 (by rw [hempty]; exact Nat.not_lt_zero _)
    · obtain ⟨hiff, hbytes⟩ := sendLoop_exhausted_iff hcount (Nat.zero_add _) hpos call.answers
      rw [hiff, Nat.sub_zero] at *
      constructor
      · rintro ⟨-, huses, hsum⟩
        exact ⟨huses, by rw [hbytes huses, Nat.zero_add]; exact hsum⟩
      · rintro ⟨huses, hsum⟩
        rw [hbytes huses, Nat.zero_add] at hsum
        exact ⟨hcount, huses, hsum⟩

theorem send_of_open (h : c.isOpen = true) :
    c.send call =
      { c with
        stream := c.stream ++ call.message.take (c.progress call).bytesSent
        isOpen := (c.progress call).result = some .ok ||
          (c.progress call).result = some .tryCountExhausted } := if_pos h

theorem allOrNothing_iff : c.AllOrNothing call ↔ c.TriesSuffice call := by
  refine imp_congr_right fun hopen => ?_
  rw [givesUpPartway_iff, send_of_open c call hopen]
  have hle := c.progress_bytesSent_le call
  have hnone : c.stream ++ call.message.take (c.progress call).bytesSent = c.stream ↔
      ¬ 0 < (c.progress call).bytesSent := by
    rw [List.append_right_eq_self, List.take_eq_nil_iff]
    constructor
    · rintro (hzero | hempty)
      · omega
      · rw [hempty] at hle
        exact Nat.not_lt.mpr hle
    · exact fun h => Or.inl (Nat.eq_zero_of_not_pos h)
  cases hresult : (c.progress call).result with
  | none => simp
  | some result =>
    cases result with
    | ok => simp
    | tryCountExhausted => simpa using hnone
    | connectionLost => simp

end TxConnection

/-! ## Runs -/

/-- While a connection is up there are whole messages on it. -/
structure TxConnection.Whole (c : TxConnection) (messages : List Bytes) : Prop where
  whole : c.isOpen = true →
    ∃ whole, c.stream = whole.flatten ∧ List.Sublist whole messages
  framed : Framed messages c.stream

theorem Framed.mono {messages messages' : List Bytes} {stream : Bytes}
    (h : Framed messages stream) : Framed (messages ++ messages') stream := by
  obtain ⟨whole, cut, hstream, hwhole, hcut⟩ := h
  refine ⟨whole, cut, hstream, hwhole.trans (List.sublist_append_left _ _), ?_⟩
  rcases hcut with hcut | ⟨message, hmem, hbegins⟩
  · exact Or.inl hcut
  · exact Or.inr ⟨message, List.mem_append_left _ hmem, hbegins⟩

theorem framed_of_whole {messages whole : List Bytes} {stream : Bytes}
    (hstream : stream = whole.flatten) (hwhole : List.Sublist whole messages) :
    Framed messages stream :=
  ⟨whole, [], by rw [hstream, List.append_nil], hwhole, Or.inl rfl⟩

theorem TxConnection.send_whole {c : TxConnection} {messages : List Bytes} (h : c.Whole messages)
    {call : SendCall} (hcall : c.AllOrNothing call) :
    (c.send call).Whole (messages ++ [call.message]) := by
  cases hopen : c.isOpen with
  | false =>
    rw [TxConnection.send, hopen]
    exact ⟨fun hup => absurd (hopen.symm.trans hup) Bool.false_ne_true, h.framed.mono⟩
  | true =>
    obtain ⟨whole, hstream, hwhole⟩ := h.whole hopen
    have hstream' : (c.send call).stream =
        whole.flatten ++ call.message.take (c.progress call).bytesSent := by
      rw [c.send_of_open call hopen, hstream]
    constructor
    · intro hup
      by_cases hok : (c.progress call).result = some .ok
      · have hall : (c.progress call).bytesSent = call.message.length := sendLoop_ok hok
        refine ⟨whole ++ [call.message], ?_, hwhole.append (List.Sublist.refl _)⟩
        rw [hstream', hall, List.take_length, List.flatten_append, List.flatten_singleton]
      · exact ⟨whole, (hcall hopen hok hup).trans hstream,
          hwhole.trans (List.sublist_append_left _ _)⟩
    · exact ⟨whole, call.message.take (c.progress call).bytesSent, hstream',
        hwhole.trans (List.sublist_append_left _ _),
        Or.inr ⟨call.message, List.mem_append_right _ (List.mem_singleton_self _),
          List.take_prefix _ _⟩⟩

theorem TxConnection.run_whole {c : TxConnection} {messages : List Bytes} (h : c.Whole messages)
    {calls : List SendCall} (hcalls : Guarded TxConnection.send TxConnection.AllOrNothing c calls) :
    (run TxConnection.send c calls).Whole (messages ++ calls.map SendCall.message) := by
  induction calls generalizing c messages with
  | nil => simpa using h
  | cons call calls ih =>
    have hstep := ih (TxConnection.send_whole h hcalls.1) hcalls.2
    rw [List.append_assoc, List.singleton_append] at hstep
    exact hstep

/-- On a new connection, for any `send_try_count` and whatever the socket answers, the stream is
made of whole messages, and a failed send has put nothing on a connection that stays up, exactly
when no send gives up with a part of its message out. -/
theorem wholeMessages_iff (sendTryCount : Nat) (calls : List SendCall) :
    WholeMessages sendTryCount calls ↔
      Guarded TxConnection.send TxConnection.TriesSuffice { sendTryCount } calls := by
  constructor
  · rintro ⟨hcalls, -⟩
    exact hcalls.mono fun c call => (c.allOrNothing_iff call).mp
  · intro hcalls
    have hall : Guarded TxConnection.send TxConnection.AllOrNothing { sendTryCount } calls :=
      hcalls.mono fun c call => (c.allOrNothing_iff call).mpr
    have hnew : TxConnection.Whole { sendTryCount } [] :=
      ⟨fun _ => ⟨[], rfl, List.Sublist.refl _⟩, framed_of_whole rfl (List.Sublist.refl [])⟩
    refine ⟨hall, ?_⟩
    simpa using (TxConnection.run_whole hnew hall).framed

/-- Two messages with two tries each. The socket takes one byte of the first message at each try,
and the second message at once. -/
def examplePartialCalls : List SendCall :=
  [⟨"34=5".toUTF8.toList, [.takes 1, .takes 1]⟩, ⟨"34=5!".toUTF8.toList, [.takes 5]⟩]

/-- The first send gives up behind `34`, and the second message follows it on the stream. -/
theorem wholeMessages_partial : ¬ WholeMessages 2 examplePartialCalls := by
  rintro ⟨⟨hfirst, -⟩, -⟩
  exact absurd (hfirst rfl (by decide +kernel) (by decide +kernel)) (by decide +kernel)

end Llfix
