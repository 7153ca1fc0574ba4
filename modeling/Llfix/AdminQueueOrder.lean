import Llfix.Lib.GuardedRun
import Llfix.Lib.SlotHistory
import Llfix.SPSCBoundedQueue

/-!
# The order of the admin commands

The producer and the consumer of `SPSCBoundedQueue` may be interleaved in any way.

Results:
1. `Inv.producerTurn`, `Inv.consumerTurn`: what every access keeps of the indices, the slots and
   what the two calls know.
2. `Inv.run`: so does every interleaving.
3. `adminQueue_fifo`: the consumer obtains the pushed values in order, no slot is written while it
   is read, and calls fail only when the queue was full or empty.
-/

namespace Llfix

open GuardedRun SlotHistory

/-! ## The invariant -/

namespace SPSCBoundedQueue

variable {α : Type} {q q' : SPSCBoundedQueue α} {pushed popped written : List α}

/-- Each cached index is at most the other side's index, and never so old that the reader would be
overtaken; a slot holds what was last written into it. `written` is what was pushed, with the value
of a push that has stored it and not yet said so. -/
structure Inv (q : SPSCBoundedQueue α) (pushed popped written : List α) : Prop where
  capacity_pos : 0 < q.capacity.toNat
  length : q.buffer.length = q.capacity.toNat
  cachedRead_le : q.cachedReadIndex.toNat ≤ q.readIndex.toNat
  read_le : q.readIndex.toNat ≤ q.cachedWriteIndex.toNat
  cachedWrite_le : q.cachedWriteIndex.toNat ≤ q.writeIndex.toNat
  write_le : q.writeIndex.toNat ≤ q.cachedReadIndex.toNat + q.capacity.toNat
  written_le : written.length ≤ q.cachedReadIndex.toNat + q.capacity.toNat
  pushed_length : pushed.length = q.writeIndex.toNat
  popped_eq : popped = pushed.take q.readIndex.toNat
  pushed_prefix : pushed <+: written
  keeps : Keeps (· % q.capacity.toNat) q.buffer written

theorem slot_toNat (q : SPSCBoundedQueue α) (index : UInt64) :
    (q.moduloCapacity index).toNat = index.toNat % q.capacity.toNat :=
  toNat_sub_div_mul index q.capacity

/-- The comparison with the sum of two indices, which may wrap. -/
theorem eq_add_iff {a b c : UInt64} (hle : b.toNat ≤ a.toNat) :
    a = b + c ↔ a.toNat = b.toNat + c.toNat := by
  have ha := a.toNat_lt
  have hc := c.toNat_lt
  rw [← UInt64.toNat_inj, UInt64.toNat_add]
  omega

namespace Inv

theorem read_le_write (h : q.Inv pushed popped written) :
    q.readIndex.toNat ≤ q.writeIndex.toNat := h.read_le.trans h.cachedWrite_le

theorem size_toNat (h : q.Inv pushed popped written) :
    q.size.toNat = q.writeIndex.toNat - q.readIndex.toNat :=
  UInt64.toNat_sub_of_le _ _ (UInt64.le_iff_toNat_le.mpr h.read_le_write)

theorem isFull_iff (h : q.Inv pushed popped written) :
    q.isFull = true ↔ q.writeIndex.toNat = q.readIndex.toNat + q.capacity.toNat := by
  have hle := h.read_le_write
  rw [isFull, decide_eq_true_eq, ← UInt64.toNat_inj, h.size_toNat]
  omega

theorem isEmpty_iff (h : q.Inv pushed popped written) :
    q.isEmpty = true ↔ q.writeIndex.toNat = q.readIndex.toNat := by
  have hle := h.read_le_write
  have hzero : (0 : UInt64).toNat = 0 := rfl
  rw [isEmpty, decide_eq_true_eq, ← UInt64.toNat_inj, h.size_toNat, hzero]
  omega

/-- A value that was pushed and not yet obtained is in its slot. -/
theorem slot (h : q.Inv pushed popped written) {n : Nat} (hread : q.readIndex.toNat ≤ n)
    (hwrite : n < q.writeIndex.toNat) {index : UInt64} (hindex : index.toNat = n) :
    q.buffer[(q.moduloCapacity index).toNat]? = pushed[n]? := by
  have hn : n < pushed.length := h.pushed_length ▸ hwrite
  have hvalue : written[n]? = some pushed[n] := by
    obtain ⟨rest, hrest⟩ := h.pushed_prefix
    rw [← hrest, List.getElem?_append_left hn]
    exact List.getElem?_eq_getElem hn
  have hcached := h.cachedRead_le
  have hlength := h.written_le
  rw [slot_toNat, hindex, List.getElem?_eq_getElem hn]
  refine h.keeps n _ hvalue fun m hm hmn => ?_
  exact mod_ne_of_near hm (by omega)

theorem stored (h : q.Inv pushed popped written) :
    popped.map some ++ q.stored = pushed.map some := by
  have hle := h.read_le_write
  have hlength := h.pushed_length
  have hdrop : q.stored = (pushed.drop q.readIndex.toNat).map some := by
    refine List.ext_getElem ?_ fun i hi _ => ?_
    · rw [SPSCBoundedQueue.stored, List.length_map, List.length_range, h.size_toNat,
        List.length_map, List.length_drop, hlength]
    · rw [SPSCBoundedQueue.stored, List.length_map, List.length_range, h.size_toNat] at hi
      have hwrite := q.writeIndex.toNat_lt
      have hindex : (q.readIndex + UInt64.ofNat i).toNat = q.readIndex.toNat + i := by
        rw [UInt64.toNat_add, UInt64.toNat_ofNat']
        omega
      have hslot := h.slot (Nat.le_add_right _ i) (by omega) hindex
      have hbound : q.readIndex.toNat + i < pushed.length := by omega
      simp only [SPSCBoundedQueue.stored, List.getElem_map, List.getElem_range, List.getElem_drop]
      rw [hslot, List.getElem?_eq_getElem hbound]
  rw [hdrop, h.popped_eq, ← List.map_append, List.take_append_drop]

end Inv

end SPSCBoundedQueue

/-- What a push knows; `saw` stands for a queue that was full during the call. -/
def PushStep.Inv {α : Type} (q : SPSCBoundedQueue α) (saw : Prop) : PushStep → Prop
  | .loadWriteIndex => True
  | .loadCachedReadIndex current => current = q.writeIndex
  | .loadReadIndex current => current = q.writeIndex
  | .storeCachedReadIndex current readIndex =>
    current = q.writeIndex ∧ q.cachedReadIndex.toNat ≤ readIndex.toNat ∧
      readIndex.toNat ≤ q.readIndex.toNat ∧
      (current.toNat = readIndex.toNat + q.capacity.toNat → saw)
  | .reloadCachedReadIndex current =>
    current = q.writeIndex ∧
      (current.toNat = q.cachedReadIndex.toNat + q.capacity.toNat → saw)
  | .storeValue current =>
    current = q.writeIndex ∧ current.toNat < q.cachedReadIndex.toNat + q.capacity.toNat
  | .storeWriteIndex current =>
    current = q.writeIndex ∧ current.toNat < q.cachedReadIndex.toNat + q.capacity.toNat

/-- What a pop knows. -/
def PopStep.Inv {α : Type} (q : SPSCBoundedQueue α) (pushed : List α) (saw : Prop) :
    PopStep α → Prop
  | .loadReadIndex => True
  | .loadCachedWriteIndex current => current = q.readIndex
  | .loadWriteIndex current => current = q.readIndex
  | .storeCachedWriteIndex current writeIndex =>
    current = q.readIndex ∧ q.cachedWriteIndex.toNat ≤ writeIndex.toNat ∧
      writeIndex.toNat ≤ q.writeIndex.toNat ∧ (writeIndex.toNat = current.toNat → saw)
  | .reloadCachedWriteIndex current =>
    current = q.readIndex ∧ (q.cachedWriteIndex.toNat = current.toNat → saw)
  | .loadValue current =>
    current = q.readIndex ∧ current.toNat < q.cachedWriteIndex.toNat
  | .storeReadIndex current element =>
    current = q.readIndex ∧ current.toNat < q.cachedWriteIndex.toNat ∧
      pushed[current.toNat]? = some element

/-- The value of a push that has been stored in its slot. -/
def PushCall.inFlight {α : Type} (c : PushCall α) : List α :=
  match c.next with
  | .storeWriteIndex _ => [c.val]
  | _ => []

namespace QueueUse

variable {α : Type} {s : QueueUse α}

/-- What was written into the slots. -/
def written (s : QueueUse α) : List α :=
  s.pushed ++ (s.pushCall.map PushCall.inFlight).getD []

/-- `calls` pushes were called for. With `now` the present state of the queue counts as seen. -/
structure Inv (now : Bool) (calls : Nat) (s : QueueUse α) : Prop where
  queue : s.queue.Inv s.pushed s.popped s.written
  push : ∀ c, s.pushCall = some c →
    c.next.Inv s.queue (c.sawFull = true ∨ now = true ∧ s.queue.isFull = true)
  pop : ∀ c, s.popCall = some c →
    c.next.Inv s.queue s.pushed (c.sawEmpty = true ∨ now = true ∧ s.queue.isEmpty = true)
  pushReturns : ∀ r ∈ s.pushReturns, r.pushed = false → r.sawFull = true
  popReturns : ∀ r ∈ s.popReturns, r.element = none → r.sawEmpty = true
  calls : s.pushed.length + (if s.pushCall.isSome then 1 else 0) ≤ calls

end QueueUse

/-! ## What one side leaves to the other -/

section Frames

variable {α : Type} {q q' : SPSCBoundedQueue α} {saw saw' : Prop}

/-- The consumer moves its index on. -/
theorem PushStep.Inv.frame {next : PushStep} (h : next.Inv q saw)
    (hcapacity : q'.capacity = q.capacity) (hwrite : q'.writeIndex = q.writeIndex)
    (hcached : q'.cachedReadIndex = q.cachedReadIndex)
    (hread : q.readIndex.toNat ≤ q'.readIndex.toNat) (hsaw : saw → saw') : next.Inv q' saw' := by
  cases next with
  | loadWriteIndex => exact trivial
  | loadCachedReadIndex current => exact Eq.trans h hwrite.symm
  | loadReadIndex current => exact Eq.trans h hwrite.symm
  | storeCachedReadIndex current readIndex =>
    obtain ⟨hcurrent, hle, hle', hfull⟩ := h
    rw [PushStep.Inv, hwrite, hcached, hcapacity]
    exact ⟨hcurrent, hle, hle'.trans hread, fun he => hsaw (hfull he)⟩
  | reloadCachedReadIndex current =>
    rw [PushStep.Inv, hwrite, hcached, hcapacity]
    exact ⟨h.1, fun he => hsaw (h.2 he)⟩
  | storeValue current =>
    rw [PushStep.Inv, hwrite, hcached, hcapacity]
    exact h
  | storeWriteIndex current =>
    rw [PushStep.Inv, hwrite, hcached, hcapacity]
    exact h

/-- The producer moves its index on. -/
theorem PopStep.Inv.frame {next : PopStep α} {pushed : List α} (h : next.Inv q pushed saw)
    (rest : List α) (hread : q'.readIndex = q.readIndex)
    (hcached : q'.cachedWriteIndex = q.cachedWriteIndex)
    (hwrite : q.writeIndex.toNat ≤ q'.writeIndex.toNat) (hsaw : saw → saw') :
    next.Inv q' (pushed ++ rest) saw' := by
  cases next with
  | loadReadIndex => exact trivial
  | loadCachedWriteIndex current => exact Eq.trans h hread.symm
  | loadWriteIndex current => exact Eq.trans h hread.symm
  | storeCachedWriteIndex current writeIndex =>
    obtain ⟨hcurrent, hle, hle', hempty⟩ := h
    rw [PopStep.Inv, hread, hcached]
    exact ⟨hcurrent, hle, hle'.trans hwrite, fun he => hsaw (hempty he)⟩
  | reloadCachedWriteIndex current =>
    rw [PopStep.Inv, hread, hcached]
    exact ⟨h.1, fun he => hsaw (h.2 he)⟩
  | loadValue current =>
    rw [PopStep.Inv, hread, hcached]
    exact h
  | storeReadIndex current element =>
    obtain ⟨hcurrent, hlt, helement⟩ := h
    rw [PopStep.Inv, hread, hcached]
    obtain ⟨hbound, -⟩ := List.getElem?_eq_some_iff.mp helement
    exact ⟨hcurrent, hlt, (List.getElem?_append_left hbound).trans helement⟩

end Frames

/-! ## The turns of the producer -/

namespace QueueUse

variable {α : Type} {s : QueueUse α} {calls : Nat}

theorem saw_now {saw full : Bool} (h : saw = true ∨ false = true ∧ full = true) : saw = true := by
  cases h with
  | inl h => exact h
  | inr h => exact absurd h.1 Bool.false_ne_true

theorem Inv.saw_push (h : s.Inv false calls) {c : PushCall α} (hc : s.pushCall = some c) :
    c.next.Inv s.queue (c.sawFull = true) :=
  (h.push c hc).frame rfl rfl rfl (Nat.le_refl _) saw_now

theorem Inv.saw_pop (h : s.Inv false calls) {c : PopCall α} (hc : s.popCall = some c) :
    c.next.Inv s.queue s.pushed (c.sawEmpty = true) := by
  have hpop := (h.pop c hc).frame [] rfl rfl (Nat.le_refl _) saw_now
  rwa [List.append_nil] at hpop

theorem written_of_call {c : PushCall α} (hc : s.pushCall = some c) :
    s.written = s.pushed ++ c.inFlight := by
  rw [written, hc]
  rfl

/-- The producer's turn leaves what a pop knows. -/
theorem Inv.pop_kept (h : s.Inv false calls) {c : PopCall α} (hc : s.popCall = some c)
    {q' : SPSCBoundedQueue α} (rest : List α) (hread : q'.readIndex = s.queue.readIndex)
    (hcached : q'.cachedWriteIndex = s.queue.cachedWriteIndex)
    (hwrite : s.queue.writeIndex.toNat ≤ q'.writeIndex.toNat) :
    c.next.Inv q' (s.pushed ++ rest) (c.sawEmpty = true ∨ true = true ∧ q'.isEmpty = true) :=
  (h.saw_pop hc).frame rest hread hcached hwrite Or.inl

/-- The producer goes on to its next access, and has changed no index that the consumer reads. -/
theorem Inv.pushAt (h : s.Inv false calls) {c : PushCall α} (hc : s.pushCall = some c)
    {q' : SPSCBoundedQueue α} {next : PushStep} (hread : q'.readIndex = s.queue.readIndex)
    (hcached : q'.cachedWriteIndex = s.queue.cachedWriteIndex)
    (hwrite : q'.writeIndex = s.queue.writeIndex)
    (hqueue : q'.Inv s.pushed s.popped (s.pushed ++ PushCall.inFlight { c with next := next }))
    (hnext : next.Inv q' (c.sawFull = true ∨ true = true ∧ q'.isFull = true)) :
    Inv true calls ({ s with queue := q' }.pushAt c next) where
  queue := hqueue
  push := by
    intro c' hc'
    obtain rfl := Option.some.inj hc'
    exact hnext
  pop := by
    intro c' hc'
    have hle := Nat.le_of_eq (congrArg UInt64.toNat hwrite.symm)
    have hpop := h.pop_kept hc' [] hread hcached hle
    rwa [List.append_nil] at hpop
  pushReturns := h.pushReturns
  popReturns := h.popReturns
  calls := by
    have hcalls := h.calls
    rw [hc] at hcalls
    exact hcalls

theorem pushed_pushFails (s : QueueUse α) (c : PushCall α) : (s.pushFails c).pushed = s.pushed := by
  rw [pushed, pushFails]
  dsimp only
  rw [List.filter_append, List.map_append]
  exact List.append_nil _

theorem pushed_pushSucceeds (s : QueueUse α) (c : PushCall α) :
    (s.pushSucceeds c).pushed = s.pushed ++ [c.val] := by
  rw [pushed, pushSucceeds]
  dsimp only
  rw [List.filter_append, List.map_append]
  rfl

/-- `try_push` returns false in a call that saw the queue full. -/
theorem Inv.pushFails (h : s.Inv false calls) {c : PushCall α} (hc : s.pushCall = some c)
    (hnone : c.inFlight = []) (hsaw : c.sawFull = true) : Inv true calls (s.pushFails c) := by
  have hpushed := pushed_pushFails s c
  -- Nothing was in flight, so that a failed call and a repeated one have written the same.
  have hwritten : (s.pushFails c).written = s.written := by
    have hflight : ((s.pushFails c).pushCall.map PushCall.inFlight).getD [] = [] := by
      rw [QueueUse.pushFails]
      cases c.retries with
      | false => rfl
      | true => rfl
    rw [written, hflight, hpushed, written_of_call hc, hnone]
  have hcalls : (if (s.pushFails c).pushCall.isSome then 1 else 0) ≤ 1 := by
    split
    next => exact Nat.le_refl 1
    next => exact Nat.zero_le 1
  exact
    { queue := by
        rw [hpushed, hwritten]
        exact h.queue
      push := by
        intro c' hc'
        rw [QueueUse.pushFails] at hc'
        dsimp only at hc'
        split at hc'
        next =>
          obtain rfl := Option.some.inj hc'
          exact trivial
        next => exact absurd hc'.symm (Option.some_ne_none c')
      pop := by
        intro c' hc'
        rw [hpushed]
        have hpop := h.pop_kept hc' [] rfl rfl (Nat.le_refl _)
        rw [List.append_nil] at hpop
        exact hpop
      pushReturns := by
        intro r hr hfalse
        rcases List.mem_append.mp hr with hr | hr
        · exact h.pushReturns r hr hfalse
        · rw [List.mem_singleton.mp hr]
          exact hsaw
      popReturns := h.popReturns
      calls := by
        have hold := h.calls
        rw [hc, Option.isSome_some, if_pos rfl] at hold
        rw [hpushed]
        omega }

/-- The value is in its slot and the new index says so. -/
theorem Inv.pushSucceeds (h : s.Inv false calls) {c : PushCall α} (hc : s.pushCall = some c)
    (hcalls : calls < 18446744073709551616)
    (hnext : c.next = .storeWriteIndex s.queue.writeIndex)
    (hlt : s.queue.writeIndex.toNat <
      s.queue.cachedReadIndex.toNat + s.queue.capacity.toNat) :
    Inv true calls
      ({ s with queue := { s.queue with writeIndex := s.queue.writeIndex + 1 } }.pushSucceeds
        c) := by
  have hlength := h.queue.pushed_length
  have hold := h.calls
  rw [hc, Option.isSome_some, if_pos rfl] at hold
  have hwrite : (s.queue.writeIndex + 1).toNat = s.queue.writeIndex.toNat + 1 := by
    rw [UInt64.toNat_add]
    have hone : (1 : UInt64).toNat = 1 := rfl
    rw [hone, Nat.mod_eq_of_lt (by omega)]
  have hwritten : s.written = s.pushed ++ [c.val] := by
    rw [written_of_call hc, PushCall.inFlight, hnext]
  -- What was in flight becomes pushed: the values written stay the same.
  obtain ⟨q', hq'⟩ : ∃ q', q' = { s.queue with writeIndex := s.queue.writeIndex + 1 } := ⟨_, rfl⟩
  rw [← hq']
  have hpushed : ({ s with queue := q' }.pushSucceeds c).pushed = s.pushed ++ [c.val] :=
    pushed_pushSucceeds { s with queue := q' } c
  have hread := h.queue.read_le_write
  have hqueue : q'.Inv (s.pushed ++ [c.val]) s.popped (s.pushed ++ [c.val]) := by
    have hinv := h.queue
    rw [hwritten] at hinv
    subst hq'
    exact
      { capacity_pos := hinv.capacity_pos
        length := hinv.length
        cachedRead_le := hinv.cachedRead_le
        read_le := hinv.read_le
        cachedWrite_le := by
          have hle := hinv.cachedWrite_le
          dsimp only
          omega
        write_le := by
          dsimp only
          omega
        written_le := hinv.written_le
        pushed_length := by
          rw [List.length_append, hlength]
          exact hwrite.symm
        popped_eq := by
          rw [List.take_append_of_le_length (hlength ▸ hread)]
          exact hinv.popped_eq
        pushed_prefix := List.prefix_refl _
        keeps := hinv.keeps }
  exact
    { queue := by
        rw [hpushed, written, hpushed]
        exact (List.append_nil (s.pushed ++ [c.val])).symm ▸ hqueue
      push := by
        intro c' hc'
        exact absurd hc'.symm (Option.some_ne_none c')
      pop := by
        intro c' hc'
        rw [hpushed]
        have hle : s.queue.writeIndex.toNat ≤ q'.writeIndex.toNat := by
          rw [hq']
          dsimp only
          omega
        subst hq'
        exact h.pop_kept hc' [c.val] rfl rfl hle
      pushReturns := by
        intro r hr hfalse
        rcases List.mem_append.mp hr with hr | hr
        · exact h.pushReturns r hr hfalse
        · rw [List.mem_singleton.mp hr] at hfalse
          exact absurd hfalse.symm Bool.false_ne_true
      popReturns := h.popReturns
      calls := by
        rw [hpushed, List.length_append]
        exact hold }

theorem Inv.producerTurn (h : s.Inv false calls) {c : PushCall α} (hc : s.pushCall = some c)
    (hcalls : calls < 18446744073709551616) : Inv true calls (s.producerTurn c) := by
  have hsaw := h.saw_push hc
  have hqueue := h.queue
  rw [written_of_call hc] at hqueue
  have hread := h.queue.read_le_write
  obtain ⟨val, retries, next, sawFull⟩ := c
  -- One case for each access of `try_push` to the queue, in the order of the source.
  cases next with
  | loadWriteIndex => exact h.pushAt hc rfl rfl rfl hqueue rfl
  | loadCachedReadIndex current =>
    obtain rfl : current = s.queue.writeIndex := hsaw
    rw [QueueUse.producerTurn]
    dsimp only
    have hcached := h.queue.cachedRead_le
    have hage := UInt64.toNat_sub_of_le s.queue.writeIndex s.queue.cachedReadIndex
      (UInt64.le_iff_toNat_le.mpr (hcached.trans hread))
    split
    next => exact h.pushAt hc rfl rfl rfl hqueue rfl
    next hspace =>
      refine h.pushAt hc rfl rfl rfl hqueue ⟨rfl, fun hfull => absurd ?_ hspace⟩
      rw [UInt64.le_iff_toNat_le, hage, hfull]
      omega
  | loadReadIndex current =>
    obtain rfl : current = s.queue.writeIndex := hsaw
    have hfull : s.queue.writeIndex.toNat = s.queue.readIndex.toNat + s.queue.capacity.toNat →
        sawFull = true ∨ true = true ∧ s.queue.isFull = true :=
      fun he => Or.inr ⟨rfl, h.queue.isFull_iff.mpr he⟩
    exact h.pushAt hc rfl rfl rfl hqueue ⟨rfl, h.queue.cachedRead_le, Nat.le_refl _, hfull⟩
  | storeCachedReadIndex current readIndex =>
    obtain ⟨rfl, hle, hle', hfull⟩ := hsaw
    refine h.pushAt hc rfl rfl rfl ?_ ⟨rfl, fun he => Or.inl (hfull he)⟩
    exact
      { hqueue with
        cachedRead_le := hle'
        write_le := hqueue.write_le.trans (Nat.add_le_add_right hle _)
        written_le := hqueue.written_le.trans (Nat.add_le_add_right hle _) }
  | reloadCachedReadIndex current =>
    obtain ⟨rfl, hfull⟩ := hsaw
    have hwrite := h.queue.write_le
    have hcached := h.queue.cachedRead_le
    have hiff := SPSCBoundedQueue.eq_add_iff (c := s.queue.capacity) (hcached.trans hread)
    rw [QueueUse.producerTurn]
    dsimp only
    split
    next heq => exact h.pushFails hc rfl (hfull (hiff.mp heq))
    next hne =>
      refine h.pushAt hc rfl rfl rfl hqueue ⟨rfl, Nat.lt_of_le_of_ne hwrite ?_⟩
      exact fun he => hne (hiff.mpr he)
  | storeValue current =>
    obtain ⟨rfl, hlt⟩ := hsaw
    refine h.pushAt hc rfl rfl rfl ?_ ⟨rfl, hlt⟩
    have hlength := hqueue.pushed_length
    have hslot : (s.queue.moduloCapacity s.queue.writeIndex).toNat =
        s.pushed.length % s.queue.capacity.toNat := by
      rw [SPSCBoundedQueue.slot_toNat, hlength]
    have hnone : s.pushed ++ PushCall.inFlight ⟨val, retries, .storeValue s.queue.writeIndex,
        sawFull⟩ = s.pushed := List.append_nil _
    rw [hnone] at hqueue
    exact
      { hqueue with
        length := by
          dsimp only
          rw [List.length_set]
          exact hqueue.length
        written_le := by
          dsimp only [PushCall.inFlight]
          rw [List.length_append, hlength]
          exact hlt
        pushed_prefix := List.prefix_append _ _
        keeps := by
          dsimp only [PushCall.inFlight]
          rw [hslot]
          refine hqueue.keeps.push ?_
          rw [hqueue.length]
          exact Nat.mod_lt _ hqueue.capacity_pos }
  | storeWriteIndex current =>
    obtain ⟨rfl, hlt⟩ := hsaw
    exact h.pushSucceeds hc hcalls rfl hlt

/-! ## The turns of the consumer -/

/-- The consumer's turn leaves what a push knows. -/
theorem Inv.push_kept (h : s.Inv false calls) {c : PushCall α} (hc : s.pushCall = some c)
    {q' : SPSCBoundedQueue α} (hcapacity : q'.capacity = s.queue.capacity)
    (hwrite : q'.writeIndex = s.queue.writeIndex)
    (hcached : q'.cachedReadIndex = s.queue.cachedReadIndex)
    (hread : s.queue.readIndex.toNat ≤ q'.readIndex.toNat) :
    c.next.Inv q' (c.sawFull = true ∨ true = true ∧ q'.isFull = true) :=
  (h.saw_push hc).frame hcapacity hwrite hcached hread Or.inl

/-- The consumer goes on to its next access, and has changed no index that the producer reads. -/
theorem Inv.popAt (h : s.Inv false calls) (c : PopCall α) {q' : SPSCBoundedQueue α}
    {next : PopStep α} (hcapacity : q'.capacity = s.queue.capacity)
    (hwrite : q'.writeIndex = s.queue.writeIndex)
    (hcached : q'.cachedReadIndex = s.queue.cachedReadIndex)
    (hread : q'.readIndex = s.queue.readIndex) (hqueue : q'.Inv s.pushed s.popped s.written)
    (hnext : next.Inv q' s.pushed (c.sawEmpty = true ∨ true = true ∧ q'.isEmpty = true)) :
    Inv true calls ({ s with queue := q' }.popAt c next) where
  queue := hqueue
  push := fun c' hc' => h.push_kept hc' hcapacity hwrite hcached
    (Nat.le_of_eq (congrArg UInt64.toNat hread.symm))
  pop := by
    intro c' hc'
    obtain rfl := Option.some.inj hc'
    exact hnext
  pushReturns := h.pushReturns
  popReturns := h.popReturns
  calls := h.calls

/-- `try_pop` returns, with the oldest value or in a call that saw the queue empty. -/
theorem Inv.popReturn (h : s.Inv false calls) (c : PopCall α) {q' : SPSCBoundedQueue α}
    {element : Option α} (hcapacity : q'.capacity = s.queue.capacity)
    (hwrite : q'.writeIndex = s.queue.writeIndex)
    (hcached : q'.cachedReadIndex = s.queue.cachedReadIndex)
    (hread : s.queue.readIndex.toNat ≤ q'.readIndex.toNat)
    (hqueue : q'.Inv s.pushed (s.popped ++ element.toList) s.written)
    (hsaw : element = none → c.sawEmpty = true) :
    Inv true calls ({ s with queue := q' }.popReturn c element) where
  queue := by
    have hpopped : ({ s with queue := q' }.popReturn c element).popped =
        s.popped ++ element.toList := by
      rw [popped, QueueUse.popReturn]
      dsimp only
      rw [List.filterMap_append]
      cases element with
      | none => rfl
      | some element => rfl
    rw [hpopped]
    exact hqueue
  push := fun c' hc' => h.push_kept hc' hcapacity hwrite hcached hread
  pop := fun c' hc' => absurd hc'.symm (Option.some_ne_none c')
  pushReturns := h.pushReturns
  popReturns := by
    intro r hr hnone
    rcases List.mem_append.mp hr with hr | hr
    · exact h.popReturns r hr hnone
    · rw [List.mem_singleton.mp hr] at hnone ⊢
      exact hsaw hnone
  calls := h.calls

theorem Inv.consumerTurn (h : s.Inv false calls) {c : PopCall α} (hc : s.popCall = some c) :
    Inv true calls (s.consumerTurn c) := by
  have hsaw := h.saw_pop hc
  have hqueue := h.queue
  obtain ⟨next, sawEmpty⟩ := c
  -- One case for each access of `try_pop`; only the last one moves an index the producer reads.
  cases next with
  | loadReadIndex => exact h.popAt _ rfl rfl rfl rfl hqueue rfl
  | loadCachedWriteIndex current =>
    obtain rfl : current = s.queue.readIndex := hsaw
    rw [QueueUse.consumerTurn]
    dsimp only
    split
    next => exact h.popAt _ rfl rfl rfl rfl hqueue rfl
    next hne =>
      refine h.popAt _ rfl rfl rfl rfl hqueue ⟨rfl, fun he => absurd ?_ hne⟩
      exact UInt64.toNat_inj.mp he.symm
  | loadWriteIndex current =>
    obtain rfl : current = s.queue.readIndex := hsaw
    refine h.popAt _ rfl rfl rfl rfl hqueue ⟨rfl, hqueue.cachedWrite_le, Nat.le_refl _, ?_⟩
    exact fun he => Or.inr ⟨rfl, hqueue.isEmpty_iff.mpr he⟩
  | storeCachedWriteIndex current writeIndex =>
    obtain ⟨rfl, hle, hle', hempty⟩ := hsaw
    refine h.popAt _ rfl rfl rfl rfl ?_ ⟨rfl, fun he => Or.inl (hempty he)⟩
    exact
      { hqueue with
        read_le := hqueue.read_le.trans hle
        cachedWrite_le := hle' }
  | reloadCachedWriteIndex current =>
    obtain ⟨rfl, hempty⟩ := hsaw
    rw [QueueUse.consumerTurn]
    dsimp only
    split
    next heq =>
      have hpopped : s.popped ++ (none : Option α).toList = s.popped := List.append_nil _
      refine h.popReturn _ rfl rfl rfl (Nat.le_refl _) ?_ fun _ => hempty ?_
      · rw [hpopped]
        exact hqueue
      · rw [← heq]
    next hne =>
      refine h.popAt _ rfl rfl rfl rfl hqueue ⟨rfl, Nat.lt_of_le_of_ne hqueue.read_le ?_⟩
      exact fun he => hne (UInt64.toNat_inj.mp he)
  | loadValue current =>
    obtain ⟨rfl, hlt⟩ := hsaw
    have hwrite := Nat.lt_of_lt_of_le hlt hqueue.cachedWrite_le
    have hbound : s.queue.readIndex.toNat < s.pushed.length := hqueue.pushed_length ▸ hwrite
    have hslot := hqueue.slot (Nat.le_refl _) hwrite rfl
    rw [List.getElem?_eq_getElem hbound] at hslot
    rw [QueueUse.consumerTurn]
    dsimp only
    rw [hslot]
    exact h.popAt _ rfl rfl rfl rfl hqueue ⟨rfl, hlt, List.getElem?_eq_getElem hbound⟩
  | storeReadIndex current element =>
    obtain ⟨rfl, hlt, helement⟩ := hsaw
    have hwrite := s.queue.writeIndex.toNat_lt
    have hcached := hqueue.cachedWrite_le
    have hread : (s.queue.readIndex + 1).toNat = s.queue.readIndex.toNat + 1 := by
      rw [UInt64.toNat_add]
      have hone : (1 : UInt64).toNat = 1 := rfl
      rw [hone, Nat.mod_eq_of_lt (by omega)]
    have hle : s.queue.readIndex.toNat ≤ (s.queue.readIndex + 1).toNat := by
      rw [hread]
      exact Nat.le_succ _
    refine h.popReturn _ rfl rfl rfl hle ?_ fun hnone => absurd hnone (Option.some_ne_none element)
    exact
      { hqueue with
        cachedRead_le := hqueue.cachedRead_le.trans hle
        read_le := by
          dsimp only
          rw [hread]
          exact hlt
        popped_eq := by
          dsimp only
          rw [hread, List.take_add_one, ← hqueue.popped_eq, helement] }

/-! ## Every interleaving -/

theorem Inv.act (h : s.Inv false calls) (t : QueueTurn α)
    (hcalls : calls < 18446744073709551616) :
    Inv true (calls + if t.isPush then 1 else 0) (s.act t) := by
  -- A turn of a side that has no call under way changes nothing.
  have hsame : Inv true calls s :=
    { h with
      push := fun c hc => h.push_kept hc rfl rfl rfl (Nat.le_refl _)
      pop := fun c hc => by
        have hpop := h.pop_kept hc [] rfl rfl (Nat.le_refl _)
        rwa [List.append_nil] at hpop }
  have hbegin : ∀ val retries, Inv true (calls + 1) (s.beginPush val retries) := by
    intro val retries
    have hold := h.calls
    unfold beginPush
    cases hc : s.pushCall with
    | some c => exact { hsame with calls := Nat.le_succ_of_le hold }
    | none =>
      have hwritten : s.written = s.pushed := by
        rw [written, hc]
        exact List.append_nil _
      have hqueue := h.queue
      rw [hwritten] at hqueue
      rw [hc] at hold
      exact
        { queue := by
            rw [written]
            exact (List.append_nil s.pushed).symm ▸ hqueue
          push := by
            intro c hc'
            obtain rfl := Option.some.inj hc'
            exact trivial
          pop := hsame.pop
          pushReturns := h.pushReturns
          popReturns := h.popReturns
          calls := Nat.succ_le_succ hold }
  cases t with
  | tryPush val => exact hbegin val false
  | push val => exact hbegin val true
  | producer =>
    rw [QueueUse.act]
    cases hc : s.pushCall with
    | none => exact hsame
    | some c => exact h.producerTurn hc hcalls
  | tryPop =>
    rw [QueueUse.act, beginPop]
    cases hc : s.popCall with
    | some c => exact hsame
    | none =>
      exact
        { hsame with
          pop := by
            intro c hc'
            obtain rfl := Option.some.inj hc'
            exact trivial }
  | consumer =>
    rw [QueueUse.act]
    cases hc : s.popCall with
    | none => exact hsame
    | some c => exact h.consumerTurn hc

/-- What is so now has been seen by every call under way. -/
theorem Inv.observe (h : s.Inv true calls) : s.observe.Inv false calls where
  queue := by
    have hwritten : s.observe.written = s.written := by
      rw [written, written, QueueUse.observe]
      cases s.pushCall with
      | none => rfl
      | some c => rfl
    rw [hwritten]
    exact h.queue
  push := by
    intro c' hc'
    obtain ⟨c, hc, rfl⟩ := Option.map_eq_some_iff.mp hc'
    refine (h.push c hc).frame rfl rfl rfl (Nat.le_refl _) fun hsaw => Or.inl ?_
    rw [Bool.or_eq_true]
    exact hsaw.imp_right And.right
  pop := by
    intro c' hc'
    obtain ⟨c, hc, rfl⟩ := Option.map_eq_some_iff.mp hc'
    have hsaw : c.sawEmpty = true ∨ true = true ∧ s.queue.isEmpty = true →
        (c.sawEmpty || s.queue.isEmpty) = true ∨ false = true ∧ s.queue.isEmpty = true := by
      intro hsaw
      rw [Bool.or_eq_true]
      exact Or.inl (hsaw.imp_right And.right)
    have hpop := (h.pop c hc).frame [] rfl rfl (Nat.le_refl _) hsaw
    rwa [List.append_nil] at hpop
  pushReturns := h.pushReturns
  popReturns := h.popReturns
  calls := by
    have hcalls := h.calls
    rw [QueueUse.observe, Option.isSome_map]
    exact hcalls

theorem inv_initial {capacity : UInt64} {memory : List α} (hcapacity : 0 < capacity)
    (hmemory : memory.length = capacity.toNat) : (initial capacity memory).Inv false 0 where
  queue :=
    { capacity_pos := UInt64.lt_iff_toNat_lt.mp hcapacity
      length := hmemory
      cachedRead_le := Nat.le_refl _
      read_le := Nat.le_refl _
      cachedWrite_le := Nat.le_refl _
      write_le := Nat.zero_le _
      written_le := Nat.zero_le _
      pushed_length := rfl
      popped_eq := rfl
      pushed_prefix := List.prefix_refl _
      keeps := Keeps.nil }
  push := fun c hc => absurd hc.symm (Option.some_ne_none c)
  pop := fun c hc => absurd hc.symm (Option.some_ne_none c)
  pushReturns := fun _ hr => absurd hr List.not_mem_nil
  popReturns := fun _ hr => absurd hr List.not_mem_nil
  calls := Nat.le_refl 0

theorem Inv.run (h : s.Inv false calls) (turns : List (QueueTurn α))
    (hcalls : calls + pushCalls turns < 18446744073709551616) :
    Inv false (calls + pushCalls turns) (run step s turns) := by
  induction turns generalizing s calls with
  | nil => exact h
  | cons t turns ih =>
    have hcons : pushCalls (t :: turns) = pushCalls turns + if t.isPush then 1 else 0 :=
      List.countP_cons
    have hsum : calls + pushCalls (t :: turns) =
        calls + (if t.isPush then 1 else 0) + pushCalls turns := by omega
    rw [hsum] at hcalls ⊢
    exact ih (h.act t (by omega)).observe hcalls

theorem act_capacity (s : QueueUse α) (t : QueueTurn α) :
    (s.act t).queue.capacity = s.queue.capacity := by
  cases t with
  | tryPush val =>
    rw [QueueUse.act, beginPush]
    split <;> rfl
  | push val =>
    rw [QueueUse.act, beginPush]
    split <;> rfl
  | producer =>
    rw [QueueUse.act]
    split
    next => rfl
    next c =>
      unfold QueueUse.producerTurn
      dsimp only
      split
      all_goals first | rfl | (split <;> rfl)
  | tryPop =>
    rw [QueueUse.act, beginPop]
    split <;> rfl
  | consumer =>
    rw [QueueUse.act]
    split
    next => rfl
    next c =>
      unfold QueueUse.consumerTurn
      dsimp only
      split
      all_goals first | rfl | (split <;> rfl)

theorem run_capacity (s : QueueUse α) (turns : List (QueueTurn α)) :
    (run step s turns).queue.capacity = s.queue.capacity := by
  induction turns generalizing s with
  | nil => rfl
  | cons t turns ih => exact (ih (s.step t)).trans (act_capacity s t)

end QueueUse

/-- In every interleaving of the accesses of one producer and one consumer: the values obtained and
the values stored are the values pushed, in their order; no more values are stored than the queue
has slots; a `try_push` returns false only when the queue was full at some moment of the call, a
`try_pop` only when it was empty; no slot is written while it is read. -/
theorem adminQueue_fifo {α : Type} {capacity : UInt64} {memory : List α} (hcapacity : 0 < capacity)
    (hmemory : memory.length = capacity.toNat) (turns : List (QueueTurn α))
    (hcalls : QueueUse.pushCalls turns < 18446744073709551616) :
    let s := run QueueUse.step (QueueUse.initial capacity memory) turns
    s.popped.map some ++ s.queue.stored = s.pushed.map some ∧
      s.queue.stored.length ≤ capacity.toNat ∧
      (∀ r ∈ s.pushReturns, r.pushed = false → r.sawFull = true) ∧
      (∀ r ∈ s.popReturns, r.element = none → r.sawEmpty = true) ∧
      (∀ push pop written read, s.pushCall = some push → push.next = .storeValue written →
        s.popCall = some pop → pop.next = .loadValue read →
        s.queue.moduloCapacity written ≠ s.queue.moduloCapacity read) := by
  have hinv := (QueueUse.inv_initial hcapacity hmemory).run turns (by rwa [Nat.zero_add])
  have hcap := QueueUse.run_capacity (QueueUse.initial capacity memory) turns
  intro s
  have hqueue := hinv.queue
  change s.queue.Inv s.pushed s.popped s.written at hqueue
  change s.queue.capacity = capacity at hcap
  have hwrite := hqueue.write_le
  have hcached := hqueue.cachedRead_le
  refine ⟨hqueue.stored, ?_, hinv.pushReturns, hinv.popReturns, ?_⟩
  · rw [SPSCBoundedQueue.stored, List.length_map, List.length_range, hqueue.size_toNat, ← hcap]
    omega
  · intro push pop written read hpush hwritten hpop hread
    have hpushing := hinv.saw_push hpush
    have hpopping := hinv.saw_pop hpop
    rw [hwritten] at hpushing
    rw [hread] at hpopping
    obtain ⟨rfl, hspace⟩ := hpushing
    obtain ⟨rfl, hvalue⟩ := hpopping
    have hlt := Nat.lt_of_lt_of_le hvalue hqueue.cachedWrite_le
    have hnear := Nat.lt_of_lt_of_le hspace (Nat.add_le_add_right hcached _)
    intro heq
    have hslots := congrArg UInt64.toNat heq
    rw [SPSCBoundedQueue.slot_toNat, SPSCBoundedQueue.slot_toNat] at hslots
    exact mod_ne_of_near hlt hnear hslots

/-- Two pushes into a queue of one slot, the second of which finds it full and tries again until the
consumer has taken the first value. -/
theorem adminQueue_fifo_full :
    let turns : List (QueueTurn Nat) :=
      [.push 5, .producer, .producer, .producer, .producer, .producer, .push 6, .producer,
        .producer, .producer, .producer, .producer, .tryPop, .consumer, .consumer, .consumer,
        .consumer, .consumer, .consumer, .consumer, .producer, .producer, .producer, .producer]
    let s := run QueueUse.step (QueueUse.initial 1 [0]) turns
    s.popped.map some ++ s.queue.stored = s.pushed.map some ∧ s.popped = [5] ∧
      s.pushReturns = [⟨5, true, false⟩, ⟨6, false, true⟩] := by
  intro turns s
  exact ⟨(adminQueue_fifo (by decide) rfl turns (by decide)).1, by decide, by decide⟩

end Llfix
