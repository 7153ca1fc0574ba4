/-!
# The queue of admin commands

`SPSCBoundedQueue` is shared by one producer (`try_push`, `push`) and one consumer (`try_pop`). Each
side decides by its cached copy of the other's index and loads that index only when the copy says
that the queue is full or empty.

A turn is one atomic load or store of one side, or its access to a slot; what a call computes in
between belongs to the turn before. A call that returns leaves a record of whether the queue was
full or empty at some moment since it was made.
-/

namespace Llfix

/-! ## The shared memory -/

structure SPSCBoundedQueue (α : Type) where
  capacity : UInt64
  buffer : List α
  writeIndex : UInt64 := 0
  cachedWriteIndex : UInt64 := 0
  readIndex : UInt64 := 0
  cachedReadIndex : UInt64 := 0
deriving DecidableEq, Repr

namespace SPSCBoundedQueue

variable {α : Type}

/-- `create`; `memory` is what the allocated slots hold. -/
def create (capacity : UInt64) (memory : List α) : SPSCBoundedQueue α :=
  { capacity := capacity, buffer := memory }

def moduloCapacity (q : SPSCBoundedQueue α) (input : UInt64) : UInt64 :=
  input - input / q.capacity * q.capacity

def size (q : SPSCBoundedQueue α) : UInt64 := q.writeIndex - q.readIndex

def isFull (q : SPSCBoundedQueue α) : Bool := q.size = q.capacity

def isEmpty (q : SPSCBoundedQueue α) : Bool := q.size = 0

/-- The values between the indices, the oldest first; `none` is a slot outside of the buffer. -/
def stored (q : SPSCBoundedQueue α) : List (Option α) :=
  (List.range q.size.toNat).map fun i =>
    q.buffer[(q.moduloCapacity (q.readIndex + UInt64.ofNat i)).toNat]?

end SPSCBoundedQueue

/-! ## Calls -/

/-- What `try_push` does next; the arguments are its local variables. -/
inductive PushStep
  | loadWriteIndex
  | loadCachedReadIndex (currentWriteIndex : UInt64)
  | loadReadIndex (currentWriteIndex : UInt64)
  | storeCachedReadIndex (currentWriteIndex readIndex : UInt64)
  | reloadCachedReadIndex (currentWriteIndex : UInt64)
  | storeValue (currentWriteIndex : UInt64)
  | storeWriteIndex (currentWriteIndex : UInt64)
deriving DecidableEq, Repr

/-- What `try_pop` does next. -/
inductive PopStep (α : Type)
  | loadReadIndex
  | loadCachedWriteIndex (currentReadIndex : UInt64)
  | loadWriteIndex (currentReadIndex : UInt64)
  | storeCachedWriteIndex (currentReadIndex writeIndex : UInt64)
  | reloadCachedWriteIndex (currentReadIndex : UInt64)
  | loadValue (currentReadIndex : UInt64)
  | storeReadIndex (currentReadIndex : UInt64) (element : α)
deriving DecidableEq, Repr

/-- A `try_push`; `retries` is set for those of the loop of `push`. -/
structure PushCall (α : Type) where
  val : α
  retries : Bool
  next : PushStep := .loadWriteIndex
  /-- The queue was full at some moment of the call. -/
  sawFull : Bool := false
deriving DecidableEq, Repr

structure PopCall (α : Type) where
  next : PopStep α := .loadReadIndex
  /-- The queue was empty at some moment of the call. -/
  sawEmpty : Bool := false
deriving DecidableEq, Repr

/-- What a `try_push` returned. -/
structure PushReturn (α : Type) where
  val : α
  pushed : Bool
  sawFull : Bool
deriving DecidableEq, Repr

/-- What a `try_pop` returned; `none` is false. -/
structure PopReturn (α : Type) where
  element : Option α
  sawEmpty : Bool
deriving DecidableEq, Repr

/-- The queue with the calls that are under way and the records of those that returned. -/
structure QueueUse (α : Type) where
  queue : SPSCBoundedQueue α
  pushCall : Option (PushCall α) := none
  popCall : Option (PopCall α) := none
  pushReturns : List (PushReturn α) := []
  popReturns : List (PopReturn α) := []
deriving DecidableEq, Repr

/-- A call that is made, or a turn of the producer or the consumer in its call. -/
inductive QueueTurn (α : Type)
  | tryPush (val : α)
  | push (val : α)
  | producer
  | tryPop
  | consumer
deriving DecidableEq, Repr

/-- A push is called for. -/
def QueueTurn.isPush {α : Type} : QueueTurn α → Bool
  | .tryPush _ => true
  | .push _ => true
  | .producer => false
  | .tryPop => false
  | .consumer => false

namespace QueueUse

variable {α : Type}

def initial (capacity : UInt64) (memory : List α) : QueueUse α :=
  { queue := SPSCBoundedQueue.create capacity memory }

/-- The values that were pushed. -/
def pushed (s : QueueUse α) : List α := (s.pushReturns.filter (·.pushed)).map (·.val)

/-- The values that were obtained. -/
def popped (s : QueueUse α) : List α := s.popReturns.filterMap (·.element)

/-- A side makes a call only when its last one has returned. -/
def beginPush (s : QueueUse α) (val : α) (retries : Bool) : QueueUse α :=
  match s.pushCall with
  | none => { s with pushCall := some { val := val, retries := retries } }
  | some _ => s

def beginPop (s : QueueUse α) : QueueUse α :=
  match s.popCall with
  | none => { s with popCall := some {} }
  | some _ => s

def pushAt (s : QueueUse α) (c : PushCall α) (next : PushStep) : QueueUse α :=
  { s with pushCall := some { c with next := next } }

def popAt (s : QueueUse α) (c : PopCall α) (next : PopStep α) : QueueUse α :=
  { s with popCall := some { c with next := next } }

/-- `try_push` returns false; `push` calls it again. -/
def pushFails (s : QueueUse α) (c : PushCall α) : QueueUse α :=
  { s with
    pushReturns := s.pushReturns ++ [⟨c.val, false, c.sawFull⟩]
    pushCall := if c.retries then some { val := c.val, retries := true } else none }

def pushSucceeds (s : QueueUse α) (c : PushCall α) : QueueUse α :=
  { s with pushReturns := s.pushReturns ++ [⟨c.val, true, c.sawFull⟩], pushCall := none }

def popReturn (s : QueueUse α) (c : PopCall α) (element : Option α) : QueueUse α :=
  { s with popReturns := s.popReturns ++ [⟨element, c.sawEmpty⟩], popCall := none }

/-- The next access of `try_push`. -/
def producerTurn (s : QueueUse α) (c : PushCall α) : QueueUse α :=
  let q := s.queue
  match c.next with
  | .loadWriteIndex => s.pushAt c (.loadCachedReadIndex q.writeIndex)
  | .loadCachedReadIndex current =>
    if q.capacity ≤ current - q.cachedReadIndex then s.pushAt c (.loadReadIndex current)
    else s.pushAt c (.reloadCachedReadIndex current)
  | .loadReadIndex current => s.pushAt c (.storeCachedReadIndex current q.readIndex)
  | .storeCachedReadIndex current readIndex =>
    { s with queue := { q with cachedReadIndex := readIndex } }.pushAt c
      (.reloadCachedReadIndex current)
  | .reloadCachedReadIndex current =>
    if current = q.cachedReadIndex + q.capacity then s.pushFails c
    else s.pushAt c (.storeValue current)
  | .storeValue current =>
    { s with queue :=
        { q with buffer := q.buffer.set (q.moduloCapacity current).toNat c.val } }.pushAt c
      (.storeWriteIndex current)
  | .storeWriteIndex current =>
    { s with queue := { q with writeIndex := current + 1 } }.pushSucceeds c

/-- The next access of `try_pop`; a read outside of the buffer gets nowhere. -/
def consumerTurn (s : QueueUse α) (c : PopCall α) : QueueUse α :=
  let q := s.queue
  match c.next with
  | .loadReadIndex => s.popAt c (.loadCachedWriteIndex q.readIndex)
  | .loadCachedWriteIndex current =>
    if current = q.cachedWriteIndex then s.popAt c (.loadWriteIndex current)
    else s.popAt c (.reloadCachedWriteIndex current)
  | .loadWriteIndex current => s.popAt c (.storeCachedWriteIndex current q.writeIndex)
  | .storeCachedWriteIndex current writeIndex =>
    { s with queue := { q with cachedWriteIndex := writeIndex } }.popAt c
      (.reloadCachedWriteIndex current)
  | .reloadCachedWriteIndex current =>
    if current = q.cachedWriteIndex then s.popReturn c none
    else s.popAt c (.loadValue current)
  | .loadValue current =>
    match q.buffer[(q.moduloCapacity current).toNat]? with
    | none => s
    | some element => s.popAt c (.storeReadIndex current element)
  | .storeReadIndex current element =>
    { s with queue := { q with readIndex := current + 1 } }.popReturn c (some element)

def act (s : QueueUse α) : QueueTurn α → QueueUse α
  | .tryPush val => s.beginPush val false
  | .push val => s.beginPush val true
  | .producer =>
    match s.pushCall with
    | none => s
    | some c => s.producerTurn c
  | .tryPop => s.beginPop
  | .consumer =>
    match s.popCall with
    | none => s
    | some c => s.consumerTurn c

/-- The calls under way take note of the state of the queue. -/
def observe (s : QueueUse α) : QueueUse α :=
  { s with
    pushCall := s.pushCall.map fun c => { c with sawFull := c.sawFull || s.queue.isFull }
    popCall := s.popCall.map fun c => { c with sawEmpty := c.sawEmpty || s.queue.isEmpty } }

def step (s : QueueUse α) (t : QueueTurn α) : QueueUse α := (s.act t).observe

/-- How many pushes are called for. -/
def pushCalls (turns : List (QueueTurn α)) : Nat :=
  turns.countP QueueTurn.isPush

end QueueUse

end Llfix
