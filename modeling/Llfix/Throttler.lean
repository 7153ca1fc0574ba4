import Llfix.Lib.SlotHistory
import Mathlib.Data.List.Induction
import Mathlib.Logic.Function.Iterate

/-!
# The throttler

`Throttler` keeps the times of the last messages in a ring of as many entries as its limit, which is
filled with stale times at first. `update` writes the time of a message into the ring and compares
it with the entry behind, the oldest one.

The ring holds the message itself already when it is compared: the oldest entry is that of the
message `limit - 1` before it. Where the counter of the ring has wrapped around, it is another one.

Results:
1. `RingBuffer.Holds.push`, `RingBuffer.Holds.replaceLast`: what the ring holds after `push` and `set`.
2. `comparedBack_unwrapped`, `comparedBack_wrapped`: the entry that is compared.
3. `Throttler.update_reachedLimit`: what raises the flag.
4. `throttler_iff`: in which runs the flag is raised for the messages beyond the limit and no others.
-/

namespace Llfix

open SlotHistory

/-! ## The ring buffer -/

/-- `RingBuffer`; `index` counts the pushes. -/
structure RingBuffer (α : Type) where
  buffer : List α
  capacity : UInt64
  index : UInt64
deriving DecidableEq, Repr

namespace RingBuffer

variable {α : Type} [Inhabited α]

def create (capacity : UInt64) : RingBuffer α :=
  { buffer := List.replicate capacity.toNat default, capacity := capacity, index := 0 }

omit [Inhabited α] in
def calculateIndex (ring : RingBuffer α) : UInt64 :=
  ring.index - ring.index / ring.capacity * ring.capacity

/-- `push` returns the index of the new item. -/
def push (ring : RingBuffer α) (t : α) : RingBuffer α × UInt64 :=
  let newItemIndex := ring.calculateIndex
  ({ ring with buffer := ring.buffer.set newItemIndex.toNat t, index := ring.index + 1 },
    newItemIndex)

def get (ring : RingBuffer α) (index : UInt64) : α := ring.buffer.getD index.toNat default

def set (ring : RingBuffer α) (index : UInt64) (val : α) : RingBuffer α :=
  { ring with buffer := ring.buffer.set index.toNat val }

end RingBuffer

/-! ## The throttler -/

structure Throttler where
  eventTimes : RingBuffer UInt64
  limit : UInt64
  windowInNanoseconds : UInt64
  waitTimeNanoSeconds : UInt64 := 0
  latestEventTimeIndex : UInt64 := 0
deriving DecidableEq, Repr

namespace Throttler

/-- `initialise`, which reads the clock once. -/
def initialise (windowInNanoseconds limit now : UInt64) : Throttler :=
  let past := if windowInNanoseconds < now then now - windowInNanoseconds else 0
  { eventTimes := (fun times : RingBuffer UInt64 => (times.push past).1)^[limit.toNat]
      (RingBuffer.create limit)
    limit := limit
    windowInNanoseconds := windowInNanoseconds }

/-- The index behind that of the latest message. -/
def firstMessageIndex (limit latest : UInt64) : UInt64 :=
  let index := latest + 1
  if limit ≤ index then index - limit else index

/-- `update` at a reading of the clock. -/
def update (throttler : Throttler) (timestampLatest : UInt64) : Throttler :=
  let (eventTimes, latest) := throttler.eventTimes.push timestampLatest
  let timestampFirst := eventTimes.get (firstMessageIndex throttler.limit latest)
  let deltaTime := timestampLatest - timestampFirst
  { throttler with
    eventTimes := eventTimes
    latestEventTimeIndex := latest
    waitTimeNanoSeconds :=
      if deltaTime < throttler.windowInNanoseconds then throttler.windowInNanoseconds - deltaTime
      else 0 }

/-- `wait`; `now` is the clock behind the sleep. -/
def wait (throttler : Throttler) (now : UInt64) : Throttler :=
  if 0 < throttler.waitTimeNanoSeconds then
    { throttler with eventTimes := throttler.eventTimes.set throttler.latestEventTimeIndex now }
  else throttler

def reachedLimit (throttler : Throttler) : Bool := 0 < throttler.waitTimeNanoSeconds

/-- One `update` for each message. -/
def updates (throttler : Throttler) (readings : List UInt64) : Throttler :=
  readings.foldl update throttler

end Throttler

/-! ## What the ring holds -/

/-- The slot of the push with number `n`, counted from 0. The counter of the pushes is a `size_t`. -/
def pushSlot (capacity n : Nat) : Nat := n % 18446744073709551616 % capacity

namespace RingBuffer

variable {α : Type} [Inhabited α] {ring : RingBuffer α} {history : List α}

/-- The values of `history` were pushed into the ring. -/
structure Holds (ring : RingBuffer α) (history : List α) : Prop where
  capacity_pos : 0 < ring.capacity.toNat
  length : ring.buffer.length = ring.capacity.toNat
  index : ring.index.toNat = history.length % 18446744073709551616
  keeps : Keeps (pushSlot ring.capacity.toNat) ring.buffer history

theorem holds_create {capacity : UInt64} (hcapacity : 0 < capacity.toNat) :
    (create capacity : RingBuffer α).Holds [] where
  capacity_pos := hcapacity
  length := List.length_replicate
  index := rfl
  keeps := Keeps.nil

namespace Holds

omit [Inhabited α]

theorem slot (h : ring.Holds history) :
    ring.calculateIndex.toNat = pushSlot ring.capacity.toNat history.length := by
  rw [calculateIndex, toNat_sub_div_mul, h.index, pushSlot]

theorem slot_lt (h : ring.Holds history) (n : Nat) :
    pushSlot ring.capacity.toNat n < ring.buffer.length := by
  rw [h.length]
  exact Nat.mod_lt _ h.capacity_pos

theorem push (h : ring.Holds history) (t : α) :
    (ring.push t).1.Holds (history ++ [t]) where
  capacity_pos := h.capacity_pos
  length := by
    rw [RingBuffer.push]
    dsimp only
    rw [List.length_set]
    exact h.length
  index := by
    rw [RingBuffer.push]
    dsimp only
    rw [UInt64.toNat_add, h.index, List.length_append]
    exact Nat.mod_add_mod _ _ _
  keeps := by
    rw [RingBuffer.push]
    dsimp only
    rw [h.slot]
    exact h.keeps.push (h.slot_lt _)

/-- `set` at the index of the last item. -/
theorem replaceLast {last : α} (h : ring.Holds (history ++ [last])) {index : UInt64}
    (hindex : index.toNat = pushSlot ring.capacity.toNat history.length) (val : α) :
    (ring.set index val).Holds (history ++ [val]) where
  capacity_pos := h.capacity_pos
  length := by
    rw [RingBuffer.set]
    dsimp only
    rw [List.length_set]
    exact h.length
  index := by
    have hindex := h.index
    rw [List.length_append] at hindex ⊢
    exact hindex
  keeps := by
    rw [RingBuffer.set]
    dsimp only
    rw [hindex]
    exact h.keeps.replaceLast (h.slot_lt _)

end Holds

theorem Holds.get (h : ring.Holds history) {n : Nat} {value : α} {index : UInt64}
    (hvalue : history[n]? = some value) (hindex : index.toNat = pushSlot ring.capacity.toNat n)
    (hlater : ∀ m, n < m → m < history.length →
      pushSlot ring.capacity.toNat m ≠ pushSlot ring.capacity.toNat n) :
    ring.get index = value := by
  rw [RingBuffer.get, hindex, List.getD_eq_getElem?_getD, h.keeps n value hvalue hlater]
  rfl

end RingBuffer

/-! ## The entry that is compared -/

/-- The index behind `index` in a ring. -/
def slotBehind (limit index : Nat) : Nat :=
  if limit ≤ index + 1 then index + 1 - limit else index + 1

/-- How many pushes before the push with number `n` the entry was pushed that `update` compares
with. It is `limit - 1`, but for the first pushes behind a wrap of the counter. -/
def comparedBack (limit n : Nat) : Nat :=
  if limit ≤ n % 18446744073709551616 + 1 then limit - 1
  else if n % 18446744073709551616 + 1 < 18446744073709551616 % limit then
    18446744073709551616 % limit - 1
  else 18446744073709551616 % limit + limit - 1

/-- The entry `comparedBack` pushes ago is the one in the slot behind, and the last one there. -/
def IsBehind (limit n : Nat) : Prop :=
  comparedBack limit n ≤ n ∧
    pushSlot limit (n - comparedBack limit n) = slotBehind limit (pushSlot limit n) ∧
    ∀ m, n - comparedBack limit n < m → m ≤ n →
      pushSlot limit m ≠ slotBehind limit (pushSlot limit n)

theorem slotBehind_mod {limit : Nat} (hlimit : 0 < limit) (r : Nat) :
    slotBehind limit (r % limit) = (r + 1) % limit := by
  have hlt := Nat.mod_lt r hlimit
  unfold slotBehind
  rw [← Nat.mod_add_mod]
  split
  next hle =>
    have heq : r % limit + 1 = limit := by omega
    rw [heq, Nat.mod_self, Nat.sub_self]
  next hlt' => exact (Nat.mod_eq_of_lt (Nat.lt_of_not_le hlt')).symm

theorem comparedBack_unwrapped {limit n : Nat} (hlimit : 0 < limit)
    (hn : limit ≤ n % 18446744073709551616 + 1) : IsBehind limit n := by
  have hback : comparedBack limit n = limit - 1 := if_pos hn
  have hoff : ∀ k, k < limit →
      pushSlot limit (n - k) = (n % 18446744073709551616 - k) % limit := by
    intro k hk
    have hmod : (n - k) % 18446744073709551616 = n % 18446744073709551616 - k := by omega
    rw [pushSlot, hmod]
  have hnext : pushSlot limit (n - (limit - 1)) = slotBehind limit (pushSlot limit n) := by
    have hsum : n % 18446744073709551616 + 1 =
        n % 18446744073709551616 - (limit - 1) + limit := by omega
    rw [hoff _ (by omega), pushSlot, slotBehind_mod hlimit, hsum, Nat.add_mod_right]
  rw [IsBehind, hback]
  refine ⟨by omega, hnext, fun m hm hmn => ?_⟩
  have hm' : n - (n - m) = m := Nat.sub_sub_self hmn
  rw [← hnext, ← hm', hoff _ (by omega), hoff _ (by omega)]
  exact mod_ne_of_near (by omega) (by omega)

/-- Behind a wrap the slots start again at 0, wherever the push before was. -/
theorem comparedBack_wrapped {limit n : Nat} (hlimit : limit < 18446744073709551616)
    (hn : limit ≤ n) (hwrapped : n % 18446744073709551616 + 1 < limit) : IsBehind limit n := by
  obtain ⟨r, hr⟩ : ∃ r, r = n % 18446744073709551616 := ⟨_, rfl⟩
  obtain ⟨e, he⟩ : ∃ e, e = 18446744073709551616 % limit := ⟨_, rfl⟩
  have hpos : 0 < limit := by omega
  have he' : e < limit := he ▸ Nat.mod_lt _ hpos
  have hnext : slotBehind limit (pushSlot limit n) = r + 1 := by
    rw [pushSlot, slotBehind_mod hpos, ← hr]
    exact Nat.mod_eq_of_lt (hr ▸ hwrapped)
  have hquotient : 18446744073709551616 / limit ≠ 0 := by
    intro h
    have hzero := Nat.div_eq_zero_iff.mp h
    omega
  have hdiv := Nat.div_add_mod 18446744073709551616 limit
  obtain ⟨q, hq⟩ := Nat.exists_eq_succ_of_ne_zero hquotient
  rw [hq, ← he, Nat.mul_succ] at hdiv
  -- the slots of the pushes behind the wrap, and of the last and the last but one round before it
  have hnear : ∀ k, k ≤ r → pushSlot limit (n - k) = r - k := by
    intro k hk
    have hmod : (n - k) % 18446744073709551616 = r - k := by omega
    rw [pushSlot, hmod]
    exact Nat.mod_eq_of_lt (by omega)
  have hlast : ∀ k, r < k → k ≤ e + r → pushSlot limit (n - k) = e + r - k := by
    intro k hk hke
    have hmod : (n - k) % 18446744073709551616 = limit * (q + 1) + (e + r - k) := by
      rw [Nat.mul_succ]
      omega
    rw [pushSlot, hmod, Nat.mul_add_mod]
    exact Nat.mod_eq_of_lt (by omega)
  have hbefore : ∀ k, e + r < k → k ≤ limit + e + r →
      pushSlot limit (n - k) = limit + e + r - k := by
    intro k hk hke
    have hmod : (n - k) % 18446744073709551616 = limit * q + (limit + e + r - k) := by omega
    rw [pushSlot, hmod, Nat.mul_add_mod]
    exact Nat.mod_eq_of_lt (by omega)
  have hback : comparedBack limit n = if r + 1 < e then e - 1 else e + limit - 1 := by
    rw [comparedBack, ← he, ← hr, if_neg (by omega)]
  have hbig : 18446744073709551616 ≤ n := by omega
  rw [IsBehind, hnext, hback]
  split
  next hlt =>
    refine ⟨by omega, ?_, fun m hm hmn => ?_⟩
    · rw [hlast _ (by omega) (by omega)]
      omega
    · have hm' : n - (n - m) = m := Nat.sub_sub_self hmn
      rw [← hm']
      rcases Nat.lt_or_ge r (n - m) with hk | hk
      · rw [hlast _ hk (by omega)]
        omega
      · rw [hnear _ hk]
        omega
  next hge =>
    refine ⟨by omega, ?_, fun m hm hmn => ?_⟩
    · rw [hbefore _ (by omega) (by omega)]
      omega
    · have hm' : n - (n - m) = m := Nat.sub_sub_self hmn
      rw [← hm']
      rcases Nat.lt_or_ge r (n - m) with hk | hk
      · rcases Nat.lt_or_ge (e + r) (n - m) with hk' | hk'
        · rw [hbefore _ hk' (by omega)]
          omega
        · rw [hlast _ hk hk']
          omega
      · rw [hnear _ hk]
        omega

theorem isBehind {limit n : Nat} (hlimit : 0 < limit) (hlt : limit < 18446744073709551616)
    (hn : limit ≤ n) : IsBehind limit n := by
  rcases Nat.lt_or_ge (n % 18446744073709551616 + 1) limit with hwrapped | hunwrapped
  · exact comparedBack_wrapped hlt hn hwrapped
  · exact comparedBack_unwrapped hlimit hunwrapped

/-! ## One message -/

namespace Throttler

variable {throttler : Throttler} {times : List UInt64}

/-- The ring of the throttler has an entry for each message of the limit, and holds these times. -/
structure Holds (throttler : Throttler) (times : List UInt64) : Prop where
  capacity : throttler.eventTimes.capacity = throttler.limit
  ring : throttler.eventTimes.Holds times
  filled : throttler.limit.toNat ≤ times.length

theorem firstMessageIndex_toNat {limit latest : UInt64} (hlatest : latest.toNat < limit.toNat) :
    (firstMessageIndex limit latest).toNat = slotBehind limit.toNat latest.toNat := by
  have hlt := limit.toNat_lt
  have hnext : (latest + 1).toNat = latest.toNat + 1 := by
    rw [UInt64.toNat_add]
    exact Nat.mod_eq_of_lt (Nat.lt_of_le_of_lt hlatest hlt)
  rw [firstMessageIndex, slotBehind, ← hnext]
  split
  next hle => rw [if_pos (UInt64.le_iff_toNat_le.mp hle), UInt64.toNat_sub_of_le _ _ hle]
  next hle => rw [if_neg (fun hc => hle (UInt64.le_iff_toNat_le.mpr hc))]

/-- The flag is raised when the entry that is compared is less than the window old. -/
theorem update_reachedLimit (h : throttler.Holds times) (t : UInt64) :
    ∃ first, (times ++ [t])[times.length - comparedBack throttler.limit.toNat times.length]? =
        some first ∧
      ((throttler.update t).reachedLimit = true ↔ t - first < throttler.windowInNanoseconds) := by
  have hpos : 0 < throttler.limit.toNat := h.capacity ▸ h.ring.capacity_pos
  obtain ⟨hle, hslot, hlater⟩ := isBehind hpos throttler.limit.toNat_lt h.filled
  have hlt : times.length - comparedBack throttler.limit.toNat times.length <
      (times ++ [t]).length := by
    rw [List.length_append]
    exact Nat.lt_succ_of_le (Nat.sub_le _ _)
  refine ⟨(times ++ [t])[times.length - comparedBack throttler.limit.toNat times.length],
    List.getElem?_eq_getElem hlt, ?_⟩
  have hlatest : (throttler.eventTimes.push t).2.toNat =
      pushSlot throttler.limit.toNat times.length := by
    rw [← h.capacity]
    exact h.ring.slot
  have hindex : (firstMessageIndex throttler.limit (throttler.eventTimes.push t).2).toNat =
      pushSlot throttler.limit.toNat
        (times.length - comparedBack throttler.limit.toNat times.length) := by
    have hbelow : pushSlot throttler.limit.toNat times.length < throttler.limit.toNat :=
      Nat.mod_lt _ hpos
    rw [firstMessageIndex_toNat (hlatest ▸ hbelow), hlatest, hslot]
  have hcapacity : (throttler.eventTimes.push t).1.capacity.toNat = throttler.limit.toNat :=
    congrArg UInt64.toNat h.capacity
  have hread : (throttler.eventTimes.push t).1.get
      (firstMessageIndex throttler.limit (throttler.eventTimes.push t).2) =
        (times ++ [t])[times.length - comparedBack throttler.limit.toNat times.length] := by
    refine (h.ring.push t).get (List.getElem?_eq_getElem hlt) ?_ fun m hm hmn => ?_
    · rw [hcapacity]
      exact hindex
    · rw [List.length_append] at hmn
      rw [hcapacity, hslot]
      exact hlater m hm (Nat.le_of_lt_succ hmn)
  rw [reachedLimit, update, decide_eq_true_eq]
  dsimp only
  rw [hread]
  split
  next hdelta =>
    refine iff_of_true ?_ hdelta
    rw [UInt64.lt_iff_toNat_lt, UInt64.toNat_sub_of_le _ _ (UInt64.le_of_lt hdelta)]
    exact Nat.sub_pos_of_lt (UInt64.lt_iff_toNat_lt.mp hdelta)
  next hdelta => exact iff_of_false (UInt64.lt_irrefl 0) hdelta

theorem Holds.update (h : throttler.Holds times) (t : UInt64) :
    (throttler.update t).Holds (times ++ [t]) where
  capacity := h.capacity
  ring := h.ring.push t
  filled := by
    rw [List.length_append]
    exact Nat.le_succ_of_le h.filled

/-- A message that waits is kept with the time behind its wait. -/
theorem Holds.wait (h : throttler.Holds times) (t now : UInt64) :
    ((throttler.update t).wait now).Holds
      (times ++ [if (throttler.update t).reachedLimit then now else t]) := by
  have hupdated := h.update t
  unfold Throttler.wait reachedLimit
  cases hwait : decide (0 < (throttler.update t).waitTimeNanoSeconds) with
  | false =>
    rw [if_neg (of_decide_eq_false hwait)]
    exact hupdated
  | true =>
    rw [if_pos (of_decide_eq_true hwait)]
    exact
      { capacity := h.capacity
        ring := hupdated.ring.replaceLast h.ring.slot now
        filled := by
          have hfilled := hupdated.filled
          rw [List.length_append] at hfilled ⊢
          exact hfilled }

/-! ## Runs -/

/-- The stale value that `initialise` fills the ring with. -/
def stale (windowInNanoseconds now : UInt64) : UInt64 :=
  if windowInNanoseconds < now then now - windowInNanoseconds else 0

theorem holds_initialise {window limit : UInt64} (hlimit : 0 < limit) (now : UInt64) :
    (initialise window limit now).Holds (List.replicate limit.toNat (stale window now)) := by
  have hpushed : ∀ n, ((fun times : RingBuffer UInt64 => (times.push (stale window now)).1)^[n]
        (RingBuffer.create limit)).Holds (List.replicate n (stale window now)) ∧
      ((fun times : RingBuffer UInt64 => (times.push (stale window now)).1)^[n]
        (RingBuffer.create limit)).capacity = limit := by
    intro n
    induction n with
    | zero => exact ⟨RingBuffer.holds_create (UInt64.lt_iff_toNat_lt.mp hlimit), rfl⟩
    | succ n ih =>
      rw [Function.iterate_succ_apply', List.replicate_succ']
      exact ⟨ih.1.push _, ih.2⟩
  obtain ⟨hring, hcapacity⟩ := hpushed limit.toNat
  exact
    { capacity := hcapacity
      ring := hring
      filled := Nat.le_of_eq List.length_replicate.symm }

theorem Holds.updates (h : throttler.Holds times) (readings : List UInt64) :
    (throttler.updates readings).Holds (times ++ readings) := by
  induction readings generalizing throttler times with
  | nil =>
    rw [List.append_nil]
    exact h
  | cons t readings ih =>
    have hrest := ih (h.update t)
    rw [List.append_assoc] at hrest
    exact hrest

theorem updates_settings (throttler : Throttler) (readings : List UInt64) :
    (throttler.updates readings).limit = throttler.limit ∧
      (throttler.updates readings).windowInNanoseconds = throttler.windowInNanoseconds := by
  induction readings generalizing throttler with
  | nil => exact ⟨rfl, rfl⟩
  | cons t readings ih => exact ih (throttler.update t)

end Throttler

/-- How many earlier messages lie less than the window before `t`. -/
def recentMessages (window t : UInt64) (earlier : List UInt64) : Nat :=
  earlier.countP fun e => t - e < window

/-- The recent messages are the last ones: there are at least `back` when the one `back` messages
ago is recent. -/
theorem le_recentMessages_iff {window t e : UInt64} {front rest : List UInt64}
    (hsorted : (front ++ e :: rest).Pairwise (· ≤ ·)) (hlast : ∀ x ∈ front ++ e :: rest, x ≤ t) :
    rest.length + 1 ≤ recentMessages window t (front ++ e :: rest) ↔ t - e < window := by
  obtain ⟨-, hrest, hfront⟩ := List.pairwise_append.mp hsorted
  have hage : ∀ x y : UInt64, x ≤ y → y ≤ t → (t - y).toNat ≤ (t - x).toNat := by
    intro x y hxy hyt
    have hx := UInt64.le_iff_toNat_le.mp hxy
    rw [UInt64.toNat_sub_of_le _ _ hyt, UInt64.toNat_sub_of_le _ _ (UInt64.le_trans hxy hyt)]
    exact Nat.sub_le_sub_left hx _
  have het : e ≤ t := hlast e (List.mem_append_right _ List.mem_cons_self)
  rw [recentMessages, List.countP_append]
  constructor
  · intro hle
    refine Decidable.byContradiction fun hold => ?_
    -- then the front is not recent either, and too few are left
    have hnone : (front.countP fun x => t - x < window) = 0 := by
      refine List.countP_eq_zero.mpr fun x hx => ?_
      rw [decide_eq_true_eq, UInt64.lt_iff_toNat_lt]
      rw [UInt64.lt_iff_toNat_lt] at hold
      have hxe := hage x e (hfront x hx e List.mem_cons_self) het
      omega
    have hcount := List.countP_le_length (p := fun x => decide (t - x < window)) (l := rest)
    rw [hnone, List.countP_cons_of_neg (by rw [decide_eq_true_eq]; exact hold)] at hle
    omega
  · intro hnew
    have hall : ((e :: rest).countP fun x => t - x < window) = (e :: rest).length := by
      refine List.countP_eq_length.mpr fun x hx => ?_
      have hxt := hlast x (List.mem_append_right _ hx)
      have hex : e ≤ x := by
        rcases List.mem_cons.mp hx with rfl | hx
        · exact UInt64.le_refl _
        · exact (List.pairwise_cons.mp hrest).1 x hx
      have hlt := UInt64.lt_iff_toNat_lt.mp hnew
      rw [decide_eq_true_eq, UInt64.lt_iff_toNat_lt]
      exact Nat.lt_of_le_of_lt (hage e x hex hxt) hlt
    rw [hall]
    exact Nat.le_add_left _ _

/-- The flag tells whether at least as many messages are recent as the entry that is compared lies
back. -/
theorem reachedLimit_iff {window limit start t : UInt64} {earlier : List UInt64}
    (hlimit : 0 < limit) (hwindow : 0 < window) (hstart : start ≤ t) (hzero : window ≤ t)
    (hsorted : earlier.Pairwise (· ≤ ·)) (hlast : ∀ x ∈ earlier, x ≤ t) :
    ((Throttler.initialise window limit start).updates (earlier ++ [t])).reachedLimit = true ↔
      comparedBack limit.toNat (limit.toNat + earlier.length) ≤
        recentMessages window t earlier := by
  let initial := Throttler.initialise window limit start
  have hholds : (initial.updates earlier).Holds
      (List.replicate limit.toNat (Throttler.stale window start) ++ earlier) :=
    (Throttler.holds_initialise hlimit start).updates earlier
  obtain ⟨hlimit', hwindow'⟩ := Throttler.updates_settings initial earlier
  have hlast' : initial.updates (earlier ++ [t]) = (initial.updates earlier).update t :=
    List.foldl_append
  obtain ⟨first, hfirst, hreached⟩ := Throttler.update_reachedLimit hholds t
  rw [hlimit', List.length_append, List.length_replicate] at hfirst
  rw [hlast', hreached, hwindow']
  show t - first < window ↔
    comparedBack limit.toNat (limit.toNat + earlier.length) ≤ recentMessages window t earlier
  change (_ : List UInt64)[limit.toNat + earlier.length -
    comparedBack limit.toNat (limit.toNat + earlier.length)]? = some first at hfirst
  generalize comparedBack limit.toNat (limit.toNat + earlier.length) = back at hfirst ⊢
  have hlength : (List.replicate limit.toNat (Throttler.stale window start)).length =
    limit.toNat := List.length_replicate
  have hlimit0 : 0 < limit.toNat := UInt64.lt_iff_toNat_lt.mp hlimit
  rcases Nat.eq_zero_or_pos back with rfl | hpos
  · -- the message is compared with itself
    have hself : first = t := by
      rw [List.getElem?_append_right (by simp), List.length_append, hlength] at hfirst
      simpa using hfirst.symm
    rw [hself, UInt64.sub_self]
    exact iff_of_true hwindow (Nat.zero_le _)
  rcases Nat.lt_or_ge earlier.length back with hfew | hmany
  · -- the entry is one of the stale values
    have hstale : first = Throttler.stale window start := by
      rw [List.append_assoc, List.getElem?_append_left (by rw [hlength]; omega)] at hfirst
      exact (List.eq_of_mem_replicate (List.mem_of_getElem? hfirst))
    have hcount : recentMessages window t earlier ≤ earlier.length := List.countP_le_length
    refine iff_of_false ?_ (by omega)
    rw [hstale, Throttler.stale]
    have hstart' := UInt64.le_iff_toNat_le.mp hstart
    have hzero' := UInt64.le_iff_toNat_le.mp hzero
    split
    next hlt =>
      have hage := UInt64.toNat_sub_of_le _ _ (UInt64.le_of_lt hlt)
      have hlt' := UInt64.lt_iff_toNat_lt.mp hlt
      have hle : start - window ≤ t := by
        rw [UInt64.le_iff_toNat_le, hage]
        omega
      rw [UInt64.lt_iff_toNat_lt, UInt64.toNat_sub_of_le _ _ hle, hage]
      omega
    next =>
      rw [UInt64.sub_zero, UInt64.lt_iff_toNat_lt]
      omega
  · -- the entry is the message `back` before
    have hlt : earlier.length - back < earlier.length := by omega
    have hentry : first = earlier[earlier.length - back] := by
      rw [List.append_assoc, List.getElem?_append_right (by rw [hlength]; omega), hlength,
        List.getElem?_append_left (by omega)] at hfirst
      have hposition : limit.toNat + earlier.length - back - limit.toNat =
          earlier.length - back := by omega
      rw [hposition, List.getElem?_eq_getElem hlt] at hfirst
      exact (Option.some.inj hfirst).symm
    have hsplit : earlier = earlier.take (earlier.length - back) ++
        earlier[earlier.length - back] :: earlier.drop (earlier.length - back + 1) := by
      rw [← List.drop_eq_getElem_cons hlt, List.take_append_drop]
    have hback : (earlier.drop (earlier.length - back + 1)).length + 1 = back := by
      rw [List.length_drop]
      omega
    rw [hsplit] at hsorted hlast
    have hrecent : _ ↔ t - earlier[earlier.length - back] < window :=
      le_recentMessages_iff hsorted hlast
    rw [hback, ← hsplit] at hrecent
    rw [hentry]
    exact hrecent.symm

/-- The counts of recent messages for which the entry that is compared and the limit say different
things. -/
def Misjudged (limit messages recent : Nat) : Prop :=
  min limit (comparedBack limit (limit + messages)) ≤ recent ∧
    recent < max limit (comparedBack limit (limit + messages))

instance (limit messages recent : Nat) : Decidable (Misjudged limit messages recent) :=
  inferInstanceAs (Decidable (_ ∧ _))

/-- As long as the counter does not wrap this is the count one below the limit. -/
theorem misjudged_iff {limit messages recent : Nat} (hlimit : 0 < limit)
    (hcounter : limit + messages < 18446744073709551616) :
    Misjudged limit messages recent ↔ recent + 1 = limit := by
  have hback : comparedBack limit (limit + messages) = limit - 1 := by
    refine if_pos ?_
    rw [Nat.mod_eq_of_lt hcounter]
    omega
  rw [Misjudged, hback]
  omega

/-- In a run the flag is raised for the messages that have `limit` recent ones before them, and for
no others, if and only if no message is misjudged. -/
theorem throttler_iff {window limit start : UInt64} {readings : List UInt64} (hlimit : 0 < limit)
    (hwindow : 1000 ≤ window) (hsorted : (start :: readings).Pairwise (· ≤ ·))
    (hzero : ∀ t ∈ readings, window ≤ t) :
    (∀ earlier t later, readings = earlier ++ t :: later →
      (((Throttler.initialise window limit start).updates (earlier ++ [t])).reachedLimit = true ↔
        limit.toNat ≤ recentMessages window t earlier)) ↔
    ∀ earlier t later, readings = earlier ++ t :: later →
      ¬ Misjudged limit.toNat earlier.length (recentMessages window t earlier) := by
  refine forall_congr' fun earlier => forall_congr' fun t => forall_congr' fun later => ?_
  refine forall_congr' fun hreadings => ?_
  subst hreadings
  obtain ⟨hstart, hreadings⟩ := List.pairwise_cons.mp hsorted
  obtain ⟨hearlier, -, hlast⟩ := List.pairwise_append.mp hreadings
  have hmem : t ∈ earlier ++ t :: later := List.mem_append_right _ List.mem_cons_self
  have hwindow' : 0 < window := UInt64.lt_of_lt_of_le (by decide) hwindow
  rw [reachedLimit_iff hlimit hwindow' (hstart t hmem) (hzero t hmem) hearlier
    (fun x hx => hlast x hx t List.mem_cons_self), Misjudged]
  omega

/-- Two messages, a window apart, with a limit of 2. -/
theorem throttler_iff_apart :
    ((Throttler.initialise 1000 2 500).updates [2000, 3000]).reachedLimit = true ↔
      (2 : UInt64).toNat ≤ recentMessages 1000 3000 [2000] := by
  have hzero : ∀ t ∈ [2000, 3000], (1000 : UInt64) ≤ t :=
    List.forall_mem_cons.mpr ⟨by decide, List.forall_mem_singleton.mpr (by decide)⟩
  refine (throttler_iff (by decide) (by decide) (by decide) hzero).mpr ?_ [2000] 3000 [] rfl
  intro earlier t later hreadings
  cases earlier with
  | nil =>
    obtain ⟨rfl, -⟩ := List.cons.inj hreadings
    decide
  | cons first earlier =>
    obtain ⟨rfl, hrest⟩ := List.cons.inj hreadings
    cases earlier with
    | nil =>
      obtain ⟨rfl, -⟩ := List.cons.inj hrest
      decide
    | cons second earlier =>
      obtain ⟨-, hnil⟩ := List.cons.inj hrest
      exact absurd hnil.symm (List.append_ne_nil_of_right_ne_nil _ (List.cons_ne_nil _ _))

/-- The first message of all raises the flag when the limit is 1. -/
theorem throttler_fails :
    ¬ (∀ earlier t later, [2000] = earlier ++ t :: later →
      (((Throttler.initialise 1000 1 500).updates (earlier ++ [t])).reachedLimit = true ↔
        (1 : UInt64).toNat ≤ recentMessages 1000 t earlier)) := by
  intro h
  have hfirst := h [] 2000 [] rfl
  revert hfirst
  decide

end Llfix
