import Llfix.Lib.GuardedRun
import Llfix.OutgoingCache

/-!
# The resend cache over several numberings

The index of the outgoing messages is keyed by the number that is stored after a send, keeps the
first message of a number, and survives every reset of the numbers. What a resend should find is
the message that was sent under a number since the last reset.

Results:
1. `KeepsCurrent`: what an event must meet so that the cache has no other message.
2. `resendCache_current`: along a run the cache has current messages everywhere exactly when
   every event meets this.
3. `resendCache_old_numbering`: after a logon with reset numbers the message of the earlier
   numbering is found.
-/

namespace Llfix

open MessageSerialiser GuardedRun

/-- What happens to the outgoing number and the outgoing messages of a session. -/
inductive CacheEvent
  /-- `send_outgoing_message`. -/
  | new (buffer : Bytes) (ret : Bool) (epoch : Nat)
  /-- One message of `resend_messages_to_server` or `resend_messages_to_client`, or the message of
  `send_gap_fill_message`. -/
  | resent (buffer : Bytes) (ret : Bool) (epoch : Nat)
  /-- A logon with 141=Y. -/
  | resetNumbers
  /-- The command `SET_OUTGOING_SEQUENCE_NUMBER`. -/
  | setOutgoingSeqNo (n : UInt32)
  /-- `send_sequence_reset_message`, the command `SEND_SEQUENCE_RESET`. -/
  | sequenceReset (desiredSequenceNo : UInt32) (buffer : Bytes) (ret : Bool) (epoch : Nat)
deriving DecidableEq, Repr

/-- A cache and, for each number, the last original message transmitted under it since the
numbers were last reset. -/
structure CacheHistory where
  cache : OutgoingCache
  transmitted : UInt32 → Option Bytes

namespace CacheHistory

/-- The cache after an event. -/
def cacheAfter (c : OutgoingCache) : CacheEvent → OutgoingCache
  | .new buffer ret epoch => c.sendBytes { incrementOutgoingSeqNo := true, buffer, ret, epoch }
  | .resent buffer ret epoch => c.sendBytes { incrementOutgoingSeqNo := false, buffer, ret, epoch }
  | .resetNumbers => { c with outgoingSeqNo := 0 }
  | .setOutgoingSeqNo n => { c with outgoingSeqNo := n }
  | .sequenceReset n buffer ret epoch =>
    { c with outgoingSeqNo := n }.sendBytes { incrementOutgoingSeqNo := false, buffer, ret, epoch }

/-- The transmitted originals after an event that met the outgoing number `stored`. A new message
carries the next number, a sequence reset the number it asks for. -/
def transmittedAfter (transmitted : UInt32 → Option Bytes) (stored : UInt32) :
    CacheEvent → UInt32 → Option Bytes
  | .new buffer ret _ => if ret then Function.update transmitted (stored + 1) (some buffer)
      else transmitted
  | .resent _ _ _ => transmitted
  | .resetNumbers => fun _ => none
  | .setOutgoingSeqNo _ => fun _ => none
  | .sequenceReset n buffer ret _ => if ret then Function.update (fun _ => none) n (some buffer)
      else fun _ => none

def step (h : CacheHistory) (e : CacheEvent) : CacheHistory :=
  { cache := cacheAfter h.cache e
    transmitted := transmittedAfter h.transmitted h.cache.outgoingSeqNo e }

/-- What the cache has for a number up to the outgoing one is the last original message
transmitted under it since the last reset. -/
def Current (h : CacheHistory) : Prop :=
  ∀ n, n ≤ h.cache.outgoingSeqNo → h.cache.serialiser.hasMessageInMemory n = true →
    ∃ m, h.transmitted n = some m ∧
      ∀ bufferSize, m.length ≤ bufferSize → h.cache.serialiser.readMessage n bufferSize = some m

/-- The cache has no message for the number, or just this one. -/
def HasAtMost (c : OutgoingCache) (n : UInt32) (m : Bytes) : Prop :=
  ∀ m', c.serialiser.lookupMessage n = some m' → m' = m

/-- A message written under the number leaves the message of the number as it is: it is not
written, or there is one already, or it has the same bytes. -/
def LeavesNumber (c : OutgoingCache) (transmitted : UInt32 → Option Bytes) (n : UInt32)
    (buffer : Bytes) : Prop :=
  c.serialiser.fitsFile buffer = true →
    c.serialiser.hasMessageInMemory n = true ∨ transmitted n = some buffer

/-- What keeps the cache current. A new message that is sent meets no other message under its
number. A message written without using up a number meets the message of the stored number. A
reset meets no message under a number up to the new one. -/
def KeepsCurrent (h : CacheHistory) : CacheEvent → Prop
  | .new buffer ret _ =>
    if ret then HasAtMost h.cache (h.cache.outgoingSeqNo + 1) buffer
    else LeavesNumber h.cache h.transmitted h.cache.outgoingSeqNo buffer
  | .resent buffer _ _ => LeavesNumber h.cache h.transmitted h.cache.outgoingSeqNo buffer
  | .resetNumbers => h.cache.serialiser.hasMessageInMemory 0 = false
  | .setOutgoingSeqNo n => ∀ k, k ≤ n → h.cache.serialiser.hasMessageInMemory k = false
  | .sequenceReset n buffer ret _ =>
    (∀ k, k < n → h.cache.serialiser.hasMessageInMemory k = false) ∧
      if ret then HasAtMost h.cache n buffer
      else h.cache.serialiser.hasMessageInMemory n = false ∧
        h.cache.serialiser.fitsFile buffer = false

/-! ## Reading as looking up -/

/-- A serialiser that keeps its records in memory. -/
structure Kept (c : OutgoingCache) : Prop where
  wellFormed : c.serialiser.WellFormed
  keeps : c.serialiser.keepMessageRecordsInMemory = true

variable {h : CacheHistory} {c : OutgoingCache}

theorem Kept.hasMessageInMemory (hc : Kept c) (n : UInt32) :
    c.serialiser.hasMessageInMemory n = (c.serialiser.lookupMessage n).isSome := by
  rw [hasMessageInMemory_eq, hc.keeps, Bool.true_and]

theorem Kept.hasMessageInMemory_false (hc : Kept c) (n : UInt32) :
    c.serialiser.hasMessageInMemory n = false ↔ c.serialiser.lookupMessage n = none := by
  rw [hc.hasMessageInMemory, Option.isSome_eq_false_iff, Option.isNone_iff_eq_none]

theorem Kept.sendBytes (hc : Kept c) (call : SendBytesCall) : Kept (c.sendBytes call) where
  wellFormed := WellFormed.write _ _ _ _ hc.wellFormed
  keeps := (write_keepMessageRecordsInMemory _ _ _ _).trans hc.keeps

theorem Kept.after (hc : Kept c) (e : CacheEvent) : Kept (cacheAfter c e) := by
  cases e with
  | new buffer ret epoch => exact hc.sendBytes _
  | resent buffer ret epoch => exact hc.sendBytes _
  | resetNumbers => exact ⟨hc.wellFormed, hc.keeps⟩
  | setOutgoingSeqNo n => exact ⟨hc.wellFormed, hc.keeps⟩
  | sequenceReset n buffer ret epoch =>
    exact Kept.sendBytes (c := { c with outgoingSeqNo := n }) ⟨hc.wellFormed, hc.keeps⟩ _

/-- The cache is current when every message of its index was transmitted. -/
theorem current_iff (hc : Kept h.cache) :
    h.Current ↔ ∀ n, n ≤ h.cache.outgoingSeqNo → ∀ m,
      h.cache.serialiser.lookupMessage n = some m → h.transmitted n = some m := by
  constructor
  · intro hcurrent n hle m hlookup
    obtain ⟨m', htransmitted, hread⟩ := hcurrent n hle
      (by rw [hc.hasMessageInMemory, hlookup]; rfl)
    have hlarge := hread (max m.length m'.length) (Nat.le_max_right _ _)
    rw [readMessage_eq hc.keeps, hlookup, Option.filter_some,
      if_pos (decide_eq_true (Nat.le_max_left _ _))] at hlarge
    rw [htransmitted, ← hlarge]
  · intro hindex n hle hmemory
    rw [hc.hasMessageInMemory, Option.isSome_iff_exists] at hmemory
    obtain ⟨m, hlookup⟩ := hmemory
    refine ⟨m, hindex n hle m hlookup, fun bufferSize hlength => ?_⟩
    rw [readMessage_eq hc.keeps, hlookup, Option.filter_some, if_pos (decide_eq_true hlength)]

/-! ## One event -/

/-- A message written under a number that is not used up. -/
theorem leavesNumber_iff (hc : Kept c) {transmitted : UInt32 → Option Bytes} {call : SendBytesCall}
    (hnumber : c.seqNoAfter call = c.outgoingSeqNo)
    (hcurrent : Current ⟨c, transmitted⟩) :
    Current ⟨c.sendBytes call, transmitted⟩ ↔
      LeavesNumber c transmitted c.outgoingSeqNo call.buffer := by
  rw [current_iff (hc.sendBytes call)]
  rw [current_iff hc] at hcurrent
  dsimp only at hcurrent ⊢
  have hstored : (c.sendBytes call).outgoingSeqNo = c.outgoingSeqNo := hnumber
  simp only [hstored, OutgoingCache.sendBytes_lookupMessage call hc.wellFormed hc.keeps, hnumber]
  rw [LeavesNumber, hc.hasMessageInMemory]
  constructor
  · intro hafter hfits
    cases hlookup : c.serialiser.lookupMessage c.outgoingSeqNo with
    | some m => exact .inl rfl
    | none =>
      refine .inr (hafter _ (UInt32.le_refl _) call.buffer ?_)
      rw [if_pos rfl, hlookup, OutgoingCache.written, if_pos hfits]
      rfl
  · intro hleaves n hle m hlookup
    by_cases hn : n = c.outgoingSeqNo
    · subst hn
      rw [if_pos rfl] at hlookup
      cases hold : c.serialiser.lookupMessage c.outgoingSeqNo with
      | some m' =>
        rw [hold, Option.some_or] at hlookup
        exact hcurrent _ hle m (hold.trans hlookup)
      | none =>
        rw [hold, Option.none_or] at hlookup
        unfold OutgoingCache.written at hlookup
        split at hlookup
        next hfits =>
          obtain rfl := Option.some.inj hlookup
          rcases hleaves hfits with hmemory | htransmitted
          · rw [hold] at hmemory
            cases hmemory
          · exact htransmitted
        next => cases hlookup
    · rw [if_neg hn] at hlookup
      exact hcurrent n hle m hlookup

/-- A message transmitted under the number of which it becomes the original. -/
theorem hasAtMost_iff (hc : Kept c) (transmitted : UInt32 → Option Bytes) (call : SendBytesCall)
    (hlower : ∀ n, n < c.seqNoAfter call → ∀ m,
      c.serialiser.lookupMessage n = some m → transmitted n = some m) :
    Current ⟨c.sendBytes call,
        Function.update transmitted (c.seqNoAfter call) (some call.buffer)⟩ ↔
      HasAtMost c (c.seqNoAfter call) call.buffer := by
  rw [current_iff (hc.sendBytes call)]
  dsimp only
  simp only [OutgoingCache.sendBytes_lookupMessage call hc.wellFormed hc.keeps]
  have hstored : (c.sendBytes call).outgoingSeqNo = c.seqNoAfter call := rfl
  rw [hstored]
  constructor
  · intro hafter m hlookup
    have hm := hafter _ (UInt32.le_refl _) m (by rw [if_pos rfl, hlookup, Option.some_or])
    rw [Function.update_self] at hm
    exact (Option.some.inj hm).symm
  · intro hatMost n hle m hlookup
    by_cases hn : n = c.seqNoAfter call
    · subst hn
      rw [if_pos rfl] at hlookup
      rw [Function.update_self]
      cases hold : c.serialiser.lookupMessage (c.seqNoAfter call) with
      | some m' =>
        rw [hold, Option.some_or] at hlookup
        obtain rfl := Option.some.inj hlookup
        rw [hatMost m' hold]
      | none =>
        rw [hold, Option.none_or] at hlookup
        unfold OutgoingCache.written at hlookup
        split at hlookup
        next => exact hlookup
        next => cases hlookup
    · rw [if_neg hn] at hlookup
      rw [Function.update_of_ne hn]
      exact hlower n (UInt32.lt_of_le_of_ne hle hn) m hlookup

/-- The lower numbers are not touched by a call. -/
theorem lower_of_current (hc : Kept c) {transmitted : UInt32 → Option Bytes} {call : SendBytesCall}
    (hcurrent : Current ⟨c.sendBytes call, transmitted⟩) {n : UInt32}
    (hlt : n < c.seqNoAfter call) {m : Bytes} (hlookup : c.serialiser.lookupMessage n = some m) :
    transmitted n = some m := by
  refine (current_iff (hc.sendBytes call)).mp hcurrent n (UInt32.le_of_lt hlt) m ?_
  dsimp only
  rw [OutgoingCache.sendBytes_lookupMessage call hc.wellFormed hc.keeps,
    if_neg (UInt32.ne_of_lt hlt), hlookup]

/-- A reset of the numbers. -/
theorem current_reset_iff (hc : Kept c) (n : UInt32) :
    Current ⟨{ c with outgoingSeqNo := n }, fun _ => none⟩ ↔
      ∀ k, k ≤ n → c.serialiser.hasMessageInMemory k = false := by
  rw [current_iff (h := ⟨{ c with outgoingSeqNo := n }, fun _ => none⟩)
    ⟨hc.wellFormed, hc.keeps⟩]
  dsimp only
  constructor
  · intro hindex k hle
    rw [hc.hasMessageInMemory_false, Option.eq_none_iff_forall_ne_some]
    intro m hlookup
    cases hindex k hle m hlookup
  · intro hnone k hle m hlookup
    have hk := (hc.hasMessageInMemory_false k).mp (hnone k hle)
    rw [hk] at hlookup
    cases hlookup

theorem sequenceReset_iff (hc : Kept c) (n : UInt32) (buffer : Bytes) (ret : Bool) (epoch : Nat)
    (transmitted : UInt32 → Option Bytes) :
    (step ⟨c, transmitted⟩ (.sequenceReset n buffer ret epoch)).Current ↔
      KeepsCurrent ⟨c, transmitted⟩ (.sequenceReset n buffer ret epoch) := by
  have hc' : Kept { c with outgoingSeqNo := n } := ⟨hc.wellFormed, hc.keeps⟩
  let call : SendBytesCall := { incrementOutgoingSeqNo := false, buffer, ret, epoch }
  -- A record of a number below the new one is stale, since nothing is sent again under it.
  have hlower : Current ⟨OutgoingCache.sendBytes { c with outgoingSeqNo := n } call,
      transmittedAfter transmitted c.outgoingSeqNo (.sequenceReset n buffer ret epoch)⟩ →
      ∀ k, k < n → c.serialiser.hasMessageInMemory k = false := by
    intro hafter k hlt
    rw [hc.hasMessageInMemory_false, Option.eq_none_iff_forall_ne_some]
    intro m hlookup
    have hk := lower_of_current hc' hafter (n := k) hlt hlookup
    cases ret with
    | false => cases hk
    | true =>
      rw [transmittedAfter, if_pos rfl, Function.update_of_ne (UInt32.ne_of_lt hlt)] at hk
      cases hk
  have hnone : (∀ k, k < n → c.serialiser.hasMessageInMemory k = false) →
      ∀ k, k < n → c.serialiser.lookupMessage k = none :=
    fun hmemory k hlt => (hc.hasMessageInMemory_false k).mp (hmemory k hlt)
  cases ret with
  | true =>
    have hiff : (∀ k, k < n → c.serialiser.hasMessageInMemory k = false) →
        (Current _ ↔ HasAtMost { c with outgoingSeqNo := n } n buffer) := fun hmemory =>
      hasAtMost_iff hc' (fun _ => none) call fun k hlt m hlookup =>
          absurd ((hnone hmemory k hlt).symm.trans hlookup) nofun
    exact ⟨fun hafter => ⟨hlower hafter, (hiff (hlower hafter)).mp hafter⟩,
      fun hkeeps => (hiff hkeeps.1).mpr hkeeps.2⟩
  | false =>
    have hnumber : (OutgoingCache.sendBytes { c with outgoingSeqNo := n }
        call).serialiser.lookupMessage n =
          (c.serialiser.lookupMessage n).or (c.written call).head? :=
      (OutgoingCache.sendBytes_lookupMessage call hc'.wellFormed hc'.keeps n).trans (if_pos rfl)
    constructor
    · intro hafter
      have hlookup : (OutgoingCache.sendBytes { c with outgoingSeqNo := n }
          call).serialiser.lookupMessage n = none := by
        rw [Option.eq_none_iff_forall_ne_some]
        intro m hlookup
        cases (current_iff (hc'.sendBytes call)).mp hafter n (UInt32.le_refl _) m hlookup
      rw [hnumber, Option.or_eq_none_iff] at hlookup
      refine ⟨hlower hafter, (hc.hasMessageInMemory_false n).mpr hlookup.1, ?_⟩
      have hwritten := hlookup.2
      unfold OutgoingCache.written at hwritten
      split at hwritten
      next => cases hwritten
      next hfits => exact Bool.eq_false_iff.mpr hfits
    · rintro ⟨hmemory, hn, hfits⟩
      refine (current_iff (hc'.sendBytes call)).mpr fun k hle m hlookup => ?_
      have hnone' : (OutgoingCache.sendBytes { c with outgoingSeqNo := n }
          call).serialiser.lookupMessage k = none := by
        by_cases hk : k = n
        · subst hk
          rw [hnumber, (hc.hasMessageInMemory_false k).mp hn, OutgoingCache.written,
            if_neg (by rw [hfits]; exact Bool.false_ne_true)]
          rfl
        · rw [OutgoingCache.sendBytes_lookupMessage call hc'.wellFormed hc'.keeps]
          exact (if_neg hk).trans (hnone hmemory k (UInt32.lt_of_le_of_ne hle hk))
      exact absurd (hnone'.symm.trans hlookup) nofun

theorem current_step_iff (hc : Kept h.cache) (hcurrent : h.Current) (e : CacheEvent) :
    (h.step e).Current ↔ h.KeepsCurrent e := by
  obtain ⟨c, transmitted⟩ := h
  cases e with
  | resent buffer ret epoch => exact leavesNumber_iff hc rfl hcurrent
  | resetNumbers =>
    refine (current_reset_iff hc 0).trans ⟨fun hnone => hnone 0 (UInt32.le_refl _), ?_⟩
    intro hzero k hle
    obtain rfl := UInt32.le_zero_iff.mp hle
    exact hzero
  | setOutgoingSeqNo n => exact current_reset_iff hc n
  | new buffer ret epoch =>
    cases ret with
    | false => exact leavesNumber_iff hc rfl hcurrent
    | true =>
      refine hasAtMost_iff hc transmitted
        { incrementOutgoingSeqNo := true, buffer, ret := true, epoch } fun n hlt m hlookup => ?_
      exact (current_iff hc).mp hcurrent n (OutgoingCache.le_of_lt_seqNoAfter _ hlt) m hlookup
  | sequenceReset n buffer ret epoch => exact sequenceReset_iff hc n buffer ret epoch _

/-- From a new serialiser on, the cache is current everywhere exactly when every event keeps it
so. -/
theorem resendCache_current {size : UInt64} {messageRecordsInitialSize : Nat}
    {s : MessageSerialiser}
    (hinitialise : initialise size true messageRecordsInitialSize [] = some s)
    (outgoingSeqNo : UInt32) (events : List CacheEvent) :
    (∀ done, done <+: events →
        (run step ⟨⟨outgoingSeqNo, s⟩, fun _ => none⟩ done).Current) ↔
      Guarded step KeepsCurrent ⟨⟨outgoingSeqNo, s⟩, fun _ => none⟩ events := by
  have hsizes := validSizes_of_initialise hinitialise
  rw [initialise_nil hsizes] at hinitialise
  obtain rfl := Option.some.inj hinitialise
  have hc : Kept ⟨outgoingSeqNo, { keepMessageRecordsInMemory := true
                                   serialisedFileMaxSize := size }⟩ := ⟨wellFormed_new hsizes, rfl⟩
  refine everywhere_iff (fun h : CacheHistory => Kept h.cache) (fun h e hc _ => hc.after e)
    (fun h e hc hcurrent => current_step_iff hc hcurrent e) events hc ?_
  exact fun n _ hmemory => absurd hmemory Bool.false_ne_true

/-- A new cache with files of one page. -/
def newHistory : CacheHistory :=
  ⟨⟨0, { keepMessageRecordsInMemory := true, serialisedFileMaxSize := 4096 }⟩, fun _ => none⟩

/-- A message and its replay. -/
theorem resendCache_current_replayed :
    (run step newHistory [.new (text "34=1\x0158=a\x01") true 0,
      .resent (text "34=1\x0143=Y\x0158=a\x01") true 0]).Current := by
  have hguarded : Guarded step KeepsCurrent newHistory [.new (text "34=1\x0158=a\x01") true 0,
      .resent (text "34=1\x0143=Y\x0158=a\x01") true 0] := by
    refine ⟨?_, ?_, trivial⟩
    · intro m hm
      cases hm
    · exact fun _ => .inl (by decide +kernel)
  exact (resendCache_current (initialise_nil ⟨by decide, by decide, fun _ => Nat.one_pos⟩) 0 _).mpr
    hguarded _ (List.prefix_refl _)

/-- After the reset the second message has the number 1 too, but the first one is found. -/
theorem resendCache_old_numbering :
    ¬ (run step newHistory [.new (text "34=1\x0158=a\x01") true 0, .resetNumbers,
        .new (text "34=1\x0158=b\x01") true 0]).Current := by
  intro hcurrent
  obtain ⟨m, htransmitted, hread⟩ := hcurrent 1 (by decide) (by decide +kernel)
  have hm : m = text "34=1\x0158=b\x01" := by
    have heq : some (text "34=1\x0158=b\x01") = some m := htransmitted
    exact (Option.some.inj heq).symm
  have hold := hread 16 (by rw [hm]; decide)
  rw [hm] at hold
  revert hold
  decide +kernel

end CacheHistory

end Llfix
