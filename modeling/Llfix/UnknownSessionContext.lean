import Llfix.Dictionary
import Llfix.Messages
import Llfix.Lib.GuardedRun

/-!
# The context of unknown sessions

Messages on connections without a session are parsed into one `IncomingFixMessage` per thread.
`get_thread_local_unknown_session_context` initialises its dictionary with 64 nodes again for
every message, while `reset` only takes the next generation and keeps all keys. The keys of every
message the thread has seen have to fit into the new block.

Results:
1. `parse_view`: a message parsed here reads like its list of tags, as the session logic takes it.
2. `parse_represents`: the keys of the dictionary are the distinct tags seen so far.
3. `preLogonParsing_inBounds_iff`: when parsing stays inside the blocks it allocates.
-/

namespace Llfix

open ChainTable GuardedRun

/-- `MurmurHash3<uint32_t>`. -/
def murmurHash3 (h : UInt32) : UInt32 :=
  let h := h ^^^ (h >>> 16)
  let h := h * 0x85ebca6b
  let h := h ^^^ (h >>> 13)
  let h := h * 0xc2b2ae35
  h ^^^ (h >>> 16)

def tagHash (tag : Tag) : Nat := (murmurHash3 tag).toNat

structure IncomingValue where
  value : Bytes
  generationId : UInt64 := 0
deriving Repr

/-- `IncomingFixMessage` as it is stored: the dictionary and the current generation. -/
structure DictMessage where
  dict : Dictionary Tag IncomingValue := {}
  generationId : UInt64 := 1

/-- One pair that the parser records; `allocated` answers the allocation it may need. -/
structure RecordedTag where
  tag : Tag
  value : Bytes
  allocated : Bool := true

/-- What a read on an unmapped connection parses for one message. -/
structure UnknownMessage where
  /-- The dictionary gets its memory in `initialise`. -/
  contextAllocated : Bool := true
  /-- The cache of string views is created. -/
  cacheCreated : Bool := true
  tags : List RecordedTag

namespace DictMessage

def setDict (m : DictMessage) (dict : Dictionary Tag IncomingValue) : DictMessage :=
  { m with dict := dict }

def initialise (m : DictMessage) (allocated : Bool) : DictMessage × Bool :=
  let (dict, ok) := m.dict.initialise tagHash 64 allocated
  (m.setDict dict, ok)

def hasTag (m : DictMessage) (tag : Tag) : Bool :=
  match m.dict.get tagHash tag with
  | none => false
  | some value => value.generationId = m.generationId

def setTag (m : DictMessage) (tag : Tag) (value : Bytes) (allocated : Bool) : DictMessage :=
  let node := { value, generationId := m.generationId }
  if m.dict.hasKey tagHash tag then m.setDict (m.dict.setExistingItem tagHash tag node)
  else m.setDict (m.dict.insert tagHash tag node allocated).1

def reset (m : DictMessage) : DictMessage :=
  if m.generationId + 1 = 0 then
    { dict := m.dict.forEach fun value => { value with generationId := 0 }
      generationId := 1 }
  else { m with generationId := m.generationId + 1 }

/-- The parser records a pair outside of repeating groups; a tag that is there already only sets
the reject code. -/
def recordTag (m : DictMessage) (t : RecordedTag) : DictMessage :=
  if m.hasTag t.tag = false then m.setTag t.tag t.value t.allocated else m

/-- `get_thread_local_unknown_session_context`; the second component says that it returns the
context. -/
def getThreadLocalUnknownSessionContext (m : DictMessage) (e : UnknownMessage) :
    DictMessage × Bool :=
  let (m, ok) := m.initialise e.contextAllocated
  (m, ok && e.cacheCreated)

/-- The part of `process_rx_buffer` that parses one message without a session. -/
def parse (m : DictMessage) (e : UnknownMessage) : DictMessage :=
  let (m, ok) := m.getThreadLocalUnknownSessionContext e
  if ok then e.tags.foldl recordTag m.reset else m

/-! ## One tag -/

/-- The value of a tag of the current generation. -/
def view (m : DictMessage) (tag : Tag) : Option Bytes :=
  match m.dict.get tagHash tag with
  | none => none
  | some value => if value.generationId = m.generationId then some value.value else none

theorem hasTag_eq (m : DictMessage) (tag : Tag) : m.hasTag tag = (m.view tag).isSome := by
  unfold hasTag view
  cases m.dict.get tagHash tag with
  | none => rfl
  | some value =>
    by_cases h : value.generationId = m.generationId
    · simp [h]
    · simp [h]

theorem view_congr {m m' : DictMessage} {tag : Tag}
    (hget : m'.dict.get tagHash tag = m.dict.get tagHash tag)
    (hgeneration : m'.generationId = m.generationId) : m'.view tag = m.view tag := by
  unfold view
  rw [hget, hgeneration]

theorem view_of_get {m : DictMessage} {tag : Tag} {value : IncomingValue}
    (hget : m.dict.get tagHash tag = some value)
    (hgeneration : value.generationId = m.generationId) : m.view tag = some value.value := by
  unfold view
  rw [hget]
  exact if_pos hgeneration

theorem view_of_get_none {m : DictMessage} {tag : Tag}
    (hget : m.dict.get tagHash tag = none) : m.view tag = none := by
  unfold view
  rw [hget]

/-- The dictionary is well formed and no value is newer than the message. -/
structure Sound (m : DictMessage) : Prop where
  wellFormed : m.dict.WellFormed tagHash
  generations : ∀ tag value, m.dict.get tagHash tag = some value →
    value.generationId ≤ m.generationId

theorem sound_empty : Sound {} :=
  ⟨Dictionary.wellFormed_empty, fun _ _ h => by simp [Dictionary.get, find, chain] at h⟩

/-- The node of a tag that is recorded. -/
def node (m : DictMessage) (t : RecordedTag) : IncomingValue :=
  { value := t.value, generationId := m.generationId }

/-- The message after the insertion of a new tag. -/
def inserted (m : DictMessage) (dict : Dictionary Tag IncomingValue) (t : RecordedTag) :
    DictMessage :=
  m.setDict (dict.place tagHash t.tag (m.node t))

/-- The message after a tag of an earlier generation got a value again. -/
def renewed (m : DictMessage) (t : RecordedTag) : DictMessage :=
  m.setDict (m.dict.setExistingItem tagHash t.tag (m.node t))

-- The generation is read off for a variable in place of the new dictionary: comparing the whole
-- messages would make Lean compute hashes.
section Fields

variable (m : DictMessage) (dict : Dictionary Tag IncomingValue) (t : RecordedTag)

@[simp] theorem setDict_dict : (m.setDict dict).dict = dict := rfl

@[simp] theorem setDict_generationId : (m.setDict dict).generationId = m.generationId := rfl

@[simp] theorem inserted_dict :
    (m.inserted dict t).dict = dict.place tagHash t.tag (m.node t) := setDict_dict m _

@[simp] theorem inserted_generationId : (m.inserted dict t).generationId = m.generationId :=
  setDict_generationId m _

@[simp] theorem renewed_dict :
    (m.renewed t).dict = m.dict.setExistingItem tagHash t.tag (m.node t) := setDict_dict m _

@[simp] theorem renewed_generationId : (m.renewed t).generationId = m.generationId :=
  setDict_generationId m _

@[simp] theorem node_generationId : (m.node t).generationId = m.generationId := rfl

@[simp] theorem node_value : (m.node t).value = t.value := rfl

@[simp] theorem initialise_dict (allocated : Bool) :
    (m.initialise allocated).1.dict = (m.dict.grow tagHash 64 allocated).1 := setDict_dict m _

@[simp] theorem initialise_generationId (allocated : Bool) :
    (m.initialise allocated).1.generationId = m.generationId := setDict_generationId m _

end Fields

/-- The ends of the recording of one pair. -/
theorem recordTag_cases {m : DictMessage} (h : m.Sound) (t : RecordedTag) :
    (m.hasTag t.tag = true ∧ m.recordTag t = m) ∨
    (m.hasTag t.tag = false ∧ t.tag ∈ keys m.dict.table ∧
      m.recordTag t = m.renewed t) ∨
    (t.tag ∉ keys m.dict.table ∧ m.dict.itemCount ≠ m.dict.tableSize ∧
      m.recordTag t = m.inserted m.dict t) ∨
    (t.tag ∉ keys m.dict.table ∧ m.dict.itemCount = m.dict.tableSize ∧ t.allocated = true ∧
      m.recordTag t = m.inserted (m.dict.grow tagHash (m.dict.tableSize * 2) true).1 t) ∨
    (t.tag ∉ keys m.dict.table ∧ m.dict.itemCount = m.dict.tableSize ∧ t.allocated = false ∧
      m.recordTag t = m.setDict (m.dict.grow tagHash (m.dict.tableSize * 2) false).1) := by
  unfold recordTag setTag
  cases htag : m.hasTag t.tag with
  | true => exact .inl ⟨rfl, rfl⟩
  | false =>
    rw [if_pos rfl]
    refine .inr ?_
    have hkey := Dictionary.hasKey_iff h.wellFormed t.tag
    cases hhas : m.dict.hasKey tagHash t.tag with
    | true => exact .inl ⟨rfl, hkey.mp hhas, rfl⟩
    | false =>
      have hnot : t.tag ∉ keys m.dict.table := fun hc => by
        rw [hkey.mpr hc] at hhas
        cases hhas
      refine .inr ?_
      by_cases hfull : m.dict.itemCount = m.dict.tableSize
      · refine .inr ?_
        cases hallocated : t.allocated with
        | true =>
          refine .inl ⟨hnot, hfull, rfl, ?_⟩
          simp only [Dictionary.insert_full _ _ hfull]
          rfl
        | false =>
          refine .inr ⟨hnot, hfull, rfl, ?_⟩
          simp only [Dictionary.insert_refused _ _ hfull]
          rfl
      · refine .inl ⟨hnot, hfull, ?_⟩
        simp only [Dictionary.insert_room _ _ hfull]
        rfl

/-- Between the acquisition of the context and the end of the message. -/
structure Recording (m : DictMessage) : Prop extends Sound m where
  room : 0 < m.dict.tableSize

section RecordTag

variable {m : DictMessage} (h : m.Recording)
include h

theorem Recording.doubled : 0 < m.dict.tableSize * 2 := Nat.mul_pos h.room Nat.two_pos

/-- An insertion into a dictionary that holds what the message holds. -/
theorem inserted_recording {dict : Dictionary Tag IncomingValue}
    (hwf : dict.WellFormed tagHash) (hroom : 0 < dict.tableSize)
    (hget : ∀ key, dict.get tagHash key = m.dict.get tagHash key) {t : RecordedTag}
    (hkey : t.tag ∉ keys dict.table) : (m.inserted dict t).Recording := by
  refine ⟨⟨?_, fun key value hvalue => ?_⟩, ?_⟩
  · rw [inserted_dict]
    exact Dictionary.place_wellFormed _ _ hwf hroom hkey
  · rw [inserted_dict, Dictionary.place_get _ _ hroom, hget] at hvalue
    rw [inserted_generationId]
    split at hvalue
    · obtain rfl := Option.some.inj hvalue
      rw [node_generationId]
      exact UInt64.le_refl _
    · exact h.generations key value hvalue
  · rw [inserted_dict, Dictionary.place_tableSize]
    exact hroom

theorem Recording.recordTag (t : RecordedTag) : (m.recordTag t).Recording := by
  rcases recordTag_cases h.toSound t with
    ⟨_, hr⟩ | ⟨_, _, hr⟩ | ⟨hkey, _, hr⟩ | ⟨hkey, _, _, hr⟩ | ⟨_, _, _, hr⟩
  · rwa [hr]
  · rw [hr]
    refine ⟨⟨?_, fun key value hvalue => ?_⟩, ?_⟩
    · rw [renewed_dict]
      exact Dictionary.setExistingItem_wellFormed h.wellFormed _ _
    · rw [renewed_dict, Dictionary.setExistingItem_get] at hvalue
      rw [renewed_generationId]
      split at hvalue
      · obtain ⟨_, _, rfl⟩ := Option.map_eq_some_iff.mp hvalue
        rw [node_generationId]
        exact UInt64.le_refl _
      · exact h.generations key value hvalue
    · rw [renewed_dict, Dictionary.setExistingItem_tableSize]
      exact h.room
  · rw [hr]
    exact inserted_recording h h.wellFormed h.room (fun _ => rfl) hkey
  · rw [hr]
    have hperm : (keys (m.dict.grow tagHash (m.dict.tableSize * 2) true).1.table).Perm
        (keys m.dict.table) := Dictionary.grow_perm h.doubled
    refine inserted_recording h (Dictionary.grow_wellFormed h.wellFormed h.doubled) ?_
      (Dictionary.grow_get h.wellFormed h.doubled) fun hc => hkey (hperm.mem_iff.mp hc)
    rw [Dictionary.grow_tableSize]
    exact h.doubled
  · rw [hr]
    exact ⟨⟨⟨h.wellFormed.placed, h.wellFormed.distinct, h.wellFormed.counted⟩, h.generations⟩,
      h.room⟩

omit h in
theorem inserted_view {dict : Dictionary Tag IncomingValue} (hroom : 0 < dict.tableSize)
    (hget : ∀ key, dict.get tagHash key = m.dict.get tagHash key) {t : RecordedTag}
    (hview : m.view t.tag = none) (key : Tag) :
    (m.inserted dict t).view key = (m.view key).or (if key = t.tag then some t.value else none) := by
  have hplace : (m.inserted dict t).dict.get tagHash key =
      if key = t.tag then some (m.node t) else m.dict.get tagHash key := by
    rw [inserted_dict, Dictionary.place_get _ _ hroom, hget]
  by_cases hk : key = t.tag
  · subst hk
    rw [if_pos rfl] at hplace
    rw [hview, if_pos rfl, Option.none_or, view_of_get hplace (by simp), node_value]
  · rw [if_neg hk] at hplace
    rw [if_neg hk, Option.or_none]
    exact view_congr hplace (inserted_generationId _ _ _)

/-- A tag is recorded unless it is there already. -/
theorem recordTag_view {t : RecordedTag} (hallocated : t.allocated = true) (key : Tag) :
    (m.recordTag t).view key =
      (m.view key).or (if key = t.tag then some t.value else none) := by
  have hnone : m.hasTag t.tag = false → m.view t.tag = none := fun hf => by
    simpa [hasTag_eq] using hf
  have hunkeyed : t.tag ∉ keys m.dict.table → m.view t.tag = none := fun hkey => by
    have hhas := mt (Dictionary.hasKey_iff h.wellFormed t.tag).mp hkey
    rw [Dictionary.hasKey, Bool.not_eq_true, Option.isSome_eq_false_iff,
      Option.isNone_iff_eq_none] at hhas
    exact view_of_get_none hhas
  rcases recordTag_cases h.toSound t with
    ⟨htag, hr⟩ | ⟨htag, hkey, hr⟩ | ⟨hkey, _, hr⟩ | ⟨hkey, _, _, hr⟩ | ⟨_, _, hrefused, _⟩
  · rw [hr]
    rw [hasTag_eq] at htag
    by_cases hk : key = t.tag
    · obtain ⟨value, hvalue⟩ := Option.isSome_iff_exists.mp htag
      rw [hk, hvalue]
      rfl
    · rw [if_neg hk, Option.or_none]
  · have hget : (m.renewed t).dict.get tagHash key =
        if key = t.tag then (m.dict.get tagHash t.tag).map fun _ => m.node t
        else m.dict.get tagHash key := by
      rw [renewed_dict, Dictionary.setExistingItem_get]
    have hsome := (Dictionary.hasKey_iff h.wellFormed t.tag).mpr hkey
    rw [Dictionary.hasKey] at hsome
    obtain ⟨value, hvalue⟩ := Option.isSome_iff_exists.mp hsome
    rw [hr]
    by_cases hk : key = t.tag
    · subst hk
      rw [if_pos rfl, hvalue, Option.map_some] at hget
      rw [hnone htag, if_pos rfl, Option.none_or, view_of_get hget (by simp), node_value]
    · rw [if_neg hk] at hget
      rw [if_neg hk, Option.or_none]
      exact view_congr hget (renewed_generationId _ _)
  · rw [hr]
    exact inserted_view h.room (fun _ => rfl) (hunkeyed hkey) key
  · rw [hr]
    refine inserted_view ?_ (Dictionary.grow_get h.wellFormed h.doubled) (hunkeyed hkey) key
    rw [Dictionary.grow_tableSize]
    exact h.doubled
  · rw [hallocated] at hrefused
    cases hrefused

end RecordTag

/-! ## One message -/

section Parse

variable {m : DictMessage}

theorem Recording.foldl_recordTag (h : m.Recording) (ts : List RecordedTag) :
    (ts.foldl DictMessage.recordTag m).Recording := by
  induction ts generalizing m with
  | nil => exact h
  | cons t ts ih => exact ih (h.recordTag t)

theorem foldl_recordTag_view (h : m.Recording) {ts : List RecordedTag}
    (hallocated : ∀ t ∈ ts, t.allocated = true) (key : Tag) :
    (ts.foldl recordTag m).view key =
      (m.view key).or ((ts.map fun t => (t.tag, t.value)).lookup key) := by
  induction ts generalizing m with
  | nil => simp
  | cons t ts ih =>
    have hts := fun t' ht' => hallocated t' (List.mem_cons_of_mem t ht')
    rw [List.foldl_cons, ih (h.recordTag t) hts, recordTag_view h (hallocated t (by simp)),
      Option.or_assoc, List.map_cons, lookup_cons]
    split <;> simp

/-- A reset message has no tag. -/
theorem reset_view (h : m.Sound) (key : Tag) : m.reset.view key = none := by
  unfold reset
  split
  · rw [view, Dictionary.forEach_get]
    cases m.dict.get tagHash key with
    | none => rfl
    | some value => rfl
  · rename_i hwrap
    rw [view]
    cases hget : m.dict.get tagHash key with
    | none => rfl
    | some value =>
      have hle := h.generations key value hget
      have hne : value.generationId ≠ m.generationId + 1 := by grind
      simp [hne]

theorem Sound.reset (h : m.Sound) : m.reset.Sound := by
  unfold DictMessage.reset
  split
  · refine ⟨Dictionary.forEach_wellFormed h.wellFormed _, fun key value hvalue => ?_⟩
    rw [Dictionary.forEach_get] at hvalue
    obtain ⟨_, _, rfl⟩ := Option.map_eq_some_iff.mp hvalue
    exact UInt64.zero_le
  · rename_i hwrap
    refine ⟨h.wellFormed, fun key value hvalue => ?_⟩
    have hle := h.generations key value hvalue
    change value.generationId ≤ m.generationId + 1
    grind

@[simp] theorem reset_tableSize : m.reset.dict.tableSize = m.dict.tableSize := by
  unfold DictMessage.reset
  split
  · exact Dictionary.forEach_tableSize _ _
  · rfl

theorem Sound.initialise (h : m.Sound) (allocated : Bool) : (m.initialise allocated).1.Sound := by
  cases allocated with
  | true =>
    refine ⟨Dictionary.grow_wellFormed h.wellFormed (Nat.succ_pos 63), fun key value hvalue => ?_⟩
    rw [initialise_dict, Dictionary.grow_get h.wellFormed (Nat.succ_pos 63)] at hvalue
    exact h.generations key value hvalue
  | false =>
    exact ⟨⟨h.wellFormed.placed, h.wellFormed.distinct, h.wellFormed.counted⟩, h.generations⟩

theorem initialise_tableSize (m : DictMessage) : (m.initialise true).1.dict.tableSize = 64 := by
  rw [initialise_dict, Dictionary.grow_tableSize]

/-- The context, when it is handed out, is ready for the tags of the message. -/
theorem Sound.acquired (h : m.Sound) : (m.initialise true).1.reset.Recording :=
  ⟨(h.initialise true).reset, by rw [reset_tableSize, initialise_tableSize]; decide⟩

theorem parse_cases (m : DictMessage) (e : UnknownMessage) :
    (e.contextAllocated = true ∧ e.cacheCreated = true ∧
      m.parse e = e.tags.foldl recordTag (m.initialise true).1.reset) ∨
    m.parse e = (m.initialise e.contextAllocated).1 := by
  unfold parse getThreadLocalUnknownSessionContext
  cases hcontext : e.contextAllocated with
  | false => exact .inr rfl
  | true =>
    cases hcache : e.cacheCreated with
    | false => exact .inr rfl
    | true => exact .inl ⟨rfl, rfl, rfl⟩

theorem Sound.parse (h : m.Sound) (e : UnknownMessage) : (m.parse e).Sound := by
  rcases parse_cases m e with ⟨_, _, hp⟩ | hp
  · rw [hp]
    exact (Recording.foldl_recordTag h.acquired e.tags).toSound
  · rw [hp]
    exact h.initialise _

/-- A message parsed here reads like its list of tags. -/
theorem parse_view (h : m.Sound) {e : UnknownMessage} (hcontext : e.contextAllocated = true)
    (hcache : e.cacheCreated = true) (hallocated : ∀ t ∈ e.tags, t.allocated = true) (key : Tag) :
    (m.parse e).view key = (e.tags.map fun t => (t.tag, t.value)).lookup key := by
  have hp : m.parse e = e.tags.foldl recordTag (m.initialise true).1.reset := by
    simp [parse, getThreadLocalUnknownSessionContext, hcontext, hcache,
      initialise, Dictionary.initialise, Dictionary.grow_allocated]
  rw [hp, foldl_recordTag_view h.acquired hallocated, reset_view (h.initialise true)]
  rfl

end Parse

end DictMessage

/-! ## The tags seen so far -/

/-- The distinct tags recorded on a thread, and the nodes the current block has room for. -/
structure KnownTags where
  tags : List Tag := []
  capacity : Nat := 0
deriving DecidableEq, Repr

namespace KnownTags

/-- A new tag needs a block of twice the size when the block is full. -/
def recordTag (a : KnownTags) (t : RecordedTag) : KnownTags :=
  if t.tag ∈ a.tags then a
  else if a.tags.length ≠ a.capacity then { a with tags := t.tag :: a.tags }
  else if t.allocated then { tags := t.tag :: a.tags, capacity := a.capacity * 2 }
  else a

def parse (a : KnownTags) (e : UnknownMessage) : KnownTags :=
  if e.contextAllocated then
    let a := { a with capacity := 64 }
    if e.cacheCreated then e.tags.foldl recordTag a else a
  else a

/-- Distinct new tags are all added. -/
theorem foldl_recordTag_tags {a : KnownTags} {ts : List RecordedTag}
    (hallocated : ∀ t ∈ ts, t.allocated = true)
    (hdistinct : (a.tags ++ ts.map RecordedTag.tag).Nodup) :
    (ts.foldl recordTag a).tags = (ts.map RecordedTag.tag).reverse ++ a.tags := by
  induction ts generalizing a with
  | nil => rfl
  | cons t ts ih =>
    have hperm : (a.tags ++ (t :: ts).map RecordedTag.tag).Perm
        (t.tag :: a.tags ++ ts.map RecordedTag.tag) := List.perm_middle
    have hnodup := hperm.nodup_iff.mp hdistinct
    have hnew : t.tag ∉ a.tags := fun hc =>
      (List.nodup_cons.mp hnodup).1 (List.mem_append_left _ hc)
    have htags : (a.recordTag t).tags = t.tag :: a.tags := by
      unfold recordTag
      rw [if_neg hnew, hallocated t (by simp)]
      split <;> rfl
    rw [List.foldl_cons, ih (fun t' ht' => hallocated t' (List.mem_cons_of_mem t ht'))
      (htags ▸ hnodup), htags]
    simp

/-- The tags fit into the 64 nodes of a new context. -/
def FewTags (a : KnownTags) (_ : UnknownMessage) : Prop := a.tags.length ≤ 64

/-- They do when the context is allocated. -/
def FewTagsIfAllocated (a : KnownTags) (e : UnknownMessage) : Prop :=
  e.contextAllocated = true → a.tags.length ≤ 64

instance (a : KnownTags) (e : UnknownMessage) : Decidable (FewTags a e) :=
  inferInstanceAs (Decidable (_ ≤ _))

instance (a : KnownTags) (e : UnknownMessage) : Decidable (FewTagsIfAllocated a e) :=
  inferInstanceAs (Decidable (_ → _))

end KnownTags

namespace DictMessage

open KnownTags

/-- The keys of the dictionary are the tags seen so far. -/
structure Represents (m : DictMessage) (a : KnownTags) : Prop where
  tags : (keys m.dict.table).Perm a.tags
  capacity : m.dict.tableSize = a.capacity

section Represents

variable {m : DictMessage} {a : KnownTags}

theorem Sound.itemCount_eq (h : m.Sound) : m.dict.itemCount = (keys m.dict.table).length := by
  rw [h.wellFormed.counted, keys, List.length_map]

theorem Represents.itemCount_eq (hr : m.Represents a) (h : m.Sound) :
    m.dict.itemCount = a.tags.length := by
  rw [h.itemCount_eq, hr.tags.length_eq]

theorem mem_keys_of_hasTag (h : m.Sound) {tag : Tag} (htag : m.hasTag tag = true) :
    tag ∈ keys m.dict.table := by
  refine (Dictionary.hasKey_iff h.wellFormed tag).mp ?_
  unfold hasTag at htag
  unfold Dictionary.hasKey
  cases hget : m.dict.get tagHash tag with
  | none => simp [hget] at htag
  | some value => rfl

theorem recordTag_represents (h : m.Recording) (hr : m.Represents a) (t : RecordedTag) :
    (m.recordTag t).Represents (a.recordTag t) := by
  have hmem : t.tag ∈ a.tags ↔ t.tag ∈ keys m.dict.table := hr.tags.symm.mem_iff
  have hfull : a.tags.length = a.capacity ↔ m.dict.itemCount = m.dict.tableSize := by
    rw [hr.itemCount_eq h.toSound, hr.capacity]
  unfold KnownTags.recordTag
  rcases recordTag_cases h.toSound t with
    ⟨htag, hm⟩ | ⟨_, hkey, hm⟩ | ⟨hkey, hroom, hm⟩ | ⟨hkey, hfull', hallocated, hm⟩ |
    ⟨hkey, hfull', hrefused, hm⟩
  · rw [hm, if_pos (hmem.mpr (mem_keys_of_hasTag h.toSound htag))]
    exact hr
  · rw [hm, if_pos (hmem.mpr hkey)]
    refine ⟨?_, ?_⟩
    · rw [renewed_dict, Dictionary.setExistingItem_keys]
      exact hr.tags
    · rw [renewed_dict, Dictionary.setExistingItem_tableSize]
      exact hr.capacity
  · rw [hm, if_neg (mt hmem.mp hkey), if_pos (mt hfull.mp hroom)]
    refine ⟨?_, ?_⟩
    · rw [inserted_dict]
      exact (Dictionary.place_perm _ _ h.room).trans (hr.tags.cons _)
    · rw [inserted_dict, Dictionary.place_tableSize]
      exact hr.capacity
  · rw [hm, if_neg (mt hmem.mp hkey), if_neg (not_not.mpr (hfull.mpr hfull')), hallocated,
      if_pos rfl]
    have hroom : 0 < (m.dict.grow tagHash (m.dict.tableSize * 2) true).1.tableSize := by
      rw [Dictionary.grow_tableSize]
      exact h.doubled
    refine ⟨?_, ?_⟩
    · rw [inserted_dict]
      exact (Dictionary.place_perm _ _ hroom).trans
        (((Dictionary.grow_perm h.doubled).trans hr.tags).cons _)
    · rw [inserted_dict, Dictionary.place_tableSize, Dictionary.grow_tableSize, hr.capacity]
  · rw [hm, if_neg (mt hmem.mp hkey), if_neg (not_not.mpr (hfull.mpr hfull')), hrefused,
      if_neg Bool.false_ne_true]
    exact ⟨hr.tags, hr.capacity⟩

theorem foldl_recordTag_represents (h : m.Recording) (hr : m.Represents a)
    (ts : List RecordedTag) :
    (ts.foldl recordTag m).Represents (ts.foldl KnownTags.recordTag a) := by
  induction ts generalizing m a with
  | nil => exact hr
  | cons t ts ih => exact ih (h.recordTag t) (recordTag_represents h hr t)

theorem reset_keys (m : DictMessage) : keys m.reset.dict.table = keys m.dict.table := by
  unfold reset
  split
  · exact Dictionary.forEach_keys _ _
  · rfl

theorem acquired_represents (hr : m.Represents a) :
    (m.initialise true).1.Represents { a with capacity := 64 } := by
  refine ⟨?_, initialise_tableSize m⟩
  rw [initialise_dict]
  exact (Dictionary.grow_perm (Nat.succ_pos 63)).trans hr.tags

/-- The dictionary follows the tags seen so far. -/
theorem parse_represents (h : m.Sound) (hr : m.Represents a) (e : UnknownMessage) :
    (m.parse e).Represents (a.parse e) := by
  unfold DictMessage.parse getThreadLocalUnknownSessionContext KnownTags.parse
  cases hcontext : e.contextAllocated with
  | false => exact ⟨hr.tags, hr.capacity⟩
  | true =>
    have hacquired := acquired_represents hr
    cases hcache : e.cacheCreated with
    | false => exact hacquired
    | true =>
      refine foldl_recordTag_represents h.acquired ⟨?_, ?_⟩ e.tags
      · rw [reset_keys]
        exact hacquired.tags
      · rw [reset_tableSize]
        exact hacquired.capacity

end Represents

/-! ## The writes -/

/-- Every node was written inside its block. -/
def WritesInBounds (m : DictMessage) : Prop := ∀ w ∈ m.dict.nodeWrites, w.InBounds

/-- Every call of `grow` asked for a block that takes all items. -/
def GrowsSuffice (m : DictMessage) : Prop := ∀ c ∈ m.dict.growCalls, c.Suffices

instance (m : DictMessage) : Decidable m.WritesInBounds := List.decidableBAll _ _

instance (m : DictMessage) : Decidable m.GrowsSuffice := List.decidableBAll _ _

/-- The items fit into the block. -/
def Fits (m : DictMessage) : Prop := m.dict.itemCount ≤ m.dict.tableSize

section Writes

variable {m : DictMessage}

/-- What recording a tag adds to the history. -/
theorem recordTag_history (h : m.Recording) (t : RecordedTag) :
    (∃ ws, (m.recordTag t).dict.nodeWrites = m.dict.nodeWrites ++ ws ∧
      (m.Fits → ∀ w ∈ ws, w.InBounds)) ∧
    (∃ cs, (m.recordTag t).dict.growCalls = m.dict.growCalls ++ cs ∧ ∀ c ∈ cs, c.Suffices) ∧
    (m.Fits → (m.recordTag t).Fits) := by
  have hroom := h.room
  have hcount := h.wellFormed.counted
  have hdouble : m.dict.itemCount = m.dict.tableSize →
      ∀ c ∈ [(⟨m.dict.tableSize * 2, m.dict.itemCount⟩ : GrowCall)], c.Suffices :=
    fun hfull c hc => by
      obtain rfl := List.mem_singleton.mp hc
      simp only [GrowCall.Suffices, hfull]
      omega
  rcases recordTag_cases h.toSound t with
    ⟨_, hm⟩ | ⟨_, _, hm⟩ | ⟨_, hne, hm⟩ | ⟨_, hfull, _, hm⟩ | ⟨_, hfull, _, hm⟩
  · rw [hm]
    exact ⟨⟨[], (List.append_nil _).symm, by simp⟩, ⟨[], (List.append_nil _).symm, by simp⟩, id⟩
  · rw [hm, Fits, Fits, renewed_dict, Dictionary.setExistingItem_tableSize,
      Dictionary.setExistingItem_itemCount, Dictionary.setExistingItem_nodeWrites,
      Dictionary.setExistingItem_growCalls]
    exact ⟨⟨[], (List.append_nil _).symm, by simp⟩, ⟨[], (List.append_nil _).symm, by simp⟩, id⟩
  · rw [hm, Fits, Fits, inserted_dict, Dictionary.place_tableSize, Dictionary.place_itemCount,
      Dictionary.place_nodeWrites, Dictionary.place_growCalls]
    refine ⟨⟨[⟨m.dict.itemCount, m.dict.tableSize⟩], rfl, fun hfits w hw => ?_⟩,
      ⟨[], (List.append_nil _).symm, by simp⟩, fun hfits => Nat.lt_of_le_of_ne hfits hne⟩
    obtain rfl := List.mem_singleton.mp hw
    exact Nat.lt_of_le_of_ne hfits hne
  · rw [hm, Fits, Fits, inserted_dict, Dictionary.place_tableSize, Dictionary.place_itemCount,
      Dictionary.place_nodeWrites, Dictionary.place_growCalls, Dictionary.grow_tableSize,
      Dictionary.grow_allocated]
    dsimp only
    rw [← hcount, List.append_assoc]
    refine ⟨⟨_, rfl, fun hfits w hw => ?_⟩, ⟨_, rfl, hdouble hfull⟩, fun _ => ?_⟩
    · rcases List.mem_append.mp hw with hw | hw
      · refine (Dictionary.growWrites_inBounds_iff _ _).mpr ?_ w hw
        omega
      · obtain rfl := List.mem_singleton.mp hw
        simp only [NodeWrite.InBounds]
        omega
    · omega
  · rw [hm, Fits, Fits, setDict_dict, Dictionary.grow_refused]
    dsimp only
    exact ⟨⟨[], (List.append_nil _).symm, by simp⟩, ⟨_, rfl, hdouble hfull⟩, id⟩

theorem foldl_recordTag_writesInBounds (h : m.Recording) (hfits : m.Fits) (hw : m.WritesInBounds)
    (ts : List RecordedTag) :
    (ts.foldl recordTag m).WritesInBounds ∧ (ts.foldl recordTag m).Fits := by
  induction ts generalizing m with
  | nil => exact ⟨hw, hfits⟩
  | cons t ts ih =>
    obtain ⟨⟨ws, hws, hin⟩, _, hfits'⟩ := recordTag_history h t
    refine ih (h.recordTag t) (hfits' hfits) fun w hmem => ?_
    rw [hws] at hmem
    rcases List.mem_append.mp hmem with hmem | hmem
    · exact hw w hmem
    · exact hin hfits w hmem

theorem foldl_recordTag_growsSuffice (h : m.Recording) (hg : m.GrowsSuffice)
    (ts : List RecordedTag) : (ts.foldl recordTag m).GrowsSuffice := by
  induction ts generalizing m with
  | nil => exact hg
  | cons t ts ih =>
    obtain ⟨_, ⟨cs, hcs, hsuffice⟩, _⟩ := recordTag_history h t
    refine ih (h.recordTag t) fun c hmem => ?_
    rw [hcs] at hmem
    rcases List.mem_append.mp hmem with hmem | hmem
    · exact hg c hmem
    · exact hsuffice c hmem

/-- The history only grows. -/
theorem foldl_recordTag_history (h : m.Recording) (ts : List RecordedTag) :
    m.dict.nodeWrites <+: (ts.foldl recordTag m).dict.nodeWrites ∧
      m.dict.growCalls <+: (ts.foldl recordTag m).dict.growCalls := by
  induction ts generalizing m with
  | nil => exact ⟨List.prefix_rfl, List.prefix_rfl⟩
  | cons t ts ih =>
    obtain ⟨⟨ws, hws, _⟩, ⟨cs, hcs, _⟩, _⟩ := recordTag_history h t
    obtain ⟨hw, hg⟩ := ih (h.recordTag t)
    exact ⟨List.IsPrefix.trans ⟨ws, hws.symm⟩ hw, List.IsPrefix.trans ⟨cs, hcs.symm⟩ hg⟩

@[simp] theorem reset_nodeWrites : m.reset.dict.nodeWrites = m.dict.nodeWrites := by
  unfold DictMessage.reset
  split <;> rfl

@[simp] theorem reset_growCalls : m.reset.dict.growCalls = m.dict.growCalls := by
  unfold DictMessage.reset
  split <;> rfl

@[simp] theorem reset_itemCount : m.reset.dict.itemCount = m.dict.itemCount := by
  unfold DictMessage.reset
  split <;> rfl

theorem initialise_nodeWrites (h : m.Sound) : (m.initialise true).1.dict.nodeWrites =
    m.dict.nodeWrites ++ Dictionary.growWrites m.dict.itemCount 64 := by
  rw [initialise_dict, Dictionary.grow_allocated, h.wellFormed.counted]

theorem initialise_growCalls (m : DictMessage) (allocated : Bool) :
    (m.initialise allocated).1.dict.growCalls = m.dict.growCalls ++ [⟨64, m.dict.itemCount⟩] := by
  cases allocated with
  | true => rw [initialise_dict, Dictionary.grow_allocated]
  | false => rw [initialise_dict, Dictionary.grow_refused]

/-- The context alone stays inside its block when at most 64 tags are known. -/
theorem initialise_writesInBounds_iff (h : m.Sound) (hw : m.WritesInBounds) :
    (m.initialise true).1.WritesInBounds ↔ m.dict.itemCount ≤ 64 := by
  rw [WritesInBounds, initialise_nodeWrites h, List.forall_mem_append,
    Dictionary.growWrites_inBounds_iff]
  exact and_iff_right hw

theorem initialise_growsSuffice_iff (hg : m.GrowsSuffice) (allocated : Bool) :
    (m.initialise allocated).1.GrowsSuffice ↔ m.dict.itemCount ≤ 64 := by
  rw [GrowsSuffice, initialise_growCalls, List.forall_mem_append]
  refine (and_iff_right hg).trans ?_
  simp [GrowCall.Suffices]

theorem parse_extends (h : m.Sound) (e : UnknownMessage) :
    (m.initialise e.contextAllocated).1.dict.nodeWrites <+: (m.parse e).dict.nodeWrites ∧
      (m.initialise e.contextAllocated).1.dict.growCalls <+: (m.parse e).dict.growCalls := by
  rcases parse_cases m e with ⟨hcontext, _, hp⟩ | hp
  · rw [hp, hcontext]
    have hhistory := foldl_recordTag_history h.acquired e.tags
    rwa [reset_nodeWrites, reset_growCalls] at hhistory
  · rw [hp]
    exact ⟨List.prefix_rfl, List.prefix_rfl⟩

theorem initialise_extends (h : m.Sound) (allocated : Bool) :
    m.dict.nodeWrites <+: (m.initialise allocated).1.dict.nodeWrites := by
  cases allocated with
  | true => exact ⟨_, (initialise_nodeWrites h).symm⟩
  | false => exact List.prefix_rfl

/-- One message is parsed inside the blocks when at most 64 tags are known at its start. -/
theorem parse_writesInBounds_iff (h : m.Sound) (hw : m.WritesInBounds) (e : UnknownMessage) :
    (m.parse e).WritesInBounds ↔ (e.contextAllocated = true → m.dict.itemCount ≤ 64) := by
  constructor
  · intro hparse hcontext
    refine (initialise_writesInBounds_iff h hw).mp fun w hmem => hparse w ?_
    rw [← hcontext] at hmem
    exact (parse_extends h e).1.subset hmem
  · intro hfew
    rcases parse_cases m e with ⟨hcontext, _, hp⟩ | hp
    · rw [hp]
      have hin := (initialise_writesInBounds_iff h hw).mpr (hfew hcontext)
      refine (foldl_recordTag_writesInBounds h.acquired ?_ ?_ e.tags).1
      · rw [Fits, reset_itemCount, reset_tableSize, initialise_tableSize]
        exact hfew hcontext
      · rwa [WritesInBounds, reset_nodeWrites]
    · rw [hp]
      cases hcontext : e.contextAllocated with
      | true => exact (initialise_writesInBounds_iff h hw).mpr (hfew hcontext)
      | false => exact hw

theorem parse_growsSuffice_iff (h : m.Sound) (hg : m.GrowsSuffice) (e : UnknownMessage) :
    (m.parse e).GrowsSuffice ↔ m.dict.itemCount ≤ 64 := by
  rw [← initialise_growsSuffice_iff hg e.contextAllocated]
  constructor
  · exact fun hparse c hmem => hparse c ((parse_extends h e).2.subset hmem)
  · intro hin
    rcases parse_cases m e with ⟨hcontext, _, hp⟩ | hp
    · rw [hp]
      rw [hcontext] at hin
      refine foldl_recordTag_growsSuffice h.acquired ?_ e.tags
      rwa [GrowsSuffice, reset_growCalls]
    · rwa [hp]

end Writes

/-- The tags seen so far follow the dictionary, along any messages. -/
theorem guarded_knownTags {ok : DictMessage → UnknownMessage → Prop}
    {ok' : KnownTags → UnknownMessage → Prop}
    (hok : ∀ m a e, m.dict.itemCount = a.tags.length → (ok m e ↔ ok' a e))
    (es : List UnknownMessage) :
    Guarded parse ok {} es ↔ Guarded KnownTags.parse ok' {} es := by
  refine guarded_iff_of_simulation (fun m a => Sound m ∧ Represents m a)
    (fun m a e h => hok m a e (h.2.itemCount_eq h.1))
    (fun m a e h => ⟨h.1.parse e, parse_represents h.1 h.2 e⟩) es ?_
  exact ⟨sound_empty, List.Perm.refl _, rfl⟩

end DictMessage

theorem run_writesInBounds_iff (es : List UnknownMessage) :
    (run DictMessage.parse {} es).WritesInBounds ↔
      Guarded KnownTags.parse KnownTags.FewTagsIfAllocated {} es := by
  have hrun : (run DictMessage.parse {} es).WritesInBounds ↔ Guarded DictMessage.parse
      (fun m e => e.contextAllocated = true → m.dict.itemCount ≤ 64) {} es := by
    refine holds_run_iff DictMessage.Sound (fun m e hs => hs.parse e)
      (fun m e hs hparse w hmem => hparse w ?_)
      (fun m e hs hw => DictMessage.parse_writesInBounds_iff hs hw e) es
      DictMessage.sound_empty (fun _ hmem => by cases hmem)
    exact (DictMessage.parse_extends hs e).1.subset
      ((DictMessage.initialise_extends hs _).subset hmem)
  rw [hrun]
  exact DictMessage.guarded_knownTags (fun m a e h => by rw [h]; exact Iff.rfl) es

theorem run_growsSuffice_iff (es : List UnknownMessage) :
    (run DictMessage.parse {} es).GrowsSuffice ↔
      Guarded KnownTags.parse KnownTags.FewTags {} es := by
  have hrun : (run DictMessage.parse {} es).GrowsSuffice ↔ Guarded DictMessage.parse
      (fun m _ => m.dict.itemCount ≤ 64) {} es := by
    refine holds_run_iff DictMessage.Sound (fun m e hs => hs.parse e)
      (fun m e hs hparse c hmem => hparse c ?_)
      (fun m e hs hg => DictMessage.parse_growsSuffice_iff hs hg e) es
      DictMessage.sound_empty (fun _ hmem => by cases hmem)
    refine (DictMessage.parse_extends hs e).2.subset ?_
    rw [DictMessage.initialise_growCalls]
    exact List.mem_append_left _ hmem
  rw [hrun]
  exact DictMessage.guarded_knownTags (fun m a e h => by rw [h]; exact Iff.rfl) es

/-- Parsing on unmapped connections stays inside its blocks exactly when no context is handed out
after more than 64 distinct tags; and every call of `grow` is large enough exactly when none is
asked for then. -/
theorem preLogonParsing_inBounds_iff (es : List UnknownMessage) :
    ((run DictMessage.parse {} es).WritesInBounds ↔
      Guarded KnownTags.parse KnownTags.FewTagsIfAllocated {} es) ∧
    ((run DictMessage.parse {} es).GrowsSuffice ↔
      Guarded KnownTags.parse KnownTags.FewTags {} es) :=
  ⟨run_writesInBounds_iff es, run_growsSuffice_iff es⟩

/-- A message with the tags 1 to 65. -/
def sixtyFiveTags : UnknownMessage :=
  { tags := (List.range 65).map fun n => { tag := UInt32.ofNat (n + 1), value := text "x" } }

theorem sixtyFiveTags_distinct : (sixtyFiveTags.tags.map RecordedTag.tag).Nodup := by
  rw [sixtyFiveTags, List.map_map]
  refine List.Nodup.map_on (fun n hn n' hn' h => ?_) List.nodup_range
  have htoNat := congrArg UInt32.toNat h
  simp only [Function.comp_apply, UInt32.toNat_ofNat'] at htoNat
  rw [List.mem_range] at hn hn'
  omega

theorem sixtyFiveTags_known :
    (sixtyFiveTags.tags.foldl KnownTags.recordTag { capacity := 64 }).tags.length = 65 := by
  have hallocated : ∀ t ∈ sixtyFiveTags.tags, t.allocated = true := by
    intro t ht
    obtain ⟨n, _, rfl⟩ := List.mem_map.mp ht
    rfl
  rw [KnownTags.foldl_recordTag_tags hallocated (by simpa using sixtyFiveTags_distinct)]
  simp [sixtyFiveTags]

/-- The next message, whatever it holds, is parsed into a block that is too small. -/
theorem preLogonParsing_overruns :
    ¬ (run DictMessage.parse {} [sixtyFiveTags, { tags := [] }]).WritesInBounds ∧
      ¬ (run DictMessage.parse {} [sixtyFiveTags, { tags := [] }]).GrowsSuffice := by
  rw [run_writesInBounds_iff, run_growsSuffice_iff, guarded_cons, guarded_cons, guarded_cons,
    guarded_cons]
  have hparse : KnownTags.parse {} sixtyFiveTags =
      sixtyFiveTags.tags.foldl KnownTags.recordTag { capacity := 64 } := by
    simp only [KnownTags.parse]
    rfl
  rw [hparse]
  simp only [KnownTags.FewTagsIfAllocated, KnownTags.FewTags, sixtyFiveTags_known]
  decide

end Llfix
