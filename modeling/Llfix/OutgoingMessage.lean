import Mathlib.Logic.Function.Basic
import Llfix.EncodeParse

/-!
# An instance of `OutgoingFixMessage`

`set_tag`, `encode` and `load_from_buffer` on one instance, with the `FixString` slots that hold
the values. Slots are handed out one after the other and `encode` starts over; what a slot held
before stays in its buffer behind the new text.

Results:
1. `loadFromBuffer_fields`: the loop over the bytes is one over the fields.
2. `loadFields_spec`: what a message type, and the fields behind it, are loaded as.
-/

namespace Llfix

/-! ## `FixString` -/

/-- The buffer of a `FixString`, and how much of it is its text. -/
structure FixString where
  buffer : Bytes := List.replicate 64 0
  length : Nat := 0
deriving DecidableEq, Repr

namespace FixString

/-- `copy_from`. A larger buffer has one byte more than the text, which nothing has written. -/
def copyFrom (s : FixString) (text : Bytes) (uninitialised : UInt8) : FixString where
  buffer :=
    if s.buffer.length < text.length then text ++ [uninitialised]
    else text ++ s.buffer.drop text.length
  length := text.length

/-- `to_string_view`. -/
def toStringView (s : FixString) : Bytes := s.buffer.take s.length

/-- `data()` taken as a C string: up to the first zero. Without one, the read leaves the buffer. -/
def cString (s : FixString) : Option Bytes :=
  if 0 ∈ s.buffer then some (s.buffer.takeWhile (· ≠ 0)) else none

end FixString

/-! ## The instance -/

/-- `FixMessageComponent`. -/
inductive FixMessageComponent
  | header
  | body
  | trailer
deriving DecidableEq, Repr

/-- The content, and the slots of `m_fix_string_cache`. A slot keeps its text until `encode` has
started over, so the content has the texts themselves. -/
structure OutgoingFixMessageInstance where
  content : OutgoingFixMessage := { msgType := [0] }
  slots : Nat → FixString := fun _ => {}
  pointer : Nat := 0

namespace OutgoingFixMessageInstance

variable (m : OutgoingFixMessageInstance)

/-- `allocate` and `copy_from`. -/
def storeText (text : Bytes) (uninitialised : UInt8) : OutgoingFixMessageInstance :=
  { m with
    slots := Function.update m.slots m.pointer ((m.slots m.pointer).copyFrom text uninitialised)
    pointer := m.pointer + 1 }

/-- `set_msg_type` of a character. -/
def setMsgTypeChar (c : UInt8) : OutgoingFixMessageInstance :=
  { m with content := { m.content with msgType := [c] } }

/-- `set_msg_type` of a view. A type of more than four bytes is written behind `m_msg_type`. -/
def setMsgType (text : Bytes) : Option OutgoingFixMessageInstance :=
  if text.length ≤ maxSupportedMessageTypeLength then
    some { m with content := { m.content with msgType := text } }
  else none

/-- `set_tag`. -/
def setTag (component : FixMessageComponent) (tag : Tag) (value : Bytes) (uninitialised : UInt8) :
    OutgoingFixMessageInstance :=
  let m := m.storeText value uninitialised
  let content := m.content
  { m with
    content :=
      match component with
      | .header => { content with header := content.header ++ [(tag, value)] }
      | .body => { content with body := content.body ++ [(tag, value)] }
      | .trailer => { content with trailer := content.trailer ++ [(tag, value)] } }

/-- The end of `encode`: the content but its type is forgotten, the slots are handed out anew. -/
def afterEncode : OutgoingFixMessageInstance :=
  { m with content := { msgType := m.content.msgType }, pointer := 0 }

end OutgoingFixMessageInstance

/-! ## `load_from_buffer` -/

/-- The message types of session-level messages but Reject. -/
def nonRetransmittableAdminMessageTypes : List UInt8 :=
  [msgTypeHeartbeat, msgTypeTestRequest, msgTypeResendRequest, msgTypeSequenceReset, msgTypeLogon,
    msgTypeLogout]

/-- `is_a_non_retransmittable_admin_message_type`. -/
def isANonRetransmittableAdminMessageType (msgType : Bytes) : Bool :=
  match msgType with
  | [c] => nonRetransmittableAdminMessageTypes.contains c
  | _ => false

/-- The tags that `load_from_buffer` leaves to `encode`. -/
def leftToEncode (encoder : EncoderSettings) (tag : Tag) : Bool :=
  [tagBeginString, tagBodyLength, tagSenderCompId, tagTargetCompId, tagChecksum].contains tag ||
    (fieldTags encoder.additionalStaticHeaderTags).contains tag

/-- The instance, and whether the message is replaced by a sequence reset. -/
structure LoadState where
  instance' : OutgoingFixMessageInstance
  isReplacing : Bool := false

namespace LoadState

variable (encoder : EncoderSettings) (uninitialised : UInt8)

/-- The branch for tag 35. -/
def loadMsgType (s : LoadState) (strVal : FixString) : Option LoadState :=
  let isReplacing := isANonRetransmittableAdminMessageType strVal.toStringView
  if isReplacing then
    some { instance' := s.instance'.setMsgTypeChar msgTypeSequenceReset, isReplacing := true }
  else if strVal.length = 1 then
    some { instance' := s.instance'.setMsgTypeChar (strVal.buffer.headD 0), isReplacing := false }
  else
    strVal.cString.bind fun text =>
      (s.instance'.setMsgType text).map fun m => { instance' := m, isReplacing := false }

/-- What is done with a field, behind its delimiter. -/
def loadField (s : LoadState) (tag : Tag) (value : Bytes) : Option LoadState :=
  if leftToEncode encoder tag then some s
  else
    let strVal := (s.instance'.slots s.instance'.pointer).copyFrom value uninitialised
    let s := { s with instance' := s.instance'.storeText value uninitialised }
    if tag = tagMsgType then s.loadMsgType strVal
    else if tag = tagSendingTime then
      some { s with
        instance' := s.instance'.setTag .header tagOrigSendingTime value uninitialised }
    else if tag = tagMsgSeqNum then
      if s.isReplacing then
        some { s with
          instance' := s.instance'.setTag .body tagNewSeqNo
            (unsignedIntToChars (charsToUnsignedInt value + 1)) uninitialised }
      else some s
    else if s.isReplacing = false then
      some { s with instance' := s.instance'.setTag .body tag value uninitialised }
    else some s

/-- The loop of `load_from_buffer`. `tag` is the text since `current_tag_start`, and `value` the
text behind its `=`, once that has been found. -/
def load (s : LoadState) (tag : Bytes) (value : Option Bytes) : Bytes → Option LoadState
  | [] => some s
  | c :: rest =>
    match value with
    | none =>
      if c = fixEquals then s.load tag (some []) rest
      else s.load (tag ++ [c]) none rest
    | some value =>
      if c = fixDelimiter then
        (s.loadField encoder uninitialised (charsToUnsignedInt tag) value).bind fun s =>
          s.load [] none rest
      else s.load tag (some (value ++ [c])) rest

end LoadState

namespace OutgoingFixMessageInstance

/-- `load_from_buffer`. -/
def loadFromBuffer (encoder : EncoderSettings) (uninitialised : UInt8)
    (m : OutgoingFixMessageInstance) (buffer : Bytes) : Option OutgoingFixMessageInstance :=
  (LoadState.load encoder uninitialised { instance' := m } [] none buffer).map LoadState.instance'

end OutgoingFixMessageInstance

/-! ## Loading fields -/

namespace LoadState

variable {encoder : EncoderSettings} {uninitialised : UInt8}

/-- The fields one after the other. -/
def loadFields (encoder : EncoderSettings) (uninitialised : UInt8) (s : LoadState) :
    List (Tag × Bytes) → Option LoadState
  | [] => some s
  | field :: fields =>
    (s.loadField encoder uninitialised field.1 field.2).bind fun s =>
      s.loadFields encoder uninitialised fields

theorem load_tag (s : LoadState) (read tag rest : Bytes) (h : fixEquals ∉ tag) :
    s.load encoder uninitialised read none (tag ++ fixEquals :: rest) =
      s.load encoder uninitialised (read ++ tag) (some []) rest := by
  induction tag generalizing read with
  | nil =>
    rw [List.nil_append, List.append_nil, load, if_pos rfl]
  | cons c tag ih =>
    rw [List.mem_cons, not_or] at h
    rw [List.cons_append, load, if_neg (Ne.symm h.1), ih _ h.2, List.append_assoc]
    rfl

theorem load_value (s : LoadState) (tag read value rest : Bytes) (h : fixDelimiter ∉ value) :
    s.load encoder uninitialised tag (some read) (value ++ fixDelimiter :: rest) =
      (s.loadField encoder uninitialised (charsToUnsignedInt tag) (read ++ value)).bind fun s =>
        s.load encoder uninitialised [] none rest := by
  induction value generalizing read with
  | nil =>
    rw [List.nil_append, List.append_nil, load, if_pos rfl]
  | cons c value ih =>
    rw [List.mem_cons, not_or] at h
    rw [List.cons_append, load, if_neg (Ne.symm h.1), ih _ h.2, List.append_assoc]
    rfl

/-- The loop over the bytes of fields is one over the fields. -/
theorem load_fields (encoder : EncoderSettings) (uninitialised : UInt8) (s : LoadState)
    {fields : List (Tag × Bytes)} (h : ∀ field ∈ fields, fixDelimiter ∉ field.2) (rest : Bytes) :
    s.load encoder uninitialised [] none (fields.flatMap encodeField ++ rest) =
      (s.loadFields encoder uninitialised fields).bind fun s =>
        s.load encoder uninitialised [] none rest := by
  induction fields generalizing s with
  | nil => rfl
  | cons field fields ih =>
    obtain ⟨tag, value⟩ := field
    have hbytes : ((tag, value) :: fields).flatMap encodeField ++ rest =
        unsignedIntToChars tag ++ fixEquals :: (value ++ fixDelimiter ::
          (fields.flatMap encodeField ++ rest)) := by
      simp [encodeField]
    have hequals := (noSpecial_of_digits (unsignedIntToChars_all tag)).1
    rw [hbytes, load_tag s [] _ _ hequals, List.nil_append,
      load_value s _ [] _ _ (h (tag, value) List.mem_cons_self),
      charsToUnsignedInt_unsignedIntToChars, List.nil_append, loadFields, Option.bind_assoc]
    congr 1
    funext s'
    exact ih s' fun f hf => h f (List.mem_cons_of_mem _ hf)

end LoadState

theorem OutgoingFixMessageInstance.loadFromBuffer_fields {encoder : EncoderSettings}
    {uninitialised : UInt8} (m : OutgoingFixMessageInstance) {fields : List (Tag × Bytes)}
    (h : ∀ field ∈ fields, fixDelimiter ∉ field.2) :
    m.loadFromBuffer encoder uninitialised (fields.flatMap encodeField) =
      (LoadState.loadFields encoder uninitialised { instance' := m } fields).map
        LoadState.instance' := by
  have hload := LoadState.load_fields encoder uninitialised { instance' := m } h []
  rw [List.append_nil] at hload
  rw [loadFromBuffer, hload]
  cases LoadState.loadFields encoder uninitialised { instance' := m } fields with
  | none => rfl
  | some s => rfl

/-! ## What fields are loaded as -/

/-- What a field behind tag 35 adds to the header. -/
def loadedHeaderField (encoder : EncoderSettings) (field : Tag × Bytes) : Option (Tag × Bytes) :=
  if leftToEncode encoder field.1 then none
  else if field.1 = tagSendingTime then some (tagOrigSendingTime, field.2)
  else none

/-- What a field behind tag 35 adds to the body. -/
def loadedBodyField (encoder : EncoderSettings) (isReplacing : Bool) (field : Tag × Bytes) :
    Option (Tag × Bytes) :=
  if leftToEncode encoder field.1 then none
  else if field.1 = tagSendingTime then none
  else if field.1 = tagMsgSeqNum then
    if isReplacing then some (tagNewSeqNo, unsignedIntToChars (charsToUnsignedInt field.2 + 1))
    else none
  else if isReplacing then none
  else some field

/-- The content with the fields loaded behind it. -/
def OutgoingFixMessage.withLoaded (content : OutgoingFixMessage) (encoder : EncoderSettings)
    (isReplacing : Bool) (fields : List (Tag × Bytes)) : OutgoingFixMessage :=
  { content with
    header := content.header ++ fields.filterMap (loadedHeaderField encoder)
    body := content.body ++ fields.filterMap (loadedBodyField encoder isReplacing) }

theorem OutgoingFixMessage.withLoaded_singleton (content : OutgoingFixMessage)
    (encoder : EncoderSettings) (isReplacing : Bool) (field : Tag × Bytes) :
    content.withLoaded encoder isReplacing [field] =
      { content with
        header := content.header ++ (loadedHeaderField encoder field).toList
        body := content.body ++ (loadedBodyField encoder isReplacing field).toList } := by
  have htoList : ∀ f : Tag × Bytes → Option (Tag × Bytes), [field].filterMap f = (f field).toList := by
    intro f
    cases hf : f field with
    | none => simp [hf]
    | some x => simp [hf]
  rw [withLoaded, htoList, htoList]

theorem OutgoingFixMessage.withLoaded_append (content : OutgoingFixMessage)
    (encoder : EncoderSettings) (isReplacing : Bool) (front back : List (Tag × Bytes)) :
    (content.withLoaded encoder isReplacing front).withLoaded encoder isReplacing back =
      content.withLoaded encoder isReplacing (front ++ back) := by
  simp [withLoaded, List.filterMap_append]

namespace LoadState

variable {encoder : EncoderSettings} {uninitialised : UInt8}

/-- One field behind tag 35. -/
theorem loadField_spec (encoder : EncoderSettings) (uninitialised : UInt8) (s : LoadState)
    {field : Tag × Bytes} (htype : field.1 ≠ tagMsgType) :
    ∃ s', s.loadField encoder uninitialised field.1 field.2 = some s' ∧
      s'.isReplacing = s.isReplacing ∧
      s'.instance'.content = s.instance'.content.withLoaded encoder s.isReplacing [field] := by
  obtain ⟨tag, value⟩ := field
  have hsame : ∀ content : OutgoingFixMessage, content =
      { content with header := content.header ++ [], body := content.body ++ [] } := by
    intro content
    simp
  rw [OutgoingFixMessage.withLoaded_singleton]
  unfold loadField loadedHeaderField loadedBodyField
  dsimp only at htype ⊢
  by_cases hleft : leftToEncode encoder tag = true
  · simp only [if_pos hleft]
    exact ⟨s, rfl, rfl, hsame _⟩
  · by_cases htime : tag = tagSendingTime
    · simp only [if_neg hleft, if_neg htype, if_pos htime]
      exact ⟨_, rfl, rfl, by simp [OutgoingFixMessageInstance.setTag,
        OutgoingFixMessageInstance.storeText]⟩
    · by_cases hnumber : tag = tagMsgSeqNum
      · simp only [if_neg hleft, if_neg htype, if_neg htime, if_pos hnumber]
        cases s.isReplacing with
        | true => exact ⟨_, rfl, rfl, by simp [OutgoingFixMessageInstance.setTag,
            OutgoingFixMessageInstance.storeText]⟩
        | false => exact ⟨_, rfl, rfl, hsame _⟩
      · simp only [if_neg hleft, if_neg htype, if_neg htime, if_neg hnumber]
        cases s.isReplacing with
        | true => exact ⟨_, rfl, rfl, hsame _⟩
        | false => exact ⟨_, rfl, rfl, by simp [OutgoingFixMessageInstance.setTag,
            OutgoingFixMessageInstance.storeText]⟩

/-- The fields behind tag 35. -/
theorem loadFields_spec (encoder : EncoderSettings) (uninitialised : UInt8) (s : LoadState)
    {fields : List (Tag × Bytes)} (htype : tagMsgType ∉ fieldTags fields) :
    ∃ s', s.loadFields encoder uninitialised fields = some s' ∧
      s'.instance'.content = s.instance'.content.withLoaded encoder s.isReplacing fields := by
  induction fields generalizing s with
  | nil => exact ⟨s, rfl, by simp [OutgoingFixMessage.withLoaded]⟩
  | cons field fields ih =>
    rw [fieldTags_cons, List.mem_cons, not_or] at htype
    obtain ⟨s₁, hfirst, hreplacing, hcontent⟩ := loadField_spec encoder uninitialised s
      (Ne.symm htype.1)
    obtain ⟨s₂, hrest, hcontent'⟩ := ih s₁ htype.2
    refine ⟨s₂, ?_, ?_⟩
    · rw [loadFields, hfirst, Option.bind_some, hrest]
    · rw [hcontent', hcontent, hreplacing, OutgoingFixMessage.withLoaded_append]
      rfl

end LoadState

/-! ## A whole message -/

theorem FixString.copyFrom_toStringView (s : FixString) (text : Bytes) (uninitialised : UInt8) :
    (s.copyFrom text uninitialised).toStringView = text := by
  unfold toStringView copyFrom
  dsimp only
  split
  · exact List.take_left
  · exact List.take_left

/-- The type that tag 35 sets, and whether the message is replaced. -/
def loadedType (strVal : FixString) : Option (Bytes × Bool) :=
  if isANonRetransmittableAdminMessageType strVal.toStringView then
    some ([msgTypeSequenceReset], true)
  else if strVal.length = 1 then some ([strVal.buffer.headD 0], false)
  else
    strVal.cString.bind fun text =>
      if text.length ≤ maxSupportedMessageTypeLength then some (text, false) else none

theorem loadMsgType_eq (s : LoadState) (strVal : FixString) :
    s.loadMsgType strVal = (loadedType strVal).map fun loaded =>
      { instance' := { s.instance' with
          content := { s.instance'.content with msgType := loaded.1 } }
        isReplacing := loaded.2 } := by
  unfold LoadState.loadMsgType loadedType
  dsimp only
  split
  · rfl
  · split
    · rfl
    · cases strVal.cString with
      | none => rfl
      | some text =>
        rw [Option.bind_some, Option.bind_some, OutgoingFixMessageInstance.setMsgType]
        split <;> rfl

/-- A message of one character, or an admin message, is loaded with its type whatever the slot
held. -/
theorem loadedType_of_length {strVal : FixString} {c : UInt8} (h : strVal.toStringView = [c])
    (hlength : strVal.length = 1) :
    loadedType strVal =
      some (if isANonRetransmittableAdminMessageType [c] then ([msgTypeSequenceReset], true)
        else ([c], false)) := by
  have hhead : strVal.buffer.headD 0 = c := by
    rw [FixString.toStringView, hlength] at h
    cases hbuffer : strVal.buffer with
    | nil =>
      rw [hbuffer] at h
      cases h
    | cons b buffer =>
      rw [hbuffer] at h
      exact (List.cons.inj h).1
  rw [loadedType, h, if_pos hlength, hhead]
  split <;> rfl

theorem leftToEncode_eq_false {encoder : EncoderSettings} (tag : Tag)
    (hown : tag ∉ [tagBeginString, tagBodyLength, tagSenderCompId, tagTargetCompId, tagChecksum])
    (hstatic : tag ∉ fieldTags encoder.additionalStaticHeaderTags) :
    leftToEncode encoder tag = false := by
  rw [leftToEncode, Bool.or_eq_false_iff, List.contains_eq_mem, List.contains_eq_mem,
    decide_eq_false_iff_not, decide_eq_false_iff_not]
  exact ⟨hown, hstatic⟩

/-- Tags 8, 9 and 35 and the fields behind them are loaded with the type that the next slot
gives. -/
theorem LoadState.loadFields_wire {encoder : EncoderSettings}
    (hstatic : tagMsgType ∉ fieldTags encoder.additionalStaticHeaderTags) (uninitialised : UInt8)
    (m : OutgoingFixMessageInstance) (beginString bodyLength msgType : Bytes)
    {rest : List (Tag × Bytes)} (hrest : tagMsgType ∉ fieldTags rest) :
    (loadFields encoder uninitialised { instance' := m }
        ((tagBeginString, beginString) :: (tagBodyLength, bodyLength) :: (tagMsgType, msgType) ::
          rest)).map (fun s => s.instance'.content) =
      (loadedType ((m.slots m.pointer).copyFrom msgType uninitialised)).map fun loaded =>
        { m.content with msgType := loaded.1 }.withLoaded encoder loaded.2 rest := by
  have hleft : ∀ tag ∈ [tagBeginString, tagBodyLength], leftToEncode encoder tag = true := by
    intro tag hmem
    have hown : tag ∈ [tagBeginString, tagBodyLength, tagSenderCompId, tagTargetCompId,
        tagChecksum] := List.mem_append_left [tagSenderCompId, tagTargetCompId, tagChecksum] hmem
    rw [leftToEncode, List.contains_eq_mem, decide_eq_true hown, Bool.true_or]
  have hbegin := hleft tagBeginString (by decide)
  have hbody := hleft tagBodyLength (by decide)
  have htype : leftToEncode encoder tagMsgType = false :=
    leftToEncode_eq_false _ (by decide) hstatic
  rw [loadFields, loadField, if_pos hbegin, Option.bind_some, loadFields, loadField, if_pos hbody,
    Option.bind_some, loadFields, loadField, if_neg (by rw [htype]; exact Bool.false_ne_true)]
  dsimp only
  rw [if_pos rfl, loadMsgType_eq]
  cases loadedType ((m.slots m.pointer).copyFrom msgType uninitialised) with
  | none => rfl
  | some loaded =>
    obtain ⟨s, hload, hcontent⟩ := loadFields_spec encoder uninitialised
      { instance' := { m.storeText msgType uninitialised with
          content := { (m.storeText msgType uninitialised).content with msgType := loaded.1 } }
        isReplacing := loaded.2 } hrest
    rw [Option.map_some, Option.bind_some, Option.map_some]
    dsimp only at hcontent ⊢
    rw [hload, Option.map_some, hcontent]
    rfl

/-- The parts of a message that can be loaded again. Other tags than 35 may stand more than once,
as those of a repeating group do. -/
structure LoadableWire (beginString msgType : Bytes) (rest : List (Tag × Bytes))
    (checksum : Bytes) : Prop where
  beginString : IsValue beginString
  msgType : IsValue msgType
  checksum : IsValue checksum
  values : ∀ field ∈ rest, IsValue field.2
  once : tagMsgType ∉ fieldTags rest

theorem WellFormedWire.loadable {beginString msgType checksum : Bytes}
    {rest : List (Tag × Bytes)} (h : WellFormedWire beginString msgType rest checksum) :
    LoadableWire beginString msgType rest checksum where
  beginString := h.beginString
  msgType := h.msgType
  checksum := h.checksum
  values := h.values
  once := by
    have hdistinct := List.nodup_cons.mp (List.nodup_cons.mp
      (List.nodup_cons.mp h.distinct).2).2
    exact fun hmem => hdistinct.1 (List.mem_cons_of_mem _ hmem)

/-- Such a message is loaded behind what the instance holds, with the type that the next slot
gives. -/
theorem loadFromBuffer_wire {encoder : EncoderSettings} {beginString msgType checksum : Bytes}
    {rest : List (Tag × Bytes)} (h : LoadableWire beginString msgType rest checksum)
    (hstatic : tagMsgType ∉ fieldTags encoder.additionalStaticHeaderTags) (uninitialised : UInt8)
    (m : OutgoingFixMessageInstance) :
    (m.loadFromBuffer encoder uninitialised
        ((WellFormedWire.allFields beginString msgType rest checksum).flatMap encodeField)).map
        OutgoingFixMessageInstance.content =
      (loadedType ((m.slots m.pointer).copyFrom msgType uninitialised)).map fun loaded =>
        { m.content with msgType := loaded.1 }.withLoaded encoder loaded.2 rest := by
  have hchecksum : leftToEncode encoder tagChecksum = true := by
    rw [leftToEncode, List.contains_eq_mem, decide_eq_true (by decide), Bool.true_or]
  have hrest : tagMsgType ∉ fieldTags (rest ++ [(tagChecksum, checksum)]) := by
    rw [fieldTags_append, List.mem_append, not_or]
    refine ⟨h.once, ?_⟩
    show tagMsgType ∉ [tagChecksum]
    decide
  have hvalues := WellFormedWire.allFields_values h.beginString h.msgType h.values h.checksum
  have hload := LoadState.loadFields_wire hstatic uninitialised m beginString
    (unsignedIntToChars (((tagMsgType, msgType) :: rest).flatMap encodeField).length.toUInt32)
    msgType hrest
  rw [m.loadFromBuffer_fields fun field hfield => (hvalues field hfield).2,
    WellFormedWire.allFields, wireFields, List.cons_append, List.cons_append, List.cons_append]
  have hcontent : ∀ o : Option LoadState, (o.map LoadState.instance').map
      OutgoingFixMessageInstance.content = o.map fun s => s.instance'.content := by
    intro o
    rw [Option.map_map]
    rfl
  rw [hcontent]
  refine hload.trans (congrArg (Option.map · _) (funext fun loaded => ?_))
  rw [← OutgoingFixMessage.withLoaded_append, OutgoingFixMessage.withLoaded_singleton,
    loadedHeaderField, loadedBodyField, if_pos hchecksum, if_pos hchecksum]
  simp [OutgoingFixMessage.withLoaded]

end Llfix
