import Llfix.OutgoingMessage

/-!
# Replay of application messages

A message that was sent is loaded with `load_from_buffer`, gets `43=Y` and is encoded again.

Results:
1. `loadFromBuffer_encoded`: what an encoded message is loaded as.
2. `replayFaithful_iff`: the replay has the tags of the original exactly when `encode` adds no tag
   twice and none by itself that the replay has already.
3. `replayFaithful_fails`: with the last processed number in the header, tag 369 stands twice.
-/

namespace Llfix

open WellFormedWire

/-! ## Loading what `encode` wrote -/

section Load

variable {settings : FixSessionSettings} {encoder : EncoderSettings} {sendingTime : Bytes}

theorem sessionTags_append (encoder : EncoderSettings) :
    sessionTags encoder =
      [tagBeginString, tagBodyLength, tagChecksum, tagMsgType, tagMsgSeqNum, tagSenderCompId,
        tagSendingTime, tagTargetCompId] ++
      ((if encoder.includeLastProcessedSeqnumInHeader then [tagLastMsgSeqNumProcessed] else []) ++
        fieldTags encoder.additionalStaticHeaderTags) :=
  List.append_assoc ..

/-- The tags that `encode` writes by itself in any case are no static header tags. -/
theorem EncodableSession.not_static (h : EncodableSession settings encoder sendingTime) {tag : Tag}
    (htag : tag ∈ [tagBeginString, tagBodyLength, tagChecksum, tagMsgType, tagMsgSeqNum,
      tagSenderCompId, tagSendingTime, tagTargetCompId]) :
    tag ∉ fieldTags encoder.additionalStaticHeaderTags := by
  have hdistinct := h.distinct
  rw [sessionTags_append] at hdistinct
  intro hmem
  exact (List.nodup_append.mp hdistinct).2.2 tag htag tag (List.mem_append_right _ hmem) rfl

theorem EncodableSession.last_not_static (h : EncodableSession settings encoder sendingTime)
    (hlast : encoder.includeLastProcessedSeqnumInHeader = true) :
    tagLastMsgSeqNumProcessed ∉ fieldTags encoder.additionalStaticHeaderTags := by
  have hdistinct := h.distinct
  rw [sessionTags, if_pos hlast] at hdistinct
  intro hmem
  exact (List.nodup_append.mp hdistinct).2.2 _
    (List.mem_append_right _ (List.mem_singleton_self _)) _ hmem rfl

theorem leftToEncode_static {encoder : EncoderSettings} {field : Tag × Bytes}
    (h : field ∈ encoder.additionalStaticHeaderTags) : leftToEncode encoder field.1 = true := by
  have hmem : field.1 ∈ fieldTags encoder.additionalStaticHeaderTags := List.mem_map_of_mem h
  rw [leftToEncode, List.contains_eq_mem, List.contains_eq_mem, decide_eq_true hmem, Bool.or_true]

theorem leftToEncode_own (encoder : EncoderSettings) (tag : Tag)
    (h : tag ∈ [tagBeginString, tagBodyLength, tagSenderCompId, tagTargetCompId, tagChecksum]) :
    leftToEncode encoder tag = true := by
  rw [leftToEncode, List.contains_eq_mem, decide_eq_true h, Bool.true_or]

/-- Of the fields that `encode` writes by itself, the sending time is kept in the header, and the
last processed number stays in the body. -/
theorem sessionFields_loaded (h : EncodableSession settings encoder sendingTime)
    (incomingSeqNo sequenceNo : UInt32) :
    (sessionFields settings encoder sendingTime incomingSeqNo sequenceNo).filterMap
        (loadedHeaderField encoder) = [(tagOrigSendingTime, sendingTime)] ∧
      (sessionFields settings encoder sendingTime incomingSeqNo sequenceNo).filterMap
        (loadedBodyField encoder false) =
        if encoder.includeLastProcessedSeqnumInHeader then
          [(tagLastMsgSeqNumProcessed, unsignedIntToChars incomingSeqNo)] else [] := by
  have hnumber := leftToEncode_eq_false tagMsgSeqNum (by decide)
    (h.not_static (by decide))
  have htime := leftToEncode_eq_false tagSendingTime (by decide)
    (h.not_static (by decide))
  have hsender := leftToEncode_own encoder tagSenderCompId (by decide)
  have htarget := leftToEncode_own encoder tagTargetCompId (by decide)
  have hstaticHeader : encoder.additionalStaticHeaderTags.filterMap (loadedHeaderField encoder) =
      [] := by
    refine List.filterMap_eq_nil_iff.mpr fun field hfield => ?_
    rw [loadedHeaderField, if_pos (leftToEncode_static hfield)]
  have hstaticBody : encoder.additionalStaticHeaderTags.filterMap
      (loadedBodyField encoder false) = [] := by
    refine List.filterMap_eq_nil_iff.mpr fun field hfield => ?_
    rw [loadedBodyField, if_pos (leftToEncode_static hfield)]
  have hne : tagMsgSeqNum ≠ tagSendingTime := by decide
  have hlastTime : tagLastMsgSeqNumProcessed ≠ tagSendingTime := by decide
  have hlastNumber : tagLastMsgSeqNumProcessed ≠ tagMsgSeqNum := by decide
  rw [sessionFields, List.filterMap_append, List.filterMap_append, List.filterMap_append,
    List.filterMap_append, hstaticHeader, hstaticBody]
  cases hlast : encoder.includeLastProcessedSeqnumInHeader with
  | false =>
    simp [loadedHeaderField, loadedBodyField, hnumber, htime, hsender, htarget, hne]
  | true =>
    have hkept := leftToEncode_eq_false tagLastMsgSeqNumProcessed (by decide)
      (h.last_not_static hlast)
    simp [loadedHeaderField, loadedBodyField, hnumber, htime, hsender, htarget, hne, hkept,
      hlastTime, hlastNumber]

/-- Fields that `encode` does not write by itself are kept in the body. -/
theorem ownFields_loaded {encoder : EncoderSettings} {fields : List (Tag × Bytes)}
    (h : ∀ tag ∈ fieldTags fields, tag ∉ sessionTags encoder) :
    fields.filterMap (loadedHeaderField encoder) = [] ∧
      fields.filterMap (loadedBodyField encoder false) = fields := by
  have hfield : ∀ field ∈ fields, leftToEncode encoder field.1 = false ∧
      field.1 ≠ tagSendingTime ∧ field.1 ≠ tagMsgSeqNum := by
    intro field hmem
    have hown := h field.1 (List.mem_map_of_mem hmem)
    rw [sessionTags_append, List.mem_append, List.mem_append, not_or, not_or] at hown
    obtain ⟨hfixed, -, hstatic⟩ := hown
    simp only [List.mem_cons, List.not_mem_nil, or_false, not_or] at hfixed
    obtain ⟨h8, h9, h10, -, h34, h49, h52, h56⟩ := hfixed
    refine ⟨leftToEncode_eq_false _ ?_ hstatic, h52, h34⟩
    simp only [List.mem_cons, List.not_mem_nil, or_false, not_or]
    exact ⟨h8, h9, h49, h56, h10⟩
  constructor
  · refine List.filterMap_eq_nil_iff.mpr fun field hmem => ?_
    obtain ⟨hleft, htime, -⟩ := hfield field hmem
    rw [loadedHeaderField, hleft, if_neg Bool.false_ne_true, if_neg htime]
  · refine (List.filterMap_congr fun field hmem => ?_).trans List.filterMap_some
    obtain ⟨hleft, htime, hnumber⟩ := hfield field hmem
    rw [loadedBodyField, hleft, if_neg Bool.false_ne_true, if_neg htime, if_neg hnumber,
      if_neg Bool.false_ne_true]

/-- The tags set in a message are kept in the body. -/
theorem fields_loaded {m : OutgoingFixMessage} (h : EncodableMessage encoder m) :
    m.fields.filterMap (loadedHeaderField encoder) = [] ∧
      m.fields.filterMap (loadedBodyField encoder false) = m.fields :=
  ownFields_loaded fun tag htag => (h.tags tag htag).2

/-- An instance with no tags set. -/
def OutgoingFixMessageInstance.IsClear (m : OutgoingFixMessageInstance) : Prop :=
  m.content.header = [] ∧ m.content.body = [] ∧ m.content.trailer = []

instance (m : OutgoingFixMessageInstance) : Decidable m.IsClear :=
  inferInstanceAs (Decidable (_ ∧ _))

/-- What an application message of one character is loaded as. -/
def loadedMessage (encoder : EncoderSettings) (sendingTime : Bytes) (incomingSeqNo : UInt32)
    (original : OutgoingFixMessage) : OutgoingFixMessage where
  msgType := original.msgType
  header := [(tagOrigSendingTime, sendingTime)]
  body :=
    (if encoder.includeLastProcessedSeqnumInHeader then
      [(tagLastMsgSeqNumProcessed, unsignedIntToChars incomingSeqNo)] else []) ++ original.fields

theorem loadFromBuffer_encoded (hsession : EncodableSession settings encoder sendingTime)
    {original : OutgoingFixMessage} (hmessage : EncodableMessage encoder original)
    (hsingle : original.msgType.length = 1)
    (happlication : isANonRetransmittableAdminMessageType original.msgType = false)
    (uninitialised : UInt8) {m : OutgoingFixMessageInstance} (hclear : m.IsClear)
    (incomingSeqNo sequenceNo : UInt32) :
    (m.loadFromBuffer encoder uninitialised
        (encode settings encoder sendingTime incomingSeqNo original sequenceNo)).map
        OutgoingFixMessageInstance.content =
      some (loadedMessage encoder sendingTime incomingSeqNo original) := by
  obtain ⟨hheader, hbody, htrailer⟩ := hclear
  obtain ⟨c, hc⟩ := List.length_eq_one_iff.mp hsingle
  have hslot := FixString.copyFrom_toStringView (m.slots m.pointer) original.msgType uninitialised
  have hlength : ((m.slots m.pointer).copyFrom original.msgType uninitialised).length = 1 := hsingle
  rw [hc] at hslot hlength
  obtain ⟨hownHeader, hownBody⟩ := sessionFields_loaded hsession incomingSeqNo sequenceNo
  obtain ⟨hsetHeader, hsetBody⟩ := fields_loaded hmessage
  rw [encode_eq_allFields, loadFromBuffer_wire
    (encode_wellFormed incomingSeqNo sequenceNo hsession hmessage).loadable
    (hsession.not_static (by decide)), hc, loadedType_of_length hslot hlength]
  rw [hc] at happlication
  rw [happlication, if_neg Bool.false_ne_true, Option.map_some, restFields_eq]
  dsimp only
  rw [OutgoingFixMessage.withLoaded, List.filterMap_append, List.filterMap_append, hownHeader,
    hownBody, hsetHeader, hsetBody, hheader, hbody, htrailer, loadedMessage, hc]
  rfl

end Load

/-! ## The replay -/

/-- The fields of an encoded message, tag 10 included. -/
def encodedFields (settings : FixSessionSettings) (encoder : EncoderSettings) (sendingTime : Bytes)
    (incomingSeqNo : UInt32) (m : OutgoingFixMessage) (sequenceNo : UInt32) : List (Tag × Bytes) :=
  (encodedMessage settings encoder sendingTime incomingSeqNo m sequenceNo).message.tags

theorem encodedFields_eq (settings : FixSessionSettings) (encoder : EncoderSettings)
    (sendingTime : Bytes) (incomingSeqNo : UInt32) (m : OutgoingFixMessage) (sequenceNo : UInt32) :
    ∃ bodyLength checksum, IsValue bodyLength ∧ IsValue checksum ∧
      encodedFields settings encoder sendingTime incomingSeqNo m sequenceNo =
        [(tagBeginString, settings.beginString), (tagBodyLength, bodyLength),
          (tagMsgType, m.msgType)] ++
        (sessionFields settings encoder sendingTime incomingSeqNo sequenceNo ++ m.fields ++
          [(tagChecksum, checksum)]) := by
  refine ⟨unsignedIntToChars ((bodyFields settings encoder sendingTime incomingSeqNo m
    sequenceNo).flatMap encodeField).length.toUInt32,
    encodedChecksum settings ((summedFields settings encoder sendingTime incomingSeqNo m
      sequenceNo).flatMap encodeField), isValue_unsignedIntToChars _,
    isValue_encodedChecksum _ _, ?_⟩
  rw [← restFields_eq]
  rfl

/-- No tag stands twice on the wire when none does among those of the session and those set. -/
theorem nodup_encodedFields_iff {settings : FixSessionSettings} {encoder : EncoderSettings}
    {sendingTime : Bytes} {incomingSeqNo : UInt32} {m : OutgoingFixMessage} {sequenceNo : UInt32} :
    (fieldTags (encodedFields settings encoder sendingTime incomingSeqNo m sequenceNo)).Nodup ↔
      (sessionTags encoder ++ fieldTags m.fields).Nodup := by
  obtain ⟨bodyLength, checksum, -, -, hencoded⟩ := encodedFields_eq settings encoder sendingTime
    incomingSeqNo m sequenceNo
  rw [← fieldTags_sessionFields settings encoder sendingTime incomingSeqNo sequenceNo,
    List.append_assoc, ← fieldTags_append, hencoded, fieldTags_append, fieldTags_append]
  refine List.Perm.nodup_iff ?_
  exact (.cons _ (.cons _ (List.perm_append_singleton tagChecksum (tagMsgType :: _))))

/-- The message consists of these fields. -/
theorem encode_eq_encodedFields (settings : FixSessionSettings) (encoder : EncoderSettings)
    (sendingTime : Bytes) (incomingSeqNo : UInt32) (m : OutgoingFixMessage) (sequenceNo : UInt32) :
    encode settings encoder sendingTime incomingSeqNo m sequenceNo =
      (encodedFields settings encoder sendingTime incomingSeqNo m sequenceNo).flatMap
        encodeField :=
  encode_eq_allFields incomingSeqNo sequenceNo

/-- The fields are those of `original` under the number `sequenceNo`, with the tags that a replay
adds and those that `encode` writes by itself. -/
structure ReplayFaithful (encoder : EncoderSettings) (original : OutgoingFixMessage)
    (origSendingTime : Bytes) (sequenceNo : UInt32) (fields : List (Tag × Bytes)) : Prop where
  msgType : (tagMsgType, original.msgType) ∈ fields
  number : (tagMsgSeqNum, unsignedIntToChars sequenceNo) ∈ fields
  tags : fields.filter (fun field => field.1 ∉ sessionTags encoder) =
    [(tagOrigSendingTime, origSendingTime), (tagPossDupFlag, [fixBooleanTrue])] ++ original.fields
  distinct : (fieldTags fields).Nodup

/-- `load_from_buffer`, `43=Y` and `encode`: the fields of the message that is sent. -/
def replay (settings : FixSessionSettings) (encoder : EncoderSettings) (uninitialised : UInt8)
    (m : OutgoingFixMessageInstance) (stored sendingTime : Bytes) (incomingSeqNo : UInt32)
    (sequenceNo : UInt32) : Option (List (Tag × Bytes)) :=
  (m.loadFromBuffer encoder uninitialised stored).map fun m =>
    encodedFields settings encoder sendingTime incomingSeqNo
      (m.setTag .header tagPossDupFlag [fixBooleanTrue] uninitialised).content sequenceNo

/-- When the session writes no tag twice, a replayed application message has the tags of the
original exactly when the last processed number is not in the header and the tags that the replay
adds are no static header tags. -/
theorem replayFaithful_iff_of_distinct {settings : FixSessionSettings} {encoder : EncoderSettings}
    {sendingTime : Bytes} (hsession : EncodableSession settings encoder sendingTime)
    {original : OutgoingFixMessage} (hmessage : EncodableMessage encoder original)
    (hsingle : original.msgType.length = 1)
    (happlication : isANonRetransmittableAdminMessageType original.msgType = false)
    (htags : ∀ tag ∈ fieldTags original.fields,
      tag ∉ [tagPossDupFlag, tagPossResend, tagOrigSendingTime, tagLastMsgSeqNumProcessed])
    (uninitialised : UInt8) {m : OutgoingFixMessageInstance} (hclear : m.IsClear)
    (incomingSeqNo sequenceNo incomingSeqNo' sequenceNo' : UInt32) (sendingTime' : Bytes) :
    (∃ fields, replay settings encoder uninitialised m
          (encode settings encoder sendingTime incomingSeqNo original sequenceNo) sendingTime'
          incomingSeqNo' sequenceNo' = some fields ∧
        ReplayFaithful encoder original sendingTime sequenceNo' fields) ↔
      encoder.includeLastProcessedSeqnumInHeader = false ∧
        tagPossDupFlag ∉ fieldTags encoder.additionalStaticHeaderTags ∧
        tagOrigSendingTime ∉ fieldTags encoder.additionalStaticHeaderTags := by
  have hload := loadFromBuffer_encoded hsession hmessage hsingle happlication uninitialised hclear
    incomingSeqNo sequenceNo
  obtain ⟨loaded, hloaded, hcontent⟩ := Option.map_eq_some_iff.mp hload
  let message := (loaded.setTag .header tagPossDupFlag [fixBooleanTrue] uninitialised).content
  have hmessageEq : message = { loadedMessage encoder sendingTime incomingSeqNo original with
      header := [(tagOrigSendingTime, sendingTime), (tagPossDupFlag, [fixBooleanTrue])] } := by
    have hset : message = { loaded.content with
        header := loaded.content.header ++ [(tagPossDupFlag, [fixBooleanTrue])] } := rfl
    rw [hset, hcontent]
    rfl
  have hfields : message.fields =
      [(tagOrigSendingTime, sendingTime), (tagPossDupFlag, [fixBooleanTrue])] ++
        ((if encoder.includeLastProcessedSeqnumInHeader then
          [(tagLastMsgSeqNumProcessed, unsignedIntToChars incomingSeqNo)] else []) ++
            original.fields) := by
    rw [hmessageEq]
    simp [OutgoingFixMessage.fields, loadedMessage]
  obtain ⟨bodyLength, checksum, -, -, hencoded⟩ := encodedFields_eq settings encoder sendingTime'
    incomingSeqNo' message sequenceNo'
  have hreplay : replay settings encoder uninitialised m
      (encode settings encoder sendingTime incomingSeqNo original sequenceNo) sendingTime'
      incomingSeqNo' sequenceNo' =
        some (encodedFields settings encoder sendingTime' incomingSeqNo' message sequenceNo') := by
    rw [replay, hloaded]
    rfl
  rw [hreplay]
  have hown := fieldTags_sessionFields settings encoder sendingTime' incomingSeqNo' sequenceNo'
  constructor
  · rintro ⟨fields, hfieldsEq, hfaithful⟩
    obtain rfl := Option.some.inj hfieldsEq
    have hdistinct := hfaithful.distinct
    rw [hencoded, fieldTags_append, fieldTags_append, fieldTags_append] at hdistinct
    have hdisjoint := (List.nodup_append.mp
      (List.nodup_append.mp (List.nodup_append.mp hdistinct).2.1).1).2.2
    have hnotOwn : ∀ tag ∈ fieldTags message.fields,
        tag ∉ fieldTags (sessionFields settings encoder sendingTime' incomingSeqNo'
          sequenceNo') := fun tag hset hmem => hdisjoint tag hmem tag hset rfl
    have hstatic : ∀ tag ∈ fieldTags message.fields,
        tag ∉ fieldTags encoder.additionalStaticHeaderTags := by
      intro tag hset hmem
      refine hnotOwn tag hset ?_
      rw [sessionFields, fieldTags_append]
      exact List.mem_append_right _ hmem
    refine ⟨?_, hstatic _ (by rw [hfields]; simp [fieldTags]),
      hstatic _ (by rw [hfields]; simp [fieldTags])⟩
    cases hlast : encoder.includeLastProcessedSeqnumInHeader with
    | false => rfl
    | true =>
      refine absurd ?_ (hnotOwn tagLastMsgSeqNumProcessed ?_)
      · simp [sessionFields, hlast, fieldTags]
      · rw [hfields]
        simp [hlast, fieldTags]
  · rintro ⟨hlast, hposs, horig⟩
    rw [hlast, if_neg Bool.false_ne_true, List.nil_append] at hfields
    -- the tags that the replay adds are neither the session's nor the original's
    have hadded : ∀ tag ∈ [tagOrigSendingTime, tagPossDupFlag], tag ∉ sessionTags encoder := by
      intro tag htag
      rw [sessionTags, hlast, if_neg Bool.false_ne_true, List.append_nil, List.mem_append, not_or]
      simp only [List.mem_cons, List.not_mem_nil, or_false] at htag
      rcases htag with rfl | rfl
      · exact ⟨by decide, horig⟩
      · exact ⟨by decide, hposs⟩
    have hsetTags : ∀ tag ∈ fieldTags message.fields, tag ∉ sessionTags encoder := by
      intro tag htag
      rw [hfields, fieldTags_append, List.mem_append] at htag
      rcases htag with htag | htag
      · exact hadded tag htag
      · exact (hmessage.tags tag htag).2
    have hdistinct : (sessionTags encoder ++ fieldTags message.fields).Nodup := by
      refine List.nodup_append.mpr ⟨hsession.distinct, ?_, ?_⟩
      · rw [hfields, fieldTags_append]
        have hpair : fieldTags [(tagOrigSendingTime, sendingTime),
            (tagPossDupFlag, [fixBooleanTrue])] = [tagOrigSendingTime, tagPossDupFlag] := rfl
        rw [hpair]
        refine List.nodup_append.mpr ⟨by decide, hmessage.distinct, ?_⟩
        rintro tag htag _ hset rfl
        have hnot := htags tag hset
        simp only [List.mem_cons, List.not_mem_nil, or_false, not_or] at hnot htag
        rcases htag with rfl | rfl
        · exact hnot.2.2.1 rfl
        · exact hnot.1 rfl
      · rintro tag hsessionTag _ hset rfl
        exact hsetTags tag hset hsessionTag
    refine ⟨_, rfl, ?_, ?_, ?_, ?_⟩
    · rw [hencoded, hmessageEq]
      simp [loadedMessage]
    · rw [hencoded]
      simp [sessionFields]
    · have hdropped : ∀ fields : List (Tag × Bytes), (∀ field ∈ fields,
          field.1 ∈ sessionTags encoder) →
            fields.filter (fun field => field.1 ∉ sessionTags encoder) = [] := by
        intro fields hmem
        refine List.filter_eq_nil_iff.mpr fun field hfield => ?_
        simp [hmem field hfield]
      have hkept : message.fields.filter (fun field => field.1 ∉ sessionTags encoder) =
          message.fields := by
        refine List.filter_eq_self.mpr fun field hfield => ?_
        simpa using hsetTags field.1 (List.mem_map_of_mem hfield)
      have hchecksum : tagChecksum ∈ sessionTags encoder := by
        rw [sessionTags_append]
        exact List.mem_append_left _ (by decide)
      have hheader : ∀ tag ∈ [tagBeginString, tagBodyLength, tagMsgType],
          tag ∈ sessionTags encoder := by
        intro tag htag
        rw [sessionTags_append]
        refine List.mem_append_left _ ?_
        exact forall_tag_of_all (by decide) tag htag
      rw [hencoded, List.filter_append, List.filter_append, List.filter_append, hkept,
        hdropped _ (fun field hfield => ?_), hdropped _ (fun field hfield => ?_),
        hdropped _ (fun field hfield => ?_), List.nil_append, List.nil_append, List.append_nil,
        hfields]
      · rw [List.mem_singleton.mp hfield]
        exact hchecksum
      · rw [← hown]
        exact List.mem_append_right _ (List.mem_map_of_mem hfield)
      · refine hheader field.1 ?_
        exact List.mem_map_of_mem (f := Prod.fst) hfield
    · exact nodup_encodedFields_iff.mpr hdistinct

/-- The values of the session can be encoded; its tags may stand twice. -/
structure ValuedSession (settings : FixSessionSettings) (encoder : EncoderSettings)
    (sendingTime : Bytes) : Prop where
  beginString : IsValue settings.beginString
  senderCompId : IsValue settings.senderCompId
  targetCompId : IsValue settings.targetCompId
  sendingTime : IsValue sendingTime
  staticValues : ∀ field ∈ encoder.additionalStaticHeaderTags, IsValue field.2
  staticTags : ∀ tag ∈ fieldTags encoder.additionalStaticHeaderTags, 1 ≤ tag

/-- A replayed application message has the tags of the original, exactly when the session writes no
tag twice, the last processed number is not in the header and the tags that the replay adds are no
static header tags. -/
theorem replayFaithful_iff {settings : FixSessionSettings} {encoder : EncoderSettings}
    {sendingTime : Bytes} (hsession : ValuedSession settings encoder sendingTime)
    {original : OutgoingFixMessage} (hmessage : EncodableMessage encoder original)
    (hsingle : original.msgType.length = 1)
    (happlication : isANonRetransmittableAdminMessageType original.msgType = false)
    (htags : ∀ tag ∈ fieldTags original.fields,
      tag ∉ [tagPossDupFlag, tagPossResend, tagOrigSendingTime, tagLastMsgSeqNumProcessed])
    (uninitialised : UInt8) {m : OutgoingFixMessageInstance} (hclear : m.IsClear)
    (incomingSeqNo sequenceNo incomingSeqNo' sequenceNo' : UInt32) (sendingTime' : Bytes) :
    (∃ fields, replay settings encoder uninitialised m
          (encode settings encoder sendingTime incomingSeqNo original sequenceNo) sendingTime'
          incomingSeqNo' sequenceNo' = some fields ∧
        ReplayFaithful encoder original sendingTime sequenceNo' fields) ↔
      (sessionTags encoder).Nodup ∧ encoder.includeLastProcessedSeqnumInHeader = false ∧
        tagPossDupFlag ∉ fieldTags encoder.additionalStaticHeaderTags ∧
        tagOrigSendingTime ∉ fieldTags encoder.additionalStaticHeaderTags := by
  have hgiven : (sessionTags encoder).Nodup → EncodableSession settings encoder sendingTime :=
    fun hdistinct => ⟨hsession.beginString, hsession.senderCompId, hsession.targetCompId,
      hsession.sendingTime, hsession.staticValues, hsession.staticTags, hdistinct⟩
  have hiff := fun hdistinct => replayFaithful_iff_of_distinct (hgiven hdistinct) hmessage hsingle
    happlication htags uninitialised hclear incomingSeqNo sequenceNo incomingSeqNo' sequenceNo'
    sendingTime'
  constructor
  · intro hfaithful
    have hdistinct : (sessionTags encoder).Nodup := by
      obtain ⟨fields, hfields, hfaithful⟩ := hfaithful
      obtain ⟨loaded, -, rfl⟩ := Option.map_eq_some_iff.mp hfields
      exact (List.nodup_append.mp (nodup_encodedFields_iff.mp hfaithful.distinct)).1
    exact ⟨hdistinct, (hiff hdistinct).mp hfaithful⟩
  · rintro ⟨hdistinct, hrest⟩
    exact (hiff hdistinct).mpr hrest

/-- An order, sent under number 7 and replayed at a later time. -/
def exampleApplicationMessage : OutgoingFixMessage :=
  { msgType := [msgTypeNewOrder]
    header := [(115, text "CLIENT")]
    body := [(55, text "XYZ"), (54, text "1")] }

theorem replayFaithful_iff_order :
    (∃ fields, replay exampleSettings {} 0 {}
          (encode exampleSettings {} (text "20260101-00:00:00") 9 exampleApplicationMessage 7)
          (text "20260101-00:00:09") 12 7 = some fields ∧
        ReplayFaithful {} exampleApplicationMessage (text "20260101-00:00:00") 7 fields) ↔
      (sessionTags {}).Nodup ∧ ({} : EncoderSettings).includeLastProcessedSeqnumInHeader = false ∧
        tagPossDupFlag ∉ fieldTags ({} : EncoderSettings).additionalStaticHeaderTags ∧
        tagOrigSendingTime ∉ fieldTags ({} : EncoderSettings).additionalStaticHeaderTags := by
  have hsession : ValuedSession exampleSettings {} (text "20260101-00:00:00") :=
    ⟨by decide, by decide, by decide, by decide, by decide, forall_tag_of_all (by decide)⟩
  have hmessage : EncodableMessage {} exampleApplicationMessage :=
    ⟨by decide, by decide, forall_tag_of_all (by decide), by decide⟩
  have hclear : ({} : OutgoingFixMessageInstance).IsClear := ⟨rfl, rfl, rfl⟩
  exact replayFaithful_iff hsession hmessage rfl (by decide) (forall_tag_of_all (by decide)) 0
    hclear 9 7 12 7 _

/-- With the last processed number in the header, the replay has tag 369 twice: the one of the
original in the body, and its own. -/
theorem replayFaithful_fails :
    ¬ ∃ fields, replay exampleSettings { includeLastProcessedSeqnumInHeader := true } 0 {}
          (encode exampleSettings { includeLastProcessedSeqnumInHeader := true }
            (text "20260101-00:00:00") 9 exampleApplicationMessage 7)
          (text "20260101-00:00:09") 12 7 = some fields ∧
        ReplayFaithful { includeLastProcessedSeqnumInHeader := true } exampleApplicationMessage
          (text "20260101-00:00:00") 7 fields := by
  rintro ⟨fields, hfields, hfaithful⟩
  have htwice : (replay exampleSettings { includeLastProcessedSeqnumInHeader := true } 0 {}
      (encode exampleSettings { includeLastProcessedSeqnumInHeader := true }
        (text "20260101-00:00:00") 9 exampleApplicationMessage 7)
      (text "20260101-00:00:09") 12 7).any (fun fields => ¬ (fieldTags fields).Nodup) = true := by
    decide +kernel
  rw [hfields, Option.any_some, decide_eq_true_eq] at htwice
  exact htwice hfaithful.distinct

end Llfix
