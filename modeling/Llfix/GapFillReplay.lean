import Llfix.Replay

/-!
# Replay of admin messages

For a stored admin message `resend_messages_to_server` and `resend_messages_to_client` send a
SequenceReset. Unlike `build_gap_fill_message` they do not set GapFillFlag.

Results:
1. `resendMessage_admin`: the message that is sent for an admin message.
2. `parseMessage_duplicates`: a message with a tag twice is refused by the parser.
3. `resendMessage_gapFill_iff`: when the message is a gap fill for the peer.
4. `resendMessage_gapFill_fails`: for a stored Heartbeat it is a hard sequence reset.
-/

namespace Llfix

open WellFormedWire MessageParser

/-! ## What is sent -/

/-- The tags that the loop of `resend_messages_to_server` adds; `includeT97` is
`include_t97_during_resends`. -/
def resendTags (includeT97 : Bool) : List (Tag × Bytes) :=
  (tagPossDupFlag, [fixBooleanTrue]) ::
    if includeT97 then [(tagPossResend, [fixBooleanTrue])] else []

/-- One turn of the loop: the bytes that are given to `send_bytes`. -/
def resendMessage (settings : FixSessionSettings) (encoder : EncoderSettings) (includeT97 : Bool)
    (uninitialised : UInt8) (m : OutgoingFixMessageInstance) (stored sendingTime : Bytes)
    (incomingSeqNo sequenceNo : UInt32) : Option Bytes :=
  (m.loadFromBuffer encoder uninitialised stored).map fun m =>
    let m := (resendTags includeT97).foldl
      (fun m field => m.setTag .header field.1 field.2 uninitialised) m
    encode settings encoder sendingTime incomingSeqNo m.content sequenceNo

/-- What the loop adds to a message that has been loaded. -/
def OutgoingFixMessage.withResendTags (content : OutgoingFixMessage) (includeT97 : Bool) :
    OutgoingFixMessage :=
  { content with header := content.header ++ resendTags includeT97 }

theorem foldl_resendTags (includeT97 : Bool) (uninitialised : UInt8)
    (m : OutgoingFixMessageInstance) :
    ((resendTags includeT97).foldl
      (fun m field => m.setTag .header field.1 field.2 uninitialised) m).content =
        m.content.withResendTags includeT97 := by
  cases includeT97 with
  | true =>
    simp [resendTags, OutgoingFixMessage.withResendTags, OutgoingFixMessageInstance.setTag,
      OutgoingFixMessageInstance.storeText]
  | false => rfl

/-- The content that is sent for an admin message with the sending time `origSendingTime`. -/
def gapFillContent (includeT97 : Bool) (origSendingTime : Bytes) (sequenceNo : UInt32) :
    OutgoingFixMessage where
  msgType := [msgTypeSequenceReset]
  header := (tagOrigSendingTime, origSendingTime) :: resendTags includeT97
  body := [(tagNewSeqNo, unsignedIntToChars (sequenceNo + 1))]

/-- A stored admin message: one of the six types, and further fields in any order. Its number and
its sending time stand in it once; other tags may stand more than once, as those of a group of a
Logon do. -/
structure StoredAdminMessage (encoder : EncoderSettings) (beginString : Bytes) (msgType : UInt8)
    (rest : List (Tag × Bytes)) (checksum : Bytes) (sequenceNo : UInt32)
    (origSendingTime : Bytes) : Prop where
  loadable : LoadableWire beginString [msgType] rest checksum
  admin : msgType ∈ nonRetransmittableAdminMessageTypes
  number : rest.filter (·.1 = tagMsgSeqNum) = [(tagMsgSeqNum, unsignedIntToChars sequenceNo)]
  sendingTime : rest.filter (·.1 = tagSendingTime) = [(tagSendingTime, origSendingTime)]

theorem StoredAdminMessage.sendingTime_mem {encoder : EncoderSettings} {beginString : Bytes}
    {msgType : UInt8} {rest : List (Tag × Bytes)} {checksum : Bytes} {sequenceNo : UInt32}
    {origSendingTime : Bytes} (h : StoredAdminMessage encoder beginString msgType rest checksum
      sequenceNo origSendingTime) :
    (tagSendingTime, origSendingTime) ∈ rest := by
  refine List.mem_of_mem_filter (p := (·.1 = tagSendingTime)) ?_
  rw [h.sendingTime]
  exact List.mem_singleton_self _

/-- Of a list in which a tag stands once, what is kept of its field alone. -/
theorem filterMap_single {fields : List (Tag × Bytes)} {tag : Tag} {value : Bytes}
    (honce : fields.filter (·.1 = tag) = [(tag, value)]) {f : Tag × Bytes → Option (Tag × Bytes)}
    (hother : ∀ other ∈ fields, other.1 ≠ tag → f other = none) :
    fields.filterMap f = (f (tag, value)).toList := by
  have hkept : fields.filterMap f = (fields.filter (·.1 = tag)).filterMap f := by
    rw [List.filterMap_filter]
    refine List.filterMap_congr fun other hmem => ?_
    by_cases htag : other.1 = tag
    · simp [htag]
    · simp [htag, hother other hmem htag]
  rw [hkept, honce, List.filterMap_cons, List.filterMap_nil]
  cases f (tag, value) with
  | none => rfl
  | some x => rfl

section

variable {settings : FixSessionSettings} {encoder : EncoderSettings} {sendingTime : Bytes}
  {beginString : Bytes} {msgType : UInt8} {rest : List (Tag × Bytes)} {checksum : Bytes}
  {sequenceNo : UInt32} {origSendingTime : Bytes}

/-- For an admin message a SequenceReset is sent: its number, increased by one, is NewSeqNo. -/
theorem resendMessage_admin (hsession : EncodableSession settings encoder sendingTime)
    (hstored : StoredAdminMessage encoder beginString msgType rest checksum sequenceNo
      origSendingTime) (includeT97 : Bool) (uninitialised : UInt8)
    {m : OutgoingFixMessageInstance} (hclear : m.IsClear) (incomingSeqNo : UInt32) :
    resendMessage settings encoder includeT97 uninitialised m
        ((allFields beginString [msgType] rest checksum).flatMap encodeField) sendingTime
        incomingSeqNo sequenceNo =
      some (encode settings encoder sendingTime incomingSeqNo
        (gapFillContent includeT97 origSendingTime sequenceNo) sequenceNo) := by
  obtain ⟨hheader, hbody, htrailer⟩ := hclear
  have hslot := FixString.copyFrom_toStringView (m.slots m.pointer) [msgType] uninitialised
  have hadmin : isANonRetransmittableAdminMessageType [msgType] = true :=
    (List.contains_eq_mem ..).trans (decide_eq_true hstored.admin)
  have hload := loadFromBuffer_wire hstored.loadable
    (hsession.not_static (by decide) : tagMsgType ∉ _) uninitialised m
  rw [loadedType_of_length hslot rfl, hadmin, if_pos rfl, Option.map_some] at hload
  have hkept : ∀ tag, tag ∉ [tagBeginString, tagBodyLength, tagSenderCompId, tagTargetCompId,
      tagChecksum] → tag ∉ fieldTags encoder.additionalStaticHeaderTags →
        leftToEncode encoder tag = false := fun tag => leftToEncode_eq_false tag
  have hnumber := hkept tagMsgSeqNum (by decide) (hsession.not_static (by decide))
  have htime := hkept tagSendingTime (by decide) (hsession.not_static (by decide))
  have hloadedHeader : rest.filterMap (loadedHeaderField encoder) =
      [(tagOrigSendingTime, origSendingTime)] := by
    rw [filterMap_single hstored.sendingTime fun other _ hne => ?_]
    · rw [loadedHeaderField, htime, if_neg Bool.false_ne_true, if_pos rfl]
      rfl
    · rw [loadedHeaderField, if_neg hne]
      exact ite_self none
  have hloadedBody : rest.filterMap (loadedBodyField encoder true) =
      [(tagNewSeqNo, unsignedIntToChars (sequenceNo + 1))] := by
    rw [filterMap_single hstored.number fun other _ hne => ?_]
    · have hne : tagMsgSeqNum ≠ tagSendingTime := by decide
      rw [loadedBodyField, hnumber, if_neg Bool.false_ne_true, if_neg hne, if_pos rfl, if_pos rfl,
        charsToUnsignedInt_unsignedIntToChars]
      rfl
    · rw [loadedBodyField, if_neg hne, if_pos rfl, ite_self, ite_self]
  obtain ⟨loaded, hloaded, hcontent⟩ := Option.map_eq_some_iff.mp hload
  have hset : ∀ (fields : List (Tag × Bytes)) (m : OutgoingFixMessageInstance),
      (fields.foldl (fun m field => m.setTag .header field.1 field.2 uninitialised) m).content =
        { m.content with header := m.content.header ++ fields } := by
    intro fields
    induction fields with
    | nil =>
      intro m
      simp
    | cons field fields ih =>
      intro m
      rw [List.foldl_cons, ih]
      simp [OutgoingFixMessageInstance.setTag, OutgoingFixMessageInstance.storeText]
  rw [resendMessage, hloaded, Option.map_some]
  dsimp only
  rw [hset, hcontent, OutgoingFixMessage.withLoaded, hloadedHeader, hloadedBody, hheader, hbody,
    htrailer]
  rfl

end

/-! ## A tag that stands twice -/

namespace MessageParser

variable {p : MessageParser} {start : Nat} {tag : Tag} {value : Bytes}

theorem afterTag_inARepeatingGroup :
    (p.afterTag start tag value).inARepeatingGroup = p.inARepeatingGroup := by
  have hvalidate : (p.validateTag9AndTag35 start).inARepeatingGroup = p.inARepeatingGroup := by
    unfold validateTag9AndTag35
    cases p.currentTag35TagStartIndex with
    | none => rfl
    | some tag35Start =>
      dsimp only
      split_ifs
      · exact (Prod.mk.inj (Prod.mk.inj (p.rejectIf_groupState _ _)).2).1
      · rfl
      · rfl
  unfold afterTag
  split_ifs
  · exact hvalidate
  · rfl
  · rfl

/-- Without repeating groups a field is recorded when its tag is new, and refuses the message when
it is not. -/
theorem endOfPart_recorded (start : Nat) (tag : Tag) (hgroup : p.inARepeatingGroup = false)
    (hvalue : value ≠ []) :
    (p.endOfPart {} start (fieldPart (tag, value))).inARepeatingGroup = false ∧
      (p.endOfPart {} start (fieldPart (tag, value))).message.tags =
        (if tag ∈ fieldTags p.message.tags then p.message.tags
          else p.message.tags ++ [(tag, value)]) ∧
      ((p.endOfPart {} start (fieldPart (tag, value))).isRejected = false →
        p.isRejected = false ∧ tag ∉ fieldTags p.message.tags) := by
  have hno : p.updateRepeatingGroup {} tag = p := by
    unfold updateRepeatingGroup
    rw [if_pos hgroup]
    split <;> rfl
  have hstores : p.Stores {} tag ↔ tag ∉ fieldTags p.message.tags := by
    rw [Stores, hno, hgroup, ← p.message.hasTag_eq_false_iff]
    exact ⟨fun h => h.resolve_left Bool.false_ne_true, .inr⟩
  rw [endOfPart_fieldPart {} hvalue]
  refine ⟨?_, ?_, ?_⟩
  · rw [recordTag_eq, afterTag_inARepeatingGroup, setTag_inARepeatingGroup,
      beforeSetTag_inARepeatingGroup, hno, hgroup]
  · have hstored := congrArg (fun stored => stored.1.tags)
      (p.recordTag_stored {} start tag value)
    refine hstored.trans ?_
    split
    next hnew =>
      rw [if_neg (hstores.mp hnew), storedWith, hno, hgroup, if_neg Bool.false_ne_true]
    next hold =>
      rw [hstores, not_not] at hold
      rw [if_pos hold]
      rfl
  · intro haccepted
    have hrejects := fun h => p.recordTag_isRejected {} start tag value h
    constructor
    · by_contra hrejected
      rw [Bool.not_eq_false] at hrejected
      exact Bool.false_ne_true (haccepted.symm.trans (hrejects (.inl hrejected)))
    · intro hmem
      have hrejected := hrejects (.inr (.inr fun h => hstores.mp h hmem))
      exact Bool.false_ne_true (haccepted.symm.trans hrejected)

/-- All that is recorded of the fields is among them, and all of them have distinct tags when the
message is not refused. -/
def RecordsDistinct (p result : MessageParser) (fields : List (Tag × Bytes)) : Prop :=
  (∀ field ∈ result.message.tags, field ∈ p.message.tags ++ fields) ∧
    (result.isRejected = false → (fieldTags p.message.tags).Nodup →
      p.isRejected = false ∧ (fieldTags (p.message.tags ++ fields)).Nodup)

theorem RecordsDistinct.cons {result : MessageParser} {fields : List (Tag × Bytes)}
    (hgroup : p.inARepeatingGroup = false) (hvalue : value ≠ [])
    (h : RecordsDistinct (p.endOfPart {} start (fieldPart (tag, value))) result fields) :
    RecordsDistinct p result ((tag, value) :: fields) := by
  obtain ⟨-, htags, haccepts⟩ :=
    endOfPart_recorded start tag hgroup hvalue
  obtain ⟨hmem, hdistinct⟩ := h
  have happend : p.message.tags ++ (tag, value) :: fields =
      p.message.tags ++ [(tag, value)] ++ fields := by
    rw [List.append_assoc]
    rfl
  constructor
  · intro field hfield
    have hrecorded := hmem field hfield
    rw [htags] at hrecorded
    split at hrecorded
    next =>
      rcases List.mem_append.mp hrecorded with hold | hrest
      · exact List.mem_append_left _ hold
      · exact List.mem_append_right _ (List.mem_cons_of_mem _ hrest)
    next =>
      rw [happend]
      exact hrecorded
  · intro haccepted hnodup
    have hafter : (fieldTags (p.endOfPart {} start (fieldPart (tag, value))).message.tags).Nodup := by
      rw [htags]
      split
      next => exact hnodup
      next hnew =>
        rw [fieldTags_append]
        refine List.nodup_append.mpr ⟨hnodup, List.nodup_singleton _, ?_⟩
        rintro old hold _ hsingle rfl
        have heq : old = tag := List.mem_singleton.mp hsingle
        exact hnew (heq ▸ hold)
    obtain ⟨hcode, hrest⟩ := hdistinct haccepted hafter
    obtain ⟨hcode', hnew⟩ := haccepts hcode
    rw [htags, if_neg hnew] at hrest
    rw [happend]
    exact ⟨hcode', hrest⟩

/-- A message whose fields end with tag 10 is recorded as far as its tags are new, and refused
when one stands twice. -/
theorem parseParts_recordsDistinct {fields : List (Tag × Bytes)} {result : MessageParser × Nat}
    (hgroup : p.inARepeatingGroup = false) (hreached : p.reachedChecksum = false)
    (hfields : ∀ field ∈ fields, field.1 ≠ tagChecksum ∧ field.2 ≠ []) {checksum : Bytes}
    (hchecksum : checksum ≠ [])
    (h : p.parseParts {} start (fields.map fieldPart ++ [fieldPart (tagChecksum, checksum)]) =
      some result) :
    RecordsDistinct p result.1 (fields ++ [(tagChecksum, checksum)]) := by
  induction fields generalizing p start with
  | nil =>
    rw [List.map_nil, List.nil_append, parseParts] at h
    split at h
    next =>
      obtain rfl := Option.some.inj h
      have hend : RecordsDistinct (p.endOfPart {} start (fieldPart (tagChecksum, checksum)))
          (p.endOfPart {} start (fieldPart (tagChecksum, checksum))) [] := by
        refine ⟨fun field hfield => List.mem_append_left _ hfield, fun hcode hnodup => ?_⟩
        rw [List.append_nil]
        exact ⟨hcode, hnodup⟩
      exact hend.cons hgroup hchecksum
    next => cases h
  | cons field fields ih =>
    obtain ⟨tag, value⟩ := field
    obtain ⟨hten, hvalue⟩ := hfields (tag, value) List.mem_cons_self
    have hgoes : (p.endOfPart {} start (fieldPart (tag, value))).reachedChecksum = false := by
      have hreads : readsAsChecksumTag (unsignedIntToChars tag) = false := by
        rw [readsAsChecksumTag, charsToUnsignedInt_unsignedIntToChars]
        simp [hten]
      rw [endOfPart, fieldOf_fieldPart]
      dsimp only
      rw [endOfValue_reachedChecksum, hreached, hreads]
      rfl
    obtain ⟨hgroup', -, -⟩ := endOfPart_recorded start tag hgroup hvalue
    rw [List.map_cons, List.cons_append, parseParts] at h
    rw [if_neg (by rw [hgoes]; exact Bool.false_ne_true)] at h
    exact RecordsDistinct.cons hgroup hvalue
      (ih hgroup' hgoes (fun f hf => hfields f (List.mem_cons_of_mem _ hf)) h)

end MessageParser

/-- The parser records fields of the message only, and refuses a message with a tag twice. -/
theorem parseMessage_duplicates {fields : List (Tag × Bytes)} {checksum : Bytes}
    (hfields : ∀ field ∈ fields, field.1 ≠ tagChecksum ∧ IsValue field.2)
    (hchecksum : IsValue checksum) {p : MessageParser} {rx : RxMessage}
    (h : parseMessage {} ((fields ++ [(tagChecksum, checksum)]).flatMap encodeField) =
      some (p, rx)) :
    (∀ field ∈ rx.message.tags, field ∈ fields ++ [(tagChecksum, checksum)]) ∧
      (rx.parserRejectCode = none → (fieldTags (fields ++ [(tagChecksum, checksum)])).Nodup) := by
  have hno : ∀ part ∈ (fields ++ [(tagChecksum, checksum)]).map fieldPart,
      fixDelimiter ∉ part := by
    intro part hpart
    obtain ⟨field, hfield, rfl⟩ := List.mem_map.mp hpart
    refine fieldPart_noDelimiter ?_
    rcases List.mem_append.mp hfield with hfield | hfield
    · exact (hfields field hfield).2.2
    · rw [List.mem_singleton.mp hfield]
      exact hchecksum.2
  have hparts : partsFrom [] ((fields ++ [(tagChecksum, checksum)]).flatMap encodeField) =
      fields.map fieldPart ++ [fieldPart (tagChecksum, checksum)] := by
    have hjoin := partsFrom_joinParts hno []
    rw [List.append_nil, partsFrom, List.append_nil] at hjoin
    rw [flatMap_encodeField, hjoin, List.map_append]
    rfl
  have hloop : parse {} {} 0 0 [] none ((fields ++ [(tagChecksum, checksum)]).flatMap
      encodeField) = parseParts {} {} 0 (partsFrom [] ((fields ++
        [(tagChecksum, checksum)]).flatMap encodeField)) :=
    parse_eq_parseParts {} {} rfl 0 [] List.not_mem_nil none _
  obtain ⟨result, hresult, heq⟩ := Option.map_eq_some_iff.mp h
  obtain ⟨-, rfl⟩ := Prod.mk.inj heq
  rw [hloop, hparts] at hresult
  obtain ⟨hmem, hdistinct⟩ := parseParts_recordsDistinct rfl rfl
    (fun field hfield => ⟨(hfields field hfield).1, (hfields field hfield).2.1⟩) hchecksum.1 hresult
  refine ⟨hmem, fun hcode => ?_⟩
  have haccepted : result.1.isRejected = false := by
    have hnone : result.1.parserRejectCode = none := hcode
    rw [isRejected, hnone]
    rfl
  exact (hdistinct haccepted List.nodup_nil).2

/-! ## Gap fills -/

/-- The peer parses the bytes as a gap fill of `sequenceNo` with PossDupFlag, and finds no tags but
those of the session and of a gap fill. -/
def IsGapFillAtPeer (encoder : EncoderSettings) (sequenceNo : UInt32) (sent : Bytes) : Prop :=
  ∃ p rx, parseMessage {} sent = some (p, rx) ∧ rx.parserRejectCode = none ∧
    rx.msgType = [msgTypeSequenceReset] ∧ rx.seqNum = sequenceNo ∧
    rx.message.tags.lookup tagNewSeqNo = some (unsignedIntToChars (sequenceNo + 1)) ∧
    rx.message.tags.lookup tagPossDupFlag = some [fixBooleanTrue] ∧
    rx.message.tags.lookup tagGapFillFlag = some [fixBooleanTrue] ∧
    isAHardSequenceResetMessage rx.message = false ∧
    ∀ tag ∈ fieldTags rx.message.tags, tag ∈ sessionTags encoder ++
      [tagNewSeqNo, tagPossDupFlag, tagPossResend, tagOrigSendingTime, tagGapFillFlag]

/-- The tags of the message that is sent for an admin message. -/
def addedTags (includeT97 : Bool) : List Tag :=
  fieldTags (resendTags includeT97) ++ [tagOrigSendingTime, tagNewSeqNo]

section

variable {settings : FixSessionSettings} {encoder : EncoderSettings} {sendingTime : Bytes}

theorem mem_addedTags (includeT97 : Bool) (origSendingTime : Bytes) (sequenceNo : UInt32) (tag : Tag) :
    tag ∈ fieldTags (gapFillContent includeT97 origSendingTime sequenceNo).fields ↔
      tag ∈ addedTags includeT97 := by
  have hfields : (gapFillContent includeT97 origSendingTime sequenceNo).fields =
      (tagOrigSendingTime, origSendingTime) :: resendTags includeT97 ++
        [(tagNewSeqNo, unsignedIntToChars (sequenceNo + 1))] := List.append_nil _
  rw [hfields, addedTags, fieldTags_append, fieldTags_cons]
  simp only [fieldTags, List.map_cons, List.map_nil, List.mem_cons, List.mem_append,
    List.not_mem_nil, or_false]
  tauto

theorem gapFillContent_values {origSendingTime : Bytes} (htime : IsValue origSendingTime)
    (includeT97 : Bool) (sequenceNo : UInt32) :
    ∀ field ∈ (gapFillContent includeT97 origSendingTime sequenceNo).fields, IsValue field.2 := by
  have hyes : IsValue [fixBooleanTrue] := by decide
  intro field hfield
  simp only [OutgoingFixMessage.fields, gapFillContent, resendTags, List.append_nil,
    List.mem_append, List.mem_cons, List.not_mem_nil, or_false] at hfield
  rcases hfield with (rfl | rfl | hfield) | rfl
  · exact htime
  · exact hyes
  · split at hfield
    · rw [List.mem_singleton.mp hfield]
      exact hyes
    · exact absurd hfield List.not_mem_nil
  · exact isValue_unsignedIntToChars _

theorem gapFillContent_distinct (includeT97 : Bool) (origSendingTime : Bytes)
    (sequenceNo : UInt32) :
    (fieldTags (gapFillContent includeT97 origSendingTime sequenceNo).fields).Nodup := by
  cases includeT97 with
  | true =>
    show [tagOrigSendingTime, tagPossDupFlag, tagPossResend, tagNewSeqNo].Nodup
    decide
  | false =>
    show [tagOrigSendingTime, tagPossDupFlag, tagNewSeqNo].Nodup
    decide

/-- Without a collision with static header tags, what is sent can be encoded. -/
theorem gapFillContent_encodable {origSendingTime : Bytes} (htime : IsValue origSendingTime)
    {includeT97 : Bool} (hadded : ∀ tag ∈ addedTags includeT97,
      tag ∉ fieldTags encoder.additionalStaticHeaderTags) (sequenceNo : UInt32) :
    EncodableMessage encoder (gapFillContent includeT97 origSendingTime sequenceNo) where
  msgType := by
    have htype : IsValue [msgTypeSequenceReset] := by decide
    exact htype
  values := gapFillContent_values htime includeT97 sequenceNo
  tags := by
    intro tag htag
    rw [mem_addedTags] at htag
    have hfixed : ∀ tag ∈ addedTags includeT97, 1 ≤ tag ∧
        tag ∉ [tagBeginString, tagBodyLength, tagChecksum, tagMsgType, tagMsgSeqNum,
          tagSenderCompId, tagSendingTime, tagTargetCompId] ∧
        tag ≠ tagLastMsgSeqNumProcessed := by
      cases includeT97 with
      | true => exact forall_tag_of_all (by decide)
      | false => exact forall_tag_of_all (by decide)
    obtain ⟨hpos, hown, hlast⟩ := hfixed tag htag
    refine ⟨hpos, ?_⟩
    rw [sessionTags_append, List.mem_append, List.mem_append, not_or, not_or]
    refine ⟨hown, ?_, hadded tag htag⟩
    split
    · exact fun hmem => hlast (List.mem_singleton.mp hmem)
    · exact List.not_mem_nil
  distinct := gapFillContent_distinct includeT97 origSendingTime sequenceNo

/-- The fields of the message that is sent, in front of tag 10. -/
theorem gapFillContent_front (hsession : EncodableSession settings encoder sendingTime)
    {origSendingTime : Bytes} (htime : IsValue origSendingTime) (includeT97 : Bool)
    (incomingSeqNo sequenceNo : UInt32) :
    ∃ bodyLength checksum, IsValue checksum ∧
      let front := [(tagBeginString, settings.beginString), (tagBodyLength, bodyLength),
          (tagMsgType, [msgTypeSequenceReset])] ++
        (sessionFields settings encoder sendingTime incomingSeqNo sequenceNo ++
          (gapFillContent includeT97 origSendingTime sequenceNo).fields)
      encodedFields settings encoder sendingTime incomingSeqNo
          (gapFillContent includeT97 origSendingTime sequenceNo) sequenceNo =
        front ++ [(tagChecksum, checksum)] ∧
      ∀ field ∈ front, field.1 ≠ tagChecksum ∧ IsValue field.2 := by
  obtain ⟨bodyLength, checksum, hbodyLength, hchecksum, hencoded⟩ := encodedFields_eq settings
    encoder sendingTime incomingSeqNo (gapFillContent includeT97 origSendingTime sequenceNo)
    sequenceNo
  refine ⟨bodyLength, checksum, hchecksum, ?_, ?_⟩
  · rw [hencoded, ← List.append_assoc]
    rfl
  · intro field hfield
    have hheader : ∀ tag ∈ [tagBeginString, tagBodyLength, tagMsgType], tag ≠ tagChecksum :=
      forall_tag_of_all (by decide)
    simp only [List.mem_append, List.mem_cons, List.not_mem_nil, or_false] at hfield
    rcases hfield with (rfl | rfl | rfl) | hfield | hfield
    · exact ⟨hheader tagBeginString (by decide), hsession.beginString⟩
    · exact ⟨hheader tagBodyLength (by decide), hbodyLength⟩
    · have htype : IsValue [msgTypeSequenceReset] := by decide
      exact ⟨hheader tagMsgType (by decide), htype⟩
    · exact ⟨sessionFields_ne_checksum hsession hfield, sessionFields_values hsession hfield⟩
    · refine ⟨fun heq => ?_, gapFillContent_values htime includeT97 sequenceNo field hfield⟩
      have hmem := (mem_addedTags includeT97 origSendingTime sequenceNo field.1).mp
        (List.mem_map_of_mem hfield)
      rw [heq] at hmem
      revert hmem
      cases includeT97 with
      | true => decide
      | false => decide

/-- All tags of the message are those of the session and of a gap fill. -/
theorem gapFillContent_tags (settings : FixSessionSettings) (encoder : EncoderSettings)
    (sendingTime : Bytes) {origSendingTime : Bytes} {includeT97 : Bool} (incomingSeqNo : UInt32)
    {sequenceNo : UInt32} :
    ∀ tag ∈ fieldTags (encodedFields settings encoder sendingTime incomingSeqNo
        (gapFillContent includeT97 origSendingTime sequenceNo) sequenceNo),
      tag ∈ sessionTags encoder ++
        [tagNewSeqNo, tagPossDupFlag, tagPossResend, tagOrigSendingTime, tagGapFillFlag] := by
  obtain ⟨bodyLength, checksum, -, -, hencoded⟩ := encodedFields_eq settings encoder sendingTime
    incomingSeqNo (gapFillContent includeT97 origSendingTime sequenceNo) sequenceNo
  intro tag htag
  rw [hencoded, fieldTags_append, fieldTags_append, fieldTags_append] at htag
  rw [← fieldTags_sessionFields settings encoder sendingTime incomingSeqNo sequenceNo]
  have hadded : ∀ tag ∈ addedTags includeT97, tag ∈
      [tagNewSeqNo, tagPossDupFlag, tagPossResend, tagOrigSendingTime, tagGapFillFlag] := by
    cases includeT97 with
    | true => exact forall_tag_of_all (by decide)
    | false => exact forall_tag_of_all (by decide)
  have hheader : ∀ tag ∈ [tagBeginString, tagBodyLength, tagMsgType], tag ∈
      [tagBeginString, tagBodyLength, tagChecksum, tagMsgType] := forall_tag_of_all (by decide)
  rcases List.mem_append.mp htag with hmem | hmem
  · exact List.mem_append_left _ (List.mem_append_left _ (hheader tag hmem))
  · rcases List.mem_append.mp hmem with hmem | hmem
    · rcases List.mem_append.mp hmem with hmem | hmem
      · exact List.mem_append_left _ (List.mem_append_right _ hmem)
      · exact List.mem_append_right _ (hadded tag ((mem_addedTags includeT97 origSendingTime
          sequenceNo tag).mp hmem))
    · obtain rfl : tag = tagChecksum := List.mem_singleton.mp hmem
      exact List.mem_append_left _ (List.mem_append_left _ (by decide))

/-- GapFillFlag is no tag that `encode` or a replay writes: the session has it from its settings. -/
theorem gapFillFlag_static {origSendingTime : Bytes} {includeT97 : Bool}
    {incomingSeqNo sequenceNo : UInt32} {bodyLength checksum : Bytes}
    (h : (tagGapFillFlag, [fixBooleanTrue]) ∈
      [(tagBeginString, settings.beginString), (tagBodyLength, bodyLength),
          (tagMsgType, [msgTypeSequenceReset])] ++
        (sessionFields settings encoder sendingTime incomingSeqNo sequenceNo ++
          (gapFillContent includeT97 origSendingTime sequenceNo).fields) ++
        [(tagChecksum, checksum)]) :
    (tagGapFillFlag, [fixBooleanTrue]) ∈ encoder.additionalStaticHeaderTags := by
  have hset : tagGapFillFlag ∉
      fieldTags (gapFillContent includeT97 origSendingTime sequenceNo).fields := by
    rw [mem_addedTags]
    cases includeT97 with
    | true => decide
    | false => decide
  have hother : ∀ tag ∈ [tagBeginString, tagBodyLength, tagMsgType, tagChecksum, tagMsgSeqNum,
      tagSenderCompId, tagSendingTime, tagTargetCompId, tagLastMsgSeqNumProcessed],
      tagGapFillFlag ≠ tag := forall_tag_of_all (by decide)
  have hsessionFields : (tagGapFillFlag, [fixBooleanTrue]) ∈
      sessionFields settings encoder sendingTime incomingSeqNo sequenceNo := by
    simp only [List.mem_append, List.mem_cons, List.not_mem_nil, or_false, Prod.mk.injEq] at h
    rcases h with ((h | h | h) | h | h) | h
    · exact absurd h.1 (hother _ (by decide))
    · exact absurd h.1 (hother _ (by decide))
    · exact absurd h.1 (hother _ (by decide))
    · exact h
    · exact absurd (List.mem_map_of_mem h) hset
    · exact absurd h.1 (hother _ (by decide))
  simp only [sessionFields, List.mem_append, List.mem_cons, List.not_mem_nil, or_false,
    Prod.mk.injEq] at hsessionFields
  rcases hsessionFields with ((h | h | h | h) | h) | h
  · exact absurd h.1 (hother _ (by decide))
  · exact absurd h.1 (hother _ (by decide))
  · exact absurd h.1 (hother _ (by decide))
  · exact absurd h.1 (hother _ (by decide))
  · split at h
    · exact absurd (Prod.mk.inj (List.mem_singleton.mp h)).1 (hother _ (by decide))
    · exact absurd h List.not_mem_nil
  · exact h

/-- A message that the peer takes for a gap fill has its GapFillFlag from the settings, and no tag
twice. -/
theorem static_of_isGapFillAtPeer (hsession : EncodableSession settings encoder sendingTime)
    {origSendingTime : Bytes} (htime : IsValue origSendingTime) {includeT97 : Bool}
    {incomingSeqNo sequenceNo : UInt32}
    (h : IsGapFillAtPeer encoder sequenceNo (encode settings encoder sendingTime incomingSeqNo
      (gapFillContent includeT97 origSendingTime sequenceNo) sequenceNo)) :
    (tagGapFillFlag, [fixBooleanTrue]) ∈ encoder.additionalStaticHeaderTags ∧
      ∀ tag ∈ addedTags includeT97, tag ∉ fieldTags encoder.additionalStaticHeaderTags := by
  obtain ⟨p, rx, hparse, hcode, -, -, -, -, hflag, -, -⟩ := h
  obtain ⟨bodyLength, checksum, hchecksum, hfront, hvalues⟩ :=
    gapFillContent_front hsession htime includeT97 incomingSeqNo sequenceNo
  rw [encode_eq_encodedFields, hfront] at hparse
  obtain ⟨hrecorded, hdistinct⟩ := parseMessage_duplicates hvalues hchecksum hparse
  constructor
  · obtain ⟨before, after, htags, -⟩ := List.lookup_eq_some_iff.mp hflag
    refine gapFillFlag_static (hrecorded (tagGapFillFlag, [fixBooleanTrue]) ?_)
    rw [htags]
    exact List.mem_append_right _ List.mem_cons_self
  · -- the peer refuses a message in which a static header tag and an added tag are the same
    have hnodup := hdistinct hcode
    rw [fieldTags_append, fieldTags_append, fieldTags_append] at hnodup
    have hdisjoint := (List.nodup_append.mp
      (List.nodup_append.mp (List.nodup_append.mp hnodup).1).2.1).2.2
    intro tag hadded hstatic
    have hset := (mem_addedTags includeT97 origSendingTime sequenceNo tag).mpr hadded
    refine hdisjoint tag ?_ tag hset rfl
    rw [sessionFields, fieldTags_append]
    exact List.mem_append_right _ hstatic

/-- With GapFillFlag in the settings and no other collision, the peer takes the message for a gap
fill. -/
theorem isGapFillAtPeer_of_static (hsession : EncodableSession settings encoder sendingTime)
    {origSendingTime : Bytes} (htime : IsValue origSendingTime) {includeT97 : Bool}
    {incomingSeqNo sequenceNo : UInt32}
    (hflag : (tagGapFillFlag, [fixBooleanTrue]) ∈ encoder.additionalStaticHeaderTags)
    (hadded : ∀ tag ∈ addedTags includeT97, tag ∉ fieldTags encoder.additionalStaticHeaderTags) :
    IsGapFillAtPeer encoder sequenceNo (encode settings encoder sendingTime incomingSeqNo
      (gapFillContent includeT97 origSendingTime sequenceNo) sequenceNo) := by
  let content := gapFillContent includeT97 origSendingTime sequenceNo
  have hmessage := gapFillContent_encodable htime hadded sequenceNo
  obtain ⟨p, -, hparse⟩ := parseMessage_encode incomingSeqNo sequenceNo hsession hmessage []
  rw [List.append_nil] at hparse
  obtain ⟨hnumber, htags⟩ := encodedMessage_tags incomingSeqNo sequenceNo hsession hmessage
  have hwell := encode_wellFormed incomingSeqNo sequenceNo hsession hmessage
  have hlookup : ∀ field ∈ content.fields,
      (encodedMessage settings encoder sendingTime incomingSeqNo content
        sequenceNo).message.tags.lookup field.1 = some field.2 := by
    intro field hfield
    rw [htags field.1 (hmessage.tags field.1 (List.mem_map_of_mem hfield)).2]
    exact lookup_of_nodup (gapFillContent_distinct includeT97 origSendingTime sequenceNo) hfield
  have hflagField : (tagGapFillFlag, [fixBooleanTrue]) ∈ allFields settings.beginString
      content.msgType (restFields settings encoder sendingTime incomingSeqNo content sequenceNo)
      (encodedChecksum settings ((summedFields settings encoder sendingTime incomingSeqNo content
        sequenceNo).flatMap encodeField)) := by
    rw [restFields_eq]
    refine List.mem_append_left _ (.tail _ (.tail _ (.tail _ (List.mem_append_left _ ?_))))
    exact List.mem_append_right _ hflag
  obtain ⟨hhas, hvalue⟩ := hwell.lookup _ _ hflagField
  refine ⟨p, _, hparse, rfl, encodedMessage_msgType .., hnumber,
    hlookup (tagNewSeqNo, unsignedIntToChars (sequenceNo + 1)) (by
      simp [content, gapFillContent, OutgoingFixMessage.fields]),
    hlookup (tagPossDupFlag, [fixBooleanTrue]) (by
      simp [content, gapFillContent, resendTags, OutgoingFixMessage.fields]), ?_, ?_, ?_⟩
  · exact lookup_of_nodup hwell.nodup hflagField
  · have hhas' : (encodedMessage settings encoder sendingTime incomingSeqNo content
        sequenceNo).message.hasTag tagGapFillFlag = true := hhas
    have hvalue' : (encodedMessage settings encoder sendingTime incomingSeqNo content
        sequenceNo).message.getTagValue tagGapFillFlag = [fixBooleanTrue] := hvalue
    rw [isAHardSequenceResetMessage, hhas', IncomingFixMessage.getTagValueAsChar,
      IncomingFixMessage.getTagValueAsChar, hvalue']
    simp
  · exact gapFillContent_tags settings encoder sendingTime incomingSeqNo

/-- What is sent for a stored admin message is a gap fill for the peer exactly when GapFillFlag is
configured as a static header tag, and none of the added tags is. -/
theorem resendMessage_gapFill_iff (hsession : EncodableSession settings encoder sendingTime)
    {beginString : Bytes} {msgType : UInt8} {rest : List (Tag × Bytes)} {checksum : Bytes}
    {sequenceNo : UInt32} {origSendingTime : Bytes}
    (hstored : StoredAdminMessage encoder beginString msgType rest checksum sequenceNo
      origSendingTime) (includeT97 : Bool) (uninitialised : UInt8)
    {m : OutgoingFixMessageInstance} (hclear : m.IsClear) (incomingSeqNo : UInt32) :
    (∃ sent, resendMessage settings encoder includeT97 uninitialised m
          ((allFields beginString [msgType] rest checksum).flatMap encodeField) sendingTime
          incomingSeqNo sequenceNo = some sent ∧
        IsGapFillAtPeer encoder sequenceNo sent) ↔
      (tagGapFillFlag, [fixBooleanTrue]) ∈ encoder.additionalStaticHeaderTags ∧
        ∀ tag ∈ addedTags includeT97, tag ∉ fieldTags encoder.additionalStaticHeaderTags := by
  rw [resendMessage_admin hsession hstored includeT97 uninitialised hclear incomingSeqNo]
  have htime : IsValue origSendingTime := hstored.loadable.values _ hstored.sendingTime_mem
  constructor
  · rintro ⟨sent, hsent, hgapFill⟩
    obtain rfl := Option.some.inj hsent
    exact static_of_isGapFillAtPeer hsession htime hgapFill
  · rintro ⟨hflag, hadded⟩
    exact ⟨_, rfl, isGapFillAtPeer_of_static hsession htime hflag hadded⟩

end

/-- The fields behind tag 35 of a stored Logon with two message types, whose tag stands twice. -/
def exampleLogonFields : List (Tag × Bytes) :=
  [(tagMsgSeqNum, text "1"), (tagSenderCompId, text "LLFIX"),
    (tagSendingTime, text "20260101-00:00:00"), (tagTargetCompId, text "PEER"), (98, text "0"),
    (tagHeartBtInt, text "30"), (384, text "2"), (372, text "D"), (372, text "8")]

theorem resendMessage_gapFill_logon :
    (∃ sent, resendMessage exampleSettings {} false 0 {}
          ((allFields (text "FIX.4.4") [msgTypeLogon] exampleLogonFields
            (text "161")).flatMap encodeField) (text "20260101-00:00:09") 9 1 = some sent ∧
        IsGapFillAtPeer {} 1 sent) ↔
      (tagGapFillFlag, [fixBooleanTrue]) ∈ ({} : EncoderSettings).additionalStaticHeaderTags ∧
        ∀ tag ∈ addedTags false,
          tag ∉ fieldTags ({} : EncoderSettings).additionalStaticHeaderTags := by
  have hsession : EncodableSession exampleSettings {} (text "20260101-00:00:09") :=
    ⟨by decide, by decide, by decide, by decide, by decide, forall_tag_of_all (by decide),
      by decide⟩
  have hstored : StoredAdminMessage {} (text "FIX.4.4") msgTypeLogon exampleLogonFields
      (text "161") 1 (text "20260101-00:00:00") :=
    ⟨⟨by decide, by decide, by decide, by decide, by decide⟩, by decide, by decide, by decide⟩
  have hclear : ({} : OutgoingFixMessageInstance).IsClear := ⟨rfl, rfl, rfl⟩
  exact resendMessage_gapFill_iff hsession hstored false 0 hclear 9

/-- The fields behind tag 35 of a stored Heartbeat. -/
def exampleHeartbeatFields : List (Tag × Bytes) :=
  [(tagMsgSeqNum, text "7"), (tagSenderCompId, text "LLFIX"),
    (tagSendingTime, text "20260101-00:00:00"), (tagTargetCompId, text "PEER")]

/-- What is sent for a stored Heartbeat is a hard sequence reset for the peer. -/
theorem resendMessage_gapFill_fails :
    ¬ ∃ sent, resendMessage exampleSettings {} false 0 {}
          ((allFields (text "FIX.4.4") [msgTypeHeartbeat] exampleHeartbeatFields
            (text "161")).flatMap encodeField) (text "20260101-00:00:09") 9 7 = some sent ∧
        IsGapFillAtPeer {} 7 sent := by
  rintro ⟨sent, hsent, p, rx, hparse, -, -, -, -, -, -, hsoft, -⟩
  have hhard : (resendMessage exampleSettings {} false 0 {}
      ((allFields (text "FIX.4.4") [msgTypeHeartbeat] exampleHeartbeatFields
        (text "161")).flatMap encodeField) (text "20260101-00:00:09") 9 7).any (fun sent =>
          (parseMessage {} sent).any fun result =>
            isAHardSequenceResetMessage result.2.message) = true := by
    decide +kernel
  rw [hsent, Option.any_some, hparse, Option.any_some] at hhard
  exact Bool.false_ne_true (hsoft.symm.trans hhard)

end Llfix
