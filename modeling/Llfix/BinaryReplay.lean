import Llfix.GapFillReplay

/-!
# Replay of binary values

`set_binary_tag` puts a value of any bytes into a message, and `encode` writes it as it is.
`load_from_buffer` knows nothing of lengths: a delimiter inside a value ends the field there.

Results:
1. `load_extends`: whatever bytes are loaded, the tags that are set already stay in front.
2. `load_cutValue`: a value with a delimiter is loaded up to the delimiter.
3. `binaryReplay_iff`: a replay has the application tags of the original exactly when no binary
   value has a delimiter in it.
4. `binaryReplay_fails`: a replay of the value `A`, delimiter, `B`.
-/

namespace Llfix

/-! ## Application messages with binary values -/

/-- What an application sets in a message: a tag with a text, or with `set_binary_tag` the bytes
of a data tag, behind the tag with their length. -/
inductive ApplicationItem
  | plain (tag : Tag) (value : Bytes)
  | binary (lengthTag dataTag : Tag) (data : Bytes)
deriving DecidableEq, Repr

namespace ApplicationItem

/-- The tags that are set. -/
def fields : ApplicationItem → List (Tag × Bytes)
  | plain tag value => [(tag, value)]
  | binary lengthTag dataTag data =>
    [(lengthTag, unsignedIntToChars data.length.toUInt32), (dataTag, data)]

/-- A text has no delimiter in it. -/
def IsText : ApplicationItem → Prop
  | plain _ value => fixDelimiter ∉ value
  | binary .. => True

/-- A binary value has no delimiter in it. -/
def NoDelimiter : ApplicationItem → Prop
  | plain .. => True
  | binary _ _ data => fixDelimiter ∉ data

/-- Of the tags of an item with a text, the values have no delimiter when its binary value has
none. -/
theorem noDelimiter_iff {item : ApplicationItem} (h : item.IsText) :
    item.NoDelimiter ↔ ∀ field ∈ item.fields, fixDelimiter ∉ field.2 := by
  cases item with
  | plain tag value =>
    refine ⟨fun _ field hfield => ?_, fun _ => trivial⟩
    rw [List.mem_singleton.mp hfield]
    exact h
  | binary lengthTag dataTag data =>
    constructor
    · intro hdata field hfield
      rcases List.mem_cons.mp hfield with rfl | hfield
      · exact (isValue_unsignedIntToChars _).2
      · rw [List.mem_singleton.mp hfield]
        exact hdata
    · intro hvalues
      exact hvalues (dataTag, data) (List.mem_cons_of_mem _ (List.mem_singleton_self _))

end ApplicationItem

/-- An application message, with what is set in each of its components. -/
structure ApplicationMessage where
  msgType : Bytes
  header : List ApplicationItem := []
  body : List ApplicationItem := []
  trailer : List ApplicationItem := []
deriving DecidableEq, Repr

namespace ApplicationMessage

variable (a : ApplicationMessage)

/-- The message that is encoded. -/
def message : OutgoingFixMessage where
  msgType := a.msgType
  header := a.header.flatMap ApplicationItem.fields
  body := a.body.flatMap ApplicationItem.fields
  trailer := a.trailer.flatMap ApplicationItem.fields

def items : List ApplicationItem := a.header ++ a.body ++ a.trailer

theorem fields_message : a.message.fields = a.items.flatMap ApplicationItem.fields := by
  simp [message, items, OutgoingFixMessage.fields]

end ApplicationMessage

/-! ## Loading any bytes -/

namespace LoadState

variable {encoder : EncoderSettings} {uninitialised : UInt8}

/-- The second state has the tags of the first in front of its own, and in the header only tag 122
is new. -/
structure Extends (s s' : LoadState) : Prop where
  header : ∃ more, s'.instance'.content.header = s.instance'.content.header ++ more ∧
    ∀ tag ∈ fieldTags more, tag = tagOrigSendingTime
  body : s.instance'.content.body <+: s'.instance'.content.body
  trailer : s'.instance'.content.trailer = s.instance'.content.trailer

/-- The type is no tag that is set. -/
theorem Extends.ofMsgType {s s' : LoadState} (msgType : Bytes)
    (h : s'.instance'.content = { s.instance'.content with msgType := msgType }) :
    s.Extends s' := by
  refine ⟨⟨[], ?_, fun _ hmem => absurd hmem List.not_mem_nil⟩, ?_, ?_⟩
  · rw [h, List.append_nil]
  · have hbody : s'.instance'.content.body = s.instance'.content.body := by rw [h]
    exact ⟨[], by rw [hbody, List.append_nil]⟩
  · rw [h]

theorem Extends.refl (s : LoadState) : s.Extends s :=
  Extends.ofMsgType s.instance'.content.msgType rfl

theorem Extends.trans {s s' s'' : LoadState} (h : s.Extends s') (h' : s'.Extends s'') :
    s.Extends s'' := by
  obtain ⟨more, hmore, htags⟩ := h.header
  obtain ⟨more', hmore', htags'⟩ := h'.header
  refine ⟨⟨more ++ more', by rw [hmore', hmore, List.append_assoc], ?_⟩,
    h.body.trans h'.body, h'.trailer.trans h.trailer⟩
  intro tag htag
  rw [fieldTags_append, List.mem_append] at htag
  exact htag.elim (htags tag) (htags' tag)

/-- Tag 35 sets nothing but the type. -/
theorem loadMsgType_extends {s s' : LoadState} {strVal : FixString}
    (h : s.loadMsgType strVal = some s') : s.Extends s' := by
  rw [loadMsgType_eq] at h
  obtain ⟨loaded, -, rfl⟩ := Option.map_eq_some_iff.mp h
  exact Extends.ofMsgType _ rfl

theorem loadField_extends {s s' : LoadState} {tag : Tag} {value : Bytes}
    (h : s.loadField encoder uninitialised tag value = some s') : s.Extends s' := by
  rcases eq_or_ne tag tagMsgType with rfl | htype
  · unfold loadField at h
    dsimp only at h
    split at h
    · obtain rfl := Option.some.inj h
      exact Extends.refl s
    · rw [if_pos rfl] at h
      have hstored : s.Extends
          { s with instance' := s.instance'.storeText value uninitialised } :=
        Extends.ofMsgType s.instance'.content.msgType rfl
      exact hstored.trans (loadMsgType_extends h)
  · have hfield : (tag, value).1 ≠ tagMsgType := htype
    obtain ⟨s₁, hload, -, hcontent⟩ := loadField_spec encoder uninitialised s hfield
    obtain rfl := Option.some.inj (hload.symm.trans h)
    refine ⟨⟨[(tag, value)].filterMap (loadedHeaderField encoder), ?_, ?_⟩, ?_, ?_⟩
    · rw [hcontent]
      rfl
    · intro t ht
      obtain ⟨field, hfield, rfl⟩ := List.mem_map.mp ht
      obtain ⟨origin, -, hkept⟩ := List.mem_filterMap.mp hfield
      unfold loadedHeaderField at hkept
      split_ifs at hkept
      obtain rfl := Option.some.inj hkept
      rfl
    · rw [hcontent]
      exact List.prefix_append _ _
    · rw [hcontent]
      rfl

/-- Whatever the bytes are, the tags that are set stay in front. -/
theorem load_extends {s s' : LoadState} {tag : Bytes} {value : Option Bytes} {bytes : Bytes}
    (h : s.load encoder uninitialised tag value bytes = some s') : s.Extends s' := by
  induction bytes generalizing s tag value with
  | nil =>
    obtain rfl := Option.some.inj h
    exact Extends.refl s
  | cons c bytes ih =>
    cases value with
    | none =>
      rw [load] at h
      split at h
      · exact ih h
      · exact ih h
    | some value =>
      rw [load] at h
      split at h
      · obtain ⟨s₁, hfield, hrest⟩ := Option.bind_eq_some_iff.mp h
        exact (loadField_extends hfield).trans (ih hrest)
      · exact ih h

end LoadState

/-! ## Loading an encoded message -/

/-- The tags that a replay adds. -/
def replayTags : List Tag := [tagPossDupFlag, tagPossResend, tagOrigSendingTime]

/-- `encode` writes its own tags and those that are set. -/
theorem mem_fieldTags_encodedFields (settings : FixSessionSettings) {encoder : EncoderSettings}
    (sendingTime : Bytes) (incomingSeqNo : UInt32) {m : OutgoingFixMessage} (sequenceNo : UInt32)
    (tag : Tag) :
    tag ∈ fieldTags (encodedFields settings encoder sendingTime incomingSeqNo m sequenceNo) ↔
      tag ∈ sessionTags encoder ∨ tag ∈ fieldTags m.fields := by
  obtain ⟨bodyLength, checksum, -, -, hencoded⟩ := encodedFields_eq settings encoder sendingTime
    incomingSeqNo m sequenceNo
  have hown := fieldTags_sessionFields settings encoder sendingTime incomingSeqNo sequenceNo
  rw [hencoded, ← hown, fieldTags_append, fieldTags_append, fieldTags_append]
  simp only [fieldTags_cons, List.mem_append, List.mem_cons]
  tauto

/-- A value with a delimiter in it is encoded like the value up to the delimiter, with the rest
behind it. -/
theorem encodeField_cutValue (tag : Tag) (front back : Bytes) :
    encodeField (tag, front ++ fixDelimiter :: back) =
      encodeField (tag, front) ++ (back ++ [fixDelimiter]) := by
  simp [encodeField]

/-- The first field with a delimiter in its value. -/
theorem exists_cutValue {fields : List (Tag × Bytes)}
    (h : ¬ ∀ field ∈ fields, fixDelimiter ∉ field.2) :
    ∃ before tag front back after, fields = before ++ (tag, front ++ fixDelimiter :: back) :: after ∧
      (∀ field ∈ before, fixDelimiter ∉ field.2) ∧ fixDelimiter ∉ front := by
  induction fields with
  | nil => exact absurd (fun field hfield => absurd hfield List.not_mem_nil) h
  | cons field fields ih =>
    obtain ⟨tag, value⟩ := field
    by_cases hvalue : fixDelimiter ∈ value
    · obtain ⟨front, back, hsplit, hfront⟩ := List.eq_append_cons_of_mem hvalue
      exact ⟨[], tag, front, back, fields, by rw [hsplit]; rfl,
        fun field hfield => absurd hfield List.not_mem_nil, hfront⟩
    · have hrest : ¬ ∀ field ∈ fields, fixDelimiter ∉ field.2 := by
        intro hall
        refine h fun field hfield => ?_
        rcases List.mem_cons.mp hfield with rfl | hfield
        · exact hvalue
        · exact hall field hfield
      obtain ⟨before, tag', front, back, after, rfl, hbefore, hfront⟩ := ih hrest
      refine ⟨(tag, value) :: before, tag', front, back, after, rfl, ?_, hfront⟩
      intro field hfield
      rcases List.mem_cons.mp hfield with rfl | hfield
      · exact hvalue
      · exact hbefore field hfield

section Load

variable {settings : FixSessionSettings} {encoder : EncoderSettings} {sendingTime : Bytes}

/-- A message that is not an admin message is loaded with its own fields. -/
theorem loadedType_application {strVal : FixString} {loaded : Bytes × Bool}
    (h : loadedType strVal = some loaded)
    (happlication : isANonRetransmittableAdminMessageType strVal.toStringView = false) :
    loaded.2 = false := by
  unfold loadedType at h
  rw [happlication, if_neg Bool.false_ne_true] at h
  split at h
  · rw [← Option.some.inj h]
  · obtain ⟨text, -, htext⟩ := Option.bind_eq_some_iff.mp h
    split at htext
    · rw [← Option.some.inj htext]
    · cases htext

/-- What the begin of an encoded message, up to some of the tags set in it, is loaded as. -/
def loadedFront (encoder : EncoderSettings) (sendingTime : Bytes) (incomingSeqNo : UInt32)
    (msgType : Bytes) (own : List (Tag × Bytes)) : OutgoingFixMessage where
  msgType := msgType
  header := [(tagOrigSendingTime, sendingTime)]
  body :=
    (if encoder.includeLastProcessedSeqnumInHeader then
      [(tagLastMsgSeqNumProcessed, unsignedIntToChars incomingSeqNo)] else []) ++ own

/-- The begin of an encoded message is loaded with the type of the next slot, and what follows is
loaded on top of it. -/
theorem load_front (hsession : EncodableSession settings encoder sendingTime) {msgType : Bytes}
    (htype : fixDelimiter ∉ msgType)
    (happlication : isANonRetransmittableAdminMessageType msgType = false)
    {own : List (Tag × Bytes)} (htags : ∀ tag ∈ fieldTags own, tag ∉ sessionTags encoder)
    (hvalues : ∀ field ∈ own, fixDelimiter ∉ field.2) (uninitialised : UInt8)
    {m : OutgoingFixMessageInstance} (hclear : m.IsClear) {bodyLength : Bytes}
    (hlength : fixDelimiter ∉ bodyLength) (incomingSeqNo sequenceNo : UInt32) (more : Bytes) :
    ∃ front : Option LoadState,
      LoadState.load encoder uninitialised { instance' := m } [] none
        (([(tagBeginString, settings.beginString), (tagBodyLength, bodyLength),
          (tagMsgType, msgType)] ++
            (sessionFields settings encoder sendingTime incomingSeqNo sequenceNo ++ own)).flatMap
              encodeField ++ more) =
        front.bind (fun s => s.load encoder uninitialised [] none more) ∧
      front.map (fun s => s.instance'.content) =
        (loadedType ((m.slots m.pointer).copyFrom msgType uninitialised)).map fun loaded =>
          loadedFront encoder sendingTime incomingSeqNo loaded.1 own := by
  obtain ⟨hheader, hbody, htrailer⟩ := hclear
  let fields := [(tagBeginString, settings.beginString), (tagBodyLength, bodyLength),
    (tagMsgType, msgType)] ++
      (sessionFields settings encoder sendingTime incomingSeqNo sequenceNo ++ own)
  have hclean : ∀ field ∈ fields, fixDelimiter ∉ field.2 := by
    intro field hfield
    rcases List.mem_append.mp hfield with hfront | hfield
    · simp only [List.mem_cons, List.not_mem_nil, or_false] at hfront
      rcases hfront with rfl | rfl | rfl
      · exact hsession.beginString.2
      · exact hlength
      · exact htype
    · rcases List.mem_append.mp hfield with hsent | hown
      · exact (sessionFields_values hsession hsent).2
      · exact hvalues field hown
  have hrest : tagMsgType ∉ fieldTags
      (sessionFields settings encoder sendingTime incomingSeqNo sequenceNo ++ own) := by
    rw [fieldTags_append, List.mem_append, not_or]
    constructor
    · have hdistinct := hsession.distinct
      rw [← fieldTags_sessionFields settings encoder sendingTime incomingSeqNo sequenceNo]
        at hdistinct
      intro hmem
      exact (List.nodup_append.mp hdistinct).2.2 tagMsgType (by decide) _ hmem rfl
    · intro hmem
      exact htags tagMsgType hmem (by simp [sessionTags])
  refine ⟨_, LoadState.load_fields encoder uninitialised { instance' := m } hclean more, ?_⟩
  refine (LoadState.loadFields_wire (hsession.not_static (by decide)) uninitialised m
    settings.beginString bodyLength msgType hrest).trans ?_
  -- An application type is not replaced, whatever the slot makes of it.
  have happly : ∀ loaded ∈ loadedType ((m.slots m.pointer).copyFrom msgType uninitialised),
      { m.content with msgType := loaded.1 }.withLoaded encoder loaded.2
          (sessionFields settings encoder sendingTime incomingSeqNo sequenceNo ++ own) =
        loadedFront encoder sendingTime incomingSeqNo loaded.1 own := by
    intro loaded hloaded
    have hfalse := loadedType_application (Option.mem_def.mp hloaded)
      (by rw [FixString.copyFrom_toStringView]; exact happlication)
    obtain ⟨hsentHeader, hsentBody⟩ := sessionFields_loaded hsession incomingSeqNo sequenceNo
    obtain ⟨hownHeader, hownBody⟩ := ownFields_loaded htags
    rw [hfalse, OutgoingFixMessage.withLoaded, List.filterMap_append, List.filterMap_append,
      hsentHeader, hsentBody, hownHeader, hownBody, hheader, hbody, htrailer]
    rfl
  exact Option.map_congr happly

/-- A value with a delimiter is loaded up to the delimiter, and whatever the rest is loaded as comes
behind it. -/
theorem load_cutValue (hsession : EncodableSession settings encoder sendingTime) {msgType : Bytes}
    (htype : fixDelimiter ∉ msgType)
    (happlication : isANonRetransmittableAdminMessageType msgType = false)
    {before after : List (Tag × Bytes)} {tag : Tag} {front back : Bytes}
    (htags : ∀ t ∈ fieldTags (before ++ (tag, front ++ fixDelimiter :: back) :: after),
      t ∉ sessionTags encoder)
    (hbefore : ∀ field ∈ before, fixDelimiter ∉ field.2) (hfront : fixDelimiter ∉ front)
    (uninitialised : UInt8) {m : OutgoingFixMessageInstance} (hclear : m.IsClear)
    {bodyLength checksum : Bytes} (hlength : fixDelimiter ∉ bodyLength)
    (incomingSeqNo sequenceNo : UInt32) {s : LoadState}
    (h : LoadState.load encoder uninitialised { instance' := m } [] none
      (([(tagBeginString, settings.beginString), (tagBodyLength, bodyLength),
        (tagMsgType, msgType)] ++
          (sessionFields settings encoder sendingTime incomingSeqNo sequenceNo ++
            (before ++ (tag, front ++ fixDelimiter :: back) :: after))).flatMap encodeField ++
        encodeField (tagChecksum, checksum)) = some s) :
    ∃ (s₁ : LoadState) (loadedMsgType : Bytes), s₁.instance'.content =
        loadedFront encoder sendingTime incomingSeqNo loadedMsgType (before ++ [(tag, front)]) ∧
      s₁.Extends s := by
  have hcutValues : ∀ field ∈ before ++ [(tag, front)], fixDelimiter ∉ field.2 := by
    intro field hfield
    rcases List.mem_append.mp hfield with hfield | hfield
    · exact hbefore field hfield
    · rw [List.mem_singleton.mp hfield]
      exact hfront
  have hcutTags : ∀ t ∈ fieldTags (before ++ [(tag, front)]), t ∉ sessionTags encoder := by
    intro t ht
    refine htags t ?_
    rw [fieldTags_append, fieldTags_cons, List.mem_append]
    rw [fieldTags_append, List.mem_append] at ht
    refine ht.imp id fun ht => ?_
    rw [List.mem_singleton.mp ht]
    exact List.mem_cons_self
  obtain ⟨loadedTo, hload, hcontent⟩ := load_front hsession htype happlication hcutTags
    hcutValues uninitialised hclear hlength incomingSeqNo sequenceNo
    (back ++ [fixDelimiter] ++ (after.flatMap encodeField ++ encodeField (tagChecksum, checksum)))
  -- On the wire nothing tells the cut value from a shorter one with more bytes behind it.
  have hcut : ([(tagBeginString, settings.beginString), (tagBodyLength, bodyLength),
      (tagMsgType, msgType)] ++
        (sessionFields settings encoder sendingTime incomingSeqNo sequenceNo ++
          (before ++ (tag, front ++ fixDelimiter :: back) :: after))).flatMap encodeField ++
        encodeField (tagChecksum, checksum) =
      ([(tagBeginString, settings.beginString), (tagBodyLength, bodyLength),
        (tagMsgType, msgType)] ++
          (sessionFields settings encoder sendingTime incomingSeqNo sequenceNo ++
            (before ++ [(tag, front)]))).flatMap encodeField ++
        (back ++ [fixDelimiter] ++
          (after.flatMap encodeField ++ encodeField (tagChecksum, checksum))) := by
    simp only [List.flatMap_append, List.flatMap_cons, List.flatMap_nil, encodeField_cutValue,
      List.append_assoc, List.append_nil]
  rw [hcut, hload] at h
  obtain ⟨s₁, rfl, hmore⟩ := Option.bind_eq_some_iff.mp h
  obtain ⟨loaded, -, hloaded⟩ := Option.map_eq_some_iff.mp hcontent.symm
  exact ⟨s₁, loaded.1, hloaded.symm, LoadState.load_extends hmore⟩

end Load

/-! ## The replay -/

/-- One turn of the loop of `resend_messages_to_server`: the fields that are encoded. -/
def resendFields (settings : FixSessionSettings) (encoder : EncoderSettings) (includeT97 : Bool)
    (uninitialised : UInt8) (m : OutgoingFixMessageInstance) (stored sendingTime : Bytes)
    (incomingSeqNo sequenceNo : UInt32) : Option (List (Tag × Bytes)) :=
  (m.loadFromBuffer encoder uninitialised stored).map fun m =>
    encodedFields settings encoder sendingTime incomingSeqNo
      ((resendTags includeT97).foldl
        (fun m field => m.setTag .header field.1 field.2 uninitialised) m).content sequenceNo

/-- The message that is sent has these fields. -/
theorem resendMessage_eq_resendFields (settings : FixSessionSettings) (encoder : EncoderSettings)
    (includeT97 : Bool) (uninitialised : UInt8) (m : OutgoingFixMessageInstance)
    (stored sendingTime : Bytes) (incomingSeqNo sequenceNo : UInt32) :
    resendMessage settings encoder includeT97 uninitialised m stored sendingTime incomingSeqNo
        sequenceNo =
      (resendFields settings encoder includeT97 uninitialised m stored sendingTime incomingSeqNo
        sequenceNo).map (·.flatMap encodeField) := by
  unfold resendMessage resendFields
  rw [Option.map_map]
  simp only [encode_eq_encodedFields]
  rfl

/-- The application tags of the replay are those of the original, with the same values in the same
order, and no other tag is new but those that a replay adds. -/
structure BinaryFaithful (encoder : EncoderSettings) (original : OutgoingFixMessage)
    (originalTags : List Tag) (fields : List (Tag × Bytes)) : Prop where
  tags : fields.filter (fun field => field.1 ∉ sessionTags encoder ++ replayTags) = original.fields
  nothingNew : ∀ tag ∈ fieldTags fields, tag ∈ replayTags ∨ tag ∈ originalTags

theorem filter_added {encoder : EncoderSettings} {fields : List (Tag × Bytes)}
    (h : ∀ tag ∈ fieldTags fields, tag ∈ sessionTags encoder ++ replayTags) :
    fields.filter (fun field => field.1 ∉ sessionTags encoder ++ replayTags) = [] := by
  refine List.filter_eq_nil_iff.mpr fun field hfield => ?_
  have hmem := h field.1 (List.mem_map_of_mem hfield)
  rw [decide_eq_true_eq, not_not]
  exact hmem

theorem filter_own {encoder : EncoderSettings} {fields : List (Tag × Bytes)}
    (h : ∀ tag ∈ fieldTags fields, tag ∉ sessionTags encoder ++ replayTags) :
    fields.filter (fun field => field.1 ∉ sessionTags encoder ++ replayTags) = fields :=
  List.filter_eq_self.mpr fun field hfield =>
    decide_eq_true (h field.1 (List.mem_map_of_mem hfield))

/-- Of the fields of a replay, those that neither `encode` nor the replay adds stand in the
body. -/
theorem filter_encodedFields (settings : FixSessionSettings) {encoder : EncoderSettings}
    (sendingTime : Bytes) (incomingSeqNo : UInt32) {content : OutgoingFixMessage}
    (sequenceNo : UInt32) (hheader : ∀ tag ∈ fieldTags content.header, tag ∈ replayTags)
    (htrailer : content.trailer = []) :
    (encodedFields settings encoder sendingTime incomingSeqNo content sequenceNo).filter
        (fun field => field.1 ∉ sessionTags encoder ++ replayTags) =
      content.body.filter (fun field => field.1 ∉ sessionTags encoder ++ replayTags) := by
  obtain ⟨bodyLength, checksum, -, -, hencoded⟩ := encodedFields_eq settings encoder sendingTime
    incomingSeqNo content sequenceNo
  have hown := fieldTags_sessionFields settings encoder sendingTime incomingSeqNo sequenceNo
  have hsession : ∀ tag ∈ [tagBeginString, tagBodyLength, tagChecksum, tagMsgType] ++
      fieldTags (sessionFields settings encoder sendingTime incomingSeqNo sequenceNo),
      tag ∈ sessionTags encoder ++ replayTags := by
    rw [hown]
    exact fun tag htag => List.mem_append_left _ htag
  have hfront : ∀ tag ∈ fieldTags [(tagBeginString, settings.beginString),
      (tagBodyLength, bodyLength), (tagMsgType, content.msgType)],
      tag ∈ sessionTags encoder ++ replayTags := by
    intro tag htag
    refine hsession tag (List.mem_append_left _ ?_)
    simp only [fieldTags_cons, List.mem_cons] at htag ⊢
    rcases htag with rfl | rfl | rfl | htag
    · exact Or.inl rfl
    · exact Or.inr (Or.inl rfl)
    · exact Or.inr (Or.inr (Or.inr (Or.inl rfl)))
    · exact absurd htag List.not_mem_nil
  have hlast : ∀ tag ∈ fieldTags [(tagChecksum, checksum)],
      tag ∈ sessionTags encoder ++ replayTags := by
    intro tag htag
    refine hsession tag (List.mem_append_left _ ?_)
    have heq : tag = tagChecksum := List.mem_singleton.mp htag
    rw [heq]
    decide
  rw [hencoded, OutgoingFixMessage.fields, htrailer, List.append_nil, List.filter_append,
    List.filter_append, List.filter_append, List.filter_append, filter_added hfront,
    filter_added hlast, filter_added fun tag htag => hsession tag (List.mem_append_right _ htag),
    filter_added fun tag htag => List.mem_append_right _ (hheader tag htag)]
  simp only [List.nil_append, List.append_nil]

theorem resendFields_eq (settings : FixSessionSettings) (encoder : EncoderSettings)
    (includeT97 : Bool) (uninitialised : UInt8) (m : OutgoingFixMessageInstance)
    (stored sendingTime : Bytes) (incomingSeqNo sequenceNo : UInt32) :
    resendFields settings encoder includeT97 uninitialised m stored sendingTime incomingSeqNo
        sequenceNo =
      (LoadState.load encoder uninitialised { instance' := m } [] none stored).map fun s =>
        encodedFields settings encoder sendingTime incomingSeqNo
          (s.instance'.content.withResendTags includeT97) sequenceNo := by
  unfold resendFields OutgoingFixMessageInstance.loadFromBuffer
  rw [Option.map_map]
  refine congrArg (Option.map · _) (funext fun s => ?_)
  rw [Function.comp_apply, foldl_resendTags]

theorem withResendTags_header (content : OutgoingFixMessage) (includeT97 : Bool)
    (h : ∀ tag ∈ fieldTags content.header, tag ∈ replayTags) :
    ∀ tag ∈ fieldTags (content.withResendTags includeT97).header, tag ∈ replayTags := by
  intro tag htag
  rw [OutgoingFixMessage.withResendTags, fieldTags_append, List.mem_append] at htag
  rcases htag with htag | htag
  · exact h tag htag
  · cases includeT97 with
    | true =>
      have hall : ∀ tag ∈ fieldTags (resendTags true), tag ∈ replayTags :=
        forall_tag_of_all (by decide)
      exact hall tag htag
    | false =>
      have hall : ∀ tag ∈ fieldTags (resendTags false), tag ∈ replayTags :=
        forall_tag_of_all (by decide)
      exact hall tag htag

/-- The tag of the last processed number in the body of a loaded message is one of the session. -/
theorem lastTags_own (encoder : EncoderSettings) (incomingSeqNo : UInt32) :
    ∀ tag ∈ fieldTags (if encoder.includeLastProcessedSeqnumInHeader then
      [(tagLastMsgSeqNumProcessed, unsignedIntToChars incomingSeqNo)] else []),
      tag ∈ sessionTags encoder ++ replayTags := by
  intro tag htag
  refine List.mem_append_left _ ?_
  cases hlast : encoder.includeLastProcessedSeqnumInHeader with
  | true =>
    rw [hlast, if_pos rfl] at htag
    have heq : tag = tagLastMsgSeqNumProcessed := List.mem_singleton.mp htag
    rw [sessionTags, hlast, if_pos rfl, heq]
    exact List.mem_append_left _ (List.mem_append_right _ (List.mem_singleton_self _))
  | false =>
    rw [hlast, if_neg Bool.false_ne_true] at htag
    exact absurd htag List.not_mem_nil

section Cut

variable {settings : FixSessionSettings} {encoder : EncoderSettings} {sendingTime : Bytes}

/-- With a delimiter in a value, what is loaded on top of the begin of the message does not bring
the value back. -/
theorem not_binaryFaithful_of_cut {original : OutgoingFixMessage} {originalTags : List Tag}
    {before after : List (Tag × Bytes)} {tag : Tag} {front back : Bytes}
    (hfields : original.fields = before ++ (tag, front ++ fixDelimiter :: back) :: after)
    (htags : ∀ tag ∈ fieldTags original.fields, tag ∉ sessionTags encoder ++ replayTags)
    {s₁ s : LoadState} (hextends : s₁.Extends s) {msgType : Bytes} {incomingSeqNo : UInt32}
    (hfront : s₁.instance'.content =
      loadedFront encoder sendingTime incomingSeqNo msgType (before ++ [(tag, front)]))
    (includeT97 : Bool) (sendingTime' : Bytes) (incomingSeqNo' sequenceNo' : UInt32) :
    ¬ BinaryFaithful encoder original originalTags
      (encodedFields settings encoder sendingTime' incomingSeqNo'
        (s.instance'.content.withResendTags includeT97) sequenceNo') := by
  intro hfaithful
  obtain ⟨more, hheader, hmore⟩ := hextends.header
  obtain ⟨moreBody, hbody⟩ := hextends.body
  have hreplayed : ∀ tag ∈ fieldTags s.instance'.content.header, tag ∈ replayTags := by
    have horig : tagOrigSendingTime ∈ replayTags := by decide
    intro t ht
    rw [hheader, hfront, fieldTags_append, List.mem_append] at ht
    rcases ht with ht | ht
    · rw [List.mem_singleton.mp ht]
      exact horig
    · rw [hmore t ht]
      exact horig
  have htrailer : s.instance'.content.trailer = [] := by
    rw [hextends.trailer, hfront]
    rfl
  have hown : ∀ t ∈ fieldTags (before ++ [(tag, front)]),
      t ∉ sessionTags encoder ++ replayTags := by
    intro t ht
    refine htags t ?_
    rw [hfields, fieldTags_append, fieldTags_cons, List.mem_append]
    rw [fieldTags_append, List.mem_append] at ht
    refine ht.imp id fun ht => ?_
    rw [List.mem_singleton.mp ht]
    exact List.mem_cons_self
  have hkept := hfaithful.tags
  rw [filter_encodedFields settings sendingTime' incomingSeqNo' sequenceNo'
    (withResendTags_header s.instance'.content includeT97 hreplayed) htrailer] at hkept
  have hcontentBody : (s.instance'.content.withResendTags includeT97).body =
      s.instance'.content.body := rfl
  rw [hcontentBody, ← hbody, hfront, loadedFront, List.filter_append, List.filter_append,
    filter_added (lastTags_own encoder incomingSeqNo), filter_own hown, List.nil_append, hfields,
    List.append_assoc] at hkept
  have hcut := (List.cons.inj (List.append_cancel_left hkept)).1
  have hlength := congrArg (fun field : Tag × Bytes => field.2.length) hcut
  simp at hlength

/-- Without a delimiter in a value, the replay has all that was set. -/
theorem binaryFaithful_of_loaded {original : OutgoingFixMessage} {originalTags : List Tag}
    (htags : ∀ tag ∈ fieldTags original.fields, tag ∉ sessionTags encoder ++ replayTags)
    (horiginal : ∀ tag, tag ∈ sessionTags encoder ∨ tag ∈ fieldTags original.fields →
      tag ∈ originalTags) (msgType : Bytes) (incomingSeqNo : UInt32) (includeT97 : Bool)
    (sendingTime' : Bytes) (incomingSeqNo' sequenceNo' : UInt32) :
    BinaryFaithful encoder original originalTags
      (encodedFields settings encoder sendingTime' incomingSeqNo'
        ((loadedFront encoder sendingTime incomingSeqNo msgType original.fields).withResendTags
          includeT97) sequenceNo') := by
  have hheader : ∀ tag ∈ fieldTags [(tagOrigSendingTime, sendingTime)], tag ∈ replayTags := by
    intro tag htag
    have heq : tag = tagOrigSendingTime := List.mem_singleton.mp htag
    rw [heq]
    decide
  have hall := withResendTags_header
    (loadedFront encoder sendingTime incomingSeqNo msgType original.fields) includeT97 hheader
  constructor
  · rw [filter_encodedFields settings sendingTime' incomingSeqNo' sequenceNo' hall rfl]
    show List.filter _ (_ ++ original.fields) = _
    rw [List.filter_append, filter_added (lastTags_own encoder incomingSeqNo), filter_own htags,
      List.nil_append]
  · intro tag htag
    rw [mem_fieldTags_encodedFields] at htag
    rcases htag with hown | hset
    · exact Or.inr (horiginal tag (Or.inl hown))
    · rw [OutgoingFixMessage.fields, fieldTags_append, fieldTags_append, List.mem_append,
        List.mem_append] at hset
      rcases hset with (hset | hset) | hset
      · exact Or.inl (hall tag hset)
      · have hbody : tag ∈ fieldTags ((if encoder.includeLastProcessedSeqnumInHeader then
            [(tagLastMsgSeqNumProcessed, unsignedIntToChars incomingSeqNo)] else []) ++
              original.fields) := hset
        rw [fieldTags_append, List.mem_append] at hbody
        rcases hbody with hlast | hown
        · rcases List.mem_append.mp (lastTags_own encoder incomingSeqNo tag hlast) with h | h
          · exact Or.inr (horiginal tag (Or.inl h))
          · exact Or.inl h
        · exact Or.inr (horiginal tag (Or.inr hown))
      · exact absurd hset List.not_mem_nil

end Cut

/-- A replay has the application tags of the original, with the same values in the same order and
no other tags, exactly when no binary value has a delimiter in it and the slot that the type is
copied into gives a type back. -/
theorem binaryReplay_iff {settings : FixSessionSettings} {encoder : EncoderSettings}
    {sendingTime : Bytes} (hsession : EncodableSession settings encoder sendingTime)
    (a : ApplicationMessage) (htype : fixDelimiter ∉ a.msgType)
    (happlication : isANonRetransmittableAdminMessageType a.msgType = false)
    (htext : ∀ item ∈ a.items, item.IsText)
    (htags : ∀ tag ∈ fieldTags a.message.fields, tag ∉ sessionTags encoder ++ replayTags)
    (includeT97 : Bool) (uninitialised : UInt8) {m : OutgoingFixMessageInstance}
    (hclear : m.IsClear) (incomingSeqNo sequenceNo incomingSeqNo' sequenceNo' : UInt32)
    (sendingTime' : Bytes) :
    (∃ fields, resendFields settings encoder includeT97 uninitialised m
          (encode settings encoder sendingTime incomingSeqNo a.message sequenceNo) sendingTime'
          incomingSeqNo' sequenceNo' = some fields ∧
        BinaryFaithful encoder a.message
          (fieldTags (encodedFields settings encoder sendingTime incomingSeqNo a.message
            sequenceNo)) fields) ↔
      (loadedType ((m.slots m.pointer).copyFrom a.msgType uninitialised)).isSome ∧
        ∀ item ∈ a.items, item.NoDelimiter := by
  have hitems : (∀ item ∈ a.items, item.NoDelimiter) ↔
      ∀ field ∈ a.message.fields, fixDelimiter ∉ field.2 := by
    rw [a.fields_message]
    constructor
    · intro h field hfield
      obtain ⟨item, hitem, hmem⟩ := List.mem_flatMap.mp hfield
      exact (ApplicationItem.noDelimiter_iff (htext item hitem)).mp (h item hitem) field hmem
    · intro h item hitem
      exact (ApplicationItem.noDelimiter_iff (htext item hitem)).mpr fun field hfield =>
        h field (List.mem_flatMap.mpr ⟨item, hitem, hfield⟩)
  obtain ⟨bodyLength, checksum, hlength, hchecksum, hencoded⟩ := encodedFields_eq settings encoder
    sendingTime incomingSeqNo a.message sequenceNo
  have horiginal : ∀ tag, tag ∈ sessionTags encoder ∨ tag ∈ fieldTags a.message.fields →
      tag ∈ fieldTags (encodedFields settings encoder sendingTime incomingSeqNo a.message
        sequenceNo) :=
    fun tag => (mem_fieldTags_encodedFields settings sendingTime incomingSeqNo sequenceNo tag).mpr
  have hnotSession : ∀ tag ∈ fieldTags a.message.fields, tag ∉ sessionTags encoder :=
    fun tag htag hmem => htags tag htag (List.mem_append_left _ hmem)
  rw [hitems, resendFields_eq, encode_eq_encodedFields]
  generalize fieldTags (encodedFields settings encoder sendingTime incomingSeqNo a.message
    sequenceNo) = originalTags at horiginal ⊢
  rw [hencoded]
  have hbytes : ([(tagBeginString, settings.beginString), (tagBodyLength, bodyLength),
      (tagMsgType, a.message.msgType)] ++
        (sessionFields settings encoder sendingTime incomingSeqNo sequenceNo ++ a.message.fields ++
          [(tagChecksum, checksum)])).flatMap encodeField =
      ([(tagBeginString, settings.beginString), (tagBodyLength, bodyLength),
        (tagMsgType, a.msgType)] ++
          (sessionFields settings encoder sendingTime incomingSeqNo sequenceNo ++
            a.message.fields)).flatMap encodeField ++ encodeField (tagChecksum, checksum) := by
    have hmsgType : a.message.msgType = a.msgType := rfl
    simp only [hmsgType, List.flatMap_append, List.flatMap_cons, List.flatMap_nil,
      List.append_assoc, List.append_nil]
  constructor
  · rintro ⟨fields, hresend, hfaithful⟩
    obtain ⟨s, hload, rfl⟩ := Option.map_eq_some_iff.mp hresend
    rw [hbytes] at hload
    by_cases hvalues : ∀ field ∈ a.message.fields, fixDelimiter ∉ field.2
    · obtain ⟨front, hfront, hcontent⟩ := load_front hsession htype happlication hnotSession hvalues
        uninitialised hclear hlength.2 incomingSeqNo sequenceNo (encodeField (tagChecksum, checksum))
      rw [hfront] at hload
      obtain ⟨s₁, rfl, -⟩ := Option.bind_eq_some_iff.mp hload
      have hsome := congrArg Option.isSome hcontent
      rw [Option.isSome_map, Option.isSome_map] at hsome
      exact ⟨hsome.symm, hvalues⟩
    · -- the first value with a delimiter is cut, and nothing behind it brings it back
      obtain ⟨before, tag, front, back, after, hfields, hbefore, hclean⟩ := exists_cutValue hvalues
      rw [hfields] at hload
      obtain ⟨s₁, msgType, hcontent, hextends⟩ := load_cutValue hsession htype happlication
        (hfields ▸ hnotSession) hbefore hclean uninitialised hclear hlength.2 incomingSeqNo
        sequenceNo hload
      exact absurd hfaithful (not_binaryFaithful_of_cut hfields htags hextends hcontent includeT97
        sendingTime' incomingSeqNo' sequenceNo')
  · rintro ⟨hsome, hvalues⟩
    obtain ⟨loaded, hloaded⟩ := Option.isSome_iff_exists.mp hsome
    obtain ⟨front, hfront, hcontent⟩ := load_front hsession htype happlication hnotSession hvalues
      uninitialised hclear hlength.2 incomingSeqNo sequenceNo (encodeField (tagChecksum, checksum))
    rw [hloaded, Option.map_some] at hcontent
    obtain ⟨s₁, rfl, hkept⟩ := Option.map_eq_some_iff.mp hcontent
    -- tag 10 is left to `encode`
    have hend : s₁.load encoder uninitialised [] none (encodeField (tagChecksum, checksum)) =
        some s₁ := by
      have hvalue : ∀ field ∈ [(tagChecksum, checksum)], fixDelimiter ∉ field.2 := by
        intro field hmem
        rw [List.mem_singleton.mp hmem]
        exact hchecksum.2
      have hfield := LoadState.load_fields encoder uninitialised s₁ hvalue []
      have hleft := leftToEncode_own encoder tagChecksum (by decide)
      rw [List.flatMap_singleton, List.append_nil, LoadState.loadFields, LoadState.loadField,
        if_pos hleft] at hfield
      exact hfield
    rw [hbytes, hfront, Option.bind_some, hend]
    refine ⟨_, rfl, ?_⟩
    dsimp only
    rw [hkept]
    exact binaryFaithful_of_loaded htags horiginal loaded.1 incomingSeqNo includeT97 sendingTime'
      incomingSeqNo' sequenceNo'

/-- An order with the raw data `A`, delimiter, `B`. -/
def exampleBinaryOrder (data : Bytes) : ApplicationMessage where
  msgType := [msgTypeNewOrder]
  header := [.plain 115 (text "CLIENT")]
  body := [.plain 55 (text "XYZ"), .binary 95 96 data]

theorem binaryReplay_iff_order :
    (∃ fields, resendFields exampleSettings {} true 0 {}
          (encode exampleSettings {} (text "20260101-00:00:00") 9
            (exampleBinaryOrder (text "A=B")).message 7) (text "20260101-00:00:09") 12 7 =
              some fields ∧
        BinaryFaithful {} (exampleBinaryOrder (text "A=B")).message
          (fieldTags (encodedFields exampleSettings {} (text "20260101-00:00:00") 9
            (exampleBinaryOrder (text "A=B")).message 7)) fields) ↔
      (loadedType (({} : FixString).copyFrom [msgTypeNewOrder] 0)).isSome ∧
        ∀ item ∈ (exampleBinaryOrder (text "A=B")).items, item.NoDelimiter := by
  have hsession : EncodableSession exampleSettings {} (text "20260101-00:00:00") :=
    ⟨by decide, by decide, by decide, by decide, by decide, forall_tag_of_all (by decide),
      by decide⟩
  have hclear : ({} : OutgoingFixMessageInstance).IsClear := ⟨rfl, rfl, rfl⟩
  have htext : ∀ item ∈ (exampleBinaryOrder (text "A=B")).items, item.IsText := by
    intro item hitem
    simp only [exampleBinaryOrder, ApplicationMessage.items, List.mem_append, List.mem_cons,
      List.not_mem_nil, or_false] at hitem
    rcases hitem with rfl | rfl | rfl
    · show fixDelimiter ∉ text "CLIENT"
      decide
    · show fixDelimiter ∉ text "XYZ"
      decide
    · trivial
  exact binaryReplay_iff hsession (exampleBinaryOrder (text "A=B")) (by decide) (by decide) htext
    (forall_tag_of_all (by decide)) true 0 hclear 9 7 12 7 _

/-- The raw data `A`, delimiter, `B` comes back as `A`, and tag 10 is part of a wrong tag. -/
theorem binaryReplay_fails :
    ¬ ∃ fields, resendFields exampleSettings {} false 0 {}
          (encode exampleSettings {} (text "20260101-00:00:00") 9
            (exampleBinaryOrder ['A'.toUInt8, fixDelimiter, 'B'.toUInt8]).message 7)
          (text "20260101-00:00:09") 12 7 = some fields ∧
        BinaryFaithful {} (exampleBinaryOrder ['A'.toUInt8, fixDelimiter, 'B'.toUInt8]).message
          (fieldTags (encodedFields exampleSettings {} (text "20260101-00:00:00") 9
            (exampleBinaryOrder ['A'.toUInt8, fixDelimiter, 'B'.toUInt8]).message 7)) fields := by
  rintro ⟨fields, hfields, hfaithful⟩
  have hlost : (resendFields exampleSettings {} false 0 {}
      (encode exampleSettings {} (text "20260101-00:00:00") 9
        (exampleBinaryOrder ['A'.toUInt8, fixDelimiter, 'B'.toUInt8]).message 7)
      (text "20260101-00:00:09") 12 7).any (fun fields =>
        fields.filter (fun field => field.1 ∉ sessionTags {} ++ replayTags) ≠
          (exampleBinaryOrder ['A'.toUInt8, fixDelimiter, 'B'.toUInt8]).message.fields) = true := by
    decide +kernel
  rw [hfields, Option.any_some, decide_eq_true_eq] at hlost
  exact hlost hfaithful.tags

end Llfix
