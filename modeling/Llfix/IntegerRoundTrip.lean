import Llfix.IntegerFields
import Llfix.RepeatingGroups

/-!
# Integers through the wire

A message whose tags were set to integers is encoded, with repeating groups where they are declared,
and parsed by the peer with the same declarations.

Results:
1. `encodedGroups_bytes`: the bytes of `encode` are those of a message with groups.
2. `integerFields_iff`: the integers that the peer reads back, from tags and from members of groups.
3. `integerFields_fails`: a price of 64 bits.
-/

namespace Llfix

open GroupScan MappedFile WellFormedWire

/-! ## Setting and reading an integer -/

/-- `set_tag` of an integer. -/
def OutgoingFixMessage.setTagAs (T : IntegerType) (m : OutgoingFixMessage) (tag : Tag)
    (value : T.Value) (stale : Buffer) : OutgoingFixMessage :=
  m.setTag tag (T.toChars stale value)

/-- `get_tag_value_as` of an integer type. -/
def IncomingFixMessage.getTagValueAs (T : IntegerType) (message : IncomingFixMessage) (tag : Tag) :
    T.Value :=
  T.ofChars (message.getTagValue tag)

/-- `get_repeating_group_tag_value_as` of an integer type. -/
def IncomingFixRepeatingGroups.getTagValueAs (T : IntegerType) (store : List (Tag × Bytes))
    (tag : Tag) (index : Nat) : Option T.Value :=
  (getValue tag index store).map fun value => T.ofChars value

/-! ## The message on the wire -/

/-- What a session can encode and its peer can read: the fields are ordinary ones and declared
groups, all have values, and the session's own tags are ordinary ones. -/
structure EncodableGroups (declarations : List GroupDeclaration) (encoder : EncoderSettings)
    (m : OutgoingFixMessage) (segments : List (Segment Tag Bytes)) : Prop where
  fields : m.fields = segments.flatMap Segment.fields
  msgType : IsValue m.msgType
  values : ∀ field ∈ m.fields, IsValue field.2
  declared : ∀ segment ∈ segments, IsDeclared declarations m.msgType segment
  disjoint : ∀ d ∈ declarationsFor declarations m.msgType,
    ∀ other ∈ declarationsFor declarations m.msgType,
      d.countTag ≠ other.countTag → ∀ tag ∈ d.tags, tag ∉ other.tags
  sessionTags : ∀ tag ∈ sessionTags encoder, tag ∉ groupTags declarations m.msgType

section RoundTrip

variable (settings : FixSessionSettings) (encoder : EncoderSettings) (sendingTime : Bytes)
  (incomingSeqNo : UInt32) (m : OutgoingFixMessage) (sequenceNo : UInt32)
  (segments : List (Segment Tag Bytes))

/-- What `encode` writes, as a message with groups. -/
def encodedGroups : GroupMessage where
  beginString := settings.beginString
  bodyLength := unsignedIntToChars
    ((bodyFields settings encoder sendingTime incomingSeqNo m sequenceNo).flatMap
      encodeField).length.toUInt32
  msgType := m.msgType
  segments :=
    (sessionFields settings encoder sendingTime incomingSeqNo sequenceNo).map Segment.single ++
      segments
  checksum := encodedChecksum settings
    ((summedFields settings encoder sendingTime incomingSeqNo m sequenceNo).flatMap encodeField)

variable {settings encoder sendingTime m segments} {declarations : List GroupDeclaration}

theorem flatMap_single (fields : List (Tag × Bytes)) :
    (fields.map Segment.single).flatMap Segment.fields = fields := by
  induction fields with
  | nil => rfl
  | cons field fields ih =>
    rw [List.map_cons, List.flatMap_cons, ih]
    rfl

theorem encodedGroups_fields (h : EncodableGroups declarations encoder m segments) :
    (encodedGroups settings encoder sendingTime incomingSeqNo m sequenceNo segments).fields =
      allFields settings.beginString m.msgType
        (restFields settings encoder sendingTime incomingSeqNo m sequenceNo)
        (encodedChecksum settings
          ((summedFields settings encoder sendingTime incomingSeqNo m sequenceNo).flatMap
            encodeField)) := by
  rw [GroupMessage.fields, GroupMessage.body, List.flatMap_append, List.flatMap_singleton]
  show _ ++ (((sessionFields settings encoder sendingTime incomingSeqNo sequenceNo).map
    Segment.single ++ segments).flatMap Segment.fields ++ _) = _
  rw [List.flatMap_append, flatMap_single, ← h.fields, ← restFields_eq]
  rfl

theorem encodedGroups_bytes (h : EncodableGroups declarations encoder m segments) :
    (encodedGroups settings encoder sendingTime incomingSeqNo m sequenceNo segments).bytes =
      encode settings encoder sendingTime incomingSeqNo m sequenceNo := by
  rw [GroupMessage.bytes, encodedGroups_fields incomingSeqNo sequenceNo h, encode_eq_allFields]

theorem encodedGroups_values (hsession : EncodableSession settings encoder sendingTime)
    (h : EncodableGroups declarations encoder m segments) :
    ∀ field ∈ (encodedGroups settings encoder sendingTime incomingSeqNo m sequenceNo
      segments).fields, IsValue field.2 := by
  intro field hfield
  rw [encodedGroups_fields incomingSeqNo sequenceNo h] at hfield
  simp only [allFields, wireFields, List.cons_append, List.mem_cons, List.mem_append,
    List.not_mem_nil, or_false] at hfield
  rcases hfield with rfl | rfl | rfl | hrest | rfl
  · exact hsession.beginString
  · exact isValue_unsignedIntToChars _
  · exact h.msgType
  · rw [restFields_eq, List.mem_append] at hrest
    exact hrest.elim (sessionFields_values hsession) (h.values field)
  · exact isValue_encodedChecksum settings _

/-- The tags of the session's own fields. -/
theorem sessionFields_tags {field : Tag × Bytes}
    (h : field ∈ sessionFields settings encoder sendingTime incomingSeqNo sequenceNo) :
    field.1 ∈ sessionTags encoder := by
  rw [← fieldTags_sessionFields settings encoder sendingTime incomingSeqNo sequenceNo]
  exact List.mem_append_right _ (List.mem_map_of_mem h)

theorem headerTags_sessionTags {encoder : EncoderSettings} {tag : Tag}
    (h : tag ∈ [tagBeginString, tagBodyLength, tagMsgType, tagChecksum]) :
    tag ∈ sessionTags encoder := by
  unfold sessionTags
  refine List.mem_append_left _ (List.mem_append_left _ ?_)
  simp only [List.mem_cons, List.not_mem_nil, or_false] at h ⊢
  tauto

/-- What `encode` writes is well formed. -/
theorem encodedGroups_wellFormed (hsession : EncodableSession settings encoder sendingTime)
    (h : EncodableGroups declarations encoder m segments) :
    (encodedGroups settings encoder sendingTime incomingSeqNo m sequenceNo
      segments).WellFormed declarations where
  disjoint := h.disjoint
  header tag htag := h.sessionTags tag (headerTags_sessionTags htag)
  segments segment hsegment := by
    rcases List.mem_append.mp hsegment with hown | hsegment
    · obtain ⟨field, hfield, rfl⟩ := List.mem_map.mp hown
      have hdistinct := hsession.distinct
      rw [← fieldTags_sessionFields settings encoder sendingTime incomingSeqNo sequenceNo,
        List.nodup_append] at hdistinct
      have htag : field.1 ∈ fieldTags (sessionFields settings encoder sendingTime incomingSeqNo
        sequenceNo) := List.mem_map_of_mem hfield
      refine ⟨h.sessionTags _ (sessionFields_tags incomingSeqNo sequenceNo hfield), ?_, ?_⟩
      · exact fun heq => hdistinct.2.2 tagChecksum (by decide) _ htag heq.symm
      · exact fun heq => hdistinct.2.2 tagMsgType (by decide) _ htag heq.symm
    · exact h.declared segment hsegment
  values field hfield := (encodedGroups_values incomingSeqNo sequenceNo hsession h field hfield).2

/-- `process_rx_buffer` dispatches what `encode` writes. -/
theorem encodedGroups_receive (hsession : EncodableSession settings encoder sendingTime)
    (h : EncodableGroups declarations encoder m segments) {c : RxConnection}
    (hempty : c.incomplete = []) (disconnects : List Bytes → Bool) :
    (c.receive disconnects
        (encode settings encoder sendingTime incomingSeqNo m sequenceNo)).2.1 =
      [encode settings encoder sendingTime incomingSeqNo m sequenceNo] := by
  have hwell := encodedGroups_wellFormed incomingSeqNo sequenceNo hsession h
  have hvalues := encodedGroups_values incomingSeqNo sequenceNo hsession h
  have hinner := hwell.ne_checksum
  have hsegments : (encodedGroups settings encoder sendingTime incomingSeqNo m sequenceNo
      segments).segments.flatMap Segment.fields =
        restFields settings encoder sendingTime incomingSeqNo m sequenceNo := by
    rw [encodedGroups, List.flatMap_append, flatMap_single, ← h.fields, ← restFields_eq]
  rw [hsegments] at hinner
  rw [encodedGroups_fields incomingSeqNo sequenceNo h] at hvalues
  rw [encode_eq_allFields]
  refine receive_of_values hvalues (fun hmem => ?_) hempty disconnects
  obtain ⟨field, hfield, htag⟩ := List.mem_map.mp hmem
  exact (hinner field hfield).1 htag

/-- A tag that the session does not write is found where the message has it. -/
theorem encodedGroups_lookup (h : EncodableGroups declarations encoder m segments) {tag : Tag}
    (htag : tag ∉ sessionTags encoder) :
    (encodedGroups settings encoder sendingTime incomingSeqNo m sequenceNo
      segments).fields.lookup tag = m.fields.lookup tag ∧
    valuesOf tag (encodedGroups settings encoder sendingTime incomingSeqNo m sequenceNo
      segments).fields = valuesOf tag m.fields := by
  have hown : ∀ fields : List (Tag × Bytes), (∀ t ∈ fieldTags fields, t ∈ sessionTags encoder) →
      fields.lookup tag = none ∧ fields.filter (fun field => field.1 = tag) = [] := by
    intro fields hfields
    refine ⟨lookup_eq_none_iff.mpr fun hmem => htag (hfields tag hmem),
      List.filter_eq_nil_iff.mpr fun field hfield => ?_⟩
    rw [decide_eq_true_eq]
    exact fun heq => htag (heq ▸ hfields field.1 (List.mem_map_of_mem hfield))
  -- the fields of the message stand between the session's own ones
  obtain ⟨front, back, hfields, hfront, hback⟩ : ∃ front back : List (Tag × Bytes),
      (encodedGroups settings encoder sendingTime incomingSeqNo m sequenceNo segments).fields =
        front ++ (m.fields ++ back) ∧
      (∀ t ∈ fieldTags front, t ∈ sessionTags encoder) ∧
      ∀ t ∈ fieldTags back, t ∈ sessionTags encoder := by
    refine ⟨(encodedGroups settings encoder sendingTime incomingSeqNo m sequenceNo
      segments).header ++ sessionFields settings encoder sendingTime incomingSeqNo sequenceNo,
      [(tagChecksum, (encodedGroups settings encoder sendingTime incomingSeqNo m sequenceNo
        segments).checksum)], ?_, fun t ht => ?_, fun t ht => ?_⟩
    · rw [GroupMessage.fields, GroupMessage.body, List.flatMap_append, List.flatMap_singleton]
      show _ ++ (((sessionFields settings encoder sendingTime incomingSeqNo sequenceNo).map
        Segment.single ++ segments).flatMap Segment.fields ++ _) = _
      rw [List.flatMap_append, flatMap_single, ← h.fields, List.append_assoc, List.append_assoc]
      rfl
    · rw [fieldTags_append, List.mem_append] at ht
      rcases ht with ht | ht
      · exact headerTags_sessionTags (List.mem_append_left [tagChecksum] ht)
      · obtain ⟨field, hfield, rfl⟩ := List.mem_map.mp ht
        exact sessionFields_tags incomingSeqNo sequenceNo hfield
    · rw [List.mem_singleton.mp ht]
      exact headerTags_sessionTags (List.mem_cons_of_mem _ (List.mem_cons_of_mem _
        (List.mem_cons_of_mem _ (List.mem_singleton_self _))))
  obtain ⟨hlookup, hfilter⟩ := hown front hfront
  obtain ⟨hlookup', hfilter'⟩ := hown back hback
  constructor
  · rw [hfields, List.lookup_append, List.lookup_append, hlookup, hlookup', Option.none_or,
      Option.or_none]
  · rw [hfields, valuesOf, List.filter_append, List.filter_append, hfilter, hfilter',
      List.nil_append, List.append_nil]
    rfl

/-! ## What the peer reads -/

/-- The peer reads the integer from a tag. -/
def ReadsTag (declarations : List GroupDeclaration) (bytes : Bytes) (T : IntegerType) (v : T.Value)
    (tag : Tag) : Prop :=
  ∃ p rx, parseMessage (specified declarations).answers bytes = some (p, rx) ∧
    rx.message.hasTag tag = true ∧ rx.message.getTagValueAs T tag = v

/-- The peer reads the integer from a member of a group. -/
def ReadsMember (declarations : List GroupDeclaration) (m : GroupMessage) (T : IntegerType)
    (v : T.Value) (tag : Tag) (index : Nat) : Prop :=
  ∃ p rx, parseMessage (specified declarations).answers m.bytes = some (p, rx) ∧
    rx.buffer = m.bytes ∧
    IncomingFixRepeatingGroups.getTagValueAs T p.repeatingGroups tag index = some v

/-- The group of the member is recognised: of the fields that the rules of the declarations take
for parts of groups, the one with the tag at the index has the value that it has in the message. -/
def MemberRecognised (declarations : List GroupDeclaration) (m : GroupMessage) (tag : Tag)
    (index : Nat) : Prop :=
  (valuesOf tag ((m.groupRules declarations).grouped none
    (m.body.flatMap Segment.fields)))[index]? = (valuesOf tag m.fields)[index]?

theorem readsTag_iff (hsession : EncodableSession settings encoder sendingTime)
    (h : EncodableGroups declarations encoder m segments) {T : IntegerType} {v : T.Value}
    {stale : Buffer} {tag : Tag} (hgroup : tag ∉ groupTags declarations m.msgType)
    (hown : tag ∉ sessionTags encoder) (hset : m.fields.lookup tag = some (T.toChars stale v)) :
    ReadsTag declarations (encode settings encoder sendingTime incomingSeqNo m sequenceNo) T v tag ↔
      T.FitsInt v := by
  have hwell := encodedGroups_wellFormed incomingSeqNo sequenceNo hsession h
  obtain ⟨p, rx, hparse, -, -, hdictionary⟩ := hwell.parseMessage []
  rw [List.append_nil, encodedGroups_bytes incomingSeqNo sequenceNo h] at hparse
  -- wherever it stands, the field is a single one
  have hordinary := (@GroupMessage.wellFormed_single declarations (encodedGroups settings encoder
    sendingTime incomingSeqNo m sequenceNo segments) (tag, []) hgroup).single _
      (List.mem_singleton_self _)
  have hlookup : rx.message.tags.lookup tag = some (T.toChars stale v) := by
    rw [hdictionary, List.lookup_append, Rules.lookup_single hordinary, ← List.lookup_append]
    exact (encodedGroups_lookup incomingSeqNo sequenceNo h hown).1.trans hset
  have hvalue : rx.message.getTagValueAs T tag = T.ofChars (T.toChars stale v) := by
    rw [IncomingFixMessage.getTagValueAs, IncomingFixMessage.getTagValue, hlookup]
    rfl
  rw [← IntegerType.ofChars_toChars_iff stale T v, ← hvalue]
  constructor
  · rintro ⟨p', rx', hparse', -, hread⟩
    rw [hparse] at hparse'
    rw [(Prod.mk.inj (Option.some.inj hparse')).2]
    exact hread
  · intro hread
    refine ⟨p, rx, hparse, ?_, hread⟩
    rw [IncomingFixMessage.hasTag, hlookup]
    rfl

/-- Where no group stands directly behind another, all members are recognised. -/
theorem memberRecognised_of_recognised {m : GroupMessage} (h : m.WellFormed declarations)
    (hrecognised : m.Recognised declarations []) {tag : Tag}
    (hgroup : tag ∈ groupTags declarations m.msgType) (index : Nat) :
    MemberRecognised declarations m tag index := by
  obtain ⟨p, rx, hparse, -, hrecorded⟩ := hrecognised
  obtain ⟨p', rx', hparse', -, hstore, -⟩ := h.parseMessage []
  rw [hparse] at hparse'
  obtain ⟨rfl, rfl⟩ := Prod.mk.inj (Option.some.inj hparse')
  rw [MemberRecognised, ← hrecorded.getValue tag hgroup, IncomingFixRepeatingGroups.getValue_eq,
    hstore]
  rfl

theorem readsMember_iff (hsession : EncodableSession settings encoder sendingTime)
    (h : EncodableGroups declarations encoder m segments) {T : IntegerType} {v : T.Value}
    {stale : Buffer} {tag : Tag} {index : Nat} (hgroup : tag ∈ groupTags declarations m.msgType)
    (hset : (valuesOf tag m.fields)[index]? = some (T.toChars stale v))
    (hrecognised : MemberRecognised declarations
      (encodedGroups settings encoder sendingTime incomingSeqNo m sequenceNo segments) tag index) :
    ReadsMember declarations
        (encodedGroups settings encoder sendingTime incomingSeqNo m sequenceNo segments) T v tag
        index ↔
      T.FitsInt v := by
  have hwell := encodedGroups_wellFormed incomingSeqNo sequenceNo hsession h
  have hown : tag ∉ sessionTags encoder := fun hmem => h.sessionTags tag hmem hgroup
  obtain ⟨p, rx, hparse, hbuffer, hstore, -⟩ := hwell.parseMessage []
  rw [List.append_nil] at hparse
  have hread : IncomingFixRepeatingGroups.getTagValueAs T p.repeatingGroups tag index =
      some (T.ofChars (T.toChars stale v)) := by
    have hvalue := hrecognised
    rw [MemberRecognised, ← hstore, (encodedGroups_lookup incomingSeqNo sequenceNo h hown).2, hset]
      at hvalue
    rw [IncomingFixRepeatingGroups.getTagValueAs, IncomingFixRepeatingGroups.getValue_eq]
    exact congrArg (Option.map _) hvalue
  rw [← IntegerType.ofChars_toChars_iff stale T v]
  constructor
  · rintro ⟨p', rx', hparse', -, hmember⟩
    rw [hparse] at hparse'
    obtain ⟨rfl, rfl⟩ := Prod.mk.inj (Option.some.inj hparse')
    exact Option.some.inj (hread.symm.trans hmember)
  · intro hfits
    exact ⟨p, rx, hparse, hbuffer, by rw [hread, hfits]⟩

/-- Of a whole message that is recorded as declared. -/
theorem readsMember_recognised_iff (hsession : EncodableSession settings encoder sendingTime)
    (h : EncodableGroups declarations encoder m segments) {T : IntegerType} {v : T.Value}
    {stale : Buffer} {tag : Tag} {index : Nat} (hgroup : tag ∈ groupTags declarations m.msgType)
    (hset : (valuesOf tag m.fields)[index]? = some (T.toChars stale v)) :
    ReadsMember declarations
        (encodedGroups settings encoder sendingTime incomingSeqNo m sequenceNo segments) T v tag
        index ∧
      (encodedGroups settings encoder sendingTime incomingSeqNo m sequenceNo segments).Recognised
        declarations [] ↔
      T.FitsInt v ∧ (encodedGroups settings encoder sendingTime incomingSeqNo m sequenceNo
        segments).Separated declarations := by
  have hwell := encodedGroups_wellFormed incomingSeqNo sequenceNo hsession h
  rw [← hwell.recognised_iff []]
  refine and_congr_left fun hrecognised => ?_
  exact readsMember_iff incomingSeqNo sequenceNo hsession h hgroup hset
    (memberRecognised_of_recognised hwell hrecognised hgroup index)

end RoundTrip

/-- The bytes of `encode` are dispatched as one message, and an integer that was set is read back
exactly when it fits into `int` or has another type than `int64_t`, as a tag and as a member of a
group that is recognised. All groups of the message are when none stands directly behind another. -/
theorem integerFields_iff {settings : FixSessionSettings} {encoder : EncoderSettings}
    {sendingTime : Bytes} {m : OutgoingFixMessage} {segments : List (Segment Tag Bytes)}
    {declarations : List GroupDeclaration}
    (hsession : EncodableSession settings encoder sendingTime)
    (h : EncodableGroups declarations encoder m segments) (incomingSeqNo sequenceNo : UInt32)
    (T : IntegerType) (v : T.Value) (stale : Buffer) (tag : Tag) :
    (∀ (c : RxConnection) (disconnects : List Bytes → Bool), c.incomplete = [] →
      (c.receive disconnects
          (encode settings encoder sendingTime incomingSeqNo m sequenceNo)).2.1 =
        [encode settings encoder sendingTime incomingSeqNo m sequenceNo]) ∧
    (encodedGroups settings encoder sendingTime incomingSeqNo m sequenceNo segments).bytes =
      encode settings encoder sendingTime incomingSeqNo m sequenceNo ∧
    (tag ∉ groupTags declarations m.msgType → tag ∉ sessionTags encoder →
      m.fields.lookup tag = some (T.toChars stale v) →
      (ReadsTag declarations (encode settings encoder sendingTime incomingSeqNo m sequenceNo) T v
          tag ↔
        T.FitsInt v)) ∧
    ∀ index, tag ∈ groupTags declarations m.msgType →
      (valuesOf tag m.fields)[index]? = some (T.toChars stale v) →
      (MemberRecognised declarations
          (encodedGroups settings encoder sendingTime incomingSeqNo m sequenceNo segments) tag
          index →
        (ReadsMember declarations
            (encodedGroups settings encoder sendingTime incomingSeqNo m sequenceNo segments) T v
            tag index ↔
          T.FitsInt v)) ∧
      (ReadsMember declarations
          (encodedGroups settings encoder sendingTime incomingSeqNo m sequenceNo segments) T v tag
          index ∧
        (encodedGroups settings encoder sendingTime incomingSeqNo m sequenceNo segments).Recognised
          declarations [] ↔
        T.FitsInt v ∧ (encodedGroups settings encoder sendingTime incomingSeqNo m sequenceNo
          segments).Separated declarations) := by
  refine ⟨fun c disconnects hempty => ?_, ?_, ?_, ?_⟩
  · exact encodedGroups_receive incomingSeqNo sequenceNo hsession h hempty disconnects
  · exact encodedGroups_bytes incomingSeqNo sequenceNo h
  · exact fun hgroup hown hset => readsTag_iff incomingSeqNo sequenceNo hsession h hgroup hown hset
  · exact fun index hgroup hset =>
      ⟨readsMember_iff incomingSeqNo sequenceNo hsession h hgroup hset,
        readsMember_recognised_iff incomingSeqNo sequenceNo hsession h hgroup hset⟩

/-- A leg with a ratio of 32 bits and a quantity of 64 bits. -/
def exampleQuantity (quantity : Int64) : OutgoingFixMessage :=
  ((((OutgoingFixMessage.setMsgType 'D'.toUInt8).setTag 555 (text "1")).setTag 600
    (text "XYZ")).setTagAs .int32 624 (-3) zeros).setTagAs .int64 38 quantity zeros

def exampleSegments (quantity : Int64) : List (Segment Tag Bytes) :=
  [.group (555, text "1") [(600, text "XYZ"), (624, IntegerType.int32.toChars zeros (-3))],
    .single (38, IntegerType.int64.toChars zeros quantity)]

theorem exampleQuantity_encodable {quantity : Int64} (h : quantity = 5 ∨ quantity = 4294967301) :
    EncodableSession exampleSettings {} (text "20260101-00:00:00") ∧
      EncodableGroups exampleDeclarations {} (exampleQuantity quantity)
        (exampleSegments quantity) := by
  have hsession : EncodableSession exampleSettings {} (text "20260101-00:00:00") :=
    ⟨by decide, by decide, by decide, by decide, by decide, forall_tag_of_all (by decide),
      by decide⟩
  have hdisjoint := (examplePartiesAndLegs_wellFormed (Or.inl rfl)).disjoint
  have hown : ∀ tag ∈ sessionTags {}, tag ∉ groupTags exampleDeclarations (text "D") :=
    forall_tag_of_all (by decide)
  refine ⟨hsession, ?_⟩
  rcases h with rfl | rfl
  · exact ⟨rfl, by decide, by decide +kernel, by decide +kernel, hdisjoint, hown⟩
  · exact ⟨rfl, by decide, by decide +kernel, by decide +kernel, hdisjoint, hown⟩

/-- The ratio of the leg is read back, and a quantity that fits. -/
theorem integerFields_iff_leg :
    ReadsTag exampleDeclarations (encode exampleSettings {} (text "20260101-00:00:00") 0
      (exampleQuantity 5) 7) .int64 (5 : Int64) 38 ∧
    ReadsMember exampleDeclarations (encodedGroups exampleSettings {} (text "20260101-00:00:00") 0
      (exampleQuantity 5) 7 (exampleSegments 5)) .int32 (-3 : Int32) 624 0 := by
  obtain ⟨hsession, h⟩ := exampleQuantity_encodable (Or.inl rfl)
  obtain ⟨-, -, htag, -⟩ := integerFields_iff hsession h 0 7 .int64 (5 : Int64) zeros 38
  obtain ⟨-, -, -, hmember⟩ := integerFields_iff hsession h 0 7 .int32 (-3 : Int32) zeros 624
  refine ⟨(htag (by decide) (by decide) rfl).mpr ⟨by decide, by decide⟩,
    ((hmember 0 (by decide) rfl).2.mpr ⟨trivial, fun htype => absurd htype (by decide), ?_⟩).1⟩
  have halternate : List.IsChain (fun segment next : Segment Tag Bytes =>
      segment.opener = none ∨ next.opener = none)
      (encodedGroups exampleSettings {} (text "20260101-00:00:00") 0 (exampleQuantity 5) 7
        (exampleSegments 5)).segments := by
    decide +kernel
  refine halternate.imp fun segment next hnone opener hopener key hkey => ?_
  rcases hnone with hnone | hnone
  · rw [hnone] at hopener
    exact absurd hopener (Option.not_mem_none opener)
  · rw [hnone] at hkey
    exact absurd hkey (Option.not_mem_none key)

/-- A quantity above `2^32` loses its high half. -/
theorem integerFields_fails :
    (EncodableSession exampleSettings {} (text "20260101-00:00:00") ∧
      EncodableGroups exampleDeclarations {} (exampleQuantity 4294967301)
        (exampleSegments 4294967301)) ∧
    ¬ ReadsTag exampleDeclarations (encode exampleSettings {} (text "20260101-00:00:00") 0
      (exampleQuantity 4294967301) 7) .int64 (4294967301 : Int64) 38 := by
  refine ⟨exampleQuantity_encodable (Or.inr rfl), ?_⟩
  rintro ⟨p, rx, hparse, -, hread⟩
  have hshort : (parseMessage (specified exampleDeclarations).answers
      (encode exampleSettings {} (text "20260101-00:00:00") 0 (exampleQuantity 4294967301) 7)).any
        (fun result => decide ((result.2.message.getTagValueAs .int64 38 : Int64) = 5)) = true := by
    decide +kernel
  rw [hparse] at hshort
  have hfive : (rx.message.getTagValueAs .int64 38 : Int64) = 5 := of_decide_eq_true hshort
  rw [hread] at hfive
  exact absurd hfive (by decide)

end Llfix
