import Llfix.Checksum
import Llfix.EncodedFields
import Llfix.RxChunks

/-!
# Encode, then parse

The bytes of `encode`, given to `process_rx_buffer` of the peer, are one message: it is parsed
without a reject code and found valid, and its tags are those that were encoded.

Results:
1. `parse_wireFields`: the parser gives back the fields on the wire.
2. `encode_valid`: the peer accepts the message.
3. `encode_parse`: the round trip.
-/

namespace Llfix

namespace MessageParser

/-! ## The begin and the end of a message -/

/-- The variables behind the first three fields. -/
def behindHeader (beginString bodyLength msgType : Bytes) : MessageParser where
  message := { tags :=
    [(tagBeginString, beginString), (tagBodyLength, bodyLength), (tagMsgType, msgType)] }
  currentTag35TagStartIndex := some
    ([(tagBeginString, beginString), (tagBodyLength, bodyLength)].flatMap encodeField).length
  currentTagIndex := 3
  encodedCurrentMessageType := packMessageType msgType

theorem parseParts_header {beginString bodyLength msgType : Bytes} (hbegin : beginString ≠ [])
    (hlength : bodyLength ≠ []) (htype : msgType ≠ []) (parts : List Bytes) :
    parseParts {} {} 0 (fieldPart (tagBeginString, beginString) ::
        fieldPart (tagBodyLength, bodyLength) :: fieldPart (tagMsgType, msgType) :: parts) =
      (behindHeader beginString bodyLength msgType).parseParts {}
        ([(tagBeginString, beginString), (tagBodyLength, bodyLength),
          (tagMsgType, msgType)].flatMap encodeField).length parts := by
  have hfirst : endOfPart {} {} 0 (fieldPart (tagBeginString, beginString)) =
      recorded {} tagBeginString beginString := by
    rw [endOfPart_fieldPart {} hbegin]
    exact recordTag_plain rfl (by decide) (by decide) (by decide) (by decide) (by decide)
  have hsecond : ∀ start, endOfPart (recorded {} tagBeginString beginString) {} start
      (fieldPart (tagBodyLength, bodyLength)) =
        (recorded {} tagBeginString beginString).recorded tagBodyLength bodyLength := by
    intro start
    rw [endOfPart_fieldPart {} hlength]
    have horder : InHeaderOrder 2 tagBodyLength := by decide
    refine recordTag_plain rfl (by decide) ?_ horder (by decide) (by decide)
    show tagBodyLength ∉ [tagBeginString]
    decide
  have hthird : ∀ start,
      endOfPart ((recorded {} tagBeginString beginString).recorded tagBodyLength bodyLength) {}
        start (fieldPart (tagMsgType, msgType)) =
      { behindHeader beginString bodyLength msgType with
        currentTag35TagStartIndex := some start } := by
    intro start
    have horder : InHeaderOrder 3 tagMsgType := by decide
    have hnew : tagMsgType ∉ fieldTags ((recorded {} tagBeginString beginString).recorded
        tagBodyLength bodyLength).message.tags := by
      show tagMsgType ∉ [tagBeginString, tagBodyLength]
      decide
    rw [endOfPart_fieldPart {} htype]
    refine (recordTag_new rfl (by decide) hnew horder).trans ?_
    rw [afterTag, if_neg (by decide), if_pos rfl]
    rfl
  rw [parseParts, hfirst]
  show parseParts {} (recorded {} tagBeginString beginString) _ _ = _
  rw [parseParts, hsecond]
  show parseParts {} ((recorded {} tagBeginString beginString).recorded tagBodyLength bodyLength)
    _ _ = _
  rw [parseParts, hthird]
  have hstart : 0 + (fieldPart (tagBeginString, beginString)).length + 1 +
      (fieldPart (tagBodyLength, bodyLength)).length + 1 =
        ([(tagBeginString, beginString), (tagBodyLength, bodyLength)].flatMap
          encodeField).length := by
    simp [encodeField_eq]
    omega
  have hend : 0 + (fieldPart (tagBeginString, beginString)).length + 1 +
      (fieldPart (tagBodyLength, bodyLength)).length + 1 +
      (fieldPart (tagMsgType, msgType)).length + 1 =
        ([(tagBeginString, beginString), (tagBodyLength, bodyLength),
          (tagMsgType, msgType)].flatMap encodeField).length := by
    simp [encodeField_eq]
    omega
  rw [hend, hstart]
  rfl

variable {p : MessageParser}

/-- Tag 10 ends the message, and the body length is found right. -/
theorem parseParts_checksum {start tag35StartIndex bodyLength : Nat} {checksum : Bytes}
    (parts : List Bytes) (hgroup : p.inARepeatingGroup = false)
    (hnew : tagChecksum ∉ fieldTags p.message.tags)
    (horder : InHeaderOrder (p.currentTagIndex + 1) tagChecksum) (hchecksum : checksum ≠ [])
    (hstart35 : p.currentTag35TagStartIndex = some tag35StartIndex)
    (hlength : p.message.tags.lookup tagBodyLength =
      some (unsignedIntToChars (bodyLength.toUInt32)))
    (hstart : start = tag35StartIndex + bodyLength) :
    p.parseParts {} start (fieldPart (tagChecksum, checksum) :: parts) =
      some ({ p.recorded tagChecksum checksum with reachedChecksum := true },
        start + (encodeField (tagChecksum, checksum)).length) := by
  have hlookup : (p.recorded tagChecksum checksum).message.tags.lookup tagBodyLength =
      some (unsignedIntToChars (bodyLength.toUInt32)) := by
    show (p.message.tags ++ [(tagChecksum, checksum)]).lookup tagBodyLength = _
    rw [List.lookup_append, hlength]
    rfl
  have hvalid : (p.recorded tagChecksum checksum).validateTag9AndTag35 start =
      p.recorded tagChecksum checksum := by
    have hstart35' : (p.recorded tagChecksum checksum).currentTag35TagStartIndex =
        some tag35StartIndex := hstart35
    have hint : bodyLength.toUInt32.toInt32 = Int32.ofNat start - Int32.ofNat tag35StartIndex := by
      rw [hstart, Int32.ofNat_add, Int32.add_comm, Int32.add_sub_cancel]
      rfl
    rw [validateTag9AndTag35, hstart35']
    dsimp only
    rw [if_pos (by rw [IncomingFixMessage.hasTag, hlookup]; rfl), if_pos, rejectIf, if_neg]
    · rw [IncomingFixMessage.getTagValueAsUInt32, IncomingFixMessage.getTagValue, hlookup,
        Option.getD_some, charsToUnsignedInt_unsignedIntToChars, hint]
      simp
    · rw [IncomingFixMessage.isTagValueNumeric, IncomingFixMessage.getTagValue, hlookup,
        Option.getD_some]
      exact unsignedIntToChars_isNumeric _
  have hpart : p.endOfPart {} start (fieldPart (tagChecksum, checksum)) =
      { p.recorded tagChecksum checksum with reachedChecksum := true } := by
    rw [endOfPart_fieldPart {} hchecksum, recordTag_new hgroup (by decide) hnew horder, afterTag,
      if_pos rfl, hvalid]
  rw [parseParts, hpart, encodeField_eq, List.length_append, List.length_singleton, ← Nat.add_assoc]
  rfl

end MessageParser

open MessageParser

/-! ## A message on the wire -/

/-- The fields in front of tag 10: tags 8 and 9, and the fields whose length tag 9 has. -/
def wireFields (beginString : Bytes) (body : List (Tag × Bytes)) : List (Tag × Bytes) :=
  (tagBeginString, beginString) ::
    (tagBodyLength, unsignedIntToChars (body.flatMap encodeField).length.toUInt32) :: body

/-- The parts of a message that the parser can take apart again. -/
structure WellFormedWire (beginString msgType : Bytes) (rest : List (Tag × Bytes))
    (checksum : Bytes) : Prop where
  beginString : IsValue beginString
  msgType : IsValue msgType
  checksum : IsValue checksum
  values : ∀ field ∈ rest, IsValue field.2
  nonzero : (0 : Tag) ∉ fieldTags rest
  distinct : (tagBeginString :: tagBodyLength :: tagMsgType :: tagChecksum ::
    fieldTags rest).Nodup

namespace WellFormedWire

variable {beginString msgType : Bytes} {rest : List (Tag × Bytes)} {checksum : Bytes}

/-- The fields of the message, tag 10 included. -/
def allFields (beginString msgType : Bytes) (rest : List (Tag × Bytes)) (checksum : Bytes) :
    List (Tag × Bytes) :=
  wireFields beginString ((tagMsgType, msgType) :: rest) ++ [(tagChecksum, checksum)]

theorem fieldTags_allFields :
    fieldTags (allFields beginString msgType rest checksum) =
      tagBeginString :: tagBodyLength :: tagMsgType :: (fieldTags rest ++ [tagChecksum]) := by
  simp [allFields, wireFields, fieldTags]

theorem nodup (h : WellFormedWire beginString msgType rest checksum) :
    (fieldTags (allFields beginString msgType rest checksum)).Nodup := by
  rw [fieldTags_allFields]
  refine List.Perm.nodup ?_ h.distinct
  exact .cons _ (.cons _ (.cons _ (List.perm_append_singleton _ _).symm))

theorem zero_not_mem (h : WellFormedWire beginString msgType rest checksum) :
    (0 : Tag) ∉ fieldTags (allFields beginString msgType rest checksum) := by
  rw [fieldTags_allFields]
  simp only [List.mem_cons, List.mem_append, List.not_mem_nil, or_false, not_or]
  exact ⟨by decide, by decide, by decide, h.nonzero, by decide⟩

theorem allFields_values (hbeginString : IsValue beginString) (hmsgType : IsValue msgType)
    (hvalues : ∀ field ∈ rest, IsValue field.2) (hchecksum : IsValue checksum) :
    ∀ field ∈ allFields beginString msgType rest checksum, IsValue field.2 := by
  intro field hfield
  simp only [allFields, wireFields, List.cons_append, List.mem_cons, List.mem_append,
    List.not_mem_nil, or_false] at hfield
  rcases hfield with rfl | rfl | rfl | hrest | rfl
  · exact hbeginString
  · exact isValue_unsignedIntToChars _
  · exact hmsgType
  · exact hvalues field hrest
  · exact hchecksum

theorem values_all (h : WellFormedWire beginString msgType rest checksum) :
    ∀ field ∈ allFields beginString msgType rest checksum, IsValue field.2 :=
  allFields_values h.beginString h.msgType h.values h.checksum

theorem parts_noDelimiter (h : WellFormedWire beginString msgType rest checksum) :
    ∀ part ∈ (allFields beginString msgType rest checksum).map fieldPart,
      fixDelimiter ∉ part := by
  intro part hpart
  obtain ⟨field, hfield, rfl⟩ := List.mem_map.mp hpart
  exact fieldPart_noDelimiter (h.values_all field hfield).2

/-- The parser reads the fields of the message. -/
theorem parseParts (h : WellFormedWire beginString msgType rest checksum) (more : List Bytes) :
    ∃ p, MessageParser.parseParts {} {} 0
        ((allFields beginString msgType rest checksum).map fieldPart ++ more) =
        some (p, ((allFields beginString msgType rest checksum).flatMap encodeField).length) ∧
      p.message = { tags := allFields beginString msgType rest checksum } ∧
      p.parserRejectCode = none ∧ p.repeatingGroups = [] := by
  let body := (tagMsgType, msgType) :: rest
  let bodyLength := unsignedIntToChars (body.flatMap encodeField).length.toUInt32
  let header : List (Tag × Bytes) :=
    [(tagBeginString, beginString), (tagBodyLength, bodyLength), (tagMsgType, msgType)]
  let p := behindHeader beginString bodyLength msgType
  have hall : allFields beginString msgType rest checksum =
      header ++ (rest ++ [(tagChecksum, checksum)]) := rfl
  have hlt := length_lt_of_nodup h.nodup h.zero_not_mem
  rw [hall, List.length_append, List.length_append, List.length_singleton] at hlt
  have hcount : p.currentTagIndex.toNat + rest.length + 1 < 4294967296 := by
    have hthree : p.currentTagIndex.toNat = header.length := rfl
    omega
  have hdistinct := List.nodup_cons.mp (List.nodup_cons.mp (List.nodup_cons.mp h.distinct).2).2
  have hparts : (allFields beginString msgType rest checksum).map fieldPart ++ more =
      fieldPart (tagBeginString, beginString) :: fieldPart (tagBodyLength, bodyLength) ::
        fieldPart (tagMsgType, msgType) ::
          (rest.map fieldPart ++ fieldPart (tagChecksum, checksum) :: more) := by
    rw [hall, List.map_append, List.map_append]
    simp [header]
  have hfields : ∀ field ∈ rest, field.1 ≠ 0 ∧ field.1 ≠ tagChecksum ∧ field.1 ≠ tagMsgType ∧
      IsValue field.2 := by
    intro field hfield
    have htag : field.1 ∈ fieldTags rest := List.mem_map_of_mem hfield
    refine ⟨fun heq => h.nonzero (heq ▸ htag), fun heq => ?_, fun heq => ?_,
      h.values field hfield⟩
    · exact (List.nodup_cons.mp hdistinct.2).1 (heq ▸ htag)
    · exact hdistinct.1 (List.mem_cons_of_mem _ (heq ▸ htag))
  have hbehind : (fieldTags (p.message.tags ++ rest)).Nodup := by
    have hnodup := h.nodup
    rw [hall, ← List.append_assoc, fieldTags_append] at hnodup
    exact (List.nodup_append.mp hnodup).1
  obtain ⟨index, hrecorded⟩ := recordedAll_eq (p := p) rest
  have hindex := recordedAll_currentTagIndex p rest (by omega)
  have horder : InHeaderOrder ((p.recordedAll rest).currentTagIndex + 1) tagChecksum := by
    have hthree : p.currentTagIndex.toNat = 3 := rfl
    refine inHeaderOrder_of_lt ?_ tagChecksum
    rw [UInt32.toNat_add, UInt32.toNat_one]
    omega
  have htags : (p.recordedAll rest).message.tags = p.message.tags ++ rest :=
    recordedAll_message rest
  -- tag 10 starts behind the fields that tag 9 counts
  have hstart : (header.flatMap encodeField).length + (rest.flatMap encodeField).length =
      ([(tagBeginString, beginString), (tagBodyLength, bodyLength)].flatMap encodeField).length +
        (body.flatMap encodeField).length := by
    simp only [header, body, List.flatMap_cons, List.length_append, List.flatMap_nil]
    omega
  refine ⟨{ (p.recordedAll rest).recorded tagChecksum checksum with reachedChecksum := true },
    ?_, ?_, ?_, ?_⟩
  · rw [hparts, parseParts_header h.beginString.1 (unsignedIntToChars_ne_nil _) h.msgType.1]
    refine (parseParts_fields (p := p) _ rfl rfl (Nat.le_refl 3) (by omega) hbehind
      hfields).trans ?_
    refine (parseParts_checksum more ?_ ?_ horder h.checksum.1 ?_ ?_ hstart).trans ?_
    · rw [hrecorded]
      rfl
    · rw [htags, fieldTags_append]
      have hheader : fieldTags p.message.tags = [tagBeginString, tagBodyLength, tagMsgType] := rfl
      rw [hheader, List.mem_append, not_or]
      exact ⟨by decide, (List.nodup_cons.mp hdistinct.2).1⟩
    · rw [hrecorded]
      rfl
    · rw [htags]
      rfl
    · rw [hall, ← List.append_assoc, List.flatMap_append, List.flatMap_append, List.length_append,
        List.length_append, List.flatMap_singleton]
  · show IncomingFixMessage.mk ((p.recordedAll rest).message.tags ++ [(tagChecksum, checksum)]) = _
    rw [htags, List.append_assoc]
    rfl
  · show (p.recordedAll rest).parserRejectCode = none
    rw [hrecorded]
    rfl
  · show (p.recordedAll rest).repeatingGroups = []
    rw [hrecorded]
    rfl

/-- The message is handed over as it is, whatever follows it. -/
theorem parseMessage (h : WellFormedWire beginString msgType rest checksum) (more : Bytes) :
    ∃ p, p.repeatingGroups = [] ∧
      parseMessage {} ((allFields beginString msgType rest checksum).flatMap encodeField ++ more) =
        some (p,
          { message := { tags := allFields beginString msgType rest checksum }
            buffer := (allFields beginString msgType rest checksum).flatMap encodeField
            parserRejectCode := none }) := by
  obtain ⟨p, hparse, hmessage, hreject, hgroups⟩ := h.parseParts (partsFrom [] more)
  refine ⟨p, hgroups, ?_⟩
  have hparts : partsFrom []
      ((allFields beginString msgType rest checksum).flatMap encodeField ++ more) =
        (allFields beginString msgType rest checksum).map fieldPart ++ partsFrom [] more := by
    rw [flatMap_encodeField]
    exact partsFrom_joinParts h.parts_noDelimiter more
  have hloop := parse_eq_parseParts {} {} rfl 0 [] List.not_mem_nil none
    ((allFields beginString msgType rest checksum).flatMap encodeField ++ more)
  have hnone : partRead [] none = [] := rfl
  rw [hnone, hparts, hparse] at hloop
  unfold Llfix.parseMessage
  have hzero : 0 + ([] : Bytes).length = 0 := rfl
  rw [hzero] at hloop
  rw [hloop, Option.map_some]
  dsimp only
  rw [hmessage, hreject, List.take_left]

/-- Fields with values are one message of a stream of messages, when tag 10 is the last one only. -/
theorem exists_wireMessage_of_values
    (hvalues : ∀ field ∈ allFields beginString msgType rest checksum, IsValue field.2)
    (hrest : tagChecksum ∉ fieldTags rest) :
    ∃ m : WireMessage,
      m.bytes = (allFields beginString msgType rest checksum).flatMap encodeField := by
  have hfield : ∀ field : Tag × Bytes, IsValue field.2 → ∃ f : WireField,
      f.tag = unsignedIntToChars field.1 ∧ f.bytes = encodeField field := by
    intro field hvalue
    obtain ⟨hequals, hdelimiter⟩ := noSpecial_of_digits (unsignedIntToChars_all field.1)
    refine ⟨⟨unsignedIntToChars field.1, field.2, hequals, hdelimiter, hvalue.1, hvalue.2⟩, rfl,
      ?_⟩
    simp [WireField.bytes, encodeField]
  have hplain : ∀ fields : List (Tag × Bytes), (∀ field ∈ fields, IsValue field.2) →
      tagChecksum ∉ fieldTags fields → ∃ wire : List WireField,
        (∀ f ∈ wire, readsAsChecksumTag f.tag = false) ∧
          wire.flatMap WireField.bytes = fields.flatMap encodeField := by
    intro fields hvalues hno
    induction fields with
    | nil => exact ⟨[], fun f hf => absurd hf List.not_mem_nil, rfl⟩
    | cons field fields ih =>
      rw [fieldTags_cons, List.mem_cons, not_or] at hno
      obtain ⟨wire, hreads, hbytes⟩ :=
        ih (fun f hf => hvalues f (List.mem_cons_of_mem _ hf)) hno.2
      obtain ⟨f, htag, hf⟩ := hfield field (hvalues field List.mem_cons_self)
      refine ⟨f :: wire, ?_, ?_⟩
      · intro f' hf'
        rcases List.mem_cons.mp hf' with rfl | hf'
        · rw [htag, readsAsChecksumTag, charsToUnsignedInt_unsignedIntToChars]
          simp [Ne.symm hno.1]
        · exact hreads f' hf'
      · rw [List.flatMap_cons, List.flatMap_cons, hf, hbytes]
  obtain ⟨first, hfirstTag, hfirst⟩ := hfield (tagBeginString, beginString)
    (hvalues _ List.mem_cons_self)
  obtain ⟨last, hlastTag, hlast⟩ := hfield (tagChecksum, checksum)
    (hvalues _ (List.mem_append_right _ (List.mem_singleton_self _)))
  obtain ⟨wire, hreads, hwire⟩ := hplain
    ((tagBodyLength, unsignedIntToChars
      (((tagMsgType, msgType) :: rest).flatMap encodeField).length.toUInt32) ::
        (tagMsgType, msgType) :: rest)
    (fun field hfield => hvalues field (List.mem_cons_of_mem _
      (List.mem_append_left _ hfield)))
    (by
      simp only [fieldTags_cons, List.mem_cons, not_or]
      exact ⟨by decide, by decide, hrest⟩)
  refine ⟨⟨first, wire, last, ?_, hreads, ?_⟩, ?_⟩
  · have height : unsignedIntToChars tagBeginString = ['8'.toUInt8] := by decide
    exact hfirstTag.trans height
  · have hten : unsignedIntToChars tagChecksum = ['1'.toUInt8, '0'.toUInt8] := by decide
    exact hlastTag.trans hten
  · rw [WireMessage.bytes, List.flatMap_cons, hfirst, hwire, hlast, allFields, wireFields,
      List.flatMap_append, List.flatMap_singleton]
    rfl

/-- `process_rx_buffer` dispatches the message. -/
theorem receive_of_values
    (hvalues : ∀ field ∈ allFields beginString msgType rest checksum, IsValue field.2)
    (hrest : tagChecksum ∉ fieldTags rest) {c : RxConnection} (hempty : c.incomplete = [])
    (disconnects : List Bytes → Bool) :
    (c.receive disconnects
        ((allFields beginString msgType rest checksum).flatMap encodeField)).2.1 =
      [(allFields beginString msgType rest checksum).flatMap encodeField] := by
  obtain ⟨m, hm⟩ := exists_wireMessage_of_values hvalues hrest
  rw [← hm]
  have hbuffer : m.bytes = [] ++ (m.bytes ++ []) := (List.append_nil _).symm
  obtain ⟨final, hfinal, -⟩ := finalTag10DelimiterIndex_message hbuffer
  have hbytes : (c.getRxBuffer m.bytes).2.bytes = m.bytes := by
    rw [c.getRxBuffer_bytes, hempty, List.nil_append]
  obtain ⟨t, ht⟩ := m.bytes_begin
  have hfind : findBeginStringPosition (m.bytes.drop 0) = some 0 := by
    rw [ht]
    exact findBeginStringPosition_begin t
  have hend : messageEnd [] true (m.bytes.drop (0 + 0)) = some m.bytes.length := by
    have hmessage : messageEnd [] true (m.bytes ++ []) = some m.bytes.length :=
      messageEnd_message m
    rwa [List.append_nil] at hmessage
  obtain ⟨fuel, hfuel⟩ := Nat.exists_eq_add_one_of_ne_zero (Nat.ne_of_gt m.bytes_pos)
  unfold RxConnection.receive RxConnection.processRxBuffer
  dsimp only
  rw [hbytes, hfinal]
  dsimp only
  rw [hfuel, parseLoop_message hfind hend]
  simp only [Nat.add_zero, Nat.zero_add, List.drop_zero, List.take_length, List.nil_append]
  split
  · rfl
  · rw [if_pos trivial]

theorem receive (h : WellFormedWire beginString msgType rest checksum) {c : RxConnection}
    (hempty : c.incomplete = []) (disconnects : List Bytes → Bool) :
    (c.receive disconnects
        ((allFields beginString msgType rest checksum).flatMap encodeField)).2.1 =
      [(allFields beginString msgType rest checksum).flatMap encodeField] := by
  have hdistinct := List.nodup_cons.mp (List.nodup_cons.mp (List.nodup_cons.mp h.distinct).2).2
  exact receive_of_values h.values_all (List.nodup_cons.mp hdistinct.2).1 hempty disconnects

/-- A field of the message is found under its tag. -/
theorem lookup (h : WellFormedWire beginString msgType rest checksum) (tag : Tag) (value : Bytes)
    (hfield : (tag, value) ∈ allFields beginString msgType rest checksum) :
    (IncomingFixMessage.mk (allFields beginString msgType rest checksum)).hasTag tag = true ∧
      (IncomingFixMessage.mk (allFields beginString msgType rest checksum)).getTagValue tag =
        value := by
  have hlookup := lookup_of_nodup h.nodup hfield
  rw [IncomingFixMessage.hasTag, IncomingFixMessage.getTagValue]
  dsimp only at hlookup ⊢
  rw [hlookup]
  exact ⟨rfl, rfl⟩

end WellFormedWire

open WellFormedWire

/-! ## The checksum that is written -/

/-- `encode` writes three digits, which are the sum of the bytes modulo 256. -/
theorem encodedChecksum_spec (settings : FixSessionSettings) (buffer : Bytes) :
    (encodedChecksum settings buffer).length = 3 ∧
      (encodedChecksum settings buffer).all isDigit = true ∧
      decimalValue (encodedChecksum settings buffer) = byteTotal buffer % 256 := by
  have hsum : ((if settings.enableSimdAvx2 then simdSum buffer else byteSum buffer) %
      fixChecksumModulo).toNat = byteTotal buffer % 256 := by
    have hmodulo : fixChecksumModulo.toNat = 256 := rfl
    rw [UInt32.toNat_mod, hmodulo]
    split
    · exact simdSum_mod buffer
    · rw [byteSum_toNat]
      omega
  have hdigit : ∀ d, d < 10 → (UInt8.ofNat (48 + d)).toNat - 48 = d := by
    intro d hd
    rw [UInt8.toNat_ofNat']
    omega
  unfold encodedChecksum
  dsimp only
  rw [hsum]
  have hlt : byteTotal buffer % 256 < 256 := Nat.mod_lt _ (by decide)
  generalize byteTotal buffer % 256 = checksum at hlt ⊢
  refine ⟨rfl, ?_, ?_⟩
  · simp only [List.map_cons, List.map_nil, List.all_cons, List.all_nil, Bool.and_true,
      Bool.and_eq_true]
    exact ⟨isDigit_ofNat (by omega), isDigit_ofNat (by omega), isDigit_ofNat (by omega)⟩
  · simp only [List.map_cons, List.map_nil, decimalValue, List.foldl_cons, List.foldl_nil]
    rw [hdigit _ (by omega), hdigit _ (by omega), hdigit _ (by omega)]
    omega

theorem isValue_encodedChecksum (settings : FixSessionSettings) (buffer : Bytes) :
    IsValue (encodedChecksum settings buffer) := by
  obtain ⟨hlength, hdigits, -⟩ := encodedChecksum_spec settings buffer
  refine ⟨fun hnil => ?_, (noSpecial_of_digits hdigits).2⟩
  rw [hnil] at hlength
  exact absurd hlength (by decide)

/-! ## What can be encoded -/

/-- The tags set in a message, in the order in which they are encoded. -/
def OutgoingFixMessage.fields (m : OutgoingFixMessage) : List (Tag × Bytes) :=
  m.header ++ m.body ++ m.trailer

/-- The tags that `encode` writes by itself. -/
def sessionTags (encoder : EncoderSettings) : List Tag :=
  [tagBeginString, tagBodyLength, tagChecksum, tagMsgType, tagMsgSeqNum, tagSenderCompId,
    tagSendingTime, tagTargetCompId] ++
  (if encoder.includeLastProcessedSeqnumInHeader then [tagLastMsgSeqNumProcessed] else []) ++
  fieldTags encoder.additionalStaticHeaderTags

/-- The settings and the sending time give fields with values and no tag twice. -/
structure EncodableSession (settings : FixSessionSettings) (encoder : EncoderSettings)
    (sendingTime : Bytes) : Prop where
  beginString : IsValue settings.beginString
  senderCompId : IsValue settings.senderCompId
  targetCompId : IsValue settings.targetCompId
  sendingTime : IsValue sendingTime
  staticValues : ∀ field ∈ encoder.additionalStaticHeaderTags, IsValue field.2
  staticTags : ∀ tag ∈ fieldTags encoder.additionalStaticHeaderTags, 1 ≤ tag
  distinct : (sessionTags encoder).Nodup

/-- The message has a type, values, and distinct tags that `encode` does not write by itself. -/
structure EncodableMessage (encoder : EncoderSettings) (m : OutgoingFixMessage) : Prop where
  msgType : IsValue m.msgType
  values : ∀ field ∈ m.fields, IsValue field.2
  tags : ∀ tag ∈ fieldTags m.fields, 1 ≤ tag ∧ tag ∉ sessionTags encoder
  distinct : (fieldTags m.fields).Nodup

/-- The settings of the peer: the comp ids are swapped, and the staleness check is off. -/
structure Counterpart (settings peer : FixSessionSettings) : Prop where
  beginString : peer.beginString = settings.beginString
  senderCompId : peer.senderCompId = settings.targetCompId
  targetCompId : peer.targetCompId = settings.senderCompId
  maxAllowedMessageAgeSeconds : peer.maxAllowedMessageAgeSeconds = 0

section RoundTrip

variable {settings : FixSessionSettings} {encoder : EncoderSettings} {sendingTime : Bytes}
  {m : OutgoingFixMessage}

/-- The fields between tag 35 and tag 10. -/
def restFields (settings : FixSessionSettings) (encoder : EncoderSettings) (sendingTime : Bytes)
    (incomingSeqNo : UInt32) (m : OutgoingFixMessage) (sequenceNo : UInt32) : List (Tag × Bytes) :=
  (bodyFields settings encoder sendingTime incomingSeqNo m sequenceNo).tail

/-- The fields `encode` writes by itself behind tag 35. -/
def sessionFields (settings : FixSessionSettings) (encoder : EncoderSettings) (sendingTime : Bytes)
    (incomingSeqNo sequenceNo : UInt32) : List (Tag × Bytes) :=
  [(tagMsgSeqNum, unsignedIntToChars sequenceNo), (tagSenderCompId, settings.senderCompId),
    (tagSendingTime, sendingTime), (tagTargetCompId, settings.targetCompId)] ++
  (if encoder.includeLastProcessedSeqnumInHeader then
    [(tagLastMsgSeqNumProcessed, unsignedIntToChars incomingSeqNo)] else []) ++
  encoder.additionalStaticHeaderTags

theorem restFields_eq (settings : FixSessionSettings) (encoder : EncoderSettings)
    (sendingTime : Bytes) (m : OutgoingFixMessage) (incomingSeqNo sequenceNo : UInt32) :
    restFields settings encoder sendingTime incomingSeqNo m sequenceNo =
      sessionFields settings encoder sendingTime incomingSeqNo sequenceNo ++ m.fields := by
  simp [restFields, bodyFields, sessionFields, OutgoingFixMessage.fields]

theorem fieldTags_sessionFields (settings : FixSessionSettings) (encoder : EncoderSettings)
    (sendingTime : Bytes) (incomingSeqNo sequenceNo : UInt32) :
    [tagBeginString, tagBodyLength, tagChecksum, tagMsgType] ++
      fieldTags (sessionFields settings encoder sendingTime incomingSeqNo sequenceNo) =
      sessionTags encoder := by
  unfold sessionFields sessionTags
  split <;> simp [fieldTags]

theorem sessionFields_values (hsession : EncodableSession settings encoder sendingTime)
    {incomingSeqNo sequenceNo : UInt32} {field : Tag × Bytes}
    (h : field ∈ sessionFields settings encoder sendingTime incomingSeqNo sequenceNo) :
    IsValue field.2 := by
  simp only [sessionFields, List.mem_append, List.mem_cons, List.not_mem_nil, or_false] at h
  rcases h with (((rfl | rfl | rfl | rfl) | hlast) | hstatic)
  · exact isValue_unsignedIntToChars sequenceNo
  · exact hsession.senderCompId
  · exact hsession.sendingTime
  · exact hsession.targetCompId
  · split at hlast
    · rw [List.mem_singleton.mp hlast]
      exact isValue_unsignedIntToChars incomingSeqNo
    · exact absurd hlast List.not_mem_nil
  · exact hsession.staticValues field hstatic

theorem sessionFields_ne_checksum (hsession : EncodableSession settings encoder sendingTime)
    {incomingSeqNo sequenceNo : UInt32} {field : Tag × Bytes}
    (h : field ∈ sessionFields settings encoder sendingTime incomingSeqNo sequenceNo) :
    field.1 ≠ tagChecksum := by
  have hdistinct := hsession.distinct
  rw [← fieldTags_sessionFields settings encoder sendingTime incomingSeqNo sequenceNo] at hdistinct
  intro heq
  refine (List.nodup_append.mp hdistinct).2.2 tagChecksum (by decide) _ ?_ rfl
  exact heq ▸ List.mem_map_of_mem h

variable (incomingSeqNo sequenceNo : UInt32)

theorem encode_eq_allFields :
    encode settings encoder sendingTime incomingSeqNo m sequenceNo =
      (allFields settings.beginString m.msgType
        (restFields settings encoder sendingTime incomingSeqNo m sequenceNo)
        (encodedChecksum settings
          ((summedFields settings encoder sendingTime incomingSeqNo m sequenceNo).flatMap
            encodeField))).flatMap encodeField := by
  rw [allFields, List.flatMap_append, List.flatMap_singleton]
  rfl

/-- What `encode` writes is well formed. -/
theorem encode_wellFormed (hsession : EncodableSession settings encoder sendingTime)
    (hmessage : EncodableMessage encoder m) :
    WellFormedWire settings.beginString m.msgType
      (restFields settings encoder sendingTime incomingSeqNo m sequenceNo)
      (encodedChecksum settings
        ((summedFields settings encoder sendingTime incomingSeqNo m sequenceNo).flatMap
          encodeField)) := by
  have htags := fieldTags_sessionFields settings encoder sendingTime incomingSeqNo sequenceNo
  have hzero : (0 : Tag) ∉ sessionTags encoder := by
    unfold sessionTags
    rw [List.mem_append, List.mem_append, not_or, not_or]
    refine ⟨⟨by decide, ?_⟩, fun hmem => absurd (hsession.staticTags 0 hmem) (by decide)⟩
    split <;> decide
  have hrest := restFields_eq settings encoder sendingTime m incomingSeqNo sequenceNo
  refine ⟨hsession.beginString, hmessage.msgType, isValue_encodedChecksum _ _, ?_, ?_, ?_⟩
  · intro field hfield
    rw [hrest] at hfield
    rcases List.mem_append.mp hfield with hown | hset
    · exact sessionFields_values hsession hown
    · exact hmessage.values field hset
  · rw [hrest, fieldTags_append, List.mem_append, not_or]
    refine ⟨fun hmem => hzero ?_, fun hmem => absurd (hmessage.tags 0 hmem).1 (by decide)⟩
    rw [← htags]
    exact List.mem_append_right _ hmem
  · have hall : (sessionTags encoder ++ fieldTags m.fields).Nodup := by
      refine List.nodup_append.mpr ⟨hsession.distinct, hmessage.distinct, ?_⟩
      rintro tag hown _ hset rfl
      exact (hmessage.tags tag hset).2 hown
    rw [← htags] at hall
    rw [hrest, fieldTags_append]
    refine List.Perm.nodup ?_ hall
    exact .cons _ (.cons _ (.swap _ _ _))

/-- The message as the peer hands it over. -/
theorem parseMessage_encode (hsession : EncodableSession settings encoder sendingTime)
    (hmessage : EncodableMessage encoder m) (more : Bytes) :
    ∃ p, p.repeatingGroups = [] ∧
      parseMessage {} (encode settings encoder sendingTime incomingSeqNo m sequenceNo ++ more) =
        some (p, encodedMessage settings encoder sendingTime incomingSeqNo m sequenceNo) := by
  rw [encode_eq_allFields]
  obtain ⟨p, hgroups, hparse⟩ :=
    (encode_wellFormed incomingSeqNo sequenceNo hsession hmessage).parseMessage more
  refine ⟨p, hgroups, hparse.trans ?_⟩
  rw [encodedMessage, encode_eq_allFields]
  rfl

/-- The peer finds the message valid. -/
theorem encodedMessage_valid (hsession : EncodableSession settings encoder sendingTime)
    (hmessage : EncodableMessage encoder m) {peer : FixSessionSettings}
    (hpeer : Counterpart settings peer) (utcNow : Int) :
    FixSession.validateFixMessage peer
      (encodedMessage settings encoder sendingTime incomingSeqNo m sequenceNo) utcNow = .valid := by
  have hwell := encode_wellFormed incomingSeqNo sequenceNo hsession hmessage
  let buffer := (summedFields settings encoder sendingTime incomingSeqNo m sequenceNo).flatMap
    encodeField
  obtain ⟨hlength, hdigits, hvalue⟩ := encodedChecksum_spec settings buffer
  have hfield : ∀ (tag : Tag) (value : Bytes),
      (tag, value) ∈ allFields settings.beginString m.msgType
        (restFields settings encoder sendingTime incomingSeqNo m sequenceNo)
        (encodedChecksum settings buffer) →
      (encodedMessage settings encoder sendingTime incomingSeqNo m sequenceNo).message.hasTag tag =
        true ∧
      (encodedMessage settings encoder sendingTime incomingSeqNo m sequenceNo).message.getTagValue
        tag = value := by
    intro tag value hmem
    exact hwell.lookup _ _ hmem
  -- What the validation looks at: tags 8, 10, 34, 49, 52 and 56, each as it was written.
  obtain ⟨hhas8, hvalue8⟩ := hfield tagBeginString settings.beginString List.mem_cons_self
  obtain ⟨-, hvalue10⟩ := hfield tagChecksum (encodedChecksum settings buffer)
    (List.mem_append_right _ (List.mem_singleton_self _))
  have hrest : ∀ field ∈ sessionFields settings encoder sendingTime incomingSeqNo sequenceNo,
      field ∈ allFields settings.beginString m.msgType
        (restFields settings encoder sendingTime incomingSeqNo m sequenceNo)
        (encodedChecksum settings buffer) := by
    intro field hmem
    rw [restFields_eq]
    exact List.mem_append_left _ (.tail _ (.tail _ (.tail _ (List.mem_append_left _ hmem))))
  obtain ⟨hhas34, hvalue34⟩ := hfield tagMsgSeqNum (unsignedIntToChars sequenceNo)
    (hrest _ (by simp [sessionFields]))
  obtain ⟨hhas49, hvalue49⟩ := hfield tagSenderCompId settings.senderCompId
    (hrest _ (by simp [sessionFields]))
  obtain ⟨hhas52, -⟩ := hfield tagSendingTime sendingTime (hrest _ (by simp [sessionFields]))
  obtain ⟨hhas56, hvalue56⟩ := hfield tagTargetCompId settings.targetCompId
    (hrest _ (by simp [sessionFields]))
  rw [FixSession.validateFixMessage_valid_iff]
  refine ⟨?_, ?_, ?_⟩
  · have hreject : (encodedMessage settings encoder sendingTime incomingSeqNo m
        sequenceNo).parserRejectCode = none := rfl
    simp only [FixSession.passesOtherChecks, hhas8, hhas34, hhas49, hhas52, hhas56, hreject,
      hvalue8, hvalue49, hvalue56, hpeer.beginString, hpeer.senderCompId, hpeer.targetCompId,
      hpeer.maxAllowedMessageAgeSeconds, IncomingFixMessage.isTagValueNumeric, hvalue34,
      unsignedIntToChars_isNumeric, Option.isNone_none, decide_true, Bool.and_self, Bool.true_or]
  · rw [IncomingFixMessage.isTagValueNumeric, hvalue10]
    exact isNumeric_of_digits (isValue_encodedChecksum settings buffer).1 hdigits
  -- The checksum is over all bytes but the seven of tag 10.
  · have htake : (encodedMessage settings encoder sendingTime incomingSeqNo m
        sequenceNo).buffer.take ((encodedMessage settings encoder sendingTime incomingSeqNo m
          sequenceNo).buffer.length - 7) = buffer := by
      have hseven : (encodeField (tagChecksum, encodedChecksum settings buffer)).length = 7 := by
        have hten : (unsignedIntToChars tagChecksum).length = 2 := by decide
        rw [encodeField, List.length_append, List.length_append, List.length_cons, hlength, hten]
        rfl
      show (buffer ++ encodeField (tagChecksum, encodedChecksum settings buffer)).take
        ((buffer ++ encodeField (tagChecksum, encodedChecksum settings buffer)).length - 7) = buffer
      rw [List.length_append, hseven, Nat.add_sub_cancel, List.take_left']
      rfl
    rw [htake, IncomingFixMessage.getTagValueAsUInt32, hvalue10, charsToUnsignedInt_digits hdigits,
      hvalue]
    omega

/-- The number and the tags of the message are those that were encoded. -/
theorem encodedMessage_tags (hsession : EncodableSession settings encoder sendingTime)
    (hmessage : EncodableMessage encoder m) :
    (encodedMessage settings encoder sendingTime incomingSeqNo m sequenceNo).seqNum = sequenceNo ∧
      ∀ tag, tag ∉ sessionTags encoder →
        (encodedMessage settings encoder sendingTime incomingSeqNo m sequenceNo).message.tags.lookup
          tag = m.fields.lookup tag := by
  have hwell := encode_wellFormed incomingSeqNo sequenceNo hsession hmessage
  have htags := fieldTags_sessionFields settings encoder sendingTime incomingSeqNo sequenceNo
  have hrest := restFields_eq settings encoder sendingTime m incomingSeqNo sequenceNo
  constructor
  · obtain ⟨-, hvalue⟩ := hwell.lookup tagMsgSeqNum (unsignedIntToChars sequenceNo) (by
        rw [hrest]
        exact List.mem_append_left _ (.tail _ (.tail _ (.tail _ (List.mem_append_left _
          (by simp [sessionFields]))))))
    exact (congrArg charsToUnsignedInt hvalue).trans (charsToUnsignedInt_unsignedIntToChars _)
  · intro tag hown
    rw [← htags, List.mem_append, not_or] at hown
    obtain ⟨hheader, hsessionFields⟩ := hown
    simp only [List.mem_cons, List.not_mem_nil, or_false, not_or] at hheader
    have hsplit : (encodedMessage settings encoder sendingTime incomingSeqNo m
        sequenceNo).message.tags = [(tagBeginString, settings.beginString),
          (tagBodyLength, unsignedIntToChars (((tagMsgType, m.msgType) :: restFields settings encoder
            sendingTime incomingSeqNo m sequenceNo).flatMap encodeField).length.toUInt32),
          (tagMsgType, m.msgType)] ++
        (restFields settings encoder sendingTime incomingSeqNo m sequenceNo ++
          [(tagChecksum, encodedChecksum settings ((summedFields settings encoder sendingTime
            incomingSeqNo m sequenceNo).flatMap encodeField))]) := rfl
    have hlast : ∀ value : Bytes, [(tagChecksum, value)].lookup tag = none := by
      intro value
      refine lookup_eq_none_iff.mpr fun hmem => hheader.2.2.1 ?_
      exact List.mem_singleton.mp hmem
    rw [hsplit, hrest, List.lookup_append, lookup_eq_none_iff.mpr, Option.none_or,
      List.lookup_append, List.lookup_append, lookup_eq_none_iff.mpr hsessionFields,
      Option.none_or, hlast, Option.or_none]
    · simp only [fieldTags_cons, List.mem_cons, not_or]
      exact ⟨hheader.1, hheader.2.1, hheader.2.2.2, List.not_mem_nil⟩

end RoundTrip

/-- The settings of the peer in an example. -/
def examplePeerSettings : FixSessionSettings :=
  { exampleSettings with
    senderCompId := text "PEER"
    targetCompId := text "LLFIX"
    enableSimdAvx2 := true }

/-- An order with a static header tag and a last processed number in its header. -/
def exampleEncoder : EncoderSettings :=
  { includeLastProcessedSeqnumInHeader := true
    additionalStaticHeaderTags := [(50, text "DESK")] }

def exampleOrder : OutgoingFixMessage :=
  { msgType := text "AE"
    header := [(115, text "CLIENT")]
    body := [(55, text "XYZ"), (54, text "1")]
    trailer := [(93, text "4")] }

end Llfix
