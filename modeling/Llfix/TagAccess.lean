import Llfix.ChecksumSpelling
import Llfix.RepeatingGroups

/-!
# Access to the tags of a message

`get_tag_value` and the functions beside it assert that the tag is there, `equals` asserts a value,
and `get_tag_value_as<char>` reads the first byte of one. Here they are partial, and the functions
that use them are written with them: `none` is an assertion that fails, or a byte that is read
behind an empty value.

Results:
1. `parseMessage?_eq`: the parser accesses no tag that is missing.
2. `parseMessage_recorded`: what is there, and has a value, in a message without a reject code.
3. `validateFixMessage?_eq`: the accesses of the validation.
4. The handlers of `FixSession`, on a message that has been validated.
-/

namespace Llfix

/-! ## The accessors -/

namespace IncomingFixMessage

/-- `get_tag_value`, and `get_tag_value_as<std::string>`. -/
def getTagValue? (m : IncomingFixMessage) (tag : Tag) : Option Bytes := m.tags.lookup tag

/-- `get_tag_value_as<char>`, which reads the first byte. -/
def getTagValueAsChar? (m : IncomingFixMessage) (tag : Tag) : Option UInt8 :=
  (m.getTagValue? tag).bind List.head?

/-- `get_tag_value_as<uint32_t>`, which reads as many bytes as there are. -/
def getTagValueAsUInt32? (m : IncomingFixMessage) (tag : Tag) : Option UInt32 :=
  (m.getTagValue? tag).map charsToUnsignedInt

/-- `is_tag_value_numeric`, which looks at the length before the first byte. -/
def isTagValueNumeric? (m : IncomingFixMessage) (tag : Tag) : Option Bool :=
  (m.getTagValue? tag).map isNumeric

/-- `get_tag_value` and `equals` on the value. -/
def tagValueEquals? (m : IncomingFixMessage) (tag : Tag) (other : Bytes) : Option Bool :=
  (m.getTagValue? tag).bind fun value =>
    if 0 < value.length then some (value = other) else none

/-- No tag of the message is without a value. -/
def Valued (m : IncomingFixMessage) : Prop :=
  ∀ tag, m.hasTag tag = true → m.getTagValue tag ≠ []

variable {m : IncomingFixMessage} {tag : Tag}

theorem getTagValue?_eq (h : m.hasTag tag = true) :
    m.getTagValue? tag = some (m.getTagValue tag) := by
  obtain ⟨value, hvalue⟩ := Option.isSome_iff_exists.mp h
  rw [getTagValue?, getTagValue, hvalue]
  rfl

theorem getTagValueAsUInt32?_eq (h : m.hasTag tag = true) :
    m.getTagValueAsUInt32? tag = some (m.getTagValueAsUInt32 tag) :=
  congrArg (Option.map charsToUnsignedInt) (getTagValue?_eq h)

theorem isTagValueNumeric?_eq (h : m.hasTag tag = true) :
    m.isTagValueNumeric? tag = some (m.isTagValueNumeric tag) :=
  congrArg (Option.map isNumeric) (getTagValue?_eq h)

theorem Valued.getTagValueAsChar?_eq (hvalued : m.Valued) (h : m.hasTag tag = true) :
    m.getTagValueAsChar? tag = some (m.getTagValueAsChar tag) := by
  obtain ⟨c, rest, hvalue⟩ := List.exists_cons_of_ne_nil (hvalued tag h)
  rw [getTagValueAsChar?, getTagValueAsChar, getTagValue?_eq h, hvalue]
  rfl

theorem Valued.tagValueEquals?_eq (hvalued : m.Valued) (h : m.hasTag tag = true) (other : Bytes) :
    m.tagValueEquals? tag other = some (decide (m.getTagValue tag = other)) := by
  rw [tagValueEquals?, getTagValue?_eq h]
  exact if_pos (List.length_pos_iff.mpr (hvalued tag h))

end IncomingFixMessage

/-! ## The parser -/

namespace MessageParser

/-- `validate_tag9_and_tag35`. -/
def validateTag9AndTag35? (p : MessageParser) (tag10StartIndex : Nat) : Option MessageParser :=
  match p.currentTag35TagStartIndex with
  | none => some (p.reject noTag35)
  | some tag35StartIndex =>
    if p.message.hasTag tagBodyLength then do
      let isNumeric ← p.message.isTagValueNumeric? tagBodyLength
      if isNumeric then do
        let msgBodyLenVal ← p.message.getTagValueAsUInt32? tagBodyLength
        some (p.rejectIf
          (msgBodyLenVal.toInt32 ≠ Int32.ofNat tag10StartIndex - Int32.ofNat tag35StartIndex)
          wrongBodyLength)
      else some (p.reject invalidTag9)
    else some (p.reject noTag9)

def afterTag? (p : MessageParser) (currentTagStart : Nat) (tag : Tag) (value : Bytes) :
    Option MessageParser :=
  if tag = tagChecksum then
    (p.validateTag9AndTag35? currentTagStart).map fun p => { p with reachedChecksum := true }
  else if tag = tagMsgType then
    some { p with
      currentTag35TagStartIndex := some currentTagStart
      encodedCurrentMessageType := packMessageType value }
  else some p

def recordTag? (p : MessageParser) (specs : RepeatingGroupSpecs) (currentTagStart : Nat) (tag : Tag)
    (value : Bytes) : Option MessageParser :=
  let p := p.rejectIf (tag = 0) fixErrorCodeInvalidTagNumber
  let p := { p with currentTagIndex := p.currentTagIndex + 1 }
  let p := p.validateHeaderTagsOrder tag
  let p := p.updateRepeatingGroup specs tag
  (p.setTag tag value).afterTag? currentTagStart tag value

def endOfValue? (p : MessageParser) (specs : RepeatingGroupSpecs) (currentTagStart : Nat)
    (tag value : Bytes) : Option MessageParser :=
  let p := p.rejectIf (value.length = 0) fixErrorCodeTagWithoutValue
  if isTagFormat tag then p.recordTag? specs currentTagStart (charsToUnsignedInt tag) value
  else some (p.reject fixErrorCodeInvalidTagNumber)

/-- The inner loop. -/
def parse? (specs : RepeatingGroupSpecs) (p : MessageParser) (currentIndex currentTagStart : Nat)
    (tag : Bytes) (value : Option Bytes) : Bytes → Option (Option (MessageParser × Nat))
  | [] => some none
  | currentChar :: rest =>
    match value with
    | none =>
      if currentChar = fixEquals then
        p.parse? specs (currentIndex + 1) currentTagStart tag (some []) rest
      else if currentChar = fixDelimiter then
        (p.reject noEqualsSign).parse? specs (currentIndex + 1) (currentIndex + 1) [] none rest
      else p.parse? specs (currentIndex + 1) currentTagStart (tag ++ [currentChar]) none rest
    | some value =>
      if currentChar = fixDelimiter then
        match p.endOfValue? specs currentTagStart tag value with
        | none => none
        | some p =>
          if p.reachedChecksum then some (some (p, currentIndex + 1))
          else p.parse? specs (currentIndex + 1) (currentIndex + 1) [] none rest
      else
        p.parse? specs (currentIndex + 1) currentTagStart tag (some (value ++ [currentChar])) rest

/-- Tag 9 is accessed behind `has_tag`. -/
theorem validateTag9AndTag35?_eq (p : MessageParser) (start : Nat) :
    p.validateTag9AndTag35? start = some (p.validateTag9AndTag35 start) := by
  unfold validateTag9AndTag35? validateTag9AndTag35
  cases p.currentTag35TagStartIndex with
  | none => rfl
  | some tag35StartIndex =>
    dsimp only
    cases hhas : p.message.hasTag tagBodyLength with
    | false => rfl
    | true =>
      rw [if_pos rfl, if_pos rfl, IncomingFixMessage.isTagValueNumeric?_eq hhas]
      cases hnumeric : p.message.isTagValueNumeric tagBodyLength with
      | false => rfl
      | true =>
        rw [IncomingFixMessage.getTagValueAsUInt32?_eq hhas]
        rfl

theorem endOfValue?_eq (p : MessageParser) (specs : RepeatingGroupSpecs) (start : Nat)
    (tag value : Bytes) :
    p.endOfValue? specs start tag value = some (p.endOfValue specs start tag value) := by
  have hafter : ∀ (p : MessageParser) (tag : Tag),
      p.afterTag? start tag value = some (p.afterTag start tag value) := by
    intro p tag
    unfold afterTag? afterTag
    rw [validateTag9AndTag35?_eq]
    split
    · rfl
    · split <;> rfl
  unfold endOfValue? endOfValue
  dsimp only
  split
  · exact hafter _ _
  · rfl

theorem parse?_eq (specs : RepeatingGroupSpecs) (p : MessageParser) (index start : Nat)
    (tag : Bytes) (value : Option Bytes) (text : Bytes) :
    p.parse? specs index start tag value text =
      some (p.parse specs index start tag value text) := by
  induction text generalizing p index start tag value with
  | nil => rfl
  | cons c rest ih =>
    cases value with
    | none =>
      rw [parse?, parse]
      split
      · exact ih _ _ _ _ _
      · split
        · exact ih _ _ _ _ _
        · exact ih _ _ _ _ _
    | some value =>
      rw [parse?, parse]
      dsimp only
      rw [endOfValue?_eq]
      split
      · dsimp only
        split
        · rfl
        · exact ih _ _ _ _ _
      · exact ih _ _ _ _ _

end MessageParser

/-- The message at the begin of the buffer. -/
def parseMessage? (specs : RepeatingGroupSpecs) (buffer : Bytes) :
    Option (Option (MessageParser × RxMessage)) :=
  (MessageParser.parse? specs {} 0 0 [] none buffer).map fun result =>
    result.map fun (p, length) =>
      (p, { message := p.message
            buffer := buffer.take length
            parserRejectCode := p.parserRejectCode })

/-- The parser accesses no tag that is missing. -/
theorem parseMessage?_eq (specs : RepeatingGroupSpecs) (buffer : Bytes) :
    parseMessage? specs buffer = some (parseMessage specs buffer) := by
  rw [parseMessage?, MessageParser.parse?_eq]
  rfl

/-! ## What the parser leaves -/

/-- No group has the tag as its count tag or as a member. -/
def RepeatingGroupSpecs.NamesNot (specs : RepeatingGroupSpecs) (tag : Tag) : Prop :=
  (∀ encodedMsgType, specs.isARepeatingGroupCountTag encodedMsgType tag = false) ∧
    ∀ encodedMsgType countTag, specs.isARepeatingGroupTag encodedMsgType countTag tag = false

/-- The tags of the session, which no group specification is to name. -/
def sessionLevelTags : List Tag :=
  [tagBeginString, tagBodyLength, tagChecksum, tagMsgSeqNum, tagMsgType, tagSenderCompId,
    tagSendingTime, tagTargetCompId]

theorem specified_namesNot {declarations : List GroupDeclaration} {tag : Tag}
    (h : ∀ d ∈ declarations, tag ∉ d.tags) : (specified declarations).answers.NamesNot tag := by
  constructor
  · intro encodedMsgType
    rw [Bool.eq_false_iff, Ne, specified_isARepeatingGroupCountTag]
    rintro ⟨d, hd, -, hcount⟩
    exact h d hd (List.mem_cons.mpr (.inl hcount.symm))
  · intro encodedMsgType countTag
    rw [Bool.eq_false_iff, Ne, specified_isARepeatingGroupTag]
    rintro ⟨d, hd, -, -, hmember⟩
    exact h d hd (List.mem_cons_of_mem _ hmember)

namespace MessageParser

/-- What is known between two fields. A group is open only behind a tag 35, which is in the
dictionary then, and an empty value is behind a reject code. -/
structure Recorded (p : MessageParser) : Prop where
  closed : p.encodedCurrentMessageType = noMessageType → p.inARepeatingGroup = false
  valued : p.parserRejectCode = none → ∀ field ∈ p.message.tags, field.2 ≠ []
  typed : p.currentTag35TagStartIndex.isSome = true → p.message.hasTag tagMsgType = true
  ended : p.reachedChecksum = true → p.message.hasTag tagChecksum = true ∧
    (p.parserRejectCode = none → p.currentTag35TagStartIndex.isSome = true)

variable {p : MessageParser} {specs : RepeatingGroupSpecs}

theorem recorded_empty : Recorded {} where
  closed _ := rfl
  valued _ _ hfield := absurd hfield List.not_mem_nil
  typed h := Bool.noConfusion h
  ended h := Bool.noConfusion h

theorem Recorded.reject (h : p.Recorded) (code : UInt32) : (p.reject code).Recorded where
  closed := h.closed
  valued hcode := nomatch hcode
  typed := h.typed
  ended hend := ⟨(h.ended hend).1, fun hcode => nomatch hcode⟩

theorem Recorded.rejectIf (h : p.Recorded) (condition : Bool) (code : UInt32) :
    (p.rejectIf condition code).Recorded := by
  unfold MessageParser.rejectIf
  split
  · exact h.reject code
  · exact h

theorem Recorded.updateRepeatingGroup (h : p.Recorded) (tag : Tag) :
    (p.updateRepeatingGroup specs tag).Recorded := by
  unfold MessageParser.updateRepeatingGroup
  split
  next htype =>
    split
    · split
      · exact ⟨fun hnone => absurd hnone htype, h.valued, h.typed, h.ended⟩
      · exact h
    · split
      · exact ⟨fun _ => rfl, h.valued, h.typed, h.ended⟩
      · exact h
  next => exact h

/-- A tag that no group names stands outside of the groups. -/
theorem Recorded.updateRepeatingGroup_closed (h : p.Recorded) {tag : Tag}
    (hnames : specs.NamesNot tag) :
    (p.updateRepeatingGroup specs tag).inARepeatingGroup = false := by
  unfold MessageParser.updateRepeatingGroup
  split
  next =>
    cases hin : p.inARepeatingGroup with
    | false =>
      rw [if_pos rfl, hnames.1, if_neg Bool.false_ne_true]
      exact hin
    | true =>
      rw [if_neg Bool.noConfusion, hnames.2, if_pos rfl]
  next htype => exact h.closed (not_not.mp htype)

theorem hasTag_snoc {m : IncomingFixMessage} {tag key : Tag} {value : Bytes}
    (h : m.hasTag key = true ∨ key = tag) :
    IncomingFixMessage.hasTag { m with tags := m.tags ++ [(tag, value)] } key = true := by
  rw [IncomingFixMessage.hasTag, IncomingFixMessage.lookup_snoc]
  rcases h with h | rfl
  · obtain ⟨value', hvalue⟩ := Option.isSome_iff_exists.mp h
    rw [hvalue]
    rfl
  · rw [if_pos rfl]
    cases m.tags.lookup key <;> rfl

/-- A field with a value, or behind a reject code, is recorded. -/
theorem Recorded.setTag (h : p.Recorded) {tag : Tag} {value : Bytes}
    (hvalue : value = [] → p.isRejected = true) : (p.setTag tag value).Recorded := by
  unfold MessageParser.setTag
  split
  · split
    · refine ⟨h.closed, fun hcode field hfield => ?_,
        fun htag35 => hasTag_snoc (.inl (h.typed htag35)),
        fun hend => ⟨hasTag_snoc (.inl (h.ended hend).1), (h.ended hend).2⟩⟩
      rcases List.mem_append.mp hfield with hfield | hfield
      · exact h.valued hcode field hfield
      · rw [List.mem_singleton.mp hfield]
        intro hnil
        have hrejected := hvalue hnil
        have hnone : p.parserRejectCode = none := hcode
        rw [isRejected, hnone] at hrejected
        cases hrejected
    · exact h.reject _
  · exact ⟨h.closed, h.valued, h.typed, h.ended⟩

/-- Outside of the groups, the tag is in the dictionary then. -/
theorem setTag_hasTag (hclosed : p.inARepeatingGroup = false) (tag : Tag) (value : Bytes) :
    (p.setTag tag value).message.hasTag tag = true := by
  unfold MessageParser.setTag
  rw [if_pos hclosed]
  cases hhas : p.message.hasTag tag with
  | false => exact hasTag_snoc (.inr rfl)
  | true => exact hhas

/-- `validate_tag9_and_tag35` leaves no code only behind a tag 35. -/
theorem validateTag9AndTag35_typed {start : Nat}
    (h : (p.validateTag9AndTag35 start).parserRejectCode = none) :
    p.currentTag35TagStartIndex.isSome = true := by
  unfold validateTag9AndTag35 at h
  cases htag35 : p.currentTag35TagStartIndex with
  | none =>
    rw [htag35] at h
    cases h
  | some tag35StartIndex => rfl

theorem Recorded.validateTag9AndTag35 (h : p.Recorded) (start : Nat) :
    (p.validateTag9AndTag35 start).Recorded := by
  unfold MessageParser.validateTag9AndTag35
  cases p.currentTag35TagStartIndex with
  | none => exact h.reject _
  | some tag35StartIndex =>
    dsimp only
    split_ifs
    · exact h.rejectIf _ _
    · exact h.reject _
    · exact h.reject _

theorem validateTag9AndTag35_tag35 (start : Nat) :
    (p.validateTag9AndTag35 start).currentTag35TagStartIndex = p.currentTag35TagStartIndex := by
  have hreject : ∀ condition code, (p.rejectIf condition code).currentTag35TagStartIndex =
      p.currentTag35TagStartIndex := by
    intro condition code
    unfold MessageParser.rejectIf
    split <;> rfl
  unfold MessageParser.validateTag9AndTag35
  cases htag35 : p.currentTag35TagStartIndex with
  | none => exact htag35
  | some tag35StartIndex =>
    dsimp only
    split_ifs
    · exact (hreject _ _).trans htag35
    · exact htag35
    · exact htag35

theorem Recorded.afterTag (h : p.Recorded) (start : Nat) {tag : Tag} (value : Bytes)
    (hclosed : tag = tagMsgType → p.inARepeatingGroup = false)
    (hhas : tag = tagMsgType ∨ tag = tagChecksum → p.message.hasTag tag = true) :
    (p.afterTag start tag value).Recorded := by
  unfold MessageParser.afterTag
  split
  next hchecksum =>
    have hvalidated := h.validateTag9AndTag35 start
    refine ⟨hvalidated.closed, hvalidated.valued, hvalidated.typed, fun _ => ⟨?_, fun hcode => ?_⟩⟩
    · have hmessage := congrArg Prod.fst (p.validateTag9AndTag35_stored start)
      show (p.validateTag9AndTag35 start).message.hasTag tagChecksum = true
      rw [show (p.validateTag9AndTag35 start).message = p.message from hmessage, ← hchecksum]
      exact hhas (.inr hchecksum)
    · show (p.validateTag9AndTag35 start).currentTag35TagStartIndex.isSome = true
      rw [validateTag9AndTag35_tag35]
      exact validateTag9AndTag35_typed hcode
  next =>
    split
    next htype =>
      exact ⟨fun _ => hclosed htype, h.valued, fun _ => htype ▸ hhas (.inl htype),
        fun hend => ⟨(h.ended hend).1, fun _ => rfl⟩⟩
    next => exact h

theorem Recorded.beforeSetTag (h : p.Recorded) (tag : Tag) :
    (p.beforeSetTag specs tag).Recorded := by
  have hfirst := h.rejectIf (tag = 0) fixErrorCodeInvalidTagNumber
  have hcounted : ∀ q : MessageParser, q.Recorded →
      Recorded { q with currentTagIndex := q.currentTagIndex + 1 } :=
    fun _ hq => ⟨hq.closed, hq.valued, hq.typed, hq.ended⟩
  exact ((hcounted _ hfirst).rejectIf _ _).updateRepeatingGroup tag

/-- A field that is read keeps what is known. -/
theorem Recorded.endOfValue (h : p.Recorded) (htype : specs.NamesNot tagMsgType)
    (hchecksum : specs.NamesNot tagChecksum) (start : Nat) (tag value : Bytes) :
    (p.endOfValue specs start tag value).Recorded := by
  unfold MessageParser.endOfValue
  dsimp only
  have hfirst := h.rejectIf (value.length = 0) fixErrorCodeTagWithoutValue
  have hvalue : value = [] →
      (p.rejectIf (value.length = 0) fixErrorCodeTagWithoutValue).isRejected = true := by
    rintro rfl
    rfl
  generalize p.rejectIf (value.length = 0) fixErrorCodeTagWithoutValue = q at hfirst hvalue
  split
  next =>
    generalize charsToUnsignedInt tag = tag
    have hclosed : specs.NamesNot tag →
        (q.beforeSetTag specs tag).inARepeatingGroup = false := by
      intro hnames
      rw [beforeSetTag_inARepeatingGroup]
      exact hfirst.updateRepeatingGroup_closed hnames
    have hbefore : (q.beforeSetTag specs tag).Recorded := hfirst.beforeSetTag tag
    have hstored : ((q.beforeSetTag specs tag).setTag tag value).Recorded :=
      hbefore.setTag fun hnil => q.beforeSetTag_isRejected specs tag (.inl (hvalue hnil))
    rw [recordTag_eq]
    refine hstored.afterTag start value (fun heq => ?_) fun heq => setTag_hasTag (hclosed ?_) _ _
    · rw [setTag_inARepeatingGroup]
      exact hclosed (heq ▸ htype)
    · rcases heq with heq | heq
      · exact heq ▸ htype
      · exact heq ▸ hchecksum
  next => exact hfirst.reject _

/-- What one field keeps, a message keeps. -/
theorem parse_recorded (htype : specs.NamesNot tagMsgType) (hchecksum : specs.NamesNot tagChecksum)
    (h : p.Recorded) {index start : Nat} {tag : Bytes} {value : Option Bytes} {text : Bytes}
    {result : MessageParser × Nat}
    (hparse : p.parse specs index start tag value text = some result) :
    result.1.Recorded ∧ result.1.reachedChecksum = true := by
  induction text generalizing p index start tag value with
  | nil => cases hparse
  | cons c rest ih =>
    cases value with
    | none =>
      rw [parse] at hparse
      split at hparse
      · exact ih h hparse
      · split at hparse
        · exact ih (h.reject noEqualsSign) hparse
        · exact ih h hparse
    | some value =>
      rw [parse] at hparse
      dsimp only at hparse
      have hend := h.endOfValue htype hchecksum start tag value
      split at hparse
      · split at hparse
        next hreached =>
          cases hparse
          exact ⟨hend, hreached⟩
        next => exact ih hend hparse
      · exact ih h hparse

end MessageParser

/-- What is there in a message that the parser hands over, and has a value. -/
structure RxMessage.Recorded (rx : RxMessage) : Prop where
  checksum : rx.message.hasTag tagChecksum = true
  msgType : rx.parserRejectCode = none → rx.message.hasTag tagMsgType = true
  valued : rx.parserRejectCode = none → rx.message.Valued

theorem parseMessage_recorded {specs : RepeatingGroupSpecs} (htype : specs.NamesNot tagMsgType)
    (hchecksum : specs.NamesNot tagChecksum) {buffer : Bytes} {p : MessageParser} {rx : RxMessage}
    (h : parseMessage specs buffer = some (p, rx)) : rx.Recorded := by
  obtain ⟨result, hresult, heq⟩ := Option.map_eq_some_iff.mp h
  obtain ⟨-, rfl⟩ := Prod.mk.inj heq
  obtain ⟨hrecorded, hreached⟩ :=
    MessageParser.parse_recorded htype hchecksum MessageParser.recorded_empty hresult
  obtain ⟨hhas, htag35⟩ := hrecorded.ended hreached
  refine ⟨hhas, fun hcode => hrecorded.typed (htag35 hcode), fun hcode tag htag => ?_⟩
  obtain ⟨value, hvalue⟩ := Option.isSome_iff_exists.mp htag
  rw [IncomingFixMessage.getTagValue, hvalue]
  obtain ⟨front, back, hfields, -⟩ := List.lookup_eq_some_iff.mp hvalue
  refine hrecorded.valued hcode (tag, value) ?_
  show (tag, value) ∈ result.1.message.tags
  rw [show result.1.message.tags = front ++ (tag, value) :: back from hfields]
  exact List.mem_append_right _ List.mem_cons_self

/-! ## The validation -/

/-- `is_a_hard_sequence_reset_message`. -/
def isAHardSequenceResetMessage? (m : IncomingFixMessage) : Option Bool :=
  if m.hasTag tagMsgType = false then some false
  else do
    let msgType ← m.getTagValueAsChar? tagMsgType
    if msgType ≠ msgTypeSequenceReset then some false
    else if m.hasTag tagGapFillFlag then do
      let gapFillFlag ← m.getTagValueAsChar? tagGapFillFlag
      some (gapFillFlag ≠ fixBooleanTrue)
    else some true

theorem IncomingFixMessage.Valued.isAHardSequenceResetMessage?_eq {m : IncomingFixMessage}
    (h : m.Valued) : isAHardSequenceResetMessage? m = some (isAHardSequenceResetMessage m) := by
  unfold isAHardSequenceResetMessage? isAHardSequenceResetMessage
  cases htype : m.hasTag tagMsgType with
  | false => rfl
  | true =>
    rw [if_neg Bool.noConfusion, h.getTagValueAsChar?_eq htype]
    show (if m.getTagValueAsChar tagMsgType ≠ msgTypeSequenceReset then _ else _) = _
    by_cases hreset : m.getTagValueAsChar tagMsgType = msgTypeSequenceReset
    · rw [if_neg (not_not.mpr hreset)]
      cases hflag : m.hasTag tagGapFillFlag with
      | false => simp [hreset]
      | true =>
        rw [if_pos rfl, h.getTagValueAsChar?_eq hflag]
        simp [hreset]
    · simp [hreset]

namespace FixSession

/-- `validate_fix_message`. -/
def validateFixMessage? (settings : FixSessionSettings) (rx : RxMessage) (utcNow : Int) :
    Option Verdict :=
  let m := rx.message
  if m.hasTag tagMsgSeqNum = false then some .dropped
  else do
    let isSeqNumNumeric ← m.isTagValueNumeric? tagMsgSeqNum
    if isSeqNumNumeric = false then some .dropped
    else match rx.parserRejectCode with
    | some code => some (if fixMaxErrorCode < code then .dropped else .rejected code 0)
    | none =>
      if m.hasTag tagBeginString = false then some .dropped
      else do
        let sameBeginString ← m.tagValueEquals? tagBeginString settings.beginString
        if sameBeginString = false then some .dropped
        else if m.hasTag tagSenderCompId = false then some .dropped
        else do
          let sameSender ← m.tagValueEquals? tagSenderCompId settings.targetCompId
          if sameSender = false then some (.rejected fixErrorCodeCompidProblem 0)
          else if m.hasTag tagTargetCompId = false then some .dropped
          else do
            let sameTarget ← m.tagValueEquals? tagTargetCompId settings.senderCompId
            if sameTarget = false then some (.rejected fixErrorCodeCompidProblem 0)
            else do
              let isChecksumNumeric ← m.isTagValueNumeric? tagChecksum
              if isChecksumNumeric = false then some .dropped
              else do
                let summed := rx.buffer.take (rx.buffer.length - 7)
                let actualChecksum ← m.getTagValueAsUInt32? tagChecksum
                let checksumOk :=
                  if settings.enableSimdAvx2 then validateChecksumSimdAvx2 summed actualChecksum
                  else validateChecksumNoSimd summed actualChecksum
                if checksumOk = false then some .dropped
                else if m.hasTag tagSendingTime = false then some .dropped
                else if 0 < settings.maxAllowedMessageAgeSeconds then do
                  let sendingTime ← m.getTagValue? tagSendingTime
                  if isTimestamp sendingTime = false then
                    some (.rejected fixErrorCodeFormatIncorrectForTag tagSendingTime)
                  else if isUtcTimestampStale sendingTime utcNow
                      settings.maxAllowedMessageAgeSeconds then
                    some (.rejected fixErrorCodeSendingTimeAccuracyProblem 0)
                  else some .valid
                else some .valid

/-! Each check is one step: what follows it is reached only behind it. -/

section Checks

variable {refused next : Verdict} {next? : Option Verdict}

theorem guarded_eq {condition : Bool} (h : condition = true → next? = some next) :
    (if condition = false then some refused else next?) =
      some (if condition = false then refused else next) := by
  cases condition with
  | false => rfl
  | true => exact h rfl

theorem accessed_eq {access : Option Bool} {condition : Bool} (haccess : access = some condition)
    (h : next? = some next) :
    (access.bind fun condition => if condition = false then some refused else next?) =
      some (if condition = false then refused else next) := by
  rw [haccess]
  exact guarded_eq fun _ => h

theorem compared_eq {access : Option Bool} {same : Prop} [Decidable same]
    (haccess : access = some (decide same)) (h : next? = some next) :
    (access.bind fun same => if same = false then some refused else next?) =
      some (if ¬ same then refused else next) := by
  rw [accessed_eq haccess h]
  by_cases hsame : same
  · rw [decide_eq_true hsame, if_neg (not_not.mpr hsame)]
    rfl
  · rw [decide_eq_false hsame, if_pos hsame]
    rfl

end Checks

open IncomingFixMessage in
/-- What is compared is behind the reject code, and tag 10 ends every message. -/
theorem validateFixMessage?_eq {rx : RxMessage} (h : rx.Recorded) (settings : FixSessionSettings)
    (utcNow : Int) :
    validateFixMessage? settings rx utcNow = some (validateFixMessage settings rx utcNow) := by
  unfold validateFixMessage? validateFixMessage
  dsimp only
  refine guarded_eq fun hseqNum => accessed_eq (isTagValueNumeric?_eq hseqNum) ?_
  cases hcode : rx.parserRejectCode with
  | some code => rfl
  | none =>
    have hvalued := h.valued hcode
    dsimp only
    refine guarded_eq fun hbegin => compared_eq (hvalued.tagValueEquals?_eq hbegin _) ?_
    refine guarded_eq fun hsender => compared_eq (hvalued.tagValueEquals?_eq hsender _) ?_
    refine guarded_eq fun htarget => compared_eq (hvalued.tagValueEquals?_eq htarget _) ?_
    refine accessed_eq (isTagValueNumeric?_eq h.checksum) ?_
    rw [getTagValueAsUInt32?_eq h.checksum]
    refine guarded_eq fun _ => guarded_eq fun hsending => ?_
    split
    · rw [getTagValue?_eq hsending]
      show (if isTimestamp (rx.message.getTagValue tagSendingTime) = false then _ else _) = _
      split
      · rfl
      · split <;> rfl
    · rfl

end FixSession

/-- What is known of a message that has been validated. -/
structure IncomingFixMessage.Accepted (m : IncomingFixMessage) : Prop where
  seqNum : m.hasTag tagMsgSeqNum = true
  msgType : m.hasTag tagMsgType = true
  senderCompId : m.hasTag tagSenderCompId = true
  valued : m.Valued

namespace FixSession

theorem accepted_of_valid {rx : RxMessage} (h : rx.Recorded) {settings : FixSessionSettings}
    {utcNow : Int} (hvalid : validateFixMessage settings rx utcNow = .valid) :
    rx.message.Accepted := by
  have hchecks := ((validateFixMessage_valid_iff settings rx utcNow).mp hvalid).1
  simp only [passesOtherChecks, Bool.and_eq_true, Option.isNone_iff_eq_none] at hchecks
  obtain ⟨⟨⟨⟨⟨⟨⟨⟨⟨⟨hseqNum, -⟩, hcode⟩, -⟩, -⟩, hsender⟩, -⟩, -⟩, -⟩, -⟩, -⟩ := hchecks
  exact ⟨hseqNum, h.msgType hcode, hsender, h.valued hcode⟩

/-- The validation of `process_incoming_fix_message`. -/
def verdict? (s : FixSession) (rx : RxMessage) (utcNow : Int) : Option Verdict :=
  if s.settings.validationsEnabled then validateFixMessage? s.settings rx utcNow else some .valid

theorem verdict?_eq {rx : RxMessage} (h : rx.Recorded) (s : FixSession) (utcNow : Int) :
    s.verdict? rx utcNow = some (s.verdict rx utcNow) := by
  unfold verdict? verdict
  split
  · exact validateFixMessage?_eq h s.settings utcNow
  · rfl

theorem accepted_of_verdict {rx : RxMessage} (h : rx.Recorded) {s : FixSession}
    (hvalidations : s.settings.validationsEnabled = true) {utcNow : Int}
    (hvalid : s.verdict rx utcNow = .valid) : rx.message.Accepted := by
  rw [verdict, if_pos hvalidations] at hvalid
  exact accepted_of_valid h hvalid

end FixSession

/-- A number is not both above and below the expected one, so that a check that lets a message pass
leaves it to what follows both. -/
theorem sequenceChecks_eq {α : Type*} {above below queues closes : Prop} [Decidable above]
    [Decidable below] [Decidable queues] [Decidable closes] (happart : above → ¬ below)
    (queued closed next : α) :
    (if above then (if queues then some queued else some next)
      else if below then (if closes then some closed else some next)
      else some next) =
      some (if above ∧ queues then queued else if below ∧ closes then closed else next) := by
  by_cases habove : above
  · simp [habove, happart habove, apply_ite some]
  · simp [habove, apply_ite some, ite_and]

/-! ## The handlers of the session -/

/-- `RefSeqNum` of a reject. -/
def OutgoingFixMessage.setRefSeqNum? (message : OutgoingFixMessage) (m : IncomingFixMessage) :
    Option OutgoingFixMessage :=
  if m.hasTag tagMsgSeqNum then
    (m.getTagValueAsUInt32? tagMsgSeqNum).map (message.setTagUInt32 tagRefSeqNum)
  else some message

/-- `RefMsgType` of a reject. -/
def OutgoingFixMessage.setRefMsgType? (message : OutgoingFixMessage) (m : IncomingFixMessage) :
    Option OutgoingFixMessage :=
  if m.hasTag tagMsgType then (m.getTagValue? tagMsgType).map (message.setTag tagRefMsgType)
  else some message

namespace FixSession

/-- `build_session_level_reject_message`. -/
def buildSessionLevelRejectMessage? (s : FixSession) (rejectReasonCode errorTag : UInt32) :
    Option OutgoingFixMessage := do
  let incoming := s.incomingFixMessage
  let message ← (OutgoingFixMessage.setMsgType msgTypeReject).setRefSeqNum? incoming
  let message := if errorTag ≠ 0 then message.setTagUInt32 tagRefTag errorTag else message
  let message ← message.setRefMsgType? incoming
  some ((message.setTagUInt32 tagSessionRejectReason rejectReasonCode).setTag tagText
    (rejectReasonText rejectReasonCode))

/-- `process_incoming_sequence_reset_message`, which logs tag 36. -/
def processIncomingSequenceResetMessage? (s : FixSession) (message : IncomingFixMessage) :
    Option (FixSession × Bool) :=
  if message.hasTag tagNewSeqNo then do
    let isNumeric ← message.isTagValueNumeric? tagNewSeqNo
    if isNumeric then do
      let _ ← message.getTagValue? tagNewSeqNo
      let newIncomingSeqNo ← message.getTagValueAsUInt32? tagNewSeqNo
      if newIncomingSeqNo = 0 then some (s, false)
      else if newIncomingSeqNo ≤ s.sequenceStore.incomingSeqNo then some (s, false)
      else some ((s.setIncomingSeqNo (newIncomingSeqNo - 1)).setState .loggedOn, true)
    else some (s, true)
  else some (s, true)

/-- `process_resend_request`, which logs tags 7 and 16. -/
def processResendRequest? (s : FixSession) (message : IncomingFixMessage) : Option FixSession :=
  if message.hasTag tagBeginSeqNo && message.hasTag tagEndSeqNo then do
    let isTag7Numeric ← message.isTagValueNumeric? tagBeginSeqNo
    let isTag16Numeric ← message.isTagValueNumeric? tagEndSeqNo
    if isTag7Numeric && isTag16Numeric then do
      let _ ← message.getTagValue? tagBeginSeqNo
      let _ ← message.getTagValue? tagEndSeqNo
      let beginNo ← message.getTagValueAsUInt32? tagBeginSeqNo
      let endNo ← message.getTagValueAsUInt32? tagEndSeqNo
      some { s.setState .inRetransmissionInitiatedByPeer with
        incomingResendRequestBeginNo := beginNo
        incomingResendRequestEndNo := endNo
        needsRespondingToIncomingResendRequest := true }
    else some s
  else some s

/-- `process_test_request_message`. -/
def processTestRequestMessage? (s : FixSession) (message : IncomingFixMessage) :
    Option FixSession :=
  if s.expectingResponseForOutgoingTestRequest = false then
    let s := { s with needsRespondingToIncomingTestRequest := true }
    if message.hasTag tagTestReqId then
      (message.getTagValue? tagTestReqId).map fun id => { s with incomingTestRequestId := id }
    else some s
  else some s

end FixSession

open IncomingFixMessage

theorem OutgoingFixMessage.setRefSeqNum?_eq (message : OutgoingFixMessage)
    (m : IncomingFixMessage) :
    message.setRefSeqNum? m = some (if m.hasTag tagMsgSeqNum then
      message.setTagUInt32 tagRefSeqNum (m.getTagValueAsUInt32 tagMsgSeqNum) else message) := by
  unfold setRefSeqNum?
  split
  next hhas => rw [getTagValueAsUInt32?_eq hhas]; rfl
  next => rfl

theorem OutgoingFixMessage.setRefMsgType?_eq (message : OutgoingFixMessage)
    (m : IncomingFixMessage) :
    message.setRefMsgType? m = some (if m.hasTag tagMsgType then
      message.setTag tagRefMsgType (m.getTagValue tagMsgType) else message) := by
  unfold setRefMsgType?
  split
  next hhas => rw [getTagValue?_eq hhas]; rfl
  next => rfl

namespace FixSession

variable (s : FixSession)

/-- Each handler asks for a tag before it accesses it. -/
theorem buildSessionLevelRejectMessage?_eq (rejectReasonCode errorTag : UInt32) :
    s.buildSessionLevelRejectMessage? rejectReasonCode errorTag =
      some (s.buildSessionLevelRejectMessage rejectReasonCode errorTag) := by
  unfold buildSessionLevelRejectMessage?
  dsimp only
  rw [OutgoingFixMessage.setRefSeqNum?_eq, Option.bind_eq_bind, Option.bind_some,
    OutgoingFixMessage.setRefMsgType?_eq]
  rfl

theorem processIncomingSequenceResetMessage?_eq (message : IncomingFixMessage) :
    s.processIncomingSequenceResetMessage? message =
      some (s.processIncomingSequenceResetMessage message) := by
  unfold processIncomingSequenceResetMessage? processIncomingSequenceResetMessage
  split
  next hhas =>
    rw [isTagValueNumeric?_eq hhas, getTagValue?_eq hhas, getTagValueAsUInt32?_eq hhas]
    show (if message.isTagValueNumeric tagNewSeqNo then _ else _) = _
    split
    · show (if message.getTagValueAsUInt32 tagNewSeqNo = 0 then _ else _) = _
      dsimp only
      split
      · rfl
      · split <;> rfl
    · rfl
  next => rfl

theorem processResendRequest?_eq (message : IncomingFixMessage) :
    s.processResendRequest? message = some (s.processResendRequest message) := by
  unfold processResendRequest? processResendRequest
  split
  next hhas =>
    obtain ⟨hbegin, hend⟩ := Bool.and_eq_true_iff.mp hhas
    rw [isTagValueNumeric?_eq hbegin, isTagValueNumeric?_eq hend, getTagValue?_eq hbegin,
      getTagValue?_eq hend, getTagValueAsUInt32?_eq hbegin, getTagValueAsUInt32?_eq hend]
    show (if message.isTagValueNumeric tagBeginSeqNo && message.isTagValueNumeric tagEndSeqNo then _
      else _) = _
    split <;> rfl
  next => rfl

theorem processTestRequestMessage?_eq (message : IncomingFixMessage) :
    s.processTestRequestMessage? message = some (s.processTestRequestMessage message) := by
  unfold processTestRequestMessage? processTestRequestMessage
  split
  · dsimp only
    split
    next hhas => rw [getTagValue?_eq hhas]; rfl
    next => rfl
  · rfl

end FixSession

end Llfix
