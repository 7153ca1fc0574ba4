import Llfix.Replay

/-!
# What a replay depends on

A slot of the `FixString` cache keeps the bytes that an earlier message left behind its text, and
a MsgType of more than one character is taken from the slot as a C string. Tags that were set but
not encoded stay in the message.

Results:
1. `run_wellFormed`: the slots never shrink.
2. `encode_content_inj`: what `encode` writes determines the content.
3. `replayIndependent_iff`: when a replay gives the message that is stored.
4. `replayIndependent_fails`: two histories after which the same message is replayed differently.
-/

namespace Llfix

open WellFormedWire

/-! ## Histories -/

/-- A call on an instance. A buffer that is allocated for a longer text has a last byte of its
own. -/
inductive MessageCall
  | setMsgTypeChar (c : UInt8)
  | setMsgType (text : Bytes)
  | setTag (component : FixMessageComponent) (tag : Tag) (value : Bytes) (uninitialised : UInt8)
  | encode
  | loadFromBuffer (buffer : Bytes) (uninitialised : UInt8)

namespace OutgoingFixMessageInstance

/-- The instance behind a call; `none` when the call leaves its memory. -/
def call (encoder : EncoderSettings) (m : OutgoingFixMessageInstance) :
    MessageCall → Option OutgoingFixMessageInstance
  | .setMsgTypeChar c => some (m.setMsgTypeChar c)
  | .setMsgType text => m.setMsgType text
  | .setTag component tag value uninitialised => some (m.setTag component tag value uninitialised)
  | .encode => some m.afterEncode
  | .loadFromBuffer buffer uninitialised => m.loadFromBuffer encoder uninitialised buffer

/-- The instance behind a history. -/
def run (encoder : EncoderSettings) (m : OutgoingFixMessageInstance) :
    List MessageCall → Option OutgoingFixMessageInstance
  | [] => some m
  | c :: calls => (m.call encoder c).bind fun m => m.run encoder calls

/-- Every slot has room for 64 bytes. -/
def WellFormed (m : OutgoingFixMessageInstance) : Prop := ∀ n, 64 ≤ (m.slots n).buffer.length

end OutgoingFixMessageInstance

theorem FixString.copyFrom_length (s : FixString) (text : Bytes) (uninitialised : UInt8) :
    s.buffer.length ≤ (s.copyFrom text uninitialised).buffer.length := by
  unfold copyFrom
  dsimp only
  split
  · rw [List.length_append, List.length_singleton]
    omega
  · rw [List.length_append, List.length_drop]
    omega

namespace OutgoingFixMessageInstance

variable {m m' : OutgoingFixMessageInstance} {encoder : EncoderSettings} {uninitialised : UInt8}

theorem storeText_wellFormed (h : m.WellFormed) (text : Bytes) (uninitialised : UInt8) :
    (m.storeText text uninitialised).WellFormed := by
  intro n
  unfold storeText
  dsimp only
  by_cases hn : n = m.pointer
  · rw [hn, Function.update_self]
    exact Nat.le_trans (h _) (FixString.copyFrom_length _ _ _)
  · rw [Function.update_of_ne hn]
    exact h n

theorem setTag_wellFormed (h : m.WellFormed) (component : FixMessageComponent) (tag : Tag)
    (value : Bytes) : (m.setTag component tag value uninitialised).WellFormed :=
  storeText_wellFormed h value uninitialised

theorem setMsgType_wellFormed (h : m.WellFormed) {text : Bytes} (hset : m.setMsgType text = some m') :
    m'.WellFormed := by
  unfold setMsgType at hset
  split at hset
  · obtain rfl := Option.some.inj hset
    exact h
  · cases hset

theorem loadField_wellFormed {s s' : LoadState} (h : s.instance'.WellFormed) {tag : Tag}
    {value : Bytes} (hload : s.loadField encoder uninitialised tag value = some s') :
    s'.instance'.WellFormed := by
  have hstored := storeText_wellFormed h value uninitialised
  unfold LoadState.loadField at hload
  dsimp only at hload
  split_ifs at hload
  · obtain rfl := Option.some.inj hload
    exact h
  · rw [loadMsgType_eq] at hload
    obtain ⟨loaded, -, rfl⟩ := Option.map_eq_some_iff.mp hload
    exact hstored
  · obtain rfl := Option.some.inj hload
    exact setTag_wellFormed hstored .header tagOrigSendingTime value
  · obtain rfl := Option.some.inj hload
    exact setTag_wellFormed hstored .body tagNewSeqNo
      (unsignedIntToChars (charsToUnsignedInt value + 1))
  · obtain rfl := Option.some.inj hload
    exact hstored
  · obtain rfl := Option.some.inj hload
    exact setTag_wellFormed hstored .body tag value
  · obtain rfl := Option.some.inj hload
    exact hstored

theorem load_wellFormed {s s' : LoadState} (h : s.instance'.WellFormed) {tag buffer : Bytes}
    {value : Option Bytes} (hload : s.load encoder uninitialised tag value buffer = some s') :
    s'.instance'.WellFormed := by
  induction buffer generalizing s tag value with
  | nil =>
    obtain rfl := Option.some.inj hload
    exact h
  | cons c buffer ih =>
    cases value with
    | none =>
      simp only [LoadState.load] at hload
      split at hload
      · exact ih h hload
      · exact ih h hload
    | some value =>
      simp only [LoadState.load] at hload
      split at hload
      · obtain ⟨s₁, hfield, hrest⟩ := Option.bind_eq_some_iff.mp hload
        exact ih (loadField_wellFormed h hfield) hrest
      · exact ih h hload

/-- The slots never shrink. -/
theorem call_wellFormed (h : m.WellFormed) {c : MessageCall} (hcall : m.call encoder c = some m') :
    m'.WellFormed := by
  cases c with
  | setMsgTypeChar c =>
    obtain rfl := Option.some.inj hcall
    exact h
  | setMsgType text => exact setMsgType_wellFormed h hcall
  | setTag component tag value uninitialised =>
    obtain rfl := Option.some.inj hcall
    exact setTag_wellFormed h component tag value
  | encode =>
    obtain rfl := Option.some.inj hcall
    exact h
  | loadFromBuffer buffer uninitialised =>
    obtain ⟨s, hload, rfl⟩ := Option.map_eq_some_iff.mp hcall
    exact load_wellFormed h hload

theorem run_wellFormed (h : m.WellFormed) {calls : List MessageCall}
    (hrun : m.run encoder calls = some m') : m'.WellFormed := by
  induction calls generalizing m with
  | nil =>
    obtain rfl := Option.some.inj hrun
    exact h
  | cons c calls ih =>
    obtain ⟨m₁, hcall, hrest⟩ := Option.bind_eq_some_iff.mp hrun
    exact ih (call_wellFormed h hcall) hrest

end OutgoingFixMessageInstance

/-! ## What is encoded -/

theorem encodeField_checksum_length (settings : FixSessionSettings) (buffer : Bytes) :
    (encodeField (tagChecksum, encodedChecksum settings buffer)).length = 7 := by
  have hten : (unsignedIntToChars tagChecksum).length = 2 := by decide
  rw [encodeField, List.length_append, List.length_append, List.length_cons,
    (encodedChecksum_spec settings buffer).1, hten]
  rfl

section

variable {settings : FixSessionSettings} {encoder : EncoderSettings} {sendingTime : Bytes}
  {incomingSeqNo sequenceNo : UInt32} {content content' : OutgoingFixMessage}

/-- What `encode` writes determines the bytes that tag 9 counts. -/
theorem encode_body_inj
    (h : encode settings encoder sendingTime incomingSeqNo content sequenceNo =
      encode settings encoder sendingTime incomingSeqNo content' sequenceNo) :
    (bodyFields settings encoder sendingTime incomingSeqNo content sequenceNo).flatMap encodeField =
      (bodyFields settings encoder sendingTime incomingSeqNo content' sequenceNo).flatMap
        encodeField := by
  have hsplit : ∀ content : OutgoingFixMessage, ∃ digits checksum : Bytes,
      fixDelimiter ∉ digits ∧ checksum.length = 7 ∧
      encode settings encoder sendingTime incomingSeqNo content sequenceNo =
        encodeField (tagBeginString, settings.beginString) ++ (unsignedIntToChars tagBodyLength ++
          fixEquals :: (digits ++ fixDelimiter ::
            ((bodyFields settings encoder sendingTime incomingSeqNo content sequenceNo).flatMap
              encodeField ++ checksum))) := by
    intro content
    refine ⟨_, _, (isValue_unsignedIntToChars ((bodyFields settings encoder sendingTime
      incomingSeqNo content sequenceNo).flatMap encodeField).length.toUInt32).2,
      encodeField_checksum_length settings ((summedFields settings encoder sendingTime
        incomingSeqNo content sequenceNo).flatMap encodeField), ?_⟩
    unfold encode
    dsimp only
    have hfields : (summedFields settings encoder sendingTime incomingSeqNo content
        sequenceNo).flatMap encodeField =
        encodeField (tagBeginString, settings.beginString) ++
          (encodeField (tagBodyLength, unsignedIntToChars ((bodyFields settings encoder sendingTime
            incomingSeqNo content sequenceNo).flatMap encodeField).length.toUInt32) ++
          (bodyFields settings encoder sendingTime incomingSeqNo content sequenceNo).flatMap
            encodeField) := rfl
    rw [hfields]
    simp [encodeField]
  obtain ⟨digits, checksum, hdigits, hlength, heq⟩ := hsplit content
  obtain ⟨digits', checksum', hdigits', hlength', heq'⟩ := hsplit content'
  rw [heq, heq'] at h
  have hbehind := (List.cons.inj (List.append_cancel_left (List.append_cancel_left h))).2
  have hbodies : (bodyFields settings encoder sendingTime incomingSeqNo content
      sequenceNo).flatMap encodeField ++ checksum =
        (bodyFields settings encoder sendingTime incomingSeqNo content' sequenceNo).flatMap
          encodeField ++ checksum' := by
    have hparts := congrArg (partsFrom []) hbehind
    rw [partsFrom_part hdigits, partsFrom_part hdigits', List.nil_append, List.nil_append] at hparts
    obtain rfl := (List.cons.inj hparts).1
    exact (List.cons.inj (List.append_cancel_left hbehind)).2
  exact (List.append_inj' hbodies (hlength.trans hlength'.symm)).1

/-- The type and the fields that are set, as bytes. -/
theorem encode_content_inj
    (h : encode settings encoder sendingTime incomingSeqNo content sequenceNo =
      encode settings encoder sendingTime incomingSeqNo content' sequenceNo) :
    ∃ own : Bytes, content.msgType ++ fixDelimiter :: (own ++ content.fields.flatMap encodeField) =
      content'.msgType ++ fixDelimiter :: (own ++ content'.fields.flatMap encodeField) := by
  refine ⟨(sessionFields settings encoder sendingTime incomingSeqNo sequenceNo).flatMap encodeField,
    ?_⟩
  have hsplit : ∀ content : OutgoingFixMessage,
      (bodyFields settings encoder sendingTime incomingSeqNo content sequenceNo).flatMap
          encodeField =
        unsignedIntToChars tagMsgType ++ fixEquals :: (content.msgType ++ fixDelimiter ::
          ((sessionFields settings encoder sendingTime incomingSeqNo sequenceNo).flatMap
            encodeField ++ content.fields.flatMap encodeField)) := by
    intro content
    have hfields : bodyFields settings encoder sendingTime incomingSeqNo content sequenceNo =
        (tagMsgType, content.msgType) ::
          (sessionFields settings encoder sendingTime incomingSeqNo sequenceNo ++
            content.fields) := by
      rw [← restFields_eq]
      rfl
    rw [hfields, List.flatMap_cons, List.flatMap_append]
    simp [encodeField]
  have hbody := encode_body_inj h
  rw [hsplit, hsplit] at hbody
  exact (List.cons.inj (List.append_cancel_left hbody)).2

end

theorem encodeField_ne_nil (field : Tag × Bytes) : encodeField field ≠ [] := by
  simp [encodeField]

theorem flatMap_encodeField_eq_nil {fields : List (Tag × Bytes)}
    (h : (fields.flatMap encodeField).length = 0) : fields = [] := by
  cases fields with
  | nil => rfl
  | cons field fields =>
    have hnil := List.length_eq_zero_iff.mp h
    rw [List.flatMap_cons, List.append_eq_nil_iff] at hnil
    exact absurd hnil.1 (encodeField_ne_nil field)

/-! ## The slot of the type -/

namespace FixString

variable {s : FixString} {text : Bytes} {uninitialised : UInt8}

theorem copyFrom_buffer (h : text.length ≤ s.buffer.length) :
    (s.copyFrom text uninitialised).buffer = text ++ s.buffer.drop text.length :=
  if_neg (Nat.not_lt.mpr h)

/-- The C string of a slot is the text that was copied when the text has no zero and one follows
it. -/
theorem cString_copyFrom (h : text.length ≤ s.buffer.length) (hzero : 0 ∉ text)
    (hnext : s.buffer[text.length]? = some 0) :
    (s.copyFrom text uninitialised).cString = some text := by
  have hdrop : ∃ behind, s.buffer.drop text.length = 0 :: behind := by
    obtain ⟨hlt, hget⟩ := List.getElem?_eq_some_iff.mp hnext
    exact ⟨_, (List.drop_eq_getElem_cons hlt).trans (by rw [hget])⟩
  obtain ⟨behind, hbehind⟩ := hdrop
  have htake : (text ++ 0 :: behind).takeWhile (· ≠ 0) = text := by
    rw [List.takeWhile_append_of_pos]
    · simp
    · intro c hc
      have hne : c ≠ 0 := fun heq => hzero (heq ▸ hc)
      simpa using hne
  rw [cString, copyFrom_buffer h, hbehind, if_pos (by simp), htake]

/-- Else it is shorter than the text, or has bytes of an earlier text behind it. -/
theorem cString_cases (h : text.length ≤ s.buffer.length) {string : Bytes}
    (hstring : (s.copyFrom text uninitialised).cString = some string) :
    (∃ behind, text = string ++ 0 :: behind) ∨
      (0 ∉ text ∧ ∃ extra, string = text ++ extra ∧
        (extra = [] → s.buffer[text.length]? = some 0)) := by
  unfold cString at hstring
  rw [copyFrom_buffer h] at hstring
  split at hstring
  next hmem =>
    obtain rfl := Option.some.inj hstring
    by_cases hzero : 0 ∈ text
    · obtain ⟨front, behind, hsplit, hfront⟩ := List.eq_append_cons_of_mem hzero
      refine .inl ⟨behind, ?_⟩
      have htake : (text ++ s.buffer.drop text.length).takeWhile (· ≠ 0) = front := by
        rw [hsplit, List.append_assoc, List.takeWhile_append_of_pos]
        · simp
        · intro c hc
          have hne : c ≠ 0 := fun heq => hfront (heq ▸ hc)
          simpa using hne
      rw [htake]
      exact hsplit
    · refine .inr ⟨hzero, (s.buffer.drop text.length).takeWhile (· ≠ 0), ?_, fun hextra => ?_⟩
      · rw [List.takeWhile_append_of_pos]
        intro c hc
        have hne : c ≠ 0 := fun heq => hzero (heq ▸ hc)
        simpa using hne
      · have hbehind := (List.mem_append.mp hmem).resolve_left hzero
        cases hdrop : s.buffer.drop text.length with
        | nil =>
          rw [hdrop] at hbehind
          cases hbehind
        | cons c behind =>
          rw [hdrop, List.takeWhile_cons] at hextra
          have hc : c = 0 := by
            by_contra hne
            simp [hne] at hextra
          have hget := congrArg (·[0]?) hdrop
          rw [List.getElem?_drop] at hget
          rw [← hc]
          exact hget
  next => cases hstring

end FixString

/-! ## The replay of a stored message -/

/-- What a stored message is loaded as on a new instance when its type is kept. -/
def storedContent (encoder : EncoderSettings) (msgType : Bytes) (rest : List (Tag × Bytes)) :
    OutgoingFixMessage :=
  let isReplacing := isANonRetransmittableAdminMessageType msgType
  ({ msgType := if isReplacing then [msgTypeSequenceReset] else msgType } :
    OutgoingFixMessage).withLoaded encoder isReplacing rest

/-- `load_from_buffer`, then `encode`. -/
def replayBytes (settings : FixSessionSettings) (encoder : EncoderSettings)
    (uninitialised : UInt8) (m : OutgoingFixMessageInstance) (stored sendingTime : Bytes)
    (incomingSeqNo sequenceNo : UInt32) : Option Bytes :=
  (m.loadFromBuffer encoder uninitialised stored).map fun m =>
    encode settings encoder sendingTime incomingSeqNo m.content sequenceNo

/-- The slot that tag 35 is copied into gives the type back: it has one character, or it has no
zero and the slot has one behind it. -/
def OutgoingFixMessageInstance.KeepsType (m : OutgoingFixMessageInstance) (msgType : Bytes) :
    Prop :=
  msgType.length = 1 ∨
    (0 ∉ msgType ∧ (m.slots m.pointer).buffer[msgType.length]? = some 0)

instance (m : OutgoingFixMessageInstance) (msgType : Bytes) : Decidable (m.KeepsType msgType) :=
  inferInstanceAs (Decidable (_ ∨ _))

section

variable {settings : FixSessionSettings} {encoder : EncoderSettings} {sendingTime : Bytes}
  {incomingSeqNo sequenceNo : UInt32} {beginString msgType checksum : Bytes}
  {rest : List (Tag × Bytes)}

theorem several_not_admin (h : msgType.length ≠ 1) :
    isANonRetransmittableAdminMessageType msgType = false := by
  unfold isANonRetransmittableAdminMessageType
  split
  next => exact absurd rfl h
  next => rfl

theorem loadedType_of_keeps {m : OutgoingFixMessageInstance} (hm : m.WellFormed)
    (hlength : msgType.length ≤ maxSupportedMessageTypeLength) (hkeeps : m.KeepsType msgType)
    (uninitialised : UInt8) :
    loadedType ((m.slots m.pointer).copyFrom msgType uninitialised) =
      some (if isANonRetransmittableAdminMessageType msgType then ([msgTypeSequenceReset], true)
        else (msgType, false)) := by
  have hview := FixString.copyFrom_toStringView (m.slots m.pointer) msgType uninitialised
  by_cases hsingle : msgType.length = 1
  · obtain ⟨c, rfl⟩ := List.length_eq_one_iff.mp hsingle
    exact loadedType_of_length hview rfl
  · obtain ⟨hzero, hnext⟩ := hkeeps.resolve_left hsingle
    have hslot : ((m.slots m.pointer).copyFrom msgType uninitialised).length = msgType.length := rfl
    have hroom : msgType.length ≤ (m.slots m.pointer).buffer.length :=
      Nat.le_trans (Nat.le_trans hlength (by decide)) (hm m.pointer)
    rw [loadedType, hview, several_not_admin hsingle, if_neg Bool.false_ne_true, hslot,
      if_neg hsingle, FixString.cString_copyFrom hroom hzero hnext, Option.bind_some, if_pos hlength]
    rfl

/-- A type of several characters is what the C string of the slot is. -/
theorem loadedType_of_several {m : OutgoingFixMessageInstance} (hseveral : msgType.length ≠ 1)
    {uninitialised : UInt8} {loaded : Bytes × Bool}
    (hloaded : loadedType ((m.slots m.pointer).copyFrom msgType uninitialised) = some loaded) :
    ((m.slots m.pointer).copyFrom msgType uninitialised).cString = some loaded.1 ∧
      loaded.2 = false := by
  have hview := FixString.copyFrom_toStringView (m.slots m.pointer) msgType uninitialised
  have hslot : ((m.slots m.pointer).copyFrom msgType uninitialised).length = msgType.length := rfl
  rw [loadedType, hview, several_not_admin hseveral, if_neg Bool.false_ne_true, hslot,
    if_neg hseveral] at hloaded
  obtain ⟨string, hstring, hset⟩ := Option.bind_eq_some_iff.mp hloaded
  split at hset
  · obtain rfl := Option.some.inj hset
    exact ⟨hstring, rfl⟩
  · cases hset

/-- What is replayed has the fields that were pending in front of those of the stored message. -/
theorem fields_length (encoder : EncoderSettings) (rest : List (Tag × Bytes))
    (content : OutgoingFixMessage) (msgType' : Bytes) (isReplacing : Bool) :
    ((({ content with msgType := msgType' } : OutgoingFixMessage).withLoaded encoder isReplacing
        rest).fields.flatMap encodeField).length =
      (content.header.flatMap encodeField).length + (content.body.flatMap encodeField).length +
        (content.trailer.flatMap encodeField).length +
        ((({ msgType := msgType' } : OutgoingFixMessage).withLoaded encoder isReplacing
          rest).fields.flatMap encodeField).length := by
  simp only [OutgoingFixMessage.withLoaded, OutgoingFixMessage.fields, List.flatMap_append,
    List.length_append, List.nil_append, List.append_nil]
  omega

/-- When the replay is the stored message, nothing was pending and the type has been kept. -/
theorem isClear_of_encode_eq {content : OutgoingFixMessage} {msgType' extra : Bytes}
    {isReplacing : Bool} (htype : msgType' = msgType ++ extra)
    (h : encode settings encoder sendingTime incomingSeqNo
        (({ content with msgType := msgType' } : OutgoingFixMessage).withLoaded encoder isReplacing
          rest) sequenceNo =
      encode settings encoder sendingTime incomingSeqNo
        (({ msgType := msgType } : OutgoingFixMessage).withLoaded encoder isReplacing rest)
        sequenceNo) :
    extra = [] ∧ content.header = [] ∧ content.body = [] ∧ content.trailer = [] := by
  obtain ⟨own, hbytes⟩ := encode_content_inj h
  have hlength := congrArg List.length hbytes
  have hpending := fields_length encoder rest content msgType' isReplacing
  have hsame : (({ msgType := msgType' } : OutgoingFixMessage).withLoaded encoder isReplacing
      rest).fields = (({ msgType := msgType } : OutgoingFixMessage).withLoaded encoder isReplacing
        rest).fields := rfl
  have htypes : ∀ m : OutgoingFixMessage, (m.withLoaded encoder isReplacing rest).msgType =
      m.msgType := fun _ => rfl
  rw [htypes, htypes, htype] at hlength
  rw [hsame, htype] at hpending
  simp only [List.length_append, List.length_cons] at hlength
  refine ⟨List.length_eq_zero_iff.mp (by omega), flatMap_encodeField_eq_nil (by omega),
    flatMap_encodeField_eq_nil (by omega), flatMap_encodeField_eq_nil (by omega)⟩

/-- Behind any history, a stored message is replayed as it is stored exactly when no tags are
pending and the slot for its type keeps the type. -/
theorem replayIndependent_iff (h : LoadableWire beginString msgType rest checksum)
    (hlength : msgType.length ≤ maxSupportedMessageTypeLength)
    (hstatic : tagMsgType ∉ fieldTags encoder.additionalStaticHeaderTags)
    {calls : List MessageCall} {m : OutgoingFixMessageInstance}
    (hrun : ({} : OutgoingFixMessageInstance).run encoder calls = some m) (uninitialised : UInt8) :
    replayBytes settings encoder uninitialised m
        ((allFields beginString msgType rest checksum).flatMap encodeField) sendingTime
        incomingSeqNo sequenceNo =
      some (encode settings encoder sendingTime incomingSeqNo (storedContent encoder msgType rest)
        sequenceNo) ↔
      m.IsClear ∧ m.KeepsType msgType := by
  have hnew : ({} : OutgoingFixMessageInstance).WellFormed := fun _ => Nat.le_refl 64
  have hm := OutgoingFixMessageInstance.run_wellFormed hnew hrun
  have hload := loadFromBuffer_wire h hstatic uninitialised m
  have hreplay : replayBytes settings encoder uninitialised m
      ((allFields beginString msgType rest checksum).flatMap encodeField) sendingTime
      incomingSeqNo sequenceNo =
        ((m.loadFromBuffer encoder uninitialised ((allFields beginString msgType rest
          checksum).flatMap encodeField)).map OutgoingFixMessageInstance.content).map
            (encode settings encoder sendingTime incomingSeqNo · sequenceNo) := by
    rw [Option.map_map]
    rfl
  rw [hreplay, hload]
  -- What is encoded determines the content, so that equal bytes leave no room for pending tags.
  constructor
  · intro heq
    obtain ⟨content, hcontent, hencode⟩ := Option.map_eq_some_iff.mp heq
    obtain ⟨loaded, hloaded, rfl⟩ := Option.map_eq_some_iff.mp hcontent
    by_cases hsingle : msgType.length = 1
    · rw [loadedType_of_keeps hm hlength (.inl hsingle)] at hloaded
      obtain rfl := Option.some.inj hloaded
      refine ⟨?_, .inl hsingle⟩
      unfold storedContent at hencode
      dsimp only at hencode
      cases hadmin : isANonRetransmittableAdminMessageType msgType with
      | true =>
        rw [hadmin, if_pos rfl] at hencode
        exact (isClear_of_encode_eq (List.append_nil _).symm hencode).2
      | false =>
        rw [hadmin, if_neg Bool.false_ne_true] at hencode
        exact (isClear_of_encode_eq (List.append_nil _).symm hencode).2
    · obtain ⟨hstring, hkept⟩ := loadedType_of_several hsingle hloaded
      have hroom : msgType.length ≤ (m.slots m.pointer).buffer.length :=
        Nat.le_trans (Nat.le_trans hlength (by decide)) (hm m.pointer)
      unfold storedContent at hencode
      dsimp only at hencode
      rw [several_not_admin hsingle, if_neg Bool.false_ne_true, hkept] at hencode
      rcases FixString.cString_cases hroom hstring with ⟨behind, hcut⟩ | ⟨hzero, extra, hextra, hnext⟩
      · -- the type ends at its zero, where the stored one goes on
        obtain ⟨own, hbytes⟩ := encode_content_inj hencode
        have htype : ∀ m : OutgoingFixMessage, (m.withLoaded encoder false rest).msgType =
            m.msgType := fun _ => rfl
        rw [htype, htype, hcut, List.append_assoc] at hbytes
        have hnot := (List.cons.inj (List.append_cancel_left hbytes)).1
        exact absurd hnot (by decide)
      · obtain ⟨hnil, hclear⟩ := isClear_of_encode_eq hextra hencode
        exact ⟨hclear, .inr ⟨hzero, hnext hnil⟩⟩
  · rintro ⟨⟨hheader, hbody, htrailer⟩, hkeeps⟩
    rw [loadedType_of_keeps hm hlength hkeeps, Option.map_some, Option.map_some, storedContent]
    congr 2
    dsimp only
    cases hadmin : isANonRetransmittableAdminMessageType msgType with
    | true => simp [OutgoingFixMessage.withLoaded, hheader, hbody, htrailer]
    | false => simp [OutgoingFixMessage.withLoaded, hheader, hbody, htrailer]

end

/-- A message with the tag 58 and the text, set and encoded. -/
def exampleHistory (value : Bytes) : List MessageCall := [.setTag .body 58 value 0, .encode]

/-- The fields behind tag 35 of a trade report with two sides: the tags of the group stand twice. -/
def exampleStoredFields : List (Tag × Bytes) :=
  [(tagMsgSeqNum, text "7"), (571, text "R1"), (552, text "2"), (54, text "1"), (37, text "B"),
    (54, text "2"), (37, text "S")]

/-- A stored message of the type `AE`. -/
def exampleStored : Bytes :=
  (allFields (text "FIX.4.4") (text "AE") exampleStoredFields (text "000")).flatMap encodeField

theorem replayIndependent_iff_short :
    ∃ m, ({} : OutgoingFixMessageInstance).run {} (exampleHistory (text "AB")) = some m ∧
      (replayBytes exampleSettings {} 0 m exampleStored (text "20260101-00:00:09") 9 7 =
          some (encode exampleSettings {} (text "20260101-00:00:09") 9
            (storedContent {} (text "AE") exampleStoredFields) 7) ↔
        m.IsClear ∧ m.KeepsType (text "AE")) := by
  have hwire : LoadableWire (text "FIX.4.4") (text "AE") exampleStoredFields (text "000") :=
    ⟨by decide, by decide, by decide, by decide, by decide⟩
  refine ⟨_, rfl, ?_⟩
  have hrun : ({} : OutgoingFixMessageInstance).run {} (exampleHistory (text "AB")) = some _ := rfl
  exact replayIndependent_iff hwire (by decide) (by decide) hrun 0

/-- On a new instance the stored message is replayed with the type `AE`, behind a message with the
text `ABC` with the type `AEC`: the two replays are different. -/
theorem replayIndependent_fails :
    ∃ sent sent', replayBytes exampleSettings {} 0 {} exampleStored (text "20260101-00:00:09") 9 7 =
        some sent ∧
      (({} : OutgoingFixMessageInstance).run {} (exampleHistory (text "ABC"))).bind (fun m =>
        replayBytes exampleSettings {} 0 m exampleStored (text "20260101-00:00:09") 9 7) =
        some sent' ∧ sent ≠ sent' := by
  have hdifferent : (replayBytes exampleSettings {} 0 {} exampleStored (text "20260101-00:00:09")
      9 7).any (fun sent =>
        ((({} : OutgoingFixMessageInstance).run {} (exampleHistory (text "ABC"))).bind (fun m =>
          replayBytes exampleSettings {} 0 m exampleStored (text "20260101-00:00:09") 9 7)).any
            (fun sent' => sent ≠ sent')) = true := by
    decide +kernel
  obtain ⟨sent, hsent, hother⟩ := (Option.any_eq_true _ _).mp hdifferent
  obtain ⟨sent', hsent', hne⟩ := (Option.any_eq_true _ _).mp hother
  exact ⟨sent, sent', hsent, hsent', of_decide_eq_true hne⟩

end Llfix
