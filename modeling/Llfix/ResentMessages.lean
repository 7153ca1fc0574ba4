import Llfix.GapFillReplay
import Llfix.LinkedSides

/-!
# Messages that are sent again

What `resend_messages_to_server` and `resend_messages_to_client` send for a message of the
serialiser, as the peer parses it: the message itself, or a SequenceReset for one of the types that
are not sent again. The last processed number must not be in the header, and no tag that a resend
adds may be configured as a static header tag.

Results:
1. `resendMessage_stored`: what is sent for a message that was sent before.
2. `resent_parsed`: what the peer parses of it.
3. `feeds_replays`: the resends of a range take the peer to its end.
-/

namespace Llfix

open FixSession WellFormedWire

/-- A message that the serialiser holds: what was sent, at which time, and the last number that had
been processed then. -/
structure StoredMessage where
  original : OutgoingFixMessage
  sendingTime : Bytes
  incomingSeqNo : UInt32

namespace StoredMessage

/-- The bytes that the serialiser holds. -/
def bytes (settings : FixSessionSettings) (encoder : EncoderSettings) (m : StoredMessage)
    (sequenceNo : UInt32) : Bytes :=
  encode settings encoder m.sendingTime m.incomingSeqNo m.original sequenceNo

/-- The content that is sent again. -/
def resent (encoder : EncoderSettings) (includeT97 : Bool) (m : StoredMessage)
    (sequenceNo : UInt32) : OutgoingFixMessage :=
  if isANonRetransmittableAdminMessageType m.original.msgType then
    gapFillContent includeT97 m.sendingTime sequenceNo
  else
    (loadedMessage encoder m.sendingTime m.incomingSeqNo m.original).withResendTags includeT97

/-- A message that can be encoded and whose type has one character. It has none of the tags that a
resend adds. -/
structure Resendable (settings : FixSessionSettings) (encoder : EncoderSettings)
    (m : StoredMessage) : Prop where
  session : EncodableSession settings encoder m.sendingTime
  message : EncodableMessage encoder m.original
  single : m.original.msgType.length = 1
  tags : ∀ tag ∈ fieldTags m.original.fields,
    tag ∉ [tagPossDupFlag, tagPossResend, tagOrigSendingTime]

end StoredMessage

/-- The settings of the encoder do not collide with what a resend or a gap fill adds. -/
structure EncoderSettings.AllowsResends (encoder : EncoderSettings) (includeT97 : Bool) :
    Prop where
  noLast : encoder.includeLastProcessedSeqnumInHeader = false
  notStatic : ∀ tag ∈ addedTags includeT97, tag ∉ fieldTags encoder.additionalStaticHeaderTags
  noGapFillFlag : tagGapFillFlag ∉ fieldTags encoder.additionalStaticHeaderTags

section Resent

variable {settings : FixSessionSettings} {encoder : EncoderSettings} {includeT97 : Bool}
  {m : StoredMessage} {inst : OutgoingFixMessageInstance} {sendingTime : Bytes}
  {incomingSeqNo sequenceNo : UInt32}

/-- Of fields with distinct tags, those with the tag of one. -/
theorem filter_of_nodup {fields : List (Tag × Bytes)} (hnodup : (fieldTags fields).Nodup)
    {tag : Tag} {value : Bytes} (hmem : (tag, value) ∈ fields) :
    fields.filter (·.1 = tag) = [(tag, value)] := by
  have hlength : (fields.filter (·.1 = tag)).length = 1 := by
    have hcount : (fieldTags fields).count tag = 1 :=
      List.count_eq_one_of_mem hnodup (List.mem_map_of_mem hmem)
    rw [fieldTags, List.count, List.countP_map, List.countP_eq_length_filter] at hcount
    simpa [Function.comp_def, beq_eq_decide] using hcount
  obtain ⟨only, honly⟩ := List.length_eq_one_iff.mp hlength
  have hfield : (tag, value) ∈ fields.filter (·.1 = tag) :=
    List.mem_filter.mpr ⟨hmem, decide_eq_true rfl⟩
  rw [honly] at hfield ⊢
  rw [List.mem_singleton.mp hfield]

/-- A message that was sent, as a stored admin message. -/
theorem StoredMessage.Resendable.stored (h : m.Resendable settings encoder) {c : UInt8}
    (hc : m.original.msgType = [c]) (hadmin : isANonRetransmittableAdminMessageType [c] = true)
    (sequenceNo : UInt32) :
    ∃ checksum, StoredAdminMessage encoder settings.beginString c
        (restFields settings encoder m.sendingTime m.incomingSeqNo m.original sequenceNo) checksum
        sequenceNo m.sendingTime ∧
      m.bytes settings encoder sequenceNo = (allFields settings.beginString [c]
        (restFields settings encoder m.sendingTime m.incomingSeqNo m.original sequenceNo)
          checksum).flatMap encodeField := by
  have hwell := encode_wellFormed m.incomingSeqNo sequenceNo h.session h.message
  have hbytes : m.bytes settings encoder sequenceNo =
      (allFields settings.beginString m.original.msgType (restFields settings encoder m.sendingTime
        m.incomingSeqNo m.original sequenceNo) _).flatMap encodeField :=
    encode_eq_allFields m.incomingSeqNo sequenceNo
  rw [hc] at hwell hbytes
  have hnodup : (fieldTags (restFields settings encoder m.sendingTime m.incomingSeqNo m.original
      sequenceNo)).Nodup :=
    (List.nodup_cons.mp (List.nodup_cons.mp (List.nodup_cons.mp
      (List.nodup_cons.mp hwell.distinct).2).2).2).2
  refine ⟨_, ⟨hwell.loadable, ?_, ?_, ?_⟩, hbytes⟩
  · exact of_decide_eq_true ((List.contains_eq_mem ..).symm.trans hadmin)
  · refine filter_of_nodup hnodup ?_
    rw [restFields_eq]
    exact List.mem_append_left _ (by simp [sessionFields])
  · refine filter_of_nodup hnodup ?_
    rw [restFields_eq]
    exact List.mem_append_left _ (by simp [sessionFields])

/-- What is sent for a message that was sent before. -/
theorem resendMessage_stored (h : m.Resendable settings encoder)
    (hsession : EncodableSession settings encoder sendingTime) (uninitialised : UInt8)
    (hclear : inst.IsClear) (incomingSeqNo sequenceNo : UInt32) :
    resendMessage settings encoder includeT97 uninitialised inst
        (m.bytes settings encoder sequenceNo) sendingTime incomingSeqNo sequenceNo =
      some (encode settings encoder sendingTime incomingSeqNo
        (m.resent encoder includeT97 sequenceNo) sequenceNo) := by
  obtain ⟨c, hc⟩ := List.length_eq_one_iff.mp h.single
  unfold StoredMessage.resent
  cases hadmin : isANonRetransmittableAdminMessageType m.original.msgType with
  | true =>
    rw [hc] at hadmin
    obtain ⟨checksum, hstored, hbytes⟩ := h.stored hc hadmin sequenceNo
    rw [hbytes, if_pos rfl]
    exact resendMessage_admin hsession hstored includeT97 uninitialised hclear incomingSeqNo
  | false =>
    have hload := loadFromBuffer_encoded h.session h.message h.single hadmin uninitialised hclear
      m.incomingSeqNo sequenceNo
    obtain ⟨loaded, hloaded, hcontent⟩ := Option.map_eq_some_iff.mp hload
    rw [StoredMessage.bytes, resendMessage, hloaded, Option.map_some]
    dsimp only
    rw [foldl_resendTags, hcontent, if_neg Bool.false_ne_true]

/-- The tags in front of the message. -/
theorem addedInFront (includeT97 : Bool) (sendingTime : Bytes) :
    fieldTags ((tagOrigSendingTime, sendingTime) :: resendTags includeT97) =
      tagOrigSendingTime :: tagPossDupFlag :: if includeT97 then [tagPossResend] else [] := by
  cases includeT97 with
  | true => rfl
  | false => rfl

theorem addedInFront_added {tag : Tag}
    (htag : tag ∈ fieldTags ((tagOrigSendingTime, sendingTime) :: resendTags includeT97)) :
    tag ∈ addedTags includeT97 ∧ tag ∈ [tagPossDupFlag, tagPossResend, tagOrigSendingTime] := by
  have hall : ∀ tag ∈ tagOrigSendingTime :: tagPossDupFlag ::
      if includeT97 then [tagPossResend] else [],
      tag ∈ addedTags includeT97 ∧ tag ∈ [tagPossDupFlag, tagPossResend, tagOrigSendingTime] := by
    cases includeT97 with
    | true => exact forall_tag_of_all (by decide)
    | false => exact forall_tag_of_all (by decide)
  rw [addedInFront] at htag
  exact hall tag htag

theorem addedInFront_values (htime : IsValue sendingTime) :
    ∀ field ∈ (tagOrigSendingTime, sendingTime) :: resendTags includeT97, IsValue field.2 := by
  have hyes : IsValue [fixBooleanTrue] := by decide
  intro field hfield
  rcases List.mem_cons.mp hfield with rfl | hfield
  · exact htime
  · unfold resendTags at hfield
    rcases List.mem_cons.mp hfield with rfl | hfield
    · exact hyes
    · split at hfield
      · rw [List.mem_singleton.mp hfield]
        exact hyes
      · exact absurd hfield List.not_mem_nil

/-- The fields of an application message that is sent again. -/
theorem resent_fields (hlast : encoder.includeLastProcessedSeqnumInHeader = false)
    (m : StoredMessage) :
    ((loadedMessage encoder m.sendingTime m.incomingSeqNo m.original).withResendTags
        includeT97).fields =
      (tagOrigSendingTime, m.sendingTime) :: resendTags includeT97 ++ m.original.fields := by
  simp [OutgoingFixMessage.fields, OutgoingFixMessage.withResendTags, loadedMessage, hlast]

/-- What is sent again can be encoded. -/
theorem resent_encodable (h : m.Resendable settings encoder)
    (hallows : encoder.AllowsResends includeT97) (sequenceNo : UInt32) :
    EncodableMessage encoder (m.resent encoder includeT97 sequenceNo) := by
  have htime : IsValue m.sendingTime := h.session.sendingTime
  unfold StoredMessage.resent
  cases isANonRetransmittableAdminMessageType m.original.msgType with
  | true => exact gapFillContent_encodable htime hallows.notStatic sequenceNo
  | false =>
    have hfields : ((loadedMessage encoder m.sendingTime m.incomingSeqNo
        m.original).withResendTags includeT97).fields = _ := resent_fields hallows.noLast m
    have hgap := gapFillContent_encodable htime hallows.notStatic sequenceNo
    rw [if_neg Bool.false_ne_true]
    refine ⟨h.message.msgType, ?_, ?_, ?_⟩
    · rw [hfields]
      intro field hfield
      rcases List.mem_append.mp hfield with hfield | hfield
      · exact addedInFront_values htime field hfield
      · exact h.message.values field hfield
    · rw [hfields, fieldTags_append]
      intro tag htag
      rcases List.mem_append.mp htag with htag | htag
      · exact hgap.tags tag ((mem_addedTags _ _ _ tag).mpr (addedInFront_added htag).1)
      · exact h.message.tags tag htag
    · rw [hfields, fieldTags_append]
      refine List.nodup_append.mpr ⟨?_, h.message.distinct, ?_⟩
      · rw [addedInFront]
        cases includeT97 with
        | true => decide
        | false => decide
      · rintro tag htag _ hset rfl
        exact h.tags tag hset (addedInFront_added htag).2

/-- What the peer parses of a message that is sent again. -/
theorem resent_parsed (h : m.Resendable settings encoder)
    (hsession : EncodableSession settings encoder sendingTime)
    (hallows : encoder.AllowsResends includeT97) (uninitialised : UInt8)
    (hclear : inst.IsClear) (incomingSeqNo sequenceNo : UInt32) :
    ∃ p, (resendMessage settings encoder includeT97 uninitialised inst
        (m.bytes settings encoder sequenceNo) sendingTime incomingSeqNo sequenceNo).bind
          (parseMessage {}) =
      some (p, encodedMessage settings encoder sendingTime incomingSeqNo
        (m.resent encoder includeT97 sequenceNo) sequenceNo) := by
  obtain ⟨p, -, hparse⟩ := parseMessage_encode incomingSeqNo sequenceNo hsession
    (resent_encodable h hallows sequenceNo) []
  rw [List.append_nil] at hparse
  refine ⟨p, ?_⟩
  rw [resendMessage_stored h hsession uninitialised hclear, Option.bind_some]
  exact hparse

/-! ## At the peer -/

/-- A SequenceReset, as the peer parses it. -/
theorem encodedMessage_skipsTo (hsession : EncodableSession settings encoder sendingTime)
    {content : OutgoingFixMessage} (hmessage : EncodableMessage encoder content)
    (htype : content.msgType = [msgTypeSequenceReset]) {n : UInt32}
    (hnew : content.fields.lookup tagNewSeqNo = some (unsignedIntToChars (n + 1)))
    (hroom : n.toNat + 1 < 2 ^ 32) :
    (encodedMessage settings encoder sendingTime incomingSeqNo content sequenceNo).SkipsTo
      n.toNat := by
  obtain ⟨-, htags⟩ := encodedMessage_tags incomingSeqNo sequenceNo hsession hmessage
  have hown : tagNewSeqNo ∉ sessionTags encoder := by
    refine (hmessage.tags tagNewSeqNo ?_).2
    obtain ⟨before, after, hfields, -⟩ := List.lookup_eq_some_iff.mp hnew
    rw [hfields, fieldTags_append]
    exact List.mem_append_right _ List.mem_cons_self
  have hlookup := (htags tagNewSeqNo hown).trans hnew
  have hvalue : (encodedMessage settings encoder sendingTime incomingSeqNo content
      sequenceNo).message.getTagValue tagNewSeqNo = unsignedIntToChars (n + 1) := by
    rw [IncomingFixMessage.getTagValue, hlookup]
    rfl
  refine ⟨htype, ?_, ?_, ?_⟩
  · rw [IncomingFixMessage.hasTag, hlookup]
    rfl
  · rw [IncomingFixMessage.isTagValueNumeric, hvalue, unsignedIntToChars_isNumeric]
  · rw [IncomingFixMessage.getTagValueAsUInt32, hvalue, charsToUnsignedInt_unsignedIntToChars,
      UInt32.toNat_add]
    exact Nat.mod_eq_of_lt hroom

/-- The answer to a request that is not met by resends. -/
theorem gapFillMessage_encodable (hallows : encoder.AllowsResends includeT97) (s : FixSession) :
    EncodableMessage encoder s.buildGapFillMessage where
  msgType := by
    have htype : IsValue [msgTypeSequenceReset] := by decide
    exact htype
  values := by
    have hyes : IsValue [fixBooleanTrue] := by decide
    exact List.forall_mem_cons.mpr
      ⟨isValue_unsignedIntToChars _, List.forall_mem_singleton.mpr hyes⟩
  tags := by
    have hfixed : ∀ tag ∈ [tagNewSeqNo, tagGapFillFlag], 1 ≤ tag ∧
        tag ∉ [tagBeginString, tagBodyLength, tagChecksum, tagMsgType, tagMsgSeqNum,
          tagSenderCompId, tagSendingTime, tagTargetCompId] := forall_tag_of_all (by decide)
    intro tag htag
    obtain ⟨hpos, hown⟩ := hfixed tag htag
    refine ⟨hpos, ?_⟩
    rw [sessionTags_append, hallows.noLast, if_neg Bool.false_ne_true, List.nil_append,
      List.mem_append, not_or]
    refine ⟨hown, ?_⟩
    have hnew : tagNewSeqNo ∈ addedTags includeT97 :=
      List.mem_append_right _ (List.mem_cons_of_mem _ List.mem_cons_self)
    rcases List.mem_cons.mp htag with rfl | htag
    · exact hallows.notStatic _ hnew
    · rw [List.mem_singleton.mp htag]
      exact hallows.noGapFillFlag
  distinct := by
    show [tagNewSeqNo, tagGapFillFlag].Nodup
    decide

end Resent

/-! ## A range -/

theorem replayRange_cons {begin' last : UInt32} (h : begin' ≤ last)
    (hroom : last.toNat + 1 < 2 ^ 32) :
    replayRange begin' last = begin' :: replayRange (begin' + 1) last := by
  have hle := UInt32.le_iff_toNat_le.mp h
  have hnext : (begin' + 1).toNat = begin'.toNat + 1 := by
    rw [UInt32.toNat_add]
    exact Nat.mod_eq_of_lt (Nat.lt_of_le_of_lt (Nat.succ_le_succ hle) hroom)
  have hcount : (last - begin').toNat = last.toNat - begin'.toNat :=
    UInt32.toNat_sub_of_le _ _ h
  have hshift : ∀ n : Nat, begin' + (n + 1).toUInt32 = begin' + 1 + n.toUInt32 := fun n => by
    rw [UInt32.add_assoc, UInt32.add_comm 1]
    exact congrArg (begin' + ·) (UInt32.ofNat_add n 1)
  have hzero : begin' + (0 : Nat).toUInt32 = begin' := UInt32.add_zero _
  rw [replayRange, if_pos h, List.range_succ_eq_map, List.map_cons, hzero, List.map_map]
  refine congrArg (begin' :: ·) ?_
  rw [replayRange]
  split
  · next hmore =>
    have hcount' : (last - (begin' + 1)).toNat + 1 = (last - begin').toNat := by
      rw [UInt32.toNat_sub_of_le _ _ hmore, hcount, hnext]
      have hlt := UInt32.le_iff_toNat_le.mp hmore
      omega
    rw [hcount']
    exact List.map_congr_left fun n _ => hshift n
  · next hdone =>
    have hcount' : (last - begin').toNat = 0 := by
      rw [hcount, Nat.sub_eq_zero_iff_le]
      rw [UInt32.le_iff_toNat_le, hnext, Nat.not_le] at hdone
      exact Nat.le_of_lt_succ hdone
    rw [hcount']
    rfl

theorem replayRange_empty {begin' last : UInt32} (h : last < begin') :
    replayRange begin' last = [] := by
  rw [replayRange, if_neg (UInt32.not_le.mpr h)]

/-- What arrives for a number is what the peer parses of its resend. -/
def ArrivesResent (settings : FixSessionSettings) (encoder : EncoderSettings) (includeT97 : Bool)
    (m : StoredMessage) (n : UInt32) (rx : RxMessage) : Prop :=
  ∃ sendingTime uninitialised inst incomingSeqNo p,
    EncodableSession settings encoder sendingTime ∧
    OutgoingFixMessageInstance.IsClear inst ∧
    (resendMessage settings encoder includeT97 uninitialised inst (m.bytes settings encoder n)
      sendingTime incomingSeqNo n).bind (parseMessage {}) = some (p, rx)

section Range

variable {settings : FixSessionSettings} {encoder : EncoderSettings} {includeT97 : Bool}

/-- One resend takes the peer to its number. -/
theorem feeds_resent {m : StoredMessage} (h : m.Resendable settings encoder)
    (hallows : encoder.AllowsResends includeT97) {n last final : UInt32} {rx : RxMessage}
    (harrives : ArrivesResent settings encoder includeT97 m n rx) {k : Nat}
    (hn : n.toNat = k + 1) (hlast : last.toNat + 1 < 2 ^ 32) {rest : List RxMessage}
    (hrest : Feeds true last final (k + 1) rest) : Feeds true last final k (rx :: rest) := by
  obtain ⟨sendingTime, uninitialised, inst, incomingSeqNo, p, hsession, hclear, hparse⟩ := harrives
  obtain ⟨p', hparse'⟩ := resent_parsed h hsession hallows uninitialised hclear incomingSeqNo n
  obtain ⟨-, rfl⟩ := Prod.mk.inj (Option.some.inj (hparse'.symm.trans hparse))
  have hseq : (encodedMessage settings encoder sendingTime incomingSeqNo
      (m.resent encoder includeT97 n) n).seqNum.toNat = k + 1 := by
    rw [encodedMessage_seqNum, hn]
  have hencodable := resent_encodable h hallows n
  cases hadmin : isANonRetransmittableAdminMessageType m.original.msgType with
  | true =>
    have hcontent : m.resent encoder includeT97 n = gapFillContent includeT97 m.sendingTime n :=
      if_pos hadmin
    have hroom : n.toNat + 1 < 2 ^ 32 := by
      rw [hn]
      exact Nat.lt_of_le_of_lt (Nat.succ_le_succ hrest.le) hlast
    have hskips : (encodedMessage settings encoder sendingTime incomingSeqNo
        (m.resent encoder includeT97 n) n).SkipsTo n.toNat := by
      refine encodedMessage_skipsTo hsession hencodable ?_ ?_ hroom
      · rw [hcontent]
        rfl
      · rw [hcontent]
        cases includeT97 with
        | true => rfl
        | false => rfl
    rw [← hn] at hrest
    exact .skip rfl hlast hseq hskips (hn ▸ Nat.lt_succ_self k) hrest
  | false =>
    refine .resend rfl hlast hseq ?_ hrest
    have htype : (encodedMessage settings encoder sendingTime incomingSeqNo
        (m.resent encoder includeT97 n) n).msgType = (m.resent encoder includeT97 n).msgType := rfl
    rw [htype, StoredMessage.resent, hadmin, if_neg Bool.false_ne_true]
    exact hadmin

/-- The resends of the numbers behind `k` take the peer to the last of them. -/
theorem feeds_replays (hallows : encoder.AllowsResends includeT97)
    {stored : UInt32 → StoredMessage} {arrives : UInt32 → RxMessage} {begin' last final : UInt32}
    (hlast : last.toNat + 1 < 2 ^ 32)
    (hstored : ∀ n, begin' ≤ n → n ≤ last → (stored n).Resendable settings encoder ∧
      ArrivesResent settings encoder includeT97 (stored n) n (arrives n))
    {k : Nat} (hbegin : begin'.toNat = k + 1) (hle : k ≤ last.toNat) {new : List RxMessage}
    (hnew : Feeds true last final last.toNat new) :
    Feeds true last final k ((replayRange begin' last).map arrives ++ new) := by
  obtain ⟨count, hcount⟩ := Nat.exists_eq_add_of_le hle
  induction count generalizing begin' k with
  | zero =>
    have hlt : last < begin' := by
      rw [UInt32.lt_iff_toNat_lt, hbegin, hcount]
      exact Nat.lt_succ_self k
    have hdone : k = last.toNat := hcount.symm
    rw [replayRange_empty hlt, hdone]
    exact hnew
  | succ count ih =>
    have hle' : begin' ≤ last := by
      rw [UInt32.le_iff_toNat_le, hbegin, hcount]
      omega
    have hroom : k + 1 + 1 < 2 ^ 32 := by omega
    have hnext : (begin' + 1).toNat = k + 1 + 1 := by
      rw [UInt32.toNat_add, hbegin]
      exact Nat.mod_eq_of_lt hroom
    rw [replayRange_cons hle' hlast, List.map_cons, List.cons_append]
    obtain ⟨hresendable, harrives⟩ := hstored begin' (UInt32.le_refl _) hle'
    refine feeds_resent hresendable hallows harrives hbegin hlast ?_
    refine ih (fun n hn => hstored n (UInt32.le_trans ?_ hn)) hnext ?_ ?_
    · rw [UInt32.le_iff_toNat_le, hnext, hbegin]
      exact Nat.le_succ _
    · omega
    · omega

/-- An application message that is sent again has its own type and tags for the peer. -/
theorem resent_kept {m : StoredMessage} (h : m.Resendable settings encoder)
    (hallows : encoder.AllowsResends includeT97) {n : UInt32} {rx : RxMessage}
    (harrives : ArrivesResent settings encoder includeT97 m n rx)
    (happlication : isANonRetransmittableAdminMessageType m.original.msgType = false) :
    rx.msgType = m.original.msgType ∧
      ∀ tag, tag ∉ sessionTags encoder →
        tag ∉ [tagPossDupFlag, tagPossResend, tagOrigSendingTime] →
          rx.message.tags.lookup tag = m.original.fields.lookup tag := by
  obtain ⟨sendingTime, uninitialised, inst, incomingSeqNo, p, hsession, hclear, hparse⟩ := harrives
  obtain ⟨p', hparse'⟩ := resent_parsed h hsession hallows uninitialised hclear incomingSeqNo n
  obtain ⟨-, rfl⟩ := Prod.mk.inj (Option.some.inj (hparse'.symm.trans hparse))
  have hencodable := resent_encodable h hallows n
  have hcontent : m.resent encoder includeT97 n = (loadedMessage encoder m.sendingTime
      m.incomingSeqNo m.original).withResendTags includeT97 := by
    rw [StoredMessage.resent, happlication, if_neg Bool.false_ne_true]
  obtain ⟨-, htags⟩ := encodedMessage_tags incomingSeqNo n hsession hencodable
  constructor
  · show (m.resent encoder includeT97 n).msgType = _
    rw [hcontent]
    rfl
  · intro tag hown hadded
    have hnone : List.lookup tag ((tagOrigSendingTime, m.sendingTime) :: resendTags includeT97) =
        none := by
      refine List.lookup_eq_none_iff.mpr fun field hfield => ?_
      refine bne_iff_ne.mpr fun heq => hadded ?_
      have hmem := List.mem_map_of_mem (f := Prod.fst) hfield
      exact (addedInFront_added (heq ▸ hmem)).2
    rw [htags tag hown, hcontent, resent_fields hallows.noLast, List.lookup_append, hnone]
    rfl

end Range

end Llfix
