import Llfix.Checksum
import Llfix.ReceivedMessage
import Llfix.TagNumbers

/-!
# The spelling of tag 10

`validate_fix_message` sums all bytes of a message but the last seven and compares the number in
tag 10 with the sum: the field may be spelled in other ways than `10=` and three digits.

Results:
1. `parseMessage_last`: a message ends with the field that is recorded as tag 10.
2. `checksumAcceptance_iff`: when a message that is accepted has the right checksum.
3. `checksumAcceptance_fails`: a message with `10=0210` is accepted, whose checksum is 161.
-/

namespace Llfix

namespace IncomingFixMessage

theorem lookup_snoc (m : IncomingFixMessage) (tag key : Tag) (value : Bytes) :
    (m.tags ++ [(tag, value)]).lookup key =
      (m.tags.lookup key).or (if key = tag then some value else none) := by
  rw [List.lookup_append]
  congr 1
  split
  next h =>
    rw [h]
    exact List.lookup_cons_self
  next h =>
    rw [List.lookup_cons, beq_eq_false_iff_ne.mpr h]
    rfl

end IncomingFixMessage

namespace MessageParser

/-! ## The last field -/

/-- Only a field that ends the message is recorded as tag 10. -/
theorem endOfPart_hasTag_checksum {p : MessageParser} {specs : RepeatingGroupSpecs} {start : Nat}
    {part : Bytes} (hp : p.message.hasTag tagChecksum = false)
    (hgoes : (p.endOfPart specs start part).reachedChecksum = false) :
    (p.endOfPart specs start part).message.hasTag tagChecksum = false := by
  unfold endOfPart at hgoes ⊢
  cases hfield : fieldOf part with
  | none => exact hp
  | some field =>
    obtain ⟨tag, value⟩ := field
    rw [hfield] at hgoes
    dsimp only at hgoes ⊢
    rw [endOfValue_reachedChecksum, Bool.or_eq_false_iff] at hgoes
    let f : ReadField := ⟨p, start, tag, value⟩
    show (f.after specs).message.hasTag tagChecksum = false
    cases hformat : isTagFormat tag with
    | false =>
      rw [f.after_of_no_format specs hformat]
      exact (congrArg (fun stored => stored.1.hasTag tagChecksum) (rejectIf_stored _ _ _)).trans hp
    | true =>
      have hne : tagChecksum ≠ charsToUnsignedInt tag := by
        intro heq
        have hreads : readsAsChecksumTag tag = true := by
          rw [readsAsChecksumTag, ← isTagFormat, hformat, heq]
          simp
        exact Bool.false_ne_true (hgoes.2.symm.trans hreads)
      have hstored := recordTag_stored
        (p.rejectIf (value.length = 0) fixErrorCodeTagWithoutValue) specs start
        (charsToUnsignedInt tag) value
      rw [← f.after_of_format specs hformat, rejectIf_stored, storedWith_rejectIf] at hstored
      have hmessage := congrArg Prod.fst hstored
      split at hmessage
      next =>
        unfold storedWith at hmessage
        split at hmessage
        next =>
          exact (congrArg (·.hasTag tagChecksum) hmessage).trans hp
        next =>
          refine (congrArg (·.hasTag tagChecksum) hmessage).trans ?_
          rw [IncomingFixMessage.hasTag] at hp ⊢
          rw [IncomingFixMessage.lookup_snoc, if_neg hne, Option.or_none]
          exact hp
      next =>
        exact (congrArg (·.hasTag tagChecksum) hmessage).trans hp

/-- The text of the field. -/
def ReadField.part (f : ReadField) : Bytes := f.tag ++ fixEquals :: f.value

/-- The loop ends with the field `f`, which is read as tag 10 and is the first that is. -/
structure EndsWith (specs : RepeatingGroupSpecs) (start : Nat) (parts : List Bytes)
    (result : MessageParser × Nat) (front : List Bytes) (f : ReadField) : Prop where
  parts_eq : ∃ rest, parts = front ++ f.part :: rest
  length_eq : result.2 = start + (joinParts (front ++ [f.part])).length
  field : fieldOf f.part = some (f.tag, f.value)
  reads : readsAsChecksumTag f.tag = true
  hasTag : f.before.message.hasTag tagChecksum = false
  result_eq : result.1 = f.after specs

theorem parseParts_endsWith {specs : RepeatingGroupSpecs} {p : MessageParser} {start : Nat}
    {parts : List Bytes} {result : MessageParser × Nat} (hp : p.reachedChecksum = false)
    (htag : p.message.hasTag tagChecksum = false)
    (h : p.parseParts specs start parts = some result) :
    ∃ front f, EndsWith specs start parts result front f := by
  induction parts generalizing p start with
  | nil => cases h
  | cons part parts ih =>
    unfold parseParts at h
    dsimp only at h
    split at h
    next hend =>
      obtain rfl := Option.some.inj h
      unfold endOfPart at hend ⊢
      cases hfield : fieldOf part with
      | none =>
        rw [hfield] at hend
        exact absurd hend (by
          show ¬ p.reachedChecksum = true
          rw [hp]
          exact Bool.false_ne_true)
      | some field =>
        obtain ⟨tag, value⟩ := field
        have hpart : part = tag ++ fixEquals :: value := fieldOf_eq_some hfield
        rw [hfield] at hend
        dsimp only at hend
        rw [endOfValue_reachedChecksum, hp, Bool.false_or] at hend
        refine ⟨[], ⟨p, start, tag, value⟩, ⟨parts, ?_⟩, ?_, ?_, hend, htag, rfl⟩
        · rw [hpart]
          rfl
        · rw [List.nil_append, joinParts_singleton, List.length_append, List.length_singleton,
            ← Nat.add_assoc, hpart]
          rfl
        · show fieldOf (tag ++ fixEquals :: value) = some (tag, value)
          rw [← hpart, hfield]
    next hgoes =>
      have hgoes' := Bool.eq_false_iff.mpr hgoes
      obtain ⟨front, f, hf⟩ := ih hgoes' (endOfPart_hasTag_checksum htag hgoes') h
      obtain ⟨rest, hrest⟩ := hf.parts_eq
      refine ⟨part :: front, f, ⟨rest, ?_⟩, ?_, hf.field, hf.reads, hf.hasTag, hf.result_eq⟩
      · rw [hrest]
        rfl
      · have hjoin : joinParts (part :: front ++ [f.part]) =
            part ++ [fixDelimiter] ++ joinParts (front ++ [f.part]) := List.flatMap_cons
        rw [hf.length_eq, hjoin, List.length_append, List.length_append, List.length_singleton]
        omega

end MessageParser

open MessageParser

/-- The field at the end of a message. -/
def lastField (buffer : Bytes) : Option (Bytes × Bytes) :=
  (partsFrom [] buffer).getLast?.bind fieldOf

/-- A message that is handed over ends with the field that is read as tag 10, and what is
recorded as tag 10 is its value. -/
theorem parseMessage_last {specs : RepeatingGroupSpecs} {buffer : Bytes} {p : MessageParser}
    {rx : RxMessage} (h : parseMessage specs buffer = some (p, rx)) :
    ∃ before tag value, rx.buffer = before ++ tag ++ fixEquals :: value ++ [fixDelimiter] ∧
      lastField rx.buffer = some (tag, value) ∧ readsAsChecksumTag tag = true ∧
      (rx.message.hasTag tagChecksum = true → rx.message.getTagValue tagChecksum = value) := by
  have hparts : parse specs {} 0 0 [] none buffer = parseParts specs {} 0 (partsFrom [] buffer) :=
    parse_eq_parseParts specs {} rfl 0 [] List.not_mem_nil none buffer
  obtain ⟨result, hresult, heq⟩ := Option.map_eq_some_iff.mp h
  obtain ⟨-, rfl⟩ := Prod.mk.inj heq
  obtain ⟨front, f, hf⟩ := parseParts_endsWith rfl rfl (hparts.symm.trans hresult)
  obtain ⟨rest, hrest⟩ := hf.parts_eq
  -- The parser stops behind the part that is read as tag 10, the last one of the message.
  have htake : buffer.take result.2 = joinParts (front ++ [f.part]) := by
    obtain ⟨unread, hunread⟩ := exists_joinParts [] buffer
    have hjoin : joinParts (partsFrom [] buffer) =
        joinParts (front ++ [f.part]) ++ joinParts rest := by
      rw [hrest, ← joinParts_append, List.append_assoc]
      rfl
    rw [List.nil_append, hjoin, List.append_assoc] at hunread
    rw [hf.length_eq, Nat.zero_add, hunread, List.take_left']
    rfl
  have hread : partsFrom [] (joinParts (front ++ [f.part])) = front ++ [f.part] := by
    have hno : ∀ part ∈ front ++ [f.part], fixDelimiter ∉ part := by
      intro part hpart
      refine partsFrom_noDelimiter buffer List.not_mem_nil part ?_
      rw [hrest]
      rcases List.mem_append.mp hpart with hpart | hpart
      · exact List.mem_append_left _ hpart
      · rw [List.mem_singleton.mp hpart]
        exact List.mem_append_right _ List.mem_cons_self
    have hparts := partsFrom_joinParts hno []
    rwa [List.append_nil, partsFrom, List.append_nil] at hparts
  refine ⟨joinParts front, f.tag, f.value, ?_, ?_, hf.reads, ?_⟩
  · show buffer.take result.2 = _
    rw [htake, joinParts_append, joinParts_singleton, ReadField.part]
    simp
  · show lastField (buffer.take result.2) = _
    rw [htake, lastField, hread, List.getLast?_concat]
    exact hf.field
  · intro hhas
    have hformat : isTagFormat f.tag = true ∧ charsToUnsignedInt f.tag = tagChecksum := by
      have hreads := hf.reads
      rw [readsAsChecksumTag, ← isTagFormat, Bool.and_eq_true, decide_eq_true_eq] at hreads
      exact hreads
    have hstored := recordTag_stored
      (f.before.rejectIf (f.value.length = 0) fixErrorCodeTagWithoutValue) specs f.start
      (charsToUnsignedInt f.tag) f.value
    rw [← f.after_of_format specs hformat.1, rejectIf_stored, storedWith_rejectIf,
      ← hf.result_eq, hformat.2] at hstored
    have hmessage := congrArg Prod.fst hstored
    have hbefore := hf.hasTag
    -- Tag 10 was new at this field, or it would not be in the message at all.
    have hsame : result.1.message ≠ f.before.message := by
      intro hsame
      have hhas' : result.1.message.hasTag tagChecksum = true := hhas
      rw [hsame, hbefore] at hhas'
      exact Bool.false_ne_true hhas'
    show result.1.message.getTagValue tagChecksum = f.value
    split at hmessage
    next =>
      unfold storedWith at hmessage
      split at hmessage
      next => exact absurd hmessage hsame
      next =>
        rw [IncomingFixMessage.hasTag, Option.isSome_eq_false_iff, Option.isNone_iff_eq_none]
          at hbefore
        have htags : result.1.message.tags = f.before.message.tags ++ [(tagChecksum, f.value)] :=
          congrArg IncomingFixMessage.tags hmessage
        rw [IncomingFixMessage.getTagValue, htags, IncomingFixMessage.lookup_snoc, hbefore,
          if_pos rfl]
        rfl
    next => exact absurd hmessage hsame

/-! ## The last `10=` -/

/-- The bytes before the last `10=` of a text. -/
def beforeChecksum : Bytes → Option Bytes
  | [] => none
  | c :: rest =>
    match beforeChecksum rest with
    | some before => some (c :: before)
    | none => if (c :: rest).take 3 = text "10=" then some [] else none

theorem beforeChecksum_noEquals {buffer : Bytes} (h : fixEquals ∉ buffer) :
    beforeChecksum buffer = none := by
  induction buffer with
  | nil => rfl
  | cons c rest ih =>
    rw [List.mem_cons, not_or] at h
    rw [beforeChecksum, ih h.2]
    refine if_neg fun htext => ?_
    have hmem : fixEquals ∈ (c :: rest).take 3 := by
      rw [htext]
      decide
    rcases List.mem_cons.mp (List.mem_of_mem_take hmem) with hmem | hmem
    · exact h.1 hmem
    · exact h.2 hmem

theorem beforeChecksum_append {back before : Bytes} (h : beforeChecksum back = some before)
    (front : Bytes) : beforeChecksum (front ++ back) = some (front ++ before) := by
  induction front with
  | nil => exact h
  | cons c front ih =>
    rw [List.cons_append, beforeChecksum, ih]
    rfl

/-- Behind the `10=` of the last field there is no other one. -/
theorem beforeChecksum_spelled {value : Bytes} (h : fixEquals ∉ value) (front : Bytes) :
    beforeChecksum (front ++ (text "10=" ++ value)) = some front := by
  have hvalue := beforeChecksum_noEquals h
  have hlast : beforeChecksum (text "10=" ++ value) = some [] := by
    show beforeChecksum (49 :: 48 :: 61 :: value) = some []
    have hequals : beforeChecksum (61 :: value) = none := by
      rw [beforeChecksum, hvalue]
      exact if_neg fun htext => absurd (List.cons.inj htext).1 (by decide)
    have hzero : beforeChecksum (48 :: 61 :: value) = none := by
      rw [beforeChecksum, hequals]
      exact if_neg fun htext => absurd (List.cons.inj htext).1 (by decide)
    rw [beforeChecksum, hzero]
    exact if_pos rfl
  rw [beforeChecksum_append hlast, List.append_nil]

/-! ## Acceptance -/

/-- The value of tag 10 is three digits, and the sum of the bytes before the last `10=`. -/
def ChecksumExact (rx : RxMessage) : Prop :=
  (rx.message.getTagValue tagChecksum).length = 3 ∧
    (rx.message.getTagValue tagChecksum).all isDigit = true ∧
    ∃ before, beforeChecksum rx.buffer = some before ∧
      decimalValue (rx.message.getTagValue tagChecksum) = byteTotal before % 256

/-- The last field has three digits and a tag text that ends in `10`. (Of the texts that are read
as tag 10, `4294967306` and `8589934602` do not: with them the sums may agree by chance.) -/
def ChecksumSpelled (rx : RxMessage) : Prop :=
  ∃ tag value, lastField rx.buffer = some (tag, value) ∧ value.length = 3 ∧
    value.all isDigit = true ∧
    (text "10" <:+ tag ∨ ∃ before, beforeChecksum rx.buffer = some before ∧
      byteTotal before % 256 = byteTotal (rx.buffer.take (rx.buffer.length - 7)) % 256)

/-- In the usual spelling the last seven bytes start at the last `10=`. -/
theorem beforeChecksum_sevenBytes {before tag value : Bytes} (htag : text "10" <:+ tag)
    (hlength : value.length = 3) (hdigits : value.all isDigit = true) :
    let buffer := before ++ tag ++ fixEquals :: value ++ [fixDelimiter]
    beforeChecksum buffer = some (buffer.take (buffer.length - 7)) := by
  obtain ⟨zeros, rfl⟩ := htag
  dsimp only
  have hnoEquals : fixEquals ∉ value ++ [fixDelimiter] := by
    rw [List.mem_append, List.mem_singleton, not_or]
    refine ⟨fun hmem => ?_, by decide⟩
    exact absurd (List.all_eq_true.mp hdigits _ hmem) (by decide)
  have hbuffer : before ++ (zeros ++ text "10") ++ fixEquals :: value ++ [fixDelimiter] =
      (before ++ zeros) ++ (text "10=" ++ (value ++ [fixDelimiter])) := by
    have htext : text "10=" = text "10" ++ [fixEquals] := rfl
    rw [htext]
    simp only [List.append_assoc, List.cons_append, List.nil_append]
  have hseven : (text "10=" ++ (value ++ [fixDelimiter])).length = 7 := by
    rw [List.length_append, List.length_append, hlength]
    rfl
  rw [hbuffer, beforeChecksum_spelled hnoEquals, List.length_append, hseven, Nat.add_sub_cancel,
    List.take_left']
  rfl

/-- A message that is accepted has the right checksum in three digits exactly when it is spelled
so, or one of the checks refuses it. -/
theorem checksumAcceptance_iff {specs : RepeatingGroupSpecs} {buffer : Bytes} {p : MessageParser}
    {rx : RxMessage} (h : parseMessage specs buffer = some (p, rx))
    (settings : FixSessionSettings) (utcNow : Int) :
    (FixSession.validateFixMessage settings rx utcNow = .valid → ChecksumExact rx) ↔
      ChecksumSpelled rx ∨ FixSession.passesOtherChecks settings rx utcNow = false ∨
        rx.message.isTagValueNumeric tagChecksum = false ∨
        (rx.message.getTagValueAsUInt32 tagChecksum).toNat ≠
          byteTotal (rx.buffer.take (rx.buffer.length - 7)) % 256 := by
  obtain ⟨front, tag, value, hbuffer, hlast, -, hvalue⟩ := parseMessage_last h
  rw [FixSession.validateFixMessage_valid_iff]
  by_cases hchecks : FixSession.passesOtherChecks settings rx utcNow = true ∧
      rx.message.isTagValueNumeric tagChecksum = true ∧
      (rx.message.getTagValueAsUInt32 tagChecksum).toNat =
        byteTotal (rx.buffer.take (rx.buffer.length - 7)) % 256
  · obtain ⟨hother, hnumeric, hsum⟩ := hchecks
    have hhas : rx.message.hasTag tagChecksum = true := by
      by_contra hno
      rw [Bool.not_eq_true, IncomingFixMessage.hasTag, Option.isSome_eq_false_iff,
        Option.isNone_iff_eq_none] at hno
      rw [IncomingFixMessage.isTagValueNumeric, IncomingFixMessage.getTagValue, hno] at hnumeric
      exact absurd hnumeric (by decide)
    -- three digits are worth less than 2 ^ 32
    have hnumber : ∀ digits : Bytes, digits.length = 3 → digits.all isDigit = true →
        (charsToUnsignedInt digits).toNat = decimalValue digits := by
      intro digits hlength hdigits
      have hlt := decimalValue_lt hdigits
      rw [hlength] at hlt
      rw [charsToUnsignedInt_digits hdigits]
      omega
    rw [IncomingFixMessage.getTagValueAsUInt32, hvalue hhas] at hsum
    have hexact : ChecksumExact rx ↔ ChecksumSpelled rx := by
      rw [ChecksumExact, hvalue hhas]
      constructor
      · rintro ⟨hlength, hdigits, before, hbefore, htotal⟩
        refine ⟨tag, value, hlast, hlength, hdigits, .inr ⟨before, hbefore, ?_⟩⟩
        rw [← htotal, ← hsum, hnumber value hlength hdigits]
      · rintro ⟨tag', value', hlast', hlength, hdigits, hagrees⟩
        obtain ⟨rfl, rfl⟩ := Prod.mk.inj (Option.some.inj (hlast.symm.trans hlast'))
        refine ⟨hlength, hdigits, ?_⟩
        rw [← hnumber value hlength hdigits, hsum]
        rcases hagrees with htag | ⟨before, hbefore, htotal⟩
        · refine ⟨_, ?_, rfl⟩
          rw [hbuffer]
          exact beforeChecksum_sevenBytes htag hlength hdigits
        · exact ⟨before, hbefore, htotal.symm⟩
    rw [IncomingFixMessage.getTagValueAsUInt32, hvalue hhas]
    simp only [hother, hnumeric, hsum, hexact, true_and, ne_eq, not_true_eq_false,
      Bool.true_eq_false, or_false, forall_const]
  · refine iff_of_true (fun haccepted => absurd haccepted hchecks) (.inr ?_)
    simp only [not_and_or, Bool.not_eq_true] at hchecks
    exact hchecks

/-- A Heartbeat of the checksum 161 that ends in `10=0210`. -/
def fourDigitMessage : Bytes :=
  joinParts [text "8=FIX.4.4", text "9=48", text "35=0", text "34=1", text "49=PEER",
    text "52=20260101-00:00:00", text "56=LLFIX", text "10=0210"]

theorem fourDigitMessage_accepted :
    (parseMessage {} fourDigitMessage).any (fun result =>
      FixSession.validateFixMessage exampleSettings result.2 0 = .valid &&
        (result.2.message.getTagValue tagChecksum).length = 4) = true := by
  decide +kernel

theorem checksumAcceptance_iff_fourDigits :
    ∃ p rx, parseMessage {} fourDigitMessage = some (p, rx) ∧
      ((FixSession.validateFixMessage exampleSettings rx 0 = .valid → ChecksumExact rx) ↔
        ChecksumSpelled rx ∨ FixSession.passesOtherChecks exampleSettings rx 0 = false ∨
          rx.message.isTagValueNumeric tagChecksum = false ∨
          (rx.message.getTagValueAsUInt32 tagChecksum).toNat ≠
            byteTotal (rx.buffer.take (rx.buffer.length - 7)) % 256) := by
  have hparsed : (parseMessage {} fourDigitMessage).isSome = true := by decide +kernel
  obtain ⟨⟨p, rx⟩, hparse⟩ := Option.isSome_iff_exists.mp hparsed
  exact ⟨p, rx, hparse, checksumAcceptance_iff hparse exampleSettings 0⟩

/-- The message is accepted with four digits in tag 10 that are not its checksum. -/
theorem checksumAcceptance_fails :
    ∃ p rx, parseMessage {} fourDigitMessage = some (p, rx) ∧
      ¬ (FixSession.validateFixMessage exampleSettings rx 0 = .valid → ChecksumExact rx) := by
  have haccepted := fourDigitMessage_accepted
  cases hparse : parseMessage {} fourDigitMessage with
  | none =>
    rw [hparse] at haccepted
    exact nomatch haccepted
  | some result =>
    rw [hparse, Option.any_some, Bool.and_eq_true, decide_eq_true_eq, decide_eq_true_eq]
      at haccepted
    refine ⟨result.1, result.2, rfl, fun hexact => ?_⟩
    have hthree := (hexact haccepted.1).1
    rw [haccepted.2] at hthree
    exact absurd hthree (by decide)

end Llfix
