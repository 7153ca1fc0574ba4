import Llfix.Decimal
import Llfix.Parser

/-!
# Tag numbers

A tag text of up to ten digits is accepted, but its number is built modulo `2^32`: a text of ten
digits may stand for the tag of its low 32 bits.

Results:
1. `recordTag_stored`: what a field is stored as.
2. `parseMessage_leftWith`: the message that is handed over is the one of the fields read.
3. `exactTagNumbers_iff`: when the tags of a message text are exact.
4. `exactTagNumbers_fails`: a field of the tag text `4294967330` is recorded as MsgSeqNum.
-/

namespace Llfix

namespace MessageParser

/-! ## Reject codes -/

def isRejected (p : MessageParser) : Bool := p.parserRejectCode.isSome

section

variable (p : MessageParser)

@[simp] theorem reject_isRejected (code : UInt32) : (p.reject code).isRejected = true := rfl

@[simp] theorem rejectIf_isRejected (condition : Bool) (code : UInt32) :
    (p.rejectIf condition code).isRejected = (condition || p.isRejected) := by
  unfold rejectIf
  cases condition <;> rfl

@[simp] theorem updateRepeatingGroup_isRejected (specs : RepeatingGroupSpecs) (tag : Tag) :
    (p.updateRepeatingGroup specs tag).isRejected = p.isRejected := by
  unfold updateRepeatingGroup
  split_ifs <;> rfl

theorem setTag_isRejected (tag : Tag) (value : Bytes) (h : p.isRejected = true) :
    (p.setTag tag value).isRejected = true := by
  unfold setTag
  split_ifs
  · exact h
  · rfl
  · exact h

theorem validateTag9AndTag35_isRejected (start : Nat) (h : p.isRejected = true) :
    (p.validateTag9AndTag35 start).isRejected = true := by
  unfold validateTag9AndTag35
  cases p.currentTag35TagStartIndex with
  | none => rfl
  | some tag35Start =>
    dsimp only
    split_ifs
    · rw [rejectIf_isRejected, h, Bool.or_true]
    · rfl
    · rfl

theorem afterTag_isRejected (start : Nat) (tag : Tag) (value : Bytes) (h : p.isRejected = true) :
    (p.afterTag start tag value).isRejected = true := by
  unfold afterTag
  split_ifs
  · exact p.validateTag9AndTag35_isRejected start h
  · exact h
  · exact h

end

/-! ## One field -/

section Field

variable (p : MessageParser) (specs : RepeatingGroupSpecs) (start : Nat) (tag : Tag)
  (value : Bytes)

/-- The variables at the place where the field is stored. -/
def beforeSetTag : MessageParser :=
  let p := p.rejectIf (tag = 0) fixErrorCodeInvalidTagNumber
  (({ p with currentTagIndex := p.currentTagIndex + 1 } :
    MessageParser).validateHeaderTagsOrder tag).updateRepeatingGroup specs tag

theorem recordTag_eq :
    p.recordTag specs start tag value =
      ((p.beforeSetTag specs tag).setTag tag value).afterTag start tag value := rfl

theorem beforeSetTag_stored : (p.beforeSetTag specs tag).stored = p.stored := by
  rw [beforeSetTag, updateRepeatingGroup_stored, validateHeaderTagsOrder, rejectIf_stored]
  exact p.rejectIf_stored _ _

theorem beforeSetTag_inARepeatingGroup :
    (p.beforeSetTag specs tag).inARepeatingGroup =
      (p.updateRepeatingGroup specs tag).inARepeatingGroup := by
  refine updateRepeatingGroup_inARepeatingGroup p specs tag ?_
  rw [validateHeaderTagsOrder, rejectIf_groupState]
  exact p.rejectIf_groupState _ _

theorem beforeSetTag_isRejected (h : p.isRejected = true ∨ tag = 0) :
    (p.beforeSetTag specs tag).isRejected = true := by
  rw [beforeSetTag, updateRepeatingGroup_isRejected, validateHeaderTagsOrder, rejectIf_isRejected]
  have hzero : (p.rejectIf (tag = 0) fixErrorCodeInvalidTagNumber).isRejected = true := by
    rw [rejectIf_isRejected]
    rcases h with h | h
    · rw [h, Bool.or_true]
    · simp [h]
  rw [Bool.or_eq_true]
  exact .inr hzero

theorem setTag_stored (q : MessageParser) (hstored : q.stored = p.stored)
    (hin : q.inARepeatingGroup = (p.updateRepeatingGroup specs tag).inARepeatingGroup) :
    (q.setTag tag value).stored =
      if p.Stores specs tag then p.storedWith specs tag value else p.stored := by
  simp only [stored, Prod.mk.injEq] at hstored
  obtain ⟨hmessage, hgroups⟩ := hstored
  rcases Bool.eq_false_or_eq_true (p.updateRepeatingGroup specs tag).inARepeatingGroup with
    hopen | hopen
  · have hstores : p.Stores specs tag := .inl hopen
    rw [hopen] at hin
    rw [if_pos hstores, storedWith, if_pos hopen, setTag, if_neg (by rw [hin]; exact Bool.noConfusion)]
    show (q.message, q.repeatingGroups ++ _) = _
    rw [hmessage, hgroups]
  · rw [hopen] at hin
    rw [setTag, if_pos hin, hmessage]
    rcases Bool.eq_false_or_eq_true (p.message.hasTag tag) with hhas | hhas
    · have hstores : ¬ p.Stores specs tag := by
        rintro (h | h)
        · exact Bool.false_ne_true (hopen.symm.trans h)
        · exact Bool.false_ne_true (h.symm.trans hhas)
      rw [if_neg hstores, if_neg (by rw [hhas]; exact Bool.noConfusion)]
      show (q.message, q.repeatingGroups) = (p.message, p.repeatingGroups)
      rw [hmessage, hgroups]
    · have hstores : p.Stores specs tag := .inr hhas
      rw [if_pos hstores, if_pos hhas, storedWith, if_neg (by rw [hopen]; exact Bool.false_ne_true)]
      show (_, q.repeatingGroups) = _
      rw [hgroups]

theorem recordTag_stored :
    (p.recordTag specs start tag value).stored =
      if p.Stores specs tag then p.storedWith specs tag value else p.stored := by
  rw [recordTag_eq, afterTag_stored]
  exact p.setTag_stored specs tag value _ (p.beforeSetTag_stored specs tag)
    (p.beforeSetTag_inARepeatingGroup specs tag)

/-- A code that was there, tag 0, and a field that is not stored are refused. -/
theorem recordTag_isRejected (h : p.isRejected = true ∨ tag = 0 ∨ ¬ p.Stores specs tag) :
    (p.recordTag specs start tag value).isRejected = true := by
  rw [recordTag_eq]
  refine afterTag_isRejected _ start tag value ?_
  rcases h with h | h | h
  · exact setTag_isRejected _ tag value (p.beforeSetTag_isRejected specs tag (.inl h))
  · exact setTag_isRejected _ tag value (p.beforeSetTag_isRejected specs tag (.inr h))
  · have hmessage := (Prod.mk.inj (p.beforeSetTag_stored specs tag)).1
    rw [Stores, not_or] at h
    unfold setTag
    rw [p.beforeSetTag_inARepeatingGroup specs tag, hmessage, if_pos (Bool.eq_false_iff.mpr h.1),
      if_neg h.2]
    rfl

theorem endOfValue_isRejected (text : Bytes) (h : p.isRejected = true) :
    (p.endOfValue specs start text value).isRejected = true := by
  have hempty : (p.rejectIf (value.length = 0) fixErrorCodeTagWithoutValue).isRejected = true := by
    rw [rejectIf_isRejected, h, Bool.or_true]
  unfold endOfValue
  dsimp only
  split
  · exact recordTag_isRejected _ specs start _ value (.inl hempty)
  · rfl

theorem endOfPart_isRejected (part : Bytes) (h : p.isRejected = true) :
    (p.endOfPart specs start part).isRejected = true := by
  unfold endOfPart
  cases fieldOf part with
  | none => rfl
  | some field => exact p.endOfValue_isRejected specs start _ _ h

end Field

/-! ## All fields of a text -/

/-- A field with a tag text, and the variables at its end. -/
structure ReadField where
  before : MessageParser
  start : Nat
  tag : Bytes
  value : Bytes
deriving DecidableEq, Repr

/-- The variables behind the field. -/
def ReadField.after (f : ReadField) (specs : RepeatingGroupSpecs) : MessageParser :=
  f.before.endOfValue specs f.start f.tag f.value

/-- The fields that the loop reads, up to tag 10. -/
def fieldsRead (specs : RepeatingGroupSpecs) (p : MessageParser) (start : Nat) :
    List Bytes → List ReadField
  | [] => []
  | part :: parts =>
    let read := (fieldOf part).toList.map fun field => ⟨p, start, field.1, field.2⟩
    let p := p.endOfPart specs start part
    if p.reachedChecksum then read
    else read ++ fieldsRead specs p (start + part.length + 1) parts

/-- The variables when the loop is left. -/
def leftWith (specs : RepeatingGroupSpecs) (p : MessageParser) (start : Nat) :
    List Bytes → MessageParser
  | [] => p
  | part :: parts =>
    let p := p.endOfPart specs start part
    if p.reachedChecksum then p else p.leftWith specs (start + part.length + 1) parts

theorem leftWith_isRejected (specs : RepeatingGroupSpecs) (p : MessageParser) (start : Nat)
    (parts : List Bytes) (h : p.isRejected = true) :
    (p.leftWith specs start parts).isRejected = true := by
  induction parts generalizing p start with
  | nil => exact h
  | cons part parts ih =>
    have hpart := p.endOfPart_isRejected specs start part h
    unfold leftWith
    dsimp only
    split
    · exact hpart
    · exact ih _ _ hpart

/-- The variables of a message that is complete are those the loop is left with. -/
theorem parseParts_leftWith (specs : RepeatingGroupSpecs) {p : MessageParser}
    (hp : p.reachedChecksum = false) (start : Nat) (parts : List Bytes) :
    (p.parseParts specs start parts).map (·.1) =
      if (p.leftWith specs start parts).reachedChecksum then some (p.leftWith specs start parts)
      else none := by
  induction parts generalizing p start with
  | nil =>
    rw [leftWith, if_neg (by rw [hp]; exact Bool.false_ne_true)]
    rfl
  | cons part parts ih =>
    rcases Bool.eq_false_or_eq_true (p.endOfPart specs start part).reachedChecksum with hend | hend
    · have hleft : p.leftWith specs start (part :: parts) = p.endOfPart specs start part :=
        if_pos hend
      have hparse : p.parseParts specs start (part :: parts) =
          some (p.endOfPart specs start part, start + part.length + 1) :=
        if_pos hend
      rw [hleft, hparse, if_pos hend]
      rfl
    · have hgoes : ¬ (p.endOfPart specs start part).reachedChecksum = true := by
        rw [hend]
        exact Bool.false_ne_true
      have hleft : p.leftWith specs start (part :: parts) =
          (p.endOfPart specs start part).leftWith specs (start + part.length + 1) parts :=
        if_neg hgoes
      have hparse : p.parseParts specs start (part :: parts) =
          (p.endOfPart specs start part).parseParts specs (start + part.length + 1) parts :=
        if_neg hgoes
      rw [hleft, hparse]
      exact ih hend _

theorem parseMessage_leftWith {specs : RepeatingGroupSpecs} {buffer : Bytes} {p : MessageParser}
    {rx : RxMessage} (h : parseMessage specs buffer = some (p, rx)) :
    p = leftWith specs {} 0 (partsFrom [] buffer) := by
  have hparts : parse specs {} 0 0 [] none buffer = parseParts specs {} 0 (partsFrom [] buffer) :=
    parse_eq_parseParts specs {} rfl 0 [] List.not_mem_nil none buffer
  have hleft := parseParts_leftWith specs (p := {}) rfl 0 (partsFrom [] buffer)
  obtain ⟨result, hresult, heq⟩ := Option.map_eq_some_iff.mp h
  rw [← hparts, hresult] at hleft
  obtain rfl : result.1 = p := (Prod.mk.inj heq).1
  split at hleft
  next => exact Option.some.inj hleft
  next => exact nomatch hleft

/-- A field that is refused makes the message refused. -/
theorem leftWith_isRejected_of_field {specs : RepeatingGroupSpecs} {p : MessageParser}
    {start : Nat} {parts : List Bytes} {f : ReadField} (hf : f ∈ fieldsRead specs p start parts)
    (h : (f.after specs).isRejected = true) :
    (p.leftWith specs start parts).isRejected = true := by
  induction parts generalizing p start with
  | nil => exact absurd hf List.not_mem_nil
  | cons part parts ih =>
    have hfirst : f ∈ (fieldOf part).toList.map (fun field => ReadField.mk p start field.1 field.2) →
        (p.endOfPart specs start part).isRejected = true := by
      intro hmem
      obtain ⟨field, hfield, rfl⟩ := List.mem_map.mp hmem
      rw [endOfPart, Option.mem_toList.mp hfield]
      exact h
    unfold fieldsRead at hf
    unfold leftWith
    dsimp only at hf ⊢
    split at hf
    next hend =>
      rw [if_pos hend]
      exact hfirst hf
    next hgoes =>
      rw [if_neg hgoes]
      rcases List.mem_append.mp hf with hmem | hmem
      · exact leftWith_isRejected specs _ _ parts (hfirst hmem)
      · exact ih hmem

/-- No field is read after the message has ended. -/
theorem fieldsRead_reachedChecksum {specs : RepeatingGroupSpecs} {p : MessageParser}
    {start : Nat} {parts : List Bytes} (hp : p.reachedChecksum = false) {f : ReadField}
    (hf : f ∈ fieldsRead specs p start parts) : f.before.reachedChecksum = false := by
  induction parts generalizing p start with
  | nil => exact absurd hf List.not_mem_nil
  | cons part parts ih =>
    have hfirst : f ∈ (fieldOf part).toList.map (fun field => ReadField.mk p start field.1 field.2) →
        f.before.reachedChecksum = false := by
      intro hmem
      obtain ⟨field, -, rfl⟩ := List.mem_map.mp hmem
      exact hp
    unfold fieldsRead at hf
    dsimp only at hf
    split at hf
    next => exact hfirst hf
    next hgoes =>
      rcases List.mem_append.mp hf with hmem | hmem
      · exact hfirst hmem
      · exact ih (Bool.eq_false_iff.mpr hgoes) hmem

end MessageParser

/-! ## Exact tag numbers -/

open MessageParser

/-- The text is a decimal number. -/
def IsDecimal (tag : Bytes) : Prop := tag ≠ [] ∧ tag.all isDigit = true

instance (tag : Bytes) : Decidable (IsDecimal tag) := inferInstanceAs (Decidable (_ ∧ _))

/-- The field is recorded under the tag: in the dictionary or in the repeating group store. -/
def MessageParser.ReadField.RecordedUnder (f : ReadField) (specs : RepeatingGroupSpecs)
    (tag : Tag) : Prop :=
  (f.after specs).message.tags = f.before.message.tags ++ [(tag, f.value)] ∨
    (f.after specs).repeatingGroups = f.before.repeatingGroups ++ [(tag, f.value)]

instance (f : ReadField) (specs : RepeatingGroupSpecs) (tag : Tag) :
    Decidable (f.RecordedUnder specs tag) :=
  inferInstanceAs (Decidable (_ ∨ _))

/-- What a message text is read as when tag numbers are exact. -/
structure ExactTagNumbers (specs : RepeatingGroupSpecs) (buffer : Bytes) : Prop where
  recorded : ∀ f ∈ fieldsRead specs {} 0 (partsFrom [] buffer), ∀ tag, f.RecordedUnder specs tag →
    IsDecimal f.tag ∧ decimalValue f.tag = tag.toNat
  rejected : ∀ f ∈ fieldsRead specs {} 0 (partsFrom [] buffer),
    ¬ (IsDecimal f.tag ∧ 1 ≤ decimalValue f.tag ∧ decimalValue f.tag < 4294967296) →
      (leftWith specs {} 0 (partsFrom [] buffer)).parserRejectCode.isSome = true
  distinct : ∀ f ∈ fieldsRead specs {} 0 (partsFrom [] buffer),
    ∀ f' ∈ fieldsRead specs {} 0 (partsFrom [] buffer), ∀ tag, f.RecordedUnder specs tag →
      f'.RecordedUnder specs tag → decimalValue f.tag = decimalValue f'.tag
  ends : ∀ f ∈ fieldsRead specs {} 0 (partsFrom [] buffer), (f.after specs).reachedChecksum = true →
    IsDecimal f.tag ∧ decimalValue f.tag = 10

/-- A tag text that is too large is not taken for the tag of its low 32 bits: that tag is not 10,
has been recorded before, and no group is open. -/
def NotAliased (specs : RepeatingGroupSpecs) (buffer : Bytes) : Prop :=
  ∀ f ∈ fieldsRead specs {} 0 (partsFrom [] buffer), isTagFormat f.tag = true →
    4294967296 ≤ decimalValue f.tag →
      ¬ f.before.Stores specs (charsToUnsignedInt f.tag) ∧ charsToUnsignedInt f.tag ≠ tagChecksum

/-- `8=A|9=5|35=D|4294967330=7|10=000|`. -/
def aliasedMessage : Bytes :=
  text "8=A" ++ [fixDelimiter] ++ text "9=5" ++ [fixDelimiter] ++ text "35=D" ++ [fixDelimiter] ++
    text "4294967330=7" ++ [fixDelimiter] ++ text "10=000" ++ [fixDelimiter]

/-- The field of the tag text `4294967330` is recorded as MsgSeqNum. -/
theorem exactTagNumbers_fails : ¬ ExactTagNumbers {} aliasedMessage := by
  intro hexact
  have haliased : ∃ f ∈ fieldsRead {} {} 0 (partsFrom [] aliasedMessage),
      f.RecordedUnder {} tagMsgSeqNum ∧ decimalValue f.tag ≠ tagMsgSeqNum.toNat := by
    decide +kernel
  obtain ⟨f, hf, hrecorded, hne⟩ := haliased
  exact hne (hexact.recorded f hf _ hrecorded).2

/-! ## The condition -/

namespace MessageParser

theorem stores_rejectIf (p : MessageParser) (condition : Bool) (code : UInt32)
    (specs : RepeatingGroupSpecs) (tag : Tag) :
    (p.rejectIf condition code).Stores specs tag ↔ p.Stores specs tag := by
  have hmessage := (Prod.mk.inj (p.rejectIf_stored condition code)).1
  rw [Stores, Stores, hmessage,
    updateRepeatingGroup_inARepeatingGroup p specs tag (p.rejectIf_groupState condition code)]

theorem storedWith_rejectIf (p : MessageParser) (condition : Bool) (code : UInt32)
    (specs : RepeatingGroupSpecs) (tag : Tag) (value : Bytes) :
    (p.rejectIf condition code).storedWith specs tag value = p.storedWith specs tag value := by
  obtain ⟨hmessage, hgroups⟩ := Prod.mk.inj (p.rejectIf_stored condition code)
  rw [storedWith, storedWith, hmessage, hgroups,
    updateRepeatingGroup_inARepeatingGroup p specs tag (p.rejectIf_groupState condition code)]

namespace ReadField

variable (f : ReadField) (specs : RepeatingGroupSpecs)

theorem after_of_format (h : isTagFormat f.tag = true) :
    f.after specs = (f.before.rejectIf (f.value.length = 0) fixErrorCodeTagWithoutValue).recordTag
      specs f.start (charsToUnsignedInt f.tag) f.value :=
  if_pos h

theorem after_of_no_format (h : isTagFormat f.tag = false) :
    f.after specs = (f.before.rejectIf (f.value.length = 0) fixErrorCodeTagWithoutValue).reject
      fixErrorCodeInvalidTagNumber :=
  if_neg (by rw [h]; exact Bool.false_ne_true)

/-- The field is recorded under the number that its text is converted to, and only if it is
stored. -/
theorem recordedUnder_iff (tag : Tag) :
    f.RecordedUnder specs tag ↔
      isTagFormat f.tag = true ∧ f.before.Stores specs (charsToUnsignedInt f.tag) ∧
        tag = charsToUnsignedInt f.tag := by
  have hgrown : ∀ (l : List (Tag × Bytes)) (x : Tag × Bytes), l ≠ l ++ [x] := by
    intro l x heq
    have hlength := congrArg List.length heq
    rw [List.length_append, List.length_singleton] at hlength
    omega
  have hsame : (f.after specs).stored = f.before.stored → ¬ f.RecordedUnder specs tag := by
    intro hstored
    obtain ⟨hmessage, hgroups⟩ := Prod.mk.inj hstored
    rintro (hrecorded | hrecorded)
    · rw [hmessage] at hrecorded
      exact hgrown _ _ hrecorded
    · rw [hgroups] at hrecorded
      exact hgrown _ _ hrecorded
  -- A field is recorded at most once: in the group that is open, or else among the tags.
  cases hformat : isTagFormat f.tag with
  | false =>
    refine iff_of_false (hsame ?_) fun h => Bool.false_ne_true h.1
    rw [f.after_of_no_format specs hformat]
    exact rejectIf_stored _ _ _
  | true =>
    have hafter := f.after_of_format specs hformat
    have hstored := recordTag_stored
      (f.before.rejectIf (f.value.length = 0) fixErrorCodeTagWithoutValue) specs f.start
      (charsToUnsignedInt f.tag) f.value
    rw [← hafter, rejectIf_stored, storedWith_rejectIf] at hstored
    by_cases hstores : f.before.Stores specs (charsToUnsignedInt f.tag)
    · rw [if_pos ((stores_rejectIf _ _ _ _ _).mpr hstores), storedWith] at hstored
      have htag : (f.RecordedUnder specs tag ↔ tag = charsToUnsignedInt f.tag) := by
        unfold RecordedUnder
        split at hstored
        next =>
          obtain ⟨hmessage, hgroups⟩ := Prod.mk.inj hstored
          rw [hmessage, hgroups]
          constructor
          · rintro (hrecorded | hrecorded)
            · exact absurd hrecorded (hgrown _ _)
            · exact (Prod.mk.inj (List.singleton_inj.mp (List.append_cancel_left hrecorded))).1.symm
          · rintro rfl
            exact .inr rfl
        next =>
          obtain ⟨hmessage, hgroups⟩ := Prod.mk.inj hstored
          rw [hmessage, hgroups]
          constructor
          · rintro (hrecorded | hrecorded)
            · exact (Prod.mk.inj (List.singleton_inj.mp (List.append_cancel_left hrecorded))).1.symm
            · exact absurd hrecorded (hgrown _ _)
          · rintro rfl
            exact .inl rfl
      rw [htag]
      exact ⟨fun h => ⟨rfl, hstores, h⟩, fun h => h.2.2⟩
    · rw [if_neg (mt (stores_rejectIf _ _ _ _ _).mp hstores)] at hstored
      exact iff_of_false (hsame hstored) fun h => hstores h.2.1

theorem after_reachedChecksum (h : f.before.reachedChecksum = false) :
    (f.after specs).reachedChecksum = true ↔
      isTagFormat f.tag = true ∧ charsToUnsignedInt f.tag = tagChecksum := by
  rw [after, endOfValue_reachedChecksum, h, Bool.false_or, readsAsChecksumTag, isTagFormat,
    Bool.and_eq_true, decide_eq_true_eq]

/-- A text that is no tag, tag 0, and a field that is not stored refuse the message. -/
theorem after_isRejected
    (h : isTagFormat f.tag = true → charsToUnsignedInt f.tag = 0 ∨
      ¬ f.before.Stores specs (charsToUnsignedInt f.tag)) :
    (f.after specs).isRejected = true := by
  cases hformat : isTagFormat f.tag with
  | false =>
    rw [f.after_of_no_format specs hformat]
    rfl
  | true =>
    rw [f.after_of_format specs hformat]
    refine recordTag_isRejected _ specs _ _ _ (.inr ?_)
    rcases h hformat with hzero | hstores
    · exact .inl hzero
    · exact .inr (mt (stores_rejectIf _ _ _ _ _).mp hstores)

end ReadField

theorem isTagFormat_iff (tag : Bytes) :
    isTagFormat tag = true ↔ IsDecimal tag ∧ tag.length ≤ 10 := by
  rw [isTagFormat, Bool.and_eq_true, Bool.and_eq_true, decide_eq_true_eq, decide_eq_true_eq,
    IsDecimal, List.length_pos_iff]
  exact ⟨fun h => ⟨⟨h.1.1, h.2⟩, h.1.2⟩, fun h => ⟨⟨h.1.1, h.2⟩, h.1.2⟩⟩

/-- A small number is converted exactly. -/
theorem charsToUnsignedInt_exact {tag : Bytes} (h : isTagFormat tag = true)
    (hlt : decimalValue tag < 4294967296) :
    (charsToUnsignedInt tag).toNat = decimalValue tag := by
  rw [charsToUnsignedInt_digits ((isTagFormat_iff tag).mp h).1.2, Nat.mod_eq_of_lt hlt]

end MessageParser

/-- A message text is read with exact tag numbers exactly when no tag text that is too large is
taken for the tag of its low 32 bits. -/
theorem exactTagNumbers_iff (specs : RepeatingGroupSpecs) (buffer : Bytes) :
    ExactTagNumbers specs buffer ↔ NotAliased specs buffer := by
  constructor
  · intro hexact f hf hformat hlarge
    refine ⟨fun hstores => ?_, fun hchecksum => ?_⟩
    · obtain ⟨-, hvalue⟩ := hexact.recorded f hf _
        ((f.recordedUnder_iff specs _).mpr ⟨hformat, hstores, rfl⟩)
      have hlt := (charsToUnsignedInt f.tag).toNat_lt
      omega
    · have hbefore := fieldsRead_reachedChecksum rfl hf
      obtain ⟨-, hvalue⟩ := hexact.ends f hf
        ((f.after_reachedChecksum specs hbefore).mpr ⟨hformat, hchecksum⟩)
      omega
  · intro hnot
    have hsmall : ∀ f ∈ fieldsRead specs {} 0 (partsFrom [] buffer), ∀ tag,
        f.RecordedUnder specs tag → IsDecimal f.tag ∧ decimalValue f.tag = tag.toNat := by
      intro f hf tag hrecorded
      obtain ⟨hformat, hstores, rfl⟩ := (f.recordedUnder_iff specs tag).mp hrecorded
      have hlt : decimalValue f.tag < 4294967296 := by
        by_contra hlarge
        exact (hnot f hf hformat (Nat.le_of_not_lt hlarge)).1 hstores
      exact ⟨((isTagFormat_iff _).mp hformat).1, (charsToUnsignedInt_exact hformat hlt).symm⟩
    refine ⟨hsmall, fun f hf hrange => ?_, fun f hf f' hf' tag hrecorded hrecorded' => ?_,
      fun f hf hends => ?_⟩
    · refine leftWith_isRejected_of_field hf (f.after_isRejected specs fun hformat => ?_)
      have hdecimal := ((isTagFormat_iff _).mp hformat).1
      by_cases hlt : decimalValue f.tag < 4294967296
      · have hzero : ¬ 1 ≤ decimalValue f.tag := fun hle => hrange ⟨hdecimal, hle, hlt⟩
        refine .inl (UInt32.toNat_inj.mp ?_)
        rw [charsToUnsignedInt_exact hformat hlt, Nat.eq_zero_of_not_pos hzero]
        rfl
      · exact .inr (hnot f hf hformat (Nat.le_of_not_lt hlt)).1
    · rw [(hsmall f hf tag hrecorded).2, (hsmall f' hf' tag hrecorded').2]
    · have hbefore := fieldsRead_reachedChecksum rfl hf
      obtain ⟨hformat, hchecksum⟩ := (f.after_reachedChecksum specs hbefore).mp hends
      have hlt : decimalValue f.tag < 4294967296 := by
        by_contra hlarge
        exact (hnot f hf hformat (Nat.le_of_not_lt hlarge)).2 hchecksum
      refine ⟨((isTagFormat_iff _).mp hformat).1, ?_⟩
      rw [← charsToUnsignedInt_exact hformat hlt, hchecksum]
      rfl

end Llfix
