import Llfix.Messages
import Llfix.RxBuffer

/-!
# The parser of one message

The inner loop of `process_rx_buffer`, from the begin string of a message to the delimiter of its
tag 10. The loops of `FixClient` and of `FixServer` are the same text. Positions are counted from
the begin string; only their differences matter.

Results:
1. `parse_eq_parseParts`: the loop over the bytes is one over the parts of the message.
2. `parse_messageEnd`: the message ends where `messageEnd` says.
-/

namespace Llfix

/-- What the repeating group specifications answer for a packed message type. -/
structure RepeatingGroupSpecs where
  isARepeatingGroupCountTag : UInt32 → Tag → Bool := fun _ _ => false
  isARepeatingGroupTag : UInt32 → Tag → Tag → Bool := fun _ _ _ => false

/-- `FixUtilities::pack_message_type`. The shift count of a 32-bit shift is taken modulo 32. -/
def packMessageType (mt : Bytes) : UInt32 :=
  mt.zipIdx.foldl (fun packed c => packed ||| c.1.toUInt32 <<< UInt32.ofNat (c.2 * 8)) 0

/-- `uint32_t(-1)`, the packed type before tag 35 is met. -/
def noMessageType : UInt32 := 4294967295

/-- The variables of the loop that live from one field to the next. `repeatingGroups` has the
fields given to `set_repeating_group_tag`. -/
structure MessageParser where
  message : IncomingFixMessage := {}
  repeatingGroups : List (Tag × Bytes) := []
  currentTag35TagStartIndex : Option Nat := none
  parserRejectCode : Option UInt32 := none
  currentTagIndex : UInt32 := 0
  encodedCurrentMessageType : UInt32 := noMessageType
  inARepeatingGroup : Bool := false
  currentRgCountTag : Tag := 0
  /-- The field of tag 10 has been read. -/
  reachedChecksum : Bool := false
deriving DecidableEq, Repr

namespace MessageParser

def reject (p : MessageParser) (code : UInt32) : MessageParser :=
  { p with parserRejectCode := some code }

/-- Assigns the code when the condition holds. -/
def rejectIf (p : MessageParser) (condition : Bool) (code : UInt32) : MessageParser :=
  if condition then p.reject code else p

/-- `validate_tag_format`, as far as it answers. -/
def isTagFormat (tag : Bytes) : Bool := 0 < tag.length && tag.length ≤ 10 && tag.all isDigit

/-- `validate_header_tags_order`. -/
def validateHeaderTagsOrder (p : MessageParser) (tag : Tag) : MessageParser :=
  p.rejectIf
    ((p.currentTagIndex = 1 && tag ≠ tagBeginString) ||
      (p.currentTagIndex = 2 && tag ≠ tagBodyLength) ||
      (p.currentTagIndex = 3 && tag ≠ tagMsgType))
    outOfOrderHeaderFields

/-- Whether the field opens a repeating group or ends one. -/
def updateRepeatingGroup (p : MessageParser) (specs : RepeatingGroupSpecs) (tag : Tag) :
    MessageParser :=
  if p.encodedCurrentMessageType ≠ noMessageType then
    if p.inARepeatingGroup = false then
      if specs.isARepeatingGroupCountTag p.encodedCurrentMessageType tag then
        { p with currentRgCountTag := tag, inARepeatingGroup := true }
      else p
    else if specs.isARepeatingGroupTag p.encodedCurrentMessageType p.currentRgCountTag tag = false
    then { p with inARepeatingGroup := false }
    else p
  else p

/-- The field is stored: in the dictionary, where a tag is kept once, or with the groups. -/
def setTag (p : MessageParser) (tag : Tag) (value : Bytes) : MessageParser :=
  if p.inARepeatingGroup = false then
    if p.message.hasTag tag = false then
      { p with message := { p.message with tags := p.message.tags ++ [(tag, value)] } }
    else p.reject fixErrorCodeTagAppearsMoreThanOnce
  else { p with repeatingGroups := p.repeatingGroups ++ [(tag, value)] }

theorem setTag_inARepeatingGroup (p : MessageParser) (tag : Tag) (value : Bytes) :
    (p.setTag tag value).inARepeatingGroup = p.inARepeatingGroup := by
  unfold setTag
  split_ifs <;> rfl

/-- `validate_tag9_and_tag35`. The body length and the positions are compared as `int`. -/
def validateTag9AndTag35 (p : MessageParser) (tag10StartIndex : Nat) : MessageParser :=
  match p.currentTag35TagStartIndex with
  | none => p.reject noTag35
  | some tag35StartIndex =>
    if p.message.hasTag tagBodyLength then
      if p.message.isTagValueNumeric tagBodyLength then
        p.rejectIf
          ((p.message.getTagValueAsUInt32 tagBodyLength).toInt32 ≠
            Int32.ofNat tag10StartIndex - Int32.ofNat tag35StartIndex)
          wrongBodyLength
      else p.reject invalidTag9
    else p.reject noTag9

/-- What follows the recording of a field: tag 10 ends the message, tag 35 gives its type. -/
def afterTag (p : MessageParser) (currentTagStart : Nat) (tag : Tag) (value : Bytes) :
    MessageParser :=
  if tag = tagChecksum then
    { p.validateTag9AndTag35 currentTagStart with reachedChecksum := true }
  else if tag = tagMsgType then
    { p with
      currentTag35TagStartIndex := some currentTagStart
      encodedCurrentMessageType := packMessageType value }
  else p

/-- The tag of a field is a number. -/
def recordTag (p : MessageParser) (specs : RepeatingGroupSpecs) (currentTagStart : Nat) (tag : Tag)
    (value : Bytes) : MessageParser :=
  let p := p.rejectIf (tag = 0) fixErrorCodeInvalidTagNumber
  let p := { p with currentTagIndex := p.currentTagIndex + 1 }
  let p := p.validateHeaderTagsOrder tag
  let p := p.updateRepeatingGroup specs tag
  (p.setTag tag value).afterTag currentTagStart tag value

/-- The branch of the loop for the delimiter behind a value. -/
def endOfValue (p : MessageParser) (specs : RepeatingGroupSpecs) (currentTagStart : Nat)
    (tag value : Bytes) : MessageParser :=
  let p := p.rejectIf (value.length = 0) fixErrorCodeTagWithoutValue
  if isTagFormat tag then p.recordTag specs currentTagStart (charsToUnsignedInt tag) value
  else p.reject fixErrorCodeInvalidTagNumber

/-- The inner loop, on the bytes from `currentIndex` on. `tag` is the text since
`currentTagStart`, and `value` the text behind its `=`, once that has been found. -/
def parse (specs : RepeatingGroupSpecs) (p : MessageParser) (currentIndex currentTagStart : Nat)
    (tag : Bytes) (value : Option Bytes) : Bytes → Option (MessageParser × Nat)
  | [] => none
  | currentChar :: rest =>
    match value with
    | none =>
      if currentChar = fixEquals then
        p.parse specs (currentIndex + 1) currentTagStart tag (some []) rest
      else if currentChar = fixDelimiter then
        (p.reject noEqualsSign).parse specs (currentIndex + 1) (currentIndex + 1) [] none rest
      else p.parse specs (currentIndex + 1) currentTagStart (tag ++ [currentChar]) none rest
    | some value =>
      if currentChar = fixDelimiter then
        let p := p.endOfValue specs currentTagStart tag value
        if p.reachedChecksum then some (p, currentIndex + 1)
        else p.parse specs (currentIndex + 1) (currentIndex + 1) [] none rest
      else
        p.parse specs (currentIndex + 1) currentTagStart tag (some (value ++ [currentChar])) rest

end MessageParser

/-! ## Fields -/

/-- The parts of a text that end with a delimiter; `part` is what stands before the text. -/
def partsFrom (part : Bytes) : Bytes → List Bytes
  | [] => []
  | c :: rest => if c = fixDelimiter then part :: partsFrom [] rest else partsFrom (part ++ [c]) rest

/-- The tag and the value of a part, on both sides of the first `=`. -/
def fieldOf : Bytes → Option (Bytes × Bytes)
  | [] => none
  | c :: rest =>
    if c = fixEquals then some ([], rest)
    else (fieldOf rest).map fun field => (c :: field.1, field.2)

/-- The text of parts, each behind the one before. -/
def joinParts (parts : List Bytes) : Bytes := parts.flatMap (· ++ [fixDelimiter])

theorem joinParts_append (front back : List Bytes) :
    joinParts (front ++ back) = joinParts front ++ joinParts back :=
  List.flatMap_append

theorem joinParts_singleton (part : Bytes) : joinParts [part] = part ++ [fixDelimiter] :=
  List.flatMap_singleton ..

/-- The parts stand at the begin of the text. -/
theorem exists_joinParts (part text : Bytes) :
    ∃ rest, part ++ text = joinParts (partsFrom part text) ++ rest := by
  induction text generalizing part with
  | nil => exact ⟨part, List.append_nil part⟩
  | cons c text ih =>
    by_cases hdelimiter : c = fixDelimiter
    · obtain ⟨rest, hrest⟩ := ih []
      refine ⟨rest, ?_⟩
      have hjoin : joinParts (part :: partsFrom [] text) =
          part ++ [c] ++ joinParts (partsFrom [] text) := by
        rw [hdelimiter]
        exact List.flatMap_cons
      rw [partsFrom, if_pos hdelimiter, hjoin, List.append_assoc (part ++ [c]), ← hrest]
      simp
    · obtain ⟨rest, hrest⟩ := ih (part ++ [c])
      refine ⟨rest, ?_⟩
      rw [partsFrom, if_neg hdelimiter, ← hrest]
      simp

theorem partsFrom_noDelimiter {part : Bytes} (text : Bytes) (h : fixDelimiter ∉ part) :
    ∀ read ∈ partsFrom part text, fixDelimiter ∉ read := by
  induction text generalizing part with
  | nil => exact fun read hread => absurd hread List.not_mem_nil
  | cons c text ih =>
    intro read hread
    unfold partsFrom at hread
    split at hread
    next =>
      rcases List.mem_cons.mp hread with rfl | hread
      · exact h
      · exact ih List.not_mem_nil read hread
    next hdelimiter =>
      refine ih ?_ read hread
      rw [List.mem_append, List.mem_singleton, not_or]
      exact ⟨h, Ne.symm hdelimiter⟩

/-- A part is read up to its delimiter. -/
theorem partsFrom_part {part : Bytes} (h : fixDelimiter ∉ part) (front rest : Bytes) :
    partsFrom front (part ++ fixDelimiter :: rest) = (front ++ part) :: partsFrom [] rest := by
  induction part generalizing front with
  | nil =>
    rw [List.append_nil]
    exact if_pos rfl
  | cons c part ih =>
    rw [List.mem_cons, not_or] at h
    rw [List.cons_append, partsFrom, if_neg (Ne.symm h.1), ih h.2, List.append_assoc]
    rfl

theorem partsFrom_joinParts {parts : List Bytes} (h : ∀ part ∈ parts, fixDelimiter ∉ part)
    (rest : Bytes) : partsFrom [] (joinParts parts ++ rest) = parts ++ partsFrom [] rest := by
  induction parts with
  | nil => rfl
  | cons part parts ih =>
    have hjoin : joinParts (part :: parts) ++ rest =
        part ++ fixDelimiter :: (joinParts parts ++ rest) := by
      simp [joinParts]
    rw [hjoin, partsFrom_part (h part List.mem_cons_self),
      ih fun read hread => h read (List.mem_cons_of_mem _ hread)]
    rfl

theorem fieldOf_eq_some {part tag value : Bytes} (h : fieldOf part = some (tag, value)) :
    part = tag ++ fixEquals :: value := by
  induction part generalizing tag with
  | nil => cases h
  | cons c part ih =>
    unfold fieldOf at h
    split at h
    next heq =>
      obtain ⟨rfl, rfl⟩ := Prod.mk.inj (Option.some.inj h)
      rw [heq]
      rfl
    next =>
      obtain ⟨field, hfield, heq⟩ := Option.map_eq_some_iff.mp h
      obtain ⟨rfl, rfl⟩ := Prod.mk.inj heq
      rw [ih hfield]
      rfl

namespace MessageParser

/-- What the loop does with one part. -/
def endOfPart (p : MessageParser) (specs : RepeatingGroupSpecs) (start : Nat) (part : Bytes) :
    MessageParser :=
  match fieldOf part with
  | none => p.reject noEqualsSign
  | some (tag, value) => p.endOfValue specs start tag value

/-- The loop over the parts of a text, the first of which starts at `start`. -/
def parseParts (specs : RepeatingGroupSpecs) (p : MessageParser) (start : Nat) :
    List Bytes → Option (MessageParser × Nat)
  | [] => none
  | part :: parts =>
    let p := p.endOfPart specs start part
    if p.reachedChecksum then some (p, start + part.length + 1)
    else p.parseParts specs (start + part.length + 1) parts

/-- The part the loop stands in: `tag` while it looks for `=`, then all of it. -/
def partRead (tag : Bytes) : Option Bytes → Bytes
  | none => tag
  | some value => tag ++ fixEquals :: value

theorem fieldOf_noEquals {tag : Bytes} (h : fixEquals ∉ tag) : fieldOf tag = none := by
  induction tag with
  | nil => rfl
  | cons c tag ih =>
    rw [List.mem_cons, not_or] at h
    rw [fieldOf, if_neg (Ne.symm h.1), ih h.2]
    rfl

theorem fieldOf_append {tag : Bytes} (h : fixEquals ∉ tag) (value : Bytes) :
    fieldOf (tag ++ fixEquals :: value) = some (tag, value) := by
  induction tag with
  | nil => exact if_pos rfl
  | cons c tag ih =>
    rw [List.mem_cons, not_or] at h
    rw [List.cons_append, fieldOf, if_neg (Ne.symm h.1), ih h.2]
    rfl

/-- The loop over the bytes is one over the parts. -/
theorem parse_eq_parseParts (specs : RepeatingGroupSpecs) (p : MessageParser)
    (hp : p.reachedChecksum = false) (start : Nat) (tag : Bytes) (htag : fixEquals ∉ tag)
    (value : Option Bytes) (text : Bytes) :
    p.parse specs (start + (partRead tag value).length) start tag value text =
      p.parseParts specs start (partsFrom (partRead tag value) text) := by
  -- The induction is on the bytes. A byte is `=`, the delimiter, or goes on with the part.
  induction text generalizing p start tag value with
  | nil => rfl
  | cons c rest ih =>
    cases value with
    | none =>
      by_cases heq : c = fixEquals
      · have hne : c ≠ fixDelimiter := by rw [heq]; decide
        rw [parse, if_pos heq, partsFrom, if_neg hne]
        have hrest := ih p hp start tag htag (some [])
        have hlength : (partRead tag (some [])).length = (partRead tag none).length + 1 := by
          simp [partRead]
        have hpart : partRead tag none ++ [c] = partRead tag (some []) := by rw [heq]; rfl
        rw [hlength] at hrest
        rw [hpart]
        exact hrest
      · by_cases hdelimiter : c = fixDelimiter
        · rw [parse, if_neg heq, if_pos hdelimiter, partsFrom, if_pos hdelimiter, parseParts,
            endOfPart]
          have hnone : fieldOf (partRead tag none) = none := fieldOf_noEquals htag
          rw [hnone]
          dsimp only
          rw [if_neg (by show ¬ p.reachedChecksum = true; rw [hp]; exact Bool.false_ne_true)]
          exact ih (p.reject noEqualsSign) hp _ [] List.not_mem_nil none
        · rw [parse, if_neg heq, if_neg hdelimiter, partsFrom, if_neg hdelimiter]
          have htag' : fixEquals ∉ tag ++ [c] := by
            rw [List.mem_append, List.mem_singleton, not_or]
            exact ⟨htag, Ne.symm heq⟩
          have hrest := ih p hp start (tag ++ [c]) htag' none
          have hlength : (partRead (tag ++ [c]) none).length = (partRead tag none).length + 1 := by
            simp [partRead]
          rw [hlength] at hrest
          exact hrest
    | some value =>
      by_cases hdelimiter : c = fixDelimiter
      · rw [parse, if_pos hdelimiter, partsFrom, if_pos hdelimiter, parseParts, endOfPart]
        have hfield : fieldOf (partRead tag (some value)) = some (tag, value) :=
          fieldOf_append htag value
        rw [hfield]
        dsimp only
        cases hend : (p.endOfValue specs start tag value).reachedChecksum with
        | true => rfl
        | false =>
          rw [if_neg Bool.false_ne_true, if_neg Bool.false_ne_true]
          exact ih _ hend _ [] List.not_mem_nil none
      · rw [parse, if_neg hdelimiter, partsFrom, if_neg hdelimiter]
        have hrest := ih p hp start tag htag (some (value ++ [c]))
        have hpart : partRead tag (some value) ++ [c] = partRead tag (some (value ++ [c])) := by
          simp [partRead]
        have hlength : (partRead tag (some (value ++ [c]))).length =
            (partRead tag (some value)).length + 1 := by
          rw [← hpart, List.length_append, List.length_singleton]
        rw [hlength] at hrest
        rw [hpart]
        exact hrest

end MessageParser

/-! ## The end of the message -/

namespace MessageParser

section

variable (p : MessageParser)

@[simp] theorem reject_reachedChecksum (code : UInt32) :
    (p.reject code).reachedChecksum = p.reachedChecksum := rfl

@[simp] theorem rejectIf_reachedChecksum (condition : Bool) (code : UInt32) :
    (p.rejectIf condition code).reachedChecksum = p.reachedChecksum := by
  unfold rejectIf
  split <;> rfl

@[simp] theorem validateHeaderTagsOrder_reachedChecksum (tag : Tag) :
    (p.validateHeaderTagsOrder tag).reachedChecksum = p.reachedChecksum :=
  p.rejectIf_reachedChecksum _ _

@[simp] theorem updateRepeatingGroup_reachedChecksum (specs : RepeatingGroupSpecs) (tag : Tag) :
    (p.updateRepeatingGroup specs tag).reachedChecksum = p.reachedChecksum := by
  unfold updateRepeatingGroup
  split_ifs <;> rfl

@[simp] theorem setTag_reachedChecksum (tag : Tag) (value : Bytes) :
    (p.setTag tag value).reachedChecksum = p.reachedChecksum := by
  unfold setTag
  split_ifs <;> rfl

theorem afterTag_reachedChecksum (start : Nat) (tag : Tag) (value : Bytes) :
    (p.afterTag start tag value).reachedChecksum =
      (p.reachedChecksum || decide (tag = tagChecksum)) := by
  unfold afterTag
  split_ifs with hchecksum
  · simp [hchecksum]
  · simp [hchecksum]
  · simp [hchecksum]

/-- A field ends the message when its tag reads as tag 10. -/
theorem endOfValue_reachedChecksum (specs : RepeatingGroupSpecs) (start : Nat)
    (tag value : Bytes) :
    (p.endOfValue specs start tag value).reachedChecksum =
      (p.reachedChecksum || readsAsChecksumTag tag) := by
  unfold endOfValue readsAsChecksumTag
  rw [← isTagFormat]
  cases isTagFormat tag with
  | true => simp [recordTag, afterTag_reachedChecksum]
  | false => simp

end

/-- The loop and the search for the end of the message stop at the same byte. -/
theorem parse_messageEnd (specs : RepeatingGroupSpecs) (p : MessageParser)
    (hp : p.reachedChecksum = false) (index start : Nat) (tag : Bytes) (value : Option Bytes)
    (text : Bytes) :
    (p.parse specs index start tag value text).map (·.2) =
      (messageEnd tag value.isNone text).map (index + ·) := by
  induction text generalizing p index start tag value with
  | nil => rfl
  | cons c rest ih =>
    have hshift : ∀ o : Option Nat, (o.map (· + 1)).map (index + ·) = o.map (index + 1 + ·) := by
      intro o
      cases o with
      | none => rfl
      | some n =>
        simp only [Option.map_some, Option.some.injEq]
        omega
    cases value with
    | none =>
      rw [parse, Option.isNone_none, messageEnd, if_pos rfl]
      split_ifs with heq hdelimiter
      · rw [hshift]
        exact ih p hp _ _ tag (some [])
      · rw [hshift]
        exact ih (p.reject noEqualsSign) hp _ _ [] none
      · rw [hshift]
        exact ih p hp _ _ (tag ++ [c]) none
    | some value =>
      rw [parse, Option.isNone_some, messageEnd, if_neg Bool.false_ne_true]
      have hend := p.endOfValue_reachedChecksum specs start tag value
      rw [hp, Bool.false_or] at hend
      dsimp only
      split_ifs with hdelimiter hchecksum hreads hreads
      · rfl
      · rw [hend] at hchecksum
        exact absurd hchecksum hreads
      · rw [hend] at hchecksum
        exact absurd hreads hchecksum
      · rw [hshift]
        exact ih _ (by rw [hend]; exact Bool.eq_false_iff.mpr hreads) _ _ [] none
      · rw [hshift]
        exact ih p hp _ _ tag (some (value ++ [c]))

end MessageParser

/-- The message at the begin of the buffer, with what goes to `process_incoming_fix_message`;
`none` when it is not complete. -/
def parseMessage (specs : RepeatingGroupSpecs) (buffer : Bytes) : Option (MessageParser × RxMessage) :=
  (MessageParser.parse specs {} 0 0 [] none buffer).map fun (p, length) =>
    (p, { message := p.message
          buffer := buffer.take length
          parserRejectCode := p.parserRejectCode })

/-- The message is the begin of the buffer up to its end. -/
theorem parseMessage_buffer {specs : RepeatingGroupSpecs} {buffer : Bytes} {p : MessageParser}
    {rx : RxMessage} (h : parseMessage specs buffer = some (p, rx)) :
    ∃ length, messageEnd [] true buffer = some length ∧ rx.buffer = buffer.take length := by
  have hend := MessageParser.parse_messageEnd specs {} rfl 0 0 [] none buffer
  unfold parseMessage at h
  cases hparse : MessageParser.parse specs {} 0 0 [] none buffer with
  | none =>
    rw [hparse] at h
    cases h
  | some result =>
    rw [hparse] at h hend
    obtain rfl := (Prod.mk.inj (Option.some.inj h)).2
    refine ⟨result.2, ?_, rfl⟩
    rw [Option.map_some, Option.isNone_none] at hend
    obtain ⟨length, hlength, heq⟩ := Option.map_eq_some_iff.mp hend.symm
    rw [Nat.zero_add] at heq
    rw [hlength, heq]

theorem parseMessage_length {specs : RepeatingGroupSpecs} {buffer : Bytes} {p : MessageParser}
    {rx : RxMessage} (h : parseMessage specs buffer = some (p, rx)) :
    0 < rx.buffer.length ∧ rx.buffer.length ≤ buffer.length := by
  obtain ⟨length, hend, hbuffer⟩ := parseMessage_buffer h
  obtain ⟨hpos, hle⟩ := messageEnd_le hend
  rw [hbuffer, List.length_take_of_le hle]
  exact ⟨hpos, hle⟩

/-! ## What a field is stored as -/

namespace MessageParser

/-- The dictionary and the repeating group store. -/
def stored (p : MessageParser) : IncomingFixMessage × List (Tag × Bytes) :=
  (p.message, p.repeatingGroups)

/-- The field would be stored: a group is open, or the tag is new. -/
def Stores (p : MessageParser) (specs : RepeatingGroupSpecs) (tag : Tag) : Prop :=
  (p.updateRepeatingGroup specs tag).inARepeatingGroup = true ∨ p.message.hasTag tag = false

instance (p : MessageParser) (specs : RepeatingGroupSpecs) (tag : Tag) :
    Decidable (p.Stores specs tag) :=
  inferInstanceAs (Decidable (_ ∨ _))

/-- What is stored when the field of a tag is. -/
def storedWith (p : MessageParser) (specs : RepeatingGroupSpecs) (tag : Tag) (value : Bytes) :
    IncomingFixMessage × List (Tag × Bytes) :=
  if (p.updateRepeatingGroup specs tag).inARepeatingGroup then
    (p.message, p.repeatingGroups ++ [(tag, value)])
  else ({ tags := p.message.tags ++ [(tag, value)] }, p.repeatingGroups)

section

variable (p : MessageParser)

@[simp] theorem rejectIf_stored (condition : Bool) (code : UInt32) :
    (p.rejectIf condition code).stored = p.stored := by
  unfold rejectIf
  split <;> rfl

@[simp] theorem updateRepeatingGroup_stored (specs : RepeatingGroupSpecs) (tag : Tag) :
    (p.updateRepeatingGroup specs tag).stored = p.stored := by
  unfold updateRepeatingGroup
  split_ifs <;> rfl

theorem validateTag9AndTag35_stored (start : Nat) :
    (p.validateTag9AndTag35 start).stored = p.stored := by
  unfold validateTag9AndTag35
  cases p.currentTag35TagStartIndex with
  | none => rfl
  | some tag35Start =>
    dsimp only
    split_ifs
    · exact p.rejectIf_stored _ _
    · rfl
    · rfl

@[simp] theorem afterTag_stored (start : Nat) (tag : Tag) (value : Bytes) :
    (p.afterTag start tag value).stored = p.stored := by
  unfold afterTag
  split_ifs
  · exact p.validateTag9AndTag35_stored start
  · rfl
  · rfl

/-- The variables that say whether a group is open. -/
def groupState (p : MessageParser) : UInt32 × Bool × Tag :=
  (p.encodedCurrentMessageType, p.inARepeatingGroup, p.currentRgCountTag)

theorem rejectIf_groupState (condition : Bool) (code : UInt32) :
    (p.rejectIf condition code).groupState = p.groupState := by
  unfold rejectIf
  split <;> rfl

theorem updateRepeatingGroup_inARepeatingGroup {q : MessageParser} (specs : RepeatingGroupSpecs)
    (tag : Tag) (h : q.groupState = p.groupState) :
    (q.updateRepeatingGroup specs tag).inARepeatingGroup =
      (p.updateRepeatingGroup specs tag).inARepeatingGroup := by
  simp only [groupState, Prod.mk.injEq] at h
  obtain ⟨htype, hin, hcount⟩ := h
  unfold updateRepeatingGroup
  rw [htype, hin, hcount]
  split_ifs <;> first | rfl | exact hin

end

end MessageParser

end Llfix
