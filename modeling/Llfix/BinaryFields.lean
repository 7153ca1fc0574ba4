import Llfix.RepeatingGroups
import Llfix.RxChunks

/-!
# Binary fields

The parser as it is built with `LLFIX_ENABLE_BINARY_FIELDS`. Behind a length tag, the loop counts
the bytes of the next value, and takes no delimiter for the end of it before the count is reached.
The count is advanced before it is compared, so that a delimiter in the place of the last byte ends
the value.

Results:
1. `parseBinary_value`, `parseBinary_data`: the end of a value with and without a length.
2. `BinaryItem.parse`: what is recorded for one item of a message.
3. `binaryFields_iff`: the data are recorded exactly when none ends with a delimiter.
4. `binaryFields_fails`: data of one byte, a delimiter.
-/

namespace Llfix

open GroupScan

/-! ## The specifications -/

/-- `IncomingFixBinaryFieldSpecs`: the data tag of each message type and length tag. -/
structure IncomingFixBinaryFieldSpecs where
  specifications : List ((UInt32 × Tag) × Tag) := []

namespace IncomingFixBinaryFieldSpecs

/-- `specify_binary_field`. -/
def specifyBinaryField (specs : IncomingFixBinaryFieldSpecs) (messageType : Bytes)
    (tagLength tagData : Tag) : IncomingFixBinaryFieldSpecs :=
  let key := (packMessageType messageType, tagLength)
  { specifications := (key, tagData) :: specs.specifications.filter fun entry => entry.1 ≠ key }

/-- `is_binary_data_length_tag`. -/
def isBinaryDataLengthTag (specs : IncomingFixBinaryFieldSpecs) (encodedMsgType : UInt32)
    (binaryDataLengthTag : Tag) : Bool :=
  (specs.specifications.lookup (encodedMsgType, binaryDataLengthTag)).isSome

end IncomingFixBinaryFieldSpecs

/-- `Converters::chars_to_int<int>`. -/
def charsToInt (buffer : Bytes) : Int32 :=
  let negative := buffer.head? = some '-'.toUInt8
  let digits := if negative ∨ buffer.head? = some '+'.toUInt8 then buffer.tail else buffer
  let result := digits.foldl (fun result c => result * 10 + charDigit c) 0
  if negative then (0 - result).toInt32 else result.toInt32

theorem charsToInt_digits {digits : Bytes} (h : digits.all isDigit = true)
    (hlt : decimalValue digits < 2147483648) : (charsToInt digits).toInt = decimalValue digits := by
  have hminus := head_ne_of_digits h (show isDigit '-'.toUInt8 = false by decide)
  have hplus := head_ne_of_digits h (show isDigit '+'.toUInt8 = false by decide)
  have hvalue := foldl_charDigit h
  rw [Nat.mod_eq_of_lt (by omega)] at hvalue
  unfold charsToInt
  dsimp only
  rw [if_neg hminus, if_neg (not_or_intro hminus hplus)]
  generalize digits.foldl (fun result c => result * 10 + charDigit c) 0 = result at hvalue
  rw [← hvalue] at hlt ⊢
  exact BitVec.toInt_eq_toNat_of_lt (show 2 * result.toNat < 2 ^ 32 by omega)

/-! ## The loop -/

/-- `binary_field_length` and `binary_field_counter`. -/
structure BinaryField where
  length : Int := 0
  counter : Int := 0

namespace BinaryField

/-- A byte behind `=` is counted. -/
def count (field : BinaryField) : BinaryField :=
  if 0 < field.length ∧ field.counter < field.length then
    { field with counter := field.counter + 1 }
  else field

/-- A delimiter does not end the value. -/
def isOpen (field : BinaryField) : Bool := 0 < field.length ∧ field.counter < field.length

/-- A delimiter ends the value. -/
def close (field : BinaryField) : BinaryField :=
  if 0 < field.length ∧ field.length = field.counter then {} else field

end BinaryField

namespace MessageParser

/-- The length that is known behind a field. -/
def lengthBehind (p : MessageParser) (binary : IncomingFixBinaryFieldSpecs) (tag value : Bytes)
    (field : BinaryField) : BinaryField :=
  if isTagFormat tag && p.encodedCurrentMessageType ≠ noMessageType &&
      binary.isBinaryDataLengthTag p.encodedCurrentMessageType (charsToUnsignedInt tag) then
    { field with length := (charsToInt value).toInt }
  else field

/-- The inner loop of `process_rx_buffer`, with binary fields. -/
def parseBinary (specs : RepeatingGroupSpecs) (binary : IncomingFixBinaryFieldSpecs)
    (p : MessageParser) (field : BinaryField) (currentIndex currentTagStart : Nat) (tag : Bytes)
    (value : Option Bytes) : Bytes → Option (MessageParser × Nat)
  | [] => none
  | currentChar :: rest =>
    match value with
    | none =>
      if currentChar = fixEquals then
        p.parseBinary specs binary field (currentIndex + 1) currentTagStart tag (some []) rest
      else if currentChar = fixDelimiter then
        (p.reject noEqualsSign).parseBinary specs binary field (currentIndex + 1)
          (currentIndex + 1) [] none rest
      else
        p.parseBinary specs binary field (currentIndex + 1) currentTagStart (tag ++ [currentChar])
          none rest
    | some value =>
      let field := field.count
      if currentChar = fixDelimiter ∧ field.isOpen = false then
        let behind := p.lengthBehind binary tag value field.close
        let p := p.endOfValue specs currentTagStart tag value
        if p.reachedChecksum then some (p, currentIndex + 1)
        else p.parseBinary specs binary behind (currentIndex + 1) (currentIndex + 1) [] none rest
      else
        p.parseBinary specs binary field (currentIndex + 1) currentTagStart tag
          (some (value ++ [currentChar])) rest

/-! ## One field -/

section

variable (specs : RepeatingGroupSpecs) (binary : IncomingFixBinaryFieldSpecs) (p : MessageParser)

/-- The text of a tag is read up to the `=`. -/
theorem parseBinary_tag (field : BinaryField) (index start : Nat) (front : Bytes) {tag : Bytes}
    (h : fixEquals ∉ tag ∧ fixDelimiter ∉ tag) (rest : Bytes) :
    p.parseBinary specs binary field index start front none (tag ++ fixEquals :: rest) =
      p.parseBinary specs binary field (index + tag.length + 1) start (front ++ tag) (some [])
        rest := by
  induction tag generalizing index front with
  | nil =>
    rw [List.append_nil, List.nil_append, parseBinary]
    exact if_pos rfl
  | cons c tag ih =>
    simp only [List.mem_cons, not_or] at h
    rw [List.cons_append, parseBinary, if_neg (Ne.symm h.1.1), if_neg (Ne.symm h.2.1),
      ih _ _ ⟨h.1.2, h.2.2⟩, List.append_assoc, List.length_cons]
    congr 1
    omega

/-- While the count is not reached, every byte belongs to the value. -/
theorem parseBinary_open (length : Nat) (index start : Nat) (tag value : Bytes) {data : Bytes}
    {counter : Nat} (h : counter + data.length < length) (rest : Bytes) :
    p.parseBinary specs binary { length, counter } index start tag (some value) (data ++ rest) =
      p.parseBinary specs binary { length, counter := (counter + data.length : Nat) }
        (index + data.length) start tag (some (value ++ data)) rest := by
  induction data generalizing index value counter with
  | nil => rw [List.append_nil]; rfl
  | cons c data ih =>
    rw [List.length_cons] at h
    have hpos : (0 : Int) < length := by omega
    have hcounter : (counter : Int) < length := by omega
    have hnext : ((counter + 1 : Nat) : Int) < length := by omega
    have hcount : BinaryField.count { length, counter } =
        { length, counter := (counter + 1 : Nat) } :=
      if_pos ⟨hpos, hcounter⟩
    have hopen : BinaryField.isOpen { length, counter := (counter + 1 : Nat) } = true :=
      decide_eq_true ⟨hpos, hnext⟩
    rw [List.cons_append, parseBinary]
    dsimp only
    rw [hcount, hopen, if_neg (fun hend => Bool.false_ne_true hend.2.symm), ih _ _ (by omega),
      List.append_assoc, List.length_cons]
    congr 1
    · congr 1
      omega
    · omega

/-- Without a length, a value is read up to its delimiter. -/
theorem parseBinary_text (index start : Nat) (tag value : Bytes) {text : Bytes}
    (h : fixDelimiter ∉ text) (rest : Bytes) :
    p.parseBinary specs binary {} index start tag (some value) (text ++ rest) =
      p.parseBinary specs binary {} (index + text.length) start tag (some (value ++ text)) rest := by
  induction text generalizing index value with
  | nil => rw [List.append_nil]; rfl
  | cons c text ih =>
    rw [List.mem_cons, not_or] at h
    rw [List.cons_append, parseBinary]
    dsimp only
    rw [if_neg (fun hend => h.1 hend.1.symm)]
    refine (ih (index + 1) (value ++ [c]) h.2).trans ?_
    rw [List.length_cons, List.append_assoc]
    congr 1
    omega

/-- What the loop goes on with behind a field. -/
def behindField (field : BinaryField) (start : Nat) (tag : Tag) (value rest : Bytes) :
    Option (MessageParser × Nat) :=
  let behind := start + (encodeField (tag, value)).length
  let q := p.endOfPart specs start (fieldPart (tag, value))
  if q.reachedChecksum then some (q, behind)
  else
    q.parseBinary specs binary (p.lengthBehind binary (unsignedIntToChars tag) value field) behind
      behind [] none rest

/-- At a delimiter that ends the value, the field is recorded. -/
theorem parseBinary_end (field : BinaryField) (hend : field.count.isOpen = false) (start : Nat)
    (tag : Tag) (value rest : Bytes) :
    p.parseBinary specs binary field (start + (fieldPart (tag, value)).length) start
        (unsignedIntToChars tag) (some value) (fixDelimiter :: rest) =
      p.behindField specs binary field.count.close start tag value rest := by
  have hpart : p.endOfPart specs start (fieldPart (tag, value)) =
      p.endOfValue specs start (unsignedIntToChars tag) value := by
    rw [endOfPart, fieldOf_fieldPart]
  rw [parseBinary, behindField, hpart, encodeField_eq, List.length_append, List.length_singleton,
    ← Nat.add_assoc]
  exact if_pos ⟨rfl, hend⟩

theorem parseBinary_tagText (field : BinaryField) (start : Nat) (tag : Tag) (value rest : Bytes) :
    p.parseBinary specs binary field start start [] none (encodeField (tag, value) ++ rest) =
      p.parseBinary specs binary field (start + (unsignedIntToChars tag).length + 1) start
        (unsignedIntToChars tag) (some []) (value ++ fixDelimiter :: rest) := by
  have htag := noSpecial_of_digits (unsignedIntToChars_all tag)
  have htext : encodeField (tag, value) ++ rest =
      unsignedIntToChars tag ++ fixEquals :: (value ++ fixDelimiter :: rest) := by
    rw [encodeField_eq, fieldPart]
    simp
  rw [htext, parseBinary_tag specs binary p field start start [] htag]
  rfl

theorem length_fieldPart (tag : Tag) (value : Bytes) :
    (fieldPart (tag, value)).length = (unsignedIntToChars tag).length + 1 + value.length := by
  rw [fieldPart, List.length_append, List.length_cons]
  dsimp only
  omega

/-- A field without a length in front of it. -/
theorem parseBinary_value (start : Nat) (tag : Tag) {value : Bytes} (h : fixDelimiter ∉ value)
    (rest : Bytes) :
    p.parseBinary specs binary {} start start [] none (encodeField (tag, value) ++ rest) =
      p.behindField specs binary {} start tag value rest := by
  have hend := parseBinary_end specs binary p {} rfl start tag value rest
  rw [length_fieldPart, ← Nat.add_assoc, ← Nat.add_assoc] at hend
  rw [parseBinary_tagText, parseBinary_text specs binary p _ _ _ _ h, List.nil_append]
  exact hend

/-- The count is reached. -/
theorem count_full {n : Nat} (h : 0 < n) :
    BinaryField.count { length := n, counter := n } = { length := n, counter := n } ∧
      BinaryField.isOpen { length := n, counter := n } = false ∧
      BinaryField.close { length := n, counter := n } = {} :=
  ⟨if_neg fun hopen => absurd hopen.2 (Int.lt_irrefl _),
    decide_eq_false fun hopen => absurd hopen.2 (Int.lt_irrefl _),
    if_pos ⟨Int.natCast_pos.mpr h, rfl⟩⟩

/-- The last byte is counted. -/
theorem count_last (n : Nat) :
    BinaryField.count { length := (n + 1 : Nat), counter := n } =
      { length := (n + 1 : Nat), counter := (n + 1 : Nat) } := by
  have hpos : (0 : Int) < (n + 1 : Nat) := by omega
  have hlt : (n : Int) < (n + 1 : Nat) := by omega
  exact if_pos ⟨hpos, hlt⟩

/-- All bytes but the last are read. -/
theorem parseBinary_front (start : Nat) (tag : Tag) (data : Bytes) (last : UInt8) (rest : Bytes) :
    p.parseBinary specs binary { length := (data ++ [last]).length } start start [] none
        (encodeField (tag, data ++ [last]) ++ rest) =
      p.parseBinary specs binary { length := (data.length + 1 : Nat), counter := data.length }
        (start + (fieldPart (tag, data)).length) start (unsignedIntToChars tag) (some data)
        (last :: fixDelimiter :: rest) := by
  have hlength : (data ++ [last]).length = data.length + 1 := List.length_append
  have hopen := parseBinary_open specs binary p (data.length + 1)
    (start + (unsignedIntToChars tag).length + 1) start (unsignedIntToChars tag) []
    (show 0 + data.length < data.length + 1 by omega) (last :: fixDelimiter :: rest)
  rw [List.nil_append, Nat.zero_add] at hopen
  rw [parseBinary_tagText, hlength, List.append_assoc, length_fieldPart, ← Nat.add_assoc,
    ← Nat.add_assoc]
  exact hopen

/-- Data whose last byte is not a delimiter are read up to the delimiter behind them. -/
theorem parseBinary_data (start : Nat) (tag : Tag) {data : Bytes} {last : UInt8}
    (h : last ≠ fixDelimiter) (rest : Bytes) :
    p.parseBinary specs binary { length := (data ++ [last]).length } start start [] none
        (encodeField (tag, data ++ [last]) ++ rest) =
      p.behindField specs binary {} start tag (data ++ [last]) rest := by
  obtain ⟨hcount, hopen, hclose⟩ := count_full (Nat.succ_pos data.length)
  have hend := parseBinary_end specs binary p
    { length := (data.length + 1 : Nat), counter := (data.length + 1 : Nat) }
    (by rw [hcount]; exact hopen) start tag (data ++ [last]) rest
  rw [hcount, hclose, length_fieldPart, List.length_append, List.length_singleton] at hend
  rw [parseBinary_front, parseBinary]
  dsimp only
  rw [count_last, if_neg (fun hend => h hend.1), length_fieldPart]
  refine Eq.trans ?_ hend
  congr 1

/-- Data whose last byte is a delimiter end in front of it. The delimiter behind them stands in the
place of a tag. -/
theorem parseBinary_data_delimiter (start : Nat) (tag : Tag) (data rest : Bytes) :
    p.parseBinary specs binary { length := (data ++ [fixDelimiter]).length } start start [] none
        (encodeField (tag, data ++ [fixDelimiter]) ++ rest) =
      p.behindField specs binary {} start tag data (fixDelimiter :: rest) := by
  obtain ⟨-, hopen, hclose⟩ := count_full (Nat.succ_pos data.length)
  have hend := parseBinary_end specs binary p
    { length := (data.length + 1 : Nat), counter := data.length }
    (by rw [count_last]; exact hopen) start tag data (fixDelimiter :: rest)
  rw [count_last, hclose] at hend
  rw [parseBinary_front]
  exact hend

end

/-! ## Fields of a known type -/

section

variable (specs : RepeatingGroupSpecs) (binary : IncomingFixBinaryFieldSpecs) {p : MessageParser}
  {encodedMsgType : UInt32} {group : Option Tag}

/-- The length that is known behind a field of a packed type. -/
def knownLength (encodedMsgType : UInt32) (tag : Tag) (value : Bytes) : BinaryField :=
  if encodedMsgType ≠ noMessageType && binary.isBinaryDataLengthTag encodedMsgType tag then
    { length := (charsToInt value).toInt }
  else {}

theorem lengthBehind_eq (h : p.encodedCurrentMessageType = encodedMsgType) (tag : Tag)
    (value : Bytes) :
    p.lengthBehind binary (unsignedIntToChars tag) value {} =
      knownLength binary encodedMsgType tag value := by
  rw [lengthBehind, h, isTagFormat_unsignedIntToChars, charsToUnsignedInt_unsignedIntToChars,
    Bool.true_and]
  rfl

/-- A field is recorded as the scan takes it, and the loop goes on behind it. -/
theorem InScan.behindField (h : p.InScan encodedMsgType group)
    (hreached : p.reachedChecksum = false) {tag : Tag} (htag : tag ≠ tagChecksum ∧ tag ≠ tagMsgType)
    (start : Nat) (value rest : Bytes) :
    ∃ q : MessageParser,
      p.behindField specs binary {} start tag value rest =
        q.parseBinary specs binary (knownLength binary encodedMsgType tag value)
          (start + (encodeField (tag, value)).length) (start + (encodeField (tag, value)).length) []
          none rest ∧
      Scanned specs encodedMsgType p group [(tag, value)] q := by
  have hscanned := h.scanned specs hreached htag value start
  refine ⟨_, ?_, hscanned⟩
  rw [MessageParser.behindField, ← lengthBehind_eq binary h.type]
  exact if_neg (by rw [hscanned.reachedChecksum]; exact Bool.false_ne_true)

variable {binary} in
theorem knownLength_none {tag : Tag} (h : encodedMsgType = noMessageType ∨
    binary.isBinaryDataLengthTag encodedMsgType tag = false) (value : Bytes) :
    knownLength binary encodedMsgType tag value = {} := by
  refine if_neg ?_
  rcases h with h | h
  · rw [h]
    exact Bool.false_ne_true
  · rw [h, Bool.and_false]
    exact Bool.false_ne_true

variable {binary} in
theorem knownLength_some {tag : Tag} (htype : encodedMsgType ≠ noMessageType)
    (htag : binary.isBinaryDataLengthTag encodedMsgType tag = true) {value : Bytes}
    (hdigits : value.all isDigit = true) {n : Nat} (hvalue : decimalValue value = n)
    (hlt : n < 2147483648) : knownLength binary encodedMsgType tag value = { length := n } := by
  have hcondition : (encodedMsgType ≠ noMessageType &&
      binary.isBinaryDataLengthTag encodedMsgType tag) = true := by
    rw [htag, Bool.and_true]
    exact decide_eq_true htype
  rw [knownLength, if_pos hcondition, charsToInt_digits hdigits (by rw [hvalue]; exact hlt), hvalue]

variable {specs} in
theorem Scanned.reject {fields : List (Tag × Bytes)} {q : MessageParser}
    (h : Scanned specs encodedMsgType p group fields q) (code : UInt32) :
    Scanned specs encodedMsgType p group fields (q.reject code) :=
  ⟨⟨h.inScan.type, h.inScan.openGroup, h.inScan.noGroup⟩, h.reachedChecksum, h.tags,
    h.repeatingGroups⟩

/-- A field without a length in front of it is recorded. -/
theorem InScan.parseBinary_value (h : p.InScan encodedMsgType group)
    (hreached : p.reachedChecksum = false) {tag : Tag} (htag : tag ≠ tagChecksum ∧ tag ≠ tagMsgType)
    {value : Bytes} (hvalue : fixDelimiter ∉ value) (start : Nat) (rest : Bytes) :
    ∃ q : MessageParser,
      p.parseBinary specs binary {} start start [] none (encodeField (tag, value) ++ rest) =
        q.parseBinary specs binary (knownLength binary encodedMsgType tag value)
          (start + (encodeField (tag, value)).length) (start + (encodeField (tag, value)).length) []
          none rest ∧
      Scanned specs encodedMsgType p group [(tag, value)] q := by
  rw [MessageParser.parseBinary_value specs binary p start tag hvalue]
  exact h.behindField specs binary hreached htag start value rest

/-- What is recorded of binary data. -/
def cut (data : Bytes) : Bytes := if data.getLast? = some fixDelimiter then data.dropLast else data

/-- Binary data behind their length are recorded, without a delimiter at their end. -/
theorem InScan.parseBinary_data (h : p.InScan encodedMsgType group)
    (hreached : p.reachedChecksum = false) {tag : Tag} (htag : tag ≠ tagChecksum ∧ tag ≠ tagMsgType)
    (hlength : encodedMsgType = noMessageType ∨
      binary.isBinaryDataLengthTag encodedMsgType tag = false)
    {data : Bytes} (hdata : data ≠ []) (start : Nat) (rest : Bytes) :
    ∃ q : MessageParser,
      p.parseBinary specs binary { length := data.length } start start [] none
          (encodeField (tag, data) ++ rest) =
        q.parseBinary specs binary {} (start + (encodeField (tag, data)).length)
          (start + (encodeField (tag, data)).length) [] none rest ∧
      Scanned specs encodedMsgType p group [(tag, cut data)] q := by
  obtain ⟨front, last, rfl⟩ : ∃ front last, data = front ++ [last] :=
    ⟨data.dropLast, data.getLast hdata, (List.dropLast_append_getLast hdata).symm⟩
  by_cases hlast : last = fixDelimiter
  · have hcut : cut (front ++ [last]) = front := by
      rw [cut, List.getLast?_concat, hlast, if_pos rfl, List.dropLast_concat]
    obtain ⟨q, hbehind, hscanned⟩ := h.behindField specs binary hreached htag start
      front (fixDelimiter :: rest)
    rw [knownLength_none hlength] at hbehind
    rw [hcut]
    refine ⟨q.reject noEqualsSign, ?_, hscanned.reject noEqualsSign⟩
    rw [hlast, parseBinary_data_delimiter, hbehind]
    have hnext : start + (encodeField (tag, front)).length + 1 =
        start + (encodeField (tag, front ++ [fixDelimiter])).length := by
      rw [encodeField_eq, encodeField_eq, List.length_append, List.length_append, length_fieldPart,
        length_fieldPart, List.length_append, List.length_singleton]
      omega
    rw [← hnext, parseBinary, if_neg (by decide), if_pos rfl]
  · have hcut : cut (front ++ [last]) = front ++ [last] := by
      rw [cut, List.getLast?_concat, if_neg fun heq => hlast (Option.some.inj heq)]
    obtain ⟨q, hbehind, hscanned⟩ := h.behindField specs binary hreached htag start
      (front ++ [last]) rest
    rw [knownLength_none hlength] at hbehind
    rw [hcut]
    refine ⟨q, ?_, hscanned⟩
    rw [MessageParser.parseBinary_data specs binary p start tag hlast, hbehind]

end

end MessageParser

/-! ## Messages with binary data -/

/-- An ordinary field, or a length with the data behind it. -/
inductive BinaryItem
  | plain (field : Tag × Bytes)
  | withLength (lengthTag : Tag) (length : Bytes) (dataTag : Tag) (data : Bytes)

namespace BinaryItem

def fields : BinaryItem → List (Tag × Bytes)
  | plain field => [field]
  | withLength lengthTag length dataTag data => [(lengthTag, length), (dataTag, data)]

/-- The binary data. -/
def binaryData : BinaryItem → Option Bytes
  | plain _ => none
  | withLength _ _ _ data => some data

/-- What the parser records. -/
def recorded : BinaryItem → List (Tag × Bytes)
  | plain field => [field]
  | withLength lengthTag length dataTag data =>
    [(lengthTag, length), (dataTag, MessageParser.cut data)]

theorem fieldTags_recorded (item : BinaryItem) : fieldTags item.recorded = fieldTags item.fields := by
  cases item with
  | plain field => rfl
  | withLength lengthTag length dataTag data => rfl

/-- The items of a message of a packed type: an ordinary field has no declared length tag; the tags
of a length and its data are declared, and the length is that of the data, of which there is at
least one byte. -/
def IsDeclared (binary : IncomingFixBinaryFieldSpecs) (encodedMsgType : UInt32) :
    BinaryItem → Prop
  | plain field =>
    (field.1 ≠ tagChecksum ∧ field.1 ≠ tagMsgType) ∧
      binary.isBinaryDataLengthTag encodedMsgType field.1 = false ∧ fixDelimiter ∉ field.2
  | withLength lengthTag length dataTag data =>
    (lengthTag ≠ tagChecksum ∧ lengthTag ≠ tagMsgType) ∧
      (dataTag ≠ tagChecksum ∧ dataTag ≠ tagMsgType) ∧
      binary.specifications.lookup (encodedMsgType, lengthTag) = some dataTag ∧
      binary.isBinaryDataLengthTag encodedMsgType dataTag = false ∧
      length.all isDigit = true ∧ decimalValue length = data.length ∧ data ≠ []

instance (binary : IncomingFixBinaryFieldSpecs) (encodedMsgType : UInt32) (item : BinaryItem) :
    Decidable (item.IsDeclared binary encodedMsgType) := by
  cases item with
  | plain field => exact inferInstanceAs (Decidable (_ ∧ _))
  | withLength lengthTag length dataTag data => exact inferInstanceAs (Decidable (_ ∧ _))

open MessageParser

/-- An item is recorded, with its data cut. Without a type, data can be read only when there is no
delimiter in them. -/
theorem parse (specs : RepeatingGroupSpecs) {binary : IncomingFixBinaryFieldSpecs}
    {p : MessageParser} {encodedMsgType : UInt32} {group : Option Tag} {item : BinaryItem}
    (h : p.InScan encodedMsgType group) (hreached : p.reachedChecksum = false)
    (hitem : item.IsDeclared binary encodedMsgType)
    (htype : encodedMsgType = noMessageType → ∀ data ∈ item.binaryData, fixDelimiter ∉ data)
    (hlt : ∀ data ∈ item.binaryData, data.length < 2147483648) (start : Nat) (rest : Bytes) :
    ∃ q : MessageParser,
      p.parseBinary specs binary {} start start [] none
          (item.fields.flatMap encodeField ++ rest) =
        q.parseBinary specs binary {} (start + (item.fields.flatMap encodeField).length)
          (start + (item.fields.flatMap encodeField).length) [] none rest ∧
      Scanned specs encodedMsgType p group item.recorded q := by
  cases item with
  | plain field =>
    obtain ⟨htag, hlength, hvalue⟩ := hitem
    obtain ⟨q, hparse, hscanned⟩ := h.parseBinary_value specs binary hreached htag hvalue start
      rest
    rw [knownLength_none (Or.inr hlength)] at hparse
    refine ⟨q, ?_, hscanned⟩
    rw [fields, List.flatMap_singleton]
    exact hparse
  | withLength lengthTag length dataTag data =>
    obtain ⟨hlengthTag, hdataTag, hdeclared, hnot, hdigits, hvalue, hne⟩ := hitem
    have hbytes : (BinaryItem.withLength lengthTag length dataTag data).fields.flatMap encodeField =
        encodeField (lengthTag, length) ++ encodeField (dataTag, data) := by
      rw [fields, List.flatMap_cons, List.flatMap_singleton]
    obtain ⟨q, hparse, hscanned⟩ := h.parseBinary_value specs binary hreached hlengthTag
      (noSpecial_of_digits hdigits).2 start (encodeField (dataTag, data) ++ rest)
    rw [hbytes, List.append_assoc, hparse, List.length_append, ← Nat.add_assoc]
    by_cases hno : encodedMsgType = noMessageType
    · have hcut : cut data = data := by
        refine if_neg fun hlast => htype hno data rfl ?_
        exact List.mem_of_getLast? hlast
      obtain ⟨r, hdata, hscanned'⟩ := hscanned.inScan.parseBinary_value specs binary
        hscanned.reachedChecksum hdataTag (htype hno data rfl)
        (start + (encodeField (lengthTag, length)).length) rest
      rw [knownLength_none (Or.inl hno)] at hdata ⊢
      refine ⟨r, hdata, ?_⟩
      rw [recorded, hcut]
      exact hscanned.append hscanned'
    · have hislength : binary.isBinaryDataLengthTag encodedMsgType lengthTag = true := by
        rw [IncomingFixBinaryFieldSpecs.isBinaryDataLengthTag, hdeclared]
        rfl
      obtain ⟨r, hdata, hscanned'⟩ := hscanned.inScan.parseBinary_data specs binary
        hscanned.reachedChecksum hdataTag (Or.inr hnot) hne
        (start + (encodeField (lengthTag, length)).length) rest
      rw [knownLength_some hno hislength hdigits hvalue (hlt data rfl)]
      exact ⟨r, hdata, hscanned.append hscanned'⟩

end BinaryItem

/-- A message with binary data: the header, what stands between tag 35 and tag 10, and the value of
tag 10. -/
structure BinaryMessage where
  beginString : Bytes
  bodyLength : Bytes
  msgType : Bytes
  items : List BinaryItem
  checksum : Bytes

/-- The beginning of `process_rx_buffer`: the checks, the search for the begin string, and the first
message with what goes to `process_incoming_fix_message`. -/
def firstBinaryMessage (specs : RepeatingGroupSpecs) (binary : IncomingFixBinaryFieldSpecs)
    (buffer : Bytes) : Option (MessageParser × RxMessage) :=
  (finalTag10DelimiterIndex buffer).bind fun _ =>
    (findBeginStringPosition buffer).bind fun offset =>
      (MessageParser.parseBinary specs binary {} {} 0 0 [] none (buffer.drop offset)).map
        fun (p, length) =>
          (p, { message := p.message
                buffer := (buffer.drop offset).take length
                parserRejectCode := p.parserRejectCode })

namespace BinaryMessage

variable (m : BinaryMessage)

def header : List (Tag × Bytes) :=
  MessageParser.headerFields m.beginString m.bodyLength m.msgType

/-- The fields behind tag 35. -/
def body : List (Tag × Bytes) :=
  m.items.flatMap BinaryItem.fields ++ [(tagChecksum, m.checksum)]

/-- The fields behind tag 35 as the parser records them. -/
def recordedBody : List (Tag × Bytes) :=
  m.items.flatMap BinaryItem.recorded ++ [(tagChecksum, m.checksum)]

def bytes : Bytes := (m.header ++ m.body).flatMap encodeField

def encodedMsgType : UInt32 := packMessageType m.msgType

/-- The rules of repeating groups in the message. -/
def rules (specs : RepeatingGroupSpecs) : Rules Tag :=
  MessageParser.groupRules specs m.encodedMsgType

/-- What a message with binary data is: outside of groups, a tag stands once, and the lengths are
numbers of the type `int`. -/
structure WellFormed (specs : RepeatingGroupSpecs) (binary : IncomingFixBinaryFieldSpecs) :
    Prop where
  header : ∀ field ∈ m.header, fixDelimiter ∉ field.2
  items : ∀ item ∈ m.items, item.IsDeclared binary m.encodedMsgType
  checksum : fixDelimiter ∉ m.checksum
  size : ∀ item ∈ m.items, ∀ data ∈ item.binaryData, data.length < 2147483648
  distinct : (fieldTags (m.header ++ (m.rules specs).single none m.body)).Nodup

section

open MessageParser

variable {m} {specs : RepeatingGroupSpecs} {binary : IncomingFixBinaryFieldSpecs}

/-- The loop over the header. -/
theorem WellFormed.parse_header (h : m.WellFormed specs binary) (rest : Bytes) :
    ∃ p : MessageParser,
      parseBinary specs binary {} {} 0 0 [] none (m.header.flatMap encodeField ++ rest) =
        p.parseBinary specs binary {} (m.header.flatMap encodeField).length
          (m.header.flatMap encodeField).length [] none rest ∧
      BehindHeader m.beginString m.bodyLength m.msgType p := by
  have hbegin : fixDelimiter ∉ m.beginString := h.header (tagBeginString, m.beginString) (by
    exact List.mem_cons_self)
  have hlength : fixDelimiter ∉ m.bodyLength := h.header (tagBodyLength, m.bodyLength) (by
    exact List.mem_cons_of_mem _ List.mem_cons_self)
  have htype : fixDelimiter ∉ m.msgType := h.header (tagMsgType, m.msgType) (by
    exact List.mem_cons_of_mem _ (List.mem_cons_of_mem _ List.mem_cons_self))
  have hbytes : m.header.flatMap encodeField = encodeField (tagBeginString, m.beginString) ++
      (encodeField (tagBodyLength, m.bodyLength) ++ encodeField (tagMsgType, m.msgType)) := by
    simp [BinaryMessage.header, headerFields]
  obtain ⟨q, hparse, hscanned⟩ := inScan_initial.parseBinary_value specs binary rfl
    (show tagBeginString ≠ tagChecksum ∧ tagBeginString ≠ tagMsgType by decide) hbegin 0
    (encodeField (tagBodyLength, m.bodyLength) ++
      (encodeField (tagMsgType, m.msgType) ++ rest))
  obtain ⟨r, hparse', hscanned'⟩ := hscanned.inScan.parseBinary_value specs binary
    hscanned.reachedChecksum
    (show tagBodyLength ≠ tagChecksum ∧ tagBodyLength ≠ tagMsgType by decide) hlength
    (0 + (encodeField (tagBeginString, m.beginString)).length)
    (encodeField (tagMsgType, m.msgType) ++ rest)
  have hbehind := (hscanned.append hscanned').behindHeader m.msgType
    (0 + (encodeField (tagBeginString, m.beginString)).length +
      (encodeField (tagBodyLength, m.bodyLength)).length)
  refine ⟨_, ?_, hbehind⟩
  rw [knownLength_none (Or.inl rfl)] at hparse hparse'
  have hlast := hscanned'.inScan.type
  rw [hbytes, List.append_assoc, List.append_assoc, hparse, hparse',
    parseBinary_value specs binary r _ tagMsgType htype, behindField,
    lengthBehind_eq binary hlast, knownLength_none (Or.inl rfl), List.length_append,
    List.length_append, Nat.zero_add, ← Nat.add_assoc]
  exact if_neg (by rw [← Nat.zero_add (encodeField (tagBeginString, m.beginString)).length,
    hbehind.reachedChecksum]; exact Bool.false_ne_true)

variable (specs) in
/-- The loop over the items. -/
theorem parse_items {items : List BinaryItem} {p : MessageParser} {encodedMsgType : UInt32}
    {group : Option Tag} (h : p.InScan encodedMsgType group) (hreached : p.reachedChecksum = false)
    (hitems : ∀ item ∈ items, item.IsDeclared binary encodedMsgType)
    (htype : encodedMsgType = noMessageType →
      ∀ item ∈ items, ∀ data ∈ item.binaryData, fixDelimiter ∉ data)
    (hlt : ∀ item ∈ items, ∀ data ∈ item.binaryData, data.length < 2147483648) (start : Nat)
    (rest : Bytes) :
    ∃ q : MessageParser,
      p.parseBinary specs binary {} start start [] none
          ((items.flatMap BinaryItem.fields).flatMap encodeField ++ rest) =
        q.parseBinary specs binary {}
          (start + ((items.flatMap BinaryItem.fields).flatMap encodeField).length)
          (start + ((items.flatMap BinaryItem.fields).flatMap encodeField).length) [] none rest ∧
      Scanned specs encodedMsgType p group (items.flatMap BinaryItem.recorded) q := by
  induction items generalizing p group start with
  | nil => exact ⟨p, rfl, .nil specs h hreached⟩
  | cons item items ih =>
    obtain ⟨q, hparse, hscanned⟩ := BinaryItem.parse specs h hreached
      (hitems item List.mem_cons_self) (fun hno => htype hno item List.mem_cons_self)
      (hlt item List.mem_cons_self) start
      ((items.flatMap BinaryItem.fields).flatMap encodeField ++ rest)
    obtain ⟨r, hparse', hscanned'⟩ := ih hscanned.inScan hscanned.reachedChecksum
      (fun i hi => hitems i (List.mem_cons_of_mem _ hi))
      (fun hno i hi => htype hno i (List.mem_cons_of_mem _ hi))
      (fun i hi => hlt i (List.mem_cons_of_mem _ hi))
      (start + (item.fields.flatMap encodeField).length)
    refine ⟨r, ?_, ?_⟩
    · rw [List.flatMap_cons, List.flatMap_append, List.append_assoc, hparse, hparse',
        List.length_append, Nat.add_assoc]
    · rw [List.flatMap_cons]
      exact hscanned.append hscanned'

theorem bytes_eq (more : Bytes) :
    m.bytes ++ more = m.header.flatMap encodeField ++
      ((m.items.flatMap BinaryItem.fields).flatMap encodeField ++
        (encodeField (tagChecksum, m.checksum) ++ more)) := by
  simp [bytes, body, List.flatMap_append]

/-- `process_rx_buffer` gets to the message. -/
theorem WellFormed.firstBinaryMessage_eq (h : m.WellFormed specs binary) (more : Bytes) :
    firstBinaryMessage specs binary (m.bytes ++ more) =
      (parseBinary specs binary {} {} 0 0 [] none (m.bytes ++ more)).map fun (p, length) =>
        (p, { message := p.message
              buffer := (m.bytes ++ more).take length
              parserRejectCode := p.parserRejectCode }) := by
  let front := m.header.flatMap encodeField ++
    (m.items.flatMap BinaryItem.fields).flatMap encodeField
  have htag : unsignedIntToChars tagChecksum ++ [fixEquals] = tag10Text := by decide
  have hchecksum : encodeField (tagChecksum, m.checksum) ++ more =
      tag10Text ++ (m.checksum ++ fixDelimiter :: more) := by
    rw [← htag, encodeField_eq, fieldPart]
    simp
  have hfront : m.bytes ++ more = front ++ (tag10Text ++ (m.checksum ++ fixDelimiter :: more)) := by
    rw [bytes_eq, hchecksum, List.append_assoc]
  obtain ⟨final, hfinal, -, -⟩ := finalTag10DelimiterIndex_checksum h.checksum hfront
  have hbegin : ∃ t, m.bytes ++ more = '8'.toUInt8 :: fixEquals :: t := by
    have hfirst : encodeField (tagBeginString, m.beginString) =
        '8'.toUInt8 :: fixEquals :: (m.beginString ++ [fixDelimiter]) := by
      have height : unsignedIntToChars tagBeginString = ['8'.toUInt8] := by decide
      rw [encodeField_eq, fieldPart, height]
      rfl
    rw [bytes_eq, BinaryMessage.header, headerFields, List.flatMap_cons, hfirst, List.cons_append,
      List.cons_append, List.cons_append, List.cons_append]
    exact ⟨_, rfl⟩
  obtain ⟨t, ht⟩ := hbegin
  have hposition : findBeginStringPosition (m.bytes ++ more) = some 0 := by
    rw [ht]
    exact findBeginStringPosition_begin t
  rw [firstBinaryMessage, hfinal, Option.bind_some, hposition, Option.bind_some, List.drop_zero]

/-- The message is read to its end, with its data cut. -/
theorem WellFormed.parse (h : m.WellFormed specs binary)
    (htype : m.encodedMsgType = noMessageType →
      ∀ item ∈ m.items, ∀ data ∈ item.binaryData, fixDelimiter ∉ data) (more : Bytes) :
    ∃ p rx, firstBinaryMessage specs binary (m.bytes ++ more) = some (p, rx) ∧
      rx.buffer = m.bytes ∧ RecordedBy (m.rules specs) m.header m.recordedBody p rx := by
  obtain ⟨q, hheader, hbehind⟩ := h.parse_header
    ((m.items.flatMap BinaryItem.fields).flatMap encodeField ++
      (encodeField (tagChecksum, m.checksum) ++ more))
  obtain ⟨r, hitems, hscanned⟩ := parse_items specs hbehind.inScan
    hbehind.reachedChecksum h.items htype h.size (m.header.flatMap encodeField).length
    (encodeField (tagChecksum, m.checksum) ++ more)
  let start := (m.header.flatMap encodeField).length +
    ((m.items.flatMap BinaryItem.fields).flatMap encodeField).length
  have hend := hscanned.inScan.behindChecksum specs hscanned.reachedChecksum m.checksum start
  let p := r.endOfPart specs start (fieldPart (tagChecksum, m.checksum))
  have hlength : start + (encodeField (tagChecksum, m.checksum)).length = m.bytes.length := by
    have hbytes := congrArg List.length (bytes_eq (m := m) [])
    rw [List.append_nil, List.append_nil, List.length_append, List.length_append] at hbytes
    rw [hbytes, Nat.add_assoc]
  have hparse : parseBinary specs binary {} {} 0 0 [] none (m.bytes ++ more) =
      some (p, m.bytes.length) := by
    rw [bytes_eq, hheader, hitems, parseBinary_value specs binary r start tagChecksum h.checksum,
      behindField, hlength]
    exact if_pos hend.reachedChecksum
  let rx : RxMessage :=
    { message := p.message
      buffer := (m.bytes ++ more).take m.bytes.length
      parserRejectCode := p.parserRejectCode }
  refine ⟨p, rx, ?_, List.take_left, ?_, ?_⟩
  · rw [h.firstBinaryMessage_eq, hparse]
    rfl
  · rw [hend.repeatingGroups, hscanned.repeatingGroups, hbehind.repeatingGroups, List.nil_append,
      recordedBody, Rules.grouped_append]
    rfl
  · intro tag
    show p.message.tags.lookup tag = _
    rw [hend.tags, hscanned.tags, hbehind.tags, ← List.foldl_append, ← List.foldl_append,
      lookup_foldl_insertNew, List.nil_append, recordedBody, Rules.single_append]
    rfl

end

/-! ## A type that the parser does not take for one -/

section

open MessageParser

variable {specs : RepeatingGroupSpecs} {binary : IncomingFixBinaryFieldSpecs}

theorem isPrefix_insertNew (dict : List (Tag × Bytes)) (field : Tag × Bytes) :
    dict <+: insertNew dict field := by
  unfold insertNew
  split
  · exact List.prefix_refl dict
  · exact List.prefix_append dict [field]

/-- What is in the dictionary stays there. -/
theorem isPrefix_endOfValue (p : MessageParser) (specs : RepeatingGroupSpecs) (start : Nat)
    (tag value : Bytes) : p.message.tags <+: (p.endOfValue specs start tag value).message.tags := by
  let p' := p.rejectIf (value.length = 0) fixErrorCodeTagWithoutValue
  have hstored : p'.message = p.message := congrArg Prod.fst (p.rejectIf_stored _ _)
  unfold endOfValue
  dsimp only
  split
  · obtain ⟨htags, -⟩ := p'.recordTag_kept specs start (charsToUnsignedInt tag) value
    rw [htags, hstored]
    split
    · exact List.prefix_refl _
    · exact isPrefix_insertNew _ _
  · rw [← hstored]
    exact List.prefix_refl _

theorem isPrefix_parseBinary {p r : MessageParser} {field : BinaryField} {index start n : Nat}
    {tag : Bytes} {value : Option Bytes} {text : Bytes}
    (h : p.parseBinary specs binary field index start tag value text = some (r, n)) :
    p.message.tags <+: r.message.tags := by
  induction text generalizing p field index start tag value with
  | nil => cases h
  | cons c text ih =>
    unfold parseBinary at h
    cases value with
    | none =>
      dsimp only at h
      split_ifs at h
      · exact ih h
      · have hrest : (p.reject noEqualsSign).message.tags <+: r.message.tags := ih h
        exact hrest
      · exact ih h
    | some value =>
      dsimp only at h
      split_ifs at h with hends hreached
      · obtain ⟨rfl, -⟩ := Prod.mk.inj (Option.some.inj h)
        exact isPrefix_endOfValue p specs start tag value
      · exact (isPrefix_endOfValue p specs start tag value).trans (ih h)
      · exact ih h

/-- A dictionary that has the value of a tag gives it also when it has more behind. -/
theorem lookup_of_begin {dict more : List (Tag × Bytes)} (h : dict <+: more) {tag : Tag}
    {value : Bytes} (hlookup : dict.lookup tag = some value) : more.lookup tag = some value := by
  obtain ⟨behind, rfl⟩ := h
  rw [List.lookup_append, hlookup, Option.some_or]

/-- Without a type, all fields go into the dictionary. -/
theorem lookup_scanned {p q : MessageParser} {fields : List (Tag × Bytes)}
    (h : Scanned specs noMessageType p none fields q) (tag : Tag) :
    q.message.tags.lookup tag = (p.message.tags ++ fields).lookup tag := by
  have hclosed : ∀ tag, (groupRules specs noMessageType).opens tag = false := fun tag => rfl
  rw [h.tags, (Rules.scan_closed hclosed fields).2, lookup_foldl_insertNew]

/-- Data with a delimiter, where no lengths are known: what stands before the delimiter is taken for
the value. -/
theorem exists_misread {items : List BinaryItem} {p : MessageParser}
    (h : p.InScan noMessageType none) (hreached : p.reachedChecksum = false)
    (hitems : ∀ item ∈ items, item.IsDeclared binary noMessageType)
    (hlt : ∀ item ∈ items, ∀ data ∈ item.binaryData, data.length < 2147483648)
    (hdelimiter : ∃ item ∈ items, ∃ data ∈ item.binaryData, fixDelimiter ∈ data)
    (hnew : ∀ field ∈ items.flatMap BinaryItem.fields, field.1 ∉ fieldTags p.message.tags)
    (hnodup : (fieldTags (items.flatMap BinaryItem.fields)).Nodup) (start : Nat) {rest : Bytes}
    {r : MessageParser} {n : Nat}
    (hparse : p.parseBinary specs binary {} start start [] none
      ((items.flatMap BinaryItem.fields).flatMap encodeField ++ rest) = some (r, n)) :
    ∃ field ∈ items.flatMap BinaryItem.fields, r.message.tags.lookup field.1 ≠ some field.2 := by
  induction items generalizing p start with
  | nil =>
    obtain ⟨item, hitem, -⟩ := hdelimiter
    cases hitem
  | cons item items ih =>
    rw [List.flatMap_cons, List.flatMap_append, List.append_assoc] at hparse
    rw [List.flatMap_cons] at hnew hnodup ⊢
    rw [fieldTags_append] at hnodup
    -- The first item whose data have a delimiter decides; those in front are read as they are.
    by_cases hread : ∀ data ∈ item.binaryData, fixDelimiter ∉ data
    · obtain ⟨q, hnext, hscanned⟩ := BinaryItem.parse specs h hreached
        (hitems item List.mem_cons_self) (fun _ => hread) (hlt item List.mem_cons_self) start
        ((items.flatMap BinaryItem.fields).flatMap encodeField ++ rest)
      have hclosed : (groupRules specs noMessageType).after none item.recorded = none :=
        hscanned.inScan.noGroup rfl
      have hscan := hscanned.inScan
      rw [hclosed] at hscan
      rw [hnext] at hparse
      have hlater : ∃ i ∈ items, ∃ data ∈ i.binaryData, fixDelimiter ∈ data := by
        obtain ⟨i, hi, data, hdata, hmem⟩ := hdelimiter
        rcases List.mem_cons.mp hi with rfl | hi
        · exact absurd hmem (hread data hdata)
        · exact ⟨i, hi, data, hdata, hmem⟩
      have hnew' : ∀ field ∈ items.flatMap BinaryItem.fields,
          field.1 ∉ fieldTags q.message.tags := by
        intro field hfield
        rw [← lookup_eq_none_iff, lookup_scanned hscanned, lookup_eq_none_iff, fieldTags_append,
          List.mem_append, not_or, item.fieldTags_recorded]
        refine ⟨hnew field (List.mem_append_right _ hfield), fun hmem => ?_⟩
        exact (List.nodup_append.mp hnodup).2.2 _ hmem _ (List.mem_map_of_mem hfield) rfl
      obtain ⟨field, hfield, hne⟩ := ih hscan hscanned.reachedChecksum
        (fun i hi => hitems i (List.mem_cons_of_mem _ hi))
        (fun i hi => hlt i (List.mem_cons_of_mem _ hi)) hlater hnew' (List.nodup_append.mp hnodup).2.1
        _ hparse
      exact ⟨field, List.mem_append_right _ hfield, hne⟩
    · -- the data of this item have a delimiter
      cases item with
      | plain field => exact absurd (fun data hdata => absurd hdata (Option.not_mem_none data)) hread
      | withLength lengthTag length dataTag data =>
        have hmem : fixDelimiter ∈ data := by
          by_contra hno
          refine hread fun d hd => ?_
          rw [← Option.some.inj hd]
          exact hno
        obtain ⟨hlengthTag, hdataTag, -, -, hdigits, -, -⟩ := hitems _ List.mem_cons_self
        obtain ⟨front, behind, hdata, hfront⟩ := List.eq_append_cons_of_mem hmem
        obtain ⟨q, hnext, hscanned⟩ := h.parseBinary_value specs binary hreached hlengthTag
          (noSpecial_of_digits hdigits).2 start (encodeField (dataTag, data) ++
            ((items.flatMap BinaryItem.fields).flatMap encodeField ++ rest))
        obtain ⟨q', hnext', hscanned'⟩ := hscanned.inScan.parseBinary_value specs binary
          hscanned.reachedChecksum hdataTag hfront
          (start + (encodeField (lengthTag, length)).length) (behind ++ [fixDelimiter] ++
            ((items.flatMap BinaryItem.fields).flatMap encodeField ++ rest))
        have hbytes : encodeField (dataTag, data) ++
            ((items.flatMap BinaryItem.fields).flatMap encodeField ++ rest) =
            encodeField (dataTag, front) ++ (behind ++ [fixDelimiter] ++
              ((items.flatMap BinaryItem.fields).flatMap encodeField ++ rest)) := by
          rw [encodeField_eq, encodeField_eq, fieldPart, fieldPart, hdata]
          simp
        rw [BinaryItem.fields, List.flatMap_cons, List.flatMap_singleton, List.append_assoc, hnext,
          knownLength_none (Or.inl rfl), hbytes, hnext'] at hparse
        -- The tag has got a value that is shorter than the data, and keeps it.
        have hlookup : q'.message.tags.lookup dataTag = some front := by
          have hnone : p.message.tags.lookup dataTag = none :=
            lookup_eq_none_iff.mpr (hnew (dataTag, data)
              (List.mem_append_left _ (List.mem_cons_of_mem _ List.mem_cons_self)))
          have hpair : (fieldTags [(lengthTag, length), (dataTag, front)]).Nodup :=
            (List.nodup_append.mp hnodup).1
          rw [lookup_scanned (hscanned.append hscanned'), List.lookup_append, hnone, Option.none_or]
          have hsecond : (dataTag, front) ∈ [(lengthTag, length), (dataTag, front)] :=
            List.mem_cons_of_mem _ List.mem_cons_self
          exact lookup_of_nodup hpair hsecond
        refine ⟨(dataTag, data), List.mem_append_left _ (List.mem_cons_of_mem _ List.mem_cons_self),
          ?_⟩
        rw [lookup_of_begin (isPrefix_parseBinary hparse) hlookup, hdata]
        intro heq
        have hlength := congrArg List.length (Option.some.inj heq)
        rw [List.length_append, List.length_cons] at hlength
        omega

end

/-! ## When binary data are recorded -/

variable {specs : RepeatingGroupSpecs} {binary : IncomingFixBinaryFieldSpecs} {m : BinaryMessage}

/-- Every field is recorded with its bytes, data and others, where it is without binary data. -/
structure Recorded (specs : RepeatingGroupSpecs) (m : BinaryMessage) (p : MessageParser)
    (rx : RxMessage) : Prop where
  recordedBy : RecordedBy (m.rules specs) m.header m.body p rx
  fields : ∀ field ∈ m.body,
    field ∈ p.repeatingGroups ∨ rx.message.tags.lookup field.1 = some field.2

/-- The message is found, ends with its tag 10, and is recorded. -/
def Recognised (specs : RepeatingGroupSpecs) (binary : IncomingFixBinaryFieldSpecs)
    (m : BinaryMessage) (more : Bytes) : Prop :=
  ∃ p rx, firstBinaryMessage specs binary (m.bytes ++ more) = some (p, rx) ∧
    rx.buffer = m.bytes ∧ m.Recorded specs p rx

/-- The parser knows the type, or needs no lengths. -/
def KnowsLengths (m : BinaryMessage) : Prop :=
  m.encodedMsgType = noMessageType →
    ∀ item ∈ m.items, ∀ data ∈ item.binaryData, fixDelimiter ∉ data

/-- No data end with a delimiter. -/
def Readable (m : BinaryMessage) : Prop :=
  (∀ item ∈ m.items, ∀ data ∈ item.binaryData, data.getLast? ≠ some fixDelimiter) ∧
    m.KnowsLengths

/-- Lists of fields with the same tags and the same values. -/
theorem eq_of_lookup {front back : List (Tag × Bytes)} (h : fieldTags front = fieldTags back)
    (hnodup : (fieldTags front).Nodup) (hlookup : ∀ tag, front.lookup tag = back.lookup tag) :
    front = back := by
  induction front generalizing back with
  | nil => exact (List.map_eq_nil_iff.mp h.symm).symm
  | cons field front ih =>
    cases back with
    | nil => cases h
    | cons field' back =>
      obtain ⟨tag, value⟩ := field
      obtain ⟨tag', value'⟩ := field'
      obtain ⟨rfl, hrest⟩ : tag = tag' ∧ fieldTags front = fieldTags back := List.cons.inj h
      obtain ⟨hnew, hnodup'⟩ := List.nodup_cons.mp hnodup
      have hnew' : tag ∉ fieldTags back := by
        rw [← hrest]
        exact hnew
      have hvalue := hlookup tag
      rw [List.lookup_cons_self, List.lookup_cons_self] at hvalue
      have hlookup' : ∀ other, front.lookup other = back.lookup other := by
        intro other
        rcases eq_or_ne other tag with rfl | hne
        · rw [lookup_eq_none_iff.mpr hnew, lookup_eq_none_iff.mpr hnew']
        · have hother := hlookup other
          rw [List.lookup_cons, List.lookup_cons, beq_false_of_ne hne] at hother
          exact hother
      rw [Option.some.inj hvalue, ih hrest hnodup' hlookup']

theorem fieldTags_recordedBody : fieldTags m.recordedBody = fieldTags m.body := by
  have hitems : fieldTags (m.items.flatMap BinaryItem.recorded) =
      fieldTags (m.items.flatMap BinaryItem.fields) := by
    rw [fieldTags, fieldTags, List.map_flatMap, List.map_flatMap]
    exact List.flatMap_congr fun item _ => item.fieldTags_recorded
  rw [recordedBody, body, fieldTags_append, fieldTags_append, hitems]

theorem recordedBody_eq_iff :
    m.recordedBody = m.body ↔ ∀ item ∈ m.items, item.recorded = item.fields := by
  have hitems : ∀ items : List BinaryItem,
      items.flatMap BinaryItem.recorded = items.flatMap BinaryItem.fields ↔
        ∀ item ∈ items, item.recorded = item.fields := by
    intro items
    induction items with
    | nil => exact ⟨fun _ item hitem => absurd hitem List.not_mem_nil, fun _ => rfl⟩
    | cons item items ih =>
      have hlength : item.recorded.length = item.fields.length := by
        have htags := congrArg List.length item.fieldTags_recorded
        rw [fieldTags, fieldTags, List.length_map, List.length_map] at htags
        exact htags
      rw [List.flatMap_cons, List.flatMap_cons, List.forall_mem_cons, ← ih]
      exact ⟨fun h => List.append_inj h hlength, fun h => by rw [h.1, h.2]⟩
  rw [recordedBody, body, List.append_cancel_right_eq]
  exact hitems m.items

/-- Data that do not end with a delimiter are not cut. -/
theorem recorded_eq_iff {item : BinaryItem} {encodedMsgType : UInt32}
    (h : item.IsDeclared binary encodedMsgType) :
    item.recorded = item.fields ↔
      ∀ data ∈ item.binaryData, data.getLast? ≠ some fixDelimiter := by
  cases item with
  | plain field => exact ⟨fun _ data hdata => absurd hdata (Option.not_mem_none data), fun _ => rfl⟩
  | withLength lengthTag length dataTag data =>
    obtain ⟨-, -, -, -, -, -, hne⟩ := h
    have hcut : MessageParser.cut data = data ↔ data.getLast? ≠ some fixDelimiter := by
      unfold MessageParser.cut
      split
      next hlast =>
        refine ⟨fun hdrop => absurd (congrArg List.length hdrop) ?_, fun hnot => absurd hlast hnot⟩
        have hpos := List.length_pos_iff.mpr hne
        rw [List.length_dropLast]
        omega
      next hlast => exact ⟨fun _ => hlast, fun _ => rfl⟩
    constructor
    · intro heq other hother
      rw [← Option.some.inj hother]
      exact hcut.mp (Prod.mk.inj (List.cons.inj (List.cons.inj heq).2).1).2
    · intro hlast
      rw [BinaryItem.recorded, hcut.mpr (hlast data rfl)]
      rfl

/-- Recorded without cuts, a message is recorded as it should be. -/
theorem WellFormed.recorded (h : m.WellFormed specs binary) {p : MessageParser} {rx : RxMessage}
    (hrecorded : RecordedBy (m.rules specs) m.header m.body p rx) : m.Recorded specs p rx := by
  refine ⟨hrecorded, fun field hfield => ?_⟩
  have hscan : field ∈ (m.rules specs).grouped none m.body ∨
      field ∈ (m.rules specs).single none m.body := Rules.mem_scan hfield
  rcases hscan with hgroup | hsingle
  · left
    rw [hrecorded.store]
    exact hgroup
  · right
    rw [hrecorded.dictionary]
    exact lookup_of_nodup h.distinct (List.mem_append_right _ hsingle)

/-- A message that is recorded as it is has not been cut. -/
theorem WellFormed.recordedBody_eq (h : m.WellFormed specs binary) {p : MessageParser}
    {rx : RxMessage} (hcut : RecordedBy (m.rules specs) m.header m.recordedBody p rx)
    (hrecorded : RecordedBy (m.rules specs) m.header m.body p rx) : m.recordedBody = m.body := by
  have htags := fieldTags_recordedBody (m := m)
  have hkeys : fieldTags ((m.rules specs).single none m.recordedBody) =
      fieldTags ((m.rules specs).single none m.body) :=
    (Rules.keys_scan htags).2
  have hsingle : m.header ++ (m.rules specs).single none m.body =
      m.header ++ (m.rules specs).single none m.recordedBody := by
    refine eq_of_lookup ?_ h.distinct fun tag => ?_
    · rw [fieldTags_append, fieldTags_append]
      exact congrArg (fieldTags m.header ++ ·) hkeys.symm
    · rw [← hrecorded.dictionary, hcut.dictionary]
  exact Rules.scan_injective htags (hcut.store.symm.trans hrecorded.store)
    (List.append_cancel_left hsingle).symm

/-- Without a type, data with a delimiter are not recorded. -/
theorem WellFormed.knowsLengths (h : m.WellFormed specs binary) {more : Bytes}
    (hrecognised : m.Recognised specs binary more) : m.KnowsLengths := by
  intro hno
  by_contra hsome
  simp only [not_forall, not_not, exists_prop] at hsome
  obtain ⟨r, rx, hfirst, -, hrecorded⟩ := hrecognised
  rw [h.firstBinaryMessage_eq] at hfirst
  obtain ⟨⟨r', n⟩, hparse, heq⟩ := Option.map_eq_some_iff.mp hfirst
  obtain ⟨rfl, rfl⟩ := Prod.mk.inj heq
  obtain ⟨p, hheader, hbehind⟩ := h.parse_header
    ((m.items.flatMap BinaryItem.fields).flatMap encodeField ++
      (encodeField (tagChecksum, m.checksum) ++ more))
  rw [bytes_eq, hheader] at hparse
  -- every field is a single one
  have hclosed : ∀ tag, (m.rules specs).opens tag = false := by
    intro tag
    rw [rules, hno]
    rfl
  obtain ⟨hgrouped, hsingle⟩ := Rules.scan_closed hclosed m.body
  have hdistinct := h.distinct
  rw [hsingle, body, fieldTags_append, fieldTags_append] at hdistinct
  obtain ⟨-, hbody, hheaderTags⟩ := List.nodup_append.mp hdistinct
  have hnew : ∀ field ∈ m.items.flatMap BinaryItem.fields, field.1 ∉ fieldTags p.message.tags := by
    intro field hfield
    rw [← lookup_eq_none_iff, hbehind.tags, lookup_foldl_insertNew, lookup_eq_none_iff]
    intro hmem
    exact hheaderTags _ hmem _ (List.mem_append_left _ (List.mem_map_of_mem hfield)) rfl
  have hscan := hbehind.inScan
  have hitems := h.items
  rw [encodedMsgType] at hno hitems
  rw [hno] at hscan hitems
  obtain ⟨field, hfield, hne⟩ := exists_misread hscan hbehind.reachedChecksum hitems h.size hsome
    hnew (List.nodup_append.mp hbody).1 _ hparse
  rcases hrecorded.fields field (List.mem_append_left _ hfield) with hgroup | hlookup
  · rw [hrecorded.recordedBy.store, hgrouped] at hgroup
    cases hgroup
  · exact hne hlookup

end BinaryMessage

/-- Binary data are recorded exactly when none end with a delimiter. -/
theorem binaryFields_iff {specs : RepeatingGroupSpecs} {binary : IncomingFixBinaryFieldSpecs}
    {m : BinaryMessage} (h : m.WellFormed specs binary) (more : Bytes) :
    m.Recognised specs binary more ↔ m.Readable := by
  have huncut : m.recordedBody = m.body ↔
      ∀ item ∈ m.items, ∀ data ∈ item.binaryData, data.getLast? ≠ some fixDelimiter := by
    rw [BinaryMessage.recordedBody_eq_iff]
    exact forall₂_congr fun item hitem => BinaryMessage.recorded_eq_iff (h.items item hitem)
  constructor
  · intro hrecognised
    have hknows := h.knowsLengths hrecognised
    obtain ⟨p, rx, hfirst, -, hcut⟩ := h.parse hknows more
    obtain ⟨p', rx', hfirst', -, hrecorded⟩ := hrecognised
    rw [hfirst] at hfirst'
    obtain ⟨rfl, rfl⟩ := Prod.mk.inj (Option.some.inj hfirst')
    exact ⟨huncut.mp (h.recordedBody_eq hcut hrecorded.recordedBy), hknows⟩
  · rintro ⟨hlast, hknows⟩
    obtain ⟨p, rx, hfirst, hbuffer, hcut⟩ := h.parse hknows more
    rw [huncut.mpr hlast] at hcut
    exact ⟨p, rx, hfirst, hbuffer, h.recorded hcut⟩

/-- The raw data of an order. -/
def exampleBinarySpecs : IncomingFixBinaryFieldSpecs :=
  IncomingFixBinaryFieldSpecs.specifyBinaryField {} (text "D") 95 96

/-- An order with raw data and their length. -/
def exampleRawData (length data : Bytes) : BinaryMessage where
  beginString := text "FIX.4.4"
  bodyLength := text "60"
  msgType := text "D"
  items := [.plain (55, text "XYZ"), .withLength 95 length 96 data, .plain (58, text "end")]
  checksum := text "000"

/-- The data `A`, delimiter, `B`. -/
theorem binaryFields_iff_delimiter :
    (exampleRawData (text "3") ['A'.toUInt8, fixDelimiter, 'B'.toUInt8]).Recognised {}
      exampleBinarySpecs [] :=
  (binaryFields_iff ⟨by decide, by decide, by decide, by decide, by decide⟩ []).mpr
    ⟨by decide, fun hno => absurd hno (by decide)⟩

/-- The data of one byte, a delimiter, are recorded without it. -/
theorem binaryFields_fails :
    (exampleRawData (text "1") [fixDelimiter]).WellFormed {} exampleBinarySpecs ∧
      ¬ (exampleRawData (text "1") [fixDelimiter]).Recognised {} exampleBinarySpecs [] := by
  refine ⟨⟨by decide, by decide, by decide, by decide, by decide⟩, ?_⟩
  rintro ⟨p, rx, hfirst, -, hrecorded⟩
  have hempty : (firstBinaryMessage {} exampleBinarySpecs
      ((exampleRawData (text "1") [fixDelimiter]).bytes ++ [])).any (fun result =>
        result.1.repeatingGroups = [] && result.2.message.tags.lookup 96 = some []) = true := by
    decide +kernel
  rw [hfirst, Option.any_some, Bool.and_eq_true, decide_eq_true_eq, decide_eq_true_eq] at hempty
  rcases hrecorded.fields (96, [fixDelimiter]) (by decide) with hgroup | hlookup
  · rw [hempty.1] at hgroup
    cases hgroup
  · rw [hempty.2] at hlookup
    exact absurd hlookup (by decide)

end Llfix
