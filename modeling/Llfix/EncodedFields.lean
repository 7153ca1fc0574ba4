import Mathlib.Data.List.Nodup
import Mathlib.Data.List.Perm.Subperm
import Llfix.Encoding
import Llfix.TagNumbers

/-!
# Reading encoded fields

A list of fields as `encode` writes it, read by the parser of the peer.

Results:
1. `recordTag_new`: a field with a new tag is recorded.
2. `parseParts_fields`: a list of fields with new tags is recorded as it is.
-/

namespace Llfix

/-! ## Tags of a list of fields -/

/-- The tags of fields. -/
def fieldTags (fields : List (Tag × Bytes)) : List Tag := fields.map Prod.fst

@[simp] theorem fieldTags_append (front back : List (Tag × Bytes)) :
    fieldTags (front ++ back) = fieldTags front ++ fieldTags back :=
  List.map_append

@[simp] theorem fieldTags_cons (field : Tag × Bytes) (fields : List (Tag × Bytes)) :
    fieldTags (field :: fields) = field.1 :: fieldTags fields := rfl

/-- A property of the tags of a list, decided one tag after the other. -/
theorem forall_tag_of_all {p : Tag → Prop} [DecidablePred p] {tags : List Tag}
    (h : tags.all (fun tag => decide (p tag)) = true) : ∀ tag ∈ tags, p tag :=
  fun tag hmem => of_decide_eq_true (List.all_eq_true.mp h tag hmem)

theorem lookup_eq_none_iff {fields : List (Tag × Bytes)} {tag : Tag} :
    fields.lookup tag = none ↔ tag ∉ fieldTags fields := by
  rw [List.lookup_eq_none_iff]
  constructor
  · rintro h hmem
    obtain ⟨field, hfield, rfl⟩ := List.mem_map.mp hmem
    exact absurd (h field hfield) (by simp)
  · intro h field hfield
    have hne : tag ≠ field.1 := fun heq => h (heq ▸ List.mem_map_of_mem hfield)
    simpa using hne

/-- The value of a tag that stands only once. -/
theorem lookup_of_nodup {fields : List (Tag × Bytes)} (h : (fieldTags fields).Nodup)
    {field : Tag × Bytes} (hfield : field ∈ fields) : fields.lookup field.1 = some field.2 := by
  obtain ⟨front, back, rfl⟩ := List.append_of_mem hfield
  have hfront : field.1 ∉ fieldTags front := by
    rw [fieldTags_append, fieldTags_cons] at h
    intro hmem
    exact (List.nodup_append.mp h).2.2 _ hmem _ List.mem_cons_self rfl
  rw [List.lookup_append, lookup_eq_none_iff.mpr hfront, Option.none_or]
  exact List.lookup_cons_self

theorem IncomingFixMessage.hasTag_eq_false_iff (m : IncomingFixMessage) (tag : Tag) :
    m.hasTag tag = false ↔ tag ∉ fieldTags m.tags := by
  rw [hasTag, Option.isSome_eq_false_iff, Option.isNone_iff_eq_none, lookup_eq_none_iff]

/-- There are no more distinct tags than numbers from 1 on. -/
theorem length_lt_of_nodup {fields : List (Tag × Bytes)} (h : (fieldTags fields).Nodup)
    (hzero : (0 : Tag) ∉ fieldTags fields) : fields.length < 4294967296 := by
  have hnumbers : ((fieldTags fields).map UInt32.toNat).Nodup :=
    List.Nodup.map (fun _ _ heq => UInt32.toNat_inj.mp heq) h
  have hrange : (fieldTags fields).map UInt32.toNat ⊆ List.range' 1 4294967295 := by
    intro n hn
    obtain ⟨tag, htag, rfl⟩ := List.mem_map.mp hn
    have hne : tag.toNat ≠ 0 := by
      intro heq
      have hnumber : tag = 0 := UInt32.toNat_inj.mp heq
      exact hzero (hnumber ▸ htag)
    have hlt := tag.toNat_lt
    rw [List.mem_range'_1]
    omega
  have hlength := (hnumbers.subperm hrange).length_le
  rw [List.length_map, fieldTags, List.length_map, List.length_range'] at hlength
  omega

/-! ## One field on the wire -/

/-- What the value of a field is: not empty, without a delimiter. -/
def IsValue (value : Bytes) : Prop := value ≠ [] ∧ fixDelimiter ∉ value

instance (value : Bytes) : Decidable (IsValue value) := inferInstanceAs (Decidable (_ ∧ _))

theorem noSpecial_of_digits {digits : Bytes} (h : digits.all isDigit = true) :
    fixEquals ∉ digits ∧ fixDelimiter ∉ digits := by
  constructor
  · intro hmem
    exact absurd (List.all_eq_true.mp h _ hmem) (by decide)
  · intro hmem
    exact absurd (List.all_eq_true.mp h _ hmem) (by decide)

theorem isValue_unsignedIntToChars (n : UInt32) : IsValue (unsignedIntToChars n) :=
  ⟨unsignedIntToChars_ne_nil n, (noSpecial_of_digits (unsignedIntToChars_all n)).2⟩

/-- A field without its delimiter. -/
def fieldPart (field : Tag × Bytes) : Bytes := unsignedIntToChars field.1 ++ fixEquals :: field.2

theorem encodeField_eq (field : Tag × Bytes) : encodeField field = fieldPart field ++ [fixDelimiter] :=
  rfl

theorem flatMap_encodeField (fields : List (Tag × Bytes)) :
    fields.flatMap encodeField = joinParts (fields.map fieldPart) := by
  rw [joinParts, List.flatMap_map]
  rfl

theorem fieldOf_fieldPart (field : Tag × Bytes) :
    fieldOf (fieldPart field) = some (unsignedIntToChars field.1, field.2) :=
  MessageParser.fieldOf_append (noSpecial_of_digits (unsignedIntToChars_all field.1)).1 field.2

theorem fieldPart_noDelimiter {field : Tag × Bytes} (h : fixDelimiter ∉ field.2) :
    fixDelimiter ∉ fieldPart field := by
  have hequals : fixDelimiter ≠ fixEquals := by decide
  rw [fieldPart, List.mem_append, List.mem_cons, not_or, not_or]
  exact ⟨(noSpecial_of_digits (unsignedIntToChars_all field.1)).2, hequals, h⟩

namespace MessageParser

variable {p : MessageParser} {start : Nat} {tag : Tag} {value : Bytes}

theorem isTagFormat_unsignedIntToChars (n : UInt32) : isTagFormat (unsignedIntToChars n) = true :=
  (isTagFormat_iff _).mpr
    ⟨⟨unsignedIntToChars_ne_nil n, unsignedIntToChars_all n⟩, unsignedIntToChars_length_le n⟩

/-- The loop reads a field that `encode` has written. -/
theorem endOfPart_fieldPart (specs : RepeatingGroupSpecs) (hvalue : value ≠ []) :
    p.endOfPart specs start (fieldPart (tag, value)) = p.recordTag specs start tag value := by
  have hlength : value.length ≠ 0 := mt List.length_eq_zero_iff.mp hvalue
  rw [endOfPart, fieldOf_fieldPart]
  dsimp only
  rw [endOfValue, if_pos (isTagFormat_unsignedIntToChars tag),
    charsToUnsignedInt_unsignedIntToChars, rejectIf, if_neg (by simp [hlength])]

/-! ## Recording -/

/-- The variables behind a field with a new tag. -/
def recorded (p : MessageParser) (tag : Tag) (value : Bytes) : MessageParser :=
  { p with
    currentTagIndex := p.currentTagIndex + 1
    message := { tags := p.message.tags ++ [(tag, value)] } }

/-- The field stands where the header has to stand. -/
def InHeaderOrder (index : UInt32) (tag : Tag) : Prop :=
  (index = 1 → tag = tagBeginString) ∧ (index = 2 → tag = tagBodyLength) ∧
    (index = 3 → tag = tagMsgType)

instance (index : UInt32) (tag : Tag) : Decidable (InHeaderOrder index tag) :=
  inferInstanceAs (Decidable (_ ∧ _))

/-- A field with a new tag is recorded, when there are no repeating groups. -/
theorem recordTag_new (hgroup : p.inARepeatingGroup = false) (hzero : tag ≠ 0)
    (hnew : tag ∉ fieldTags p.message.tags) (horder : InHeaderOrder (p.currentTagIndex + 1) tag) :
    p.recordTag {} start tag value = (p.recorded tag value).afterTag start tag value := by
  have hheader : ∀ q : MessageParser, q.currentTagIndex = p.currentTagIndex + 1 →
      q.validateHeaderTagsOrder tag = q := by
    intro q hq
    rw [validateHeaderTagsOrder, rejectIf, if_neg]
    rw [hq]
    simp only [Bool.or_eq_true, Bool.and_eq_true, decide_eq_true_eq]
    rintro ((⟨hindex, hne⟩ | ⟨hindex, hne⟩) | ⟨hindex, hne⟩)
    · exact hne (horder.1 hindex)
    · exact hne (horder.2.1 hindex)
    · exact hne (horder.2.2 hindex)
  have hno : ∀ q : MessageParser, q.inARepeatingGroup = false → q.updateRepeatingGroup {} tag = q := by
    intro q hq
    unfold updateRepeatingGroup
    rw [if_pos hq]
    split <;> rfl
  have hhas := (p.message.hasTag_eq_false_iff tag).mpr hnew
  rw [recordTag, rejectIf, if_neg (by simp [hzero])]
  let q : MessageParser := { p with currentTagIndex := p.currentTagIndex + 1 }
  have hgroup' : q.inARepeatingGroup = false := hgroup
  have hhas' : q.message.hasTag tag = false := hhas
  rw [hheader _ rfl]
  show ((q.updateRepeatingGroup {} tag).setTag tag value).afterTag start tag value = _
  rw [hno q hgroup', setTag, if_pos hgroup', if_pos hhas']
  rfl

/-- A field that is neither tag 10 nor tag 35 is only recorded. -/
theorem recordTag_plain (hgroup : p.inARepeatingGroup = false) (hzero : tag ≠ 0)
    (hnew : tag ∉ fieldTags p.message.tags) (horder : InHeaderOrder (p.currentTagIndex + 1) tag)
    (hchecksum : tag ≠ tagChecksum) (htype : tag ≠ tagMsgType) :
    p.recordTag {} start tag value = p.recorded tag value := by
  rw [recordTag_new hgroup hzero hnew horder, afterTag, if_neg hchecksum, if_neg htype]

/-- The variables behind fields with new tags. -/
def recordedAll (p : MessageParser) (fields : List (Tag × Bytes)) : MessageParser :=
  fields.foldl (fun p field => p.recorded field.1 field.2) p

theorem recordedAll_message (fields : List (Tag × Bytes)) :
    (p.recordedAll fields).message.tags = p.message.tags ++ fields := by
  induction fields generalizing p with
  | nil => exact (List.append_nil _).symm
  | cons field fields ih =>
    refine (ih (p := p.recorded field.1 field.2)).trans ?_
    simp [recorded]

theorem recordedAll_eq (fields : List (Tag × Bytes)) :
    ∃ index, p.recordedAll fields =
      { p with currentTagIndex := index, message := { tags := p.message.tags ++ fields } } := by
  induction fields generalizing p with
  | nil => exact ⟨p.currentTagIndex, by rw [List.append_nil]; rfl⟩
  | cons field fields ih =>
    obtain ⟨index, hindex⟩ := ih (p := p.recorded field.1 field.2)
    refine ⟨index, hindex.trans ?_⟩
    simp [recorded]

theorem recordedAll_currentTagIndex (p : MessageParser) (fields : List (Tag × Bytes))
    (h : p.currentTagIndex.toNat + fields.length < 4294967296) :
    (p.recordedAll fields).currentTagIndex.toNat = p.currentTagIndex.toNat + fields.length := by
  induction fields generalizing p with
  | nil => rfl
  | cons field fields ih =>
    rw [List.length_cons] at h
    have hnext : (p.recorded field.1 field.2).currentTagIndex.toNat =
        p.currentTagIndex.toNat + 1 := by
      show (p.currentTagIndex + 1).toNat = _
      rw [UInt32.toNat_add, UInt32.toNat_one]
      omega
    have hrest := ih (p := p.recorded field.1 field.2) (by omega)
    rw [hnext] at hrest
    rw [List.length_cons, Nat.add_comm fields.length, ← Nat.add_assoc]
    exact hrest

/-- Behind the third field there is no place in the header left. -/
theorem inHeaderOrder_of_lt {index : UInt32} (h : 3 < index.toNat) (tag : Tag) :
    InHeaderOrder index tag := by
  have hne : ∀ n : UInt32, n.toNat ≤ 3 → index ≠ n := by
    rintro n hn rfl
    exact absurd h (Nat.not_lt.mpr hn)
  exact ⟨fun heq => absurd heq (hne 1 (by decide)), fun heq => absurd heq (hne 2 (by decide)),
    fun heq => absurd heq (hne 3 (by decide))⟩

/-- Behind the header, fields with new tags are recorded as they are. -/
theorem parseParts_fields {fields : List (Tag × Bytes)} (parts : List Bytes)
    (hgroup : p.inARepeatingGroup = false) (hreached : p.reachedChecksum = false)
    (hindex : 3 ≤ p.currentTagIndex.toNat)
    (hcount : p.currentTagIndex.toNat + fields.length < 4294967296)
    (hnodup : (fieldTags (p.message.tags ++ fields)).Nodup)
    (hfields : ∀ field ∈ fields, field.1 ≠ 0 ∧ field.1 ≠ tagChecksum ∧ field.1 ≠ tagMsgType ∧
      IsValue field.2) :
    p.parseParts {} start (fields.map fieldPart ++ parts) =
      (p.recordedAll fields).parseParts {} (start + (fields.flatMap encodeField).length) parts := by
  induction fields generalizing p start with
  | nil => rfl
  | cons field fields ih =>
    obtain ⟨tag, value⟩ := field
    obtain ⟨hzero, hchecksum, htype, hvalue⟩ := hfields (tag, value) List.mem_cons_self
    rw [List.length_cons] at hcount
    have hnext : (p.currentTagIndex + 1).toNat = p.currentTagIndex.toNat + 1 := by
      rw [UInt32.toNat_add, UInt32.toNat_one]
      omega
    have hnew : tag ∉ fieldTags p.message.tags := by
      rw [fieldTags_append, fieldTags_cons] at hnodup
      intro hmem
      exact (List.nodup_append.mp hnodup).2.2 _ hmem _ List.mem_cons_self rfl
    have horder : InHeaderOrder (p.currentTagIndex + 1) tag :=
      inHeaderOrder_of_lt (by omega) tag
    have hpart : p.endOfPart {} start (fieldPart (tag, value)) = p.recorded tag value := by
      rw [endOfPart_fieldPart {} hvalue.1, recordTag_plain hgroup hzero hnew horder hchecksum htype]
    have hlength : start + (((tag, value) :: fields).flatMap encodeField).length =
        start + (fieldPart (tag, value)).length + 1 + (fields.flatMap encodeField).length := by
      rw [List.flatMap_cons, List.length_append, encodeField_eq, List.length_append,
        List.length_singleton]
      omega
    rw [List.map_cons, List.cons_append, parseParts, hpart, hlength]
    have hgoes : (p.recorded tag value).reachedChecksum = false := hreached
    rw [if_neg (by rw [hgoes]; exact Bool.false_ne_true)]
    have htags : (p.recorded tag value).message.tags ++ fields =
        p.message.tags ++ (tag, value) :: fields := by
      simp [recorded]
    have hindex' : 3 ≤ (p.recorded tag value).currentTagIndex.toNat := by
      show 3 ≤ (p.currentTagIndex + 1).toNat
      omega
    have hcount' : (p.recorded tag value).currentTagIndex.toNat + fields.length < 4294967296 := by
      show (p.currentTagIndex + 1).toNat + fields.length < 4294967296
      omega
    exact ih hgroup hgoes hindex' hcount' (by rw [htags]; exact hnodup)
      fun f hf => hfields f (List.mem_cons_of_mem _ hf)

end MessageParser

end Llfix
