import Mathlib.Data.List.TakeWhile
import Llfix.MessageSerialiser

/-!
# The text of a message in the deserialiser tool

`FixDeserialiser` of the deserialiser tool shows a stored message with `|` for the delimiter and
names for the tags it knows. It splits the message at the delimiters and each field at `=`, and
keeps the first two tokens of a field.

Results:
1. `split_fields`, `split_field`: the tokens of a message and of a field.
2. `processFixMessage_eq`: of each value the text shows what stands in front of its first `=`.
3. `showsWholeMessage_iff`: the whole message is shown exactly when no value contains `=`.
-/

namespace Llfix

/-! ## The tool -/

/-- `FixUtilities::fix_to_human_readible`. -/
def fixToHumanReadible (buffer : Bytes) : Bytes :=
  buffer.map fun c => if c = fixDelimiter then '|'.toUInt8 else c

/-- `FixDeserialiser`, without its entries. -/
structure FixDeserialiser where
  fieldNames : List (Bytes × Bytes) := []
  warnings : List Bytes := []
deriving DecidableEq, Repr

namespace FixDeserialiser

/-- `add_warning`. -/
def addWarning (d : FixDeserialiser) (warningMessage : Bytes) : FixDeserialiser :=
  { d with warnings := d.warnings ++ [warningMessage] }

/-- The name of a tag, or the tag itself. -/
def tagText (d : FixDeserialiser) (tag : Bytes) : Bytes := (d.fieldNames.lookup tag).getD tag

/-- What the loop of `process_fix_message` adds for a field. -/
def processTagValuePair (message : Bytes) (state : FixDeserialiser × Bytes) (tagValuePair : Bytes) :
    FixDeserialiser × Bytes :=
  let (d, ret) := state
  match split tagValuePair fixEquals with
  | tag :: value :: _ => (d, ret ++ (d.tagText tag ++ fixEquals :: (value ++ ['|'.toUInt8])))
  | _ =>
    if 0 < tagValuePair.length then
      (d.addWarning (text "No equals sign in " ++ tagValuePair ++ text " full message: " ++
        fixToHumanReadible message), ret ++ (tagValuePair ++ ['|'.toUInt8]))
    else (d, ret)

/-- `process_fix_message`. -/
def processFixMessage (d : FixDeserialiser) (message : Bytes) : FixDeserialiser × Bytes :=
  let tagValuePairs := split message fixDelimiter
  let d :=
    if tagValuePairs.length = 0 then
      d.addWarning (text "No FIX delimiter in : " ++ fixToHumanReadible message)
    else d
  tagValuePairs.foldl (processTagValuePair message) (d, [])

end FixDeserialiser

/-! ## Tokens -/

/-- The token that is being read ends at the next separator, if there is one. -/
theorem splitOnto_head (separator : UInt8) {token rest : Bytes} (h : token ≠ [] ∨ rest ≠ []) :
    ∃ more, splitOnto separator rest token =
      (token ++ rest.takeWhile (· ≠ separator)) :: more := by
  induction rest generalizing token with
  | nil =>
    have htoken := h.resolve_right (not_not.mpr rfl)
    refine ⟨[], ?_⟩
    rw [splitOnto, if_neg (by rwa [List.isEmpty_iff]), List.takeWhile_nil, List.append_nil]
  | cons c rest ih =>
    by_cases hc : c = separator
    · refine ⟨splitOnto separator rest [], ?_⟩
      rw [splitOnto, if_pos hc, List.takeWhile_cons, hc]
      simp
    · have htoken : token ++ [c] ≠ [] :=
        List.append_ne_nil_of_right_ne_nil _ (List.cons_ne_nil c [])
      obtain ⟨more, hmore⟩ := ih (Or.inl htoken)
      refine ⟨more, ?_⟩
      rw [splitOnto, if_neg hc, hmore, List.takeWhile_cons, if_pos (by simpa using hc),
        List.append_assoc]
      rfl

/-! ## Fields -/

/-- What a field of a record is: neither its tag nor its value has a delimiter or a NUL, the tag has
no `=`, and the value is not empty. -/
structure IsRecordField (field : Bytes × Bytes) : Prop where
  tag : fixDelimiter ∉ field.1 ∧ fixEquals ∉ field.1 ∧ 0 ∉ field.1
  value : fixDelimiter ∉ field.2 ∧ 0 ∉ field.2
  nonempty : field.2 ≠ []

/-- `tag=value`. -/
def recordField (field : Bytes × Bytes) : Bytes := field.1 ++ fixEquals :: field.2

/-- A message of fields, each with its delimiter. -/
def recordMessage (fields : List (Bytes × Bytes)) : Bytes :=
  fields.flatMap fun field => recordField field ++ [fixDelimiter]

/-- The text of the whole message, with the names of the tags. -/
def FixDeserialiser.wholeText (d : FixDeserialiser) (fields : List (Bytes × Bytes)) : Bytes :=
  fields.flatMap fun field => d.tagText field.1 ++ fixEquals :: (field.2 ++ ['|'.toUInt8])

theorem takeWhile_ne_self {c : UInt8} {bytes : Bytes} (h : c ∉ bytes) :
    bytes.takeWhile (· ≠ c) = bytes := by
  rw [List.takeWhile_eq_self_iff]
  intro b hb
  rw [decide_eq_true_eq]
  rintro rfl
  exact h hb

variable {field : Bytes × Bytes} {fields : List (Bytes × Bytes)}

theorem IsRecordField.not_mem {c : UInt8} (hc : c ≠ fixEquals) (htag : c ∉ field.1)
    (hvalue : c ∉ field.2) : c ∉ recordField field := by
  rw [recordField, List.mem_append, List.mem_cons]
  rintro (hmem | rfl | hmem)
  · exact htag hmem
  · exact hc rfl
  · exact hvalue hmem

/-- The fields of a message are its tokens. -/
theorem split_fields (h : ∀ field ∈ fields, IsRecordField field) :
    split (recordMessage fields) fixDelimiter = fields.map recordField := by
  have hnul : 0 ∉ recordMessage fields := by
    intro hmem
    obtain ⟨field, hfield, hmem⟩ := List.mem_flatMap.mp hmem
    rcases List.mem_append.mp hmem with hmem | hmem
    · exact IsRecordField.not_mem (by decide) (h field hfield).tag.2.2 (h field hfield).value.2 hmem
    · cases List.mem_singleton.mp hmem
  have hfields : recordMessage fields =
      (fields.map recordField).flatMap (· ++ [fixDelimiter]) := by
    rw [List.flatMap_map]
    rfl
  rw [split, takeWhile_ne_self hnul, hfields]
  refine splitOnto_lines fun line hline => ?_
  obtain ⟨field, hfield, rfl⟩ := List.mem_map.mp hline
  exact IsRecordField.not_mem (by decide) (h field hfield).tag.1 (h field hfield).value.1

/-- The second token of a field is its value up to the next `=`. -/
theorem split_field (h : IsRecordField field) :
    ∃ more, split (recordField field) fixEquals =
      field.1 :: field.2.takeWhile (· ≠ fixEquals) :: more := by
  have hnul : 0 ∉ recordField field := IsRecordField.not_mem (by decide) h.tag.2.2 h.value.2
  have hsecond : ([] : Bytes) ≠ [] ∨ field.2 ≠ [] := Or.inr h.nonempty
  obtain ⟨more, hmore⟩ := splitOnto_head fixEquals hsecond
  refine ⟨more, ?_⟩
  rw [split, takeWhile_ne_self hnul, recordField, splitOnto_separator h.tag.2.1, hmore]
  rfl

/-! ## The whole message -/

namespace FixDeserialiser

variable (d : FixDeserialiser)

/-- What the text shows of the fields. -/
def shownText (fields : List (Bytes × Bytes)) : Bytes :=
  fields.flatMap fun field =>
    d.tagText field.1 ++ fixEquals :: (field.2.takeWhile (· ≠ fixEquals) ++ ['|'.toUInt8])

theorem processFixMessage_eq (h : ∀ field ∈ fields, IsRecordField field) :
    (d.processFixMessage (recordMessage fields)).2 = d.shownText fields := by
  -- no warning touches the names
  have hloop : ∀ (message : Bytes) (d' : FixDeserialiser) (ret : Bytes),
      d'.fieldNames = d.fieldNames →
      ((fields.map recordField).foldl (processTagValuePair message) (d', ret)).2 =
        ret ++ d.shownText fields := by
    intro message
    induction fields with
    | nil => exact fun d' ret _ => (List.append_nil ret).symm
    | cons field fields ih =>
      intro d' ret hnames
      obtain ⟨more, hmore⟩ := split_field (h field List.mem_cons_self)
      have hname : d'.tagText field.1 = d.tagText field.1 := by
        rw [tagText, tagText, hnames]
      rw [List.map_cons, List.foldl_cons, processTagValuePair, hmore]
      dsimp only
      rw [ih (fun field' hmem => h field' (List.mem_cons_of_mem _ hmem)) _ _ hnames, hname,
        List.append_assoc]
      rfl
  unfold processFixMessage
  dsimp only
  rw [split_fields h]
  split
  · exact hloop _ _ _ rfl
  · exact hloop _ _ _ rfl

/-- Without names, the whole text is the message with `|` for the delimiters. -/
theorem wholeText_noNames (hnames : d.fieldNames = [])
    (h : ∀ field ∈ fields, IsRecordField field) :
    d.wholeText fields = fixToHumanReadible (recordMessage fields) := by
  have hkeep : ∀ bytes : Bytes, fixDelimiter ∉ bytes → fixToHumanReadible bytes = bytes := by
    intro bytes hbytes
    refine List.map_congr_left (fun c hc => if_neg ?_) |>.trans (List.map_id bytes)
    rintro rfl
    exact hbytes hc
  rw [wholeText, recordMessage, fixToHumanReadible, List.map_flatMap]
  refine List.flatMap_congr fun field hfield => ?_
  have hdelimiter : fixDelimiter ∉ recordField field :=
    IsRecordField.not_mem (by decide) (h field hfield).tag.1 (h field hfield).value.1
  have hfield' := hkeep (recordField field) hdelimiter
  rw [fixToHumanReadible] at hfield'
  rw [List.map_append, hfield', tagText, hnames, recordField, List.append_assoc]
  rfl

/-- A value is shown whole exactly when it has no `=`, and what is dropped is never made up for. -/
theorem shownText_iff (fields : List (Bytes × Bytes)) :
    d.shownText fields = d.wholeText fields ↔ ∀ field ∈ fields, fixEquals ∉ field.2 := by
  have hprefix : ∀ value : Bytes, (value.takeWhile (· ≠ fixEquals)).length ≤ value.length :=
    fun value => (List.takeWhile_prefix _).length_le
  have hshorter : ∀ fields, (d.shownText fields).length ≤ (d.wholeText fields).length := by
    intro fields
    induction fields with
    | nil => exact Nat.le_refl _
    | cons field fields ih =>
      have hvalue := hprefix field.2
      simp only [shownText, wholeText, List.flatMap_cons, List.length_append, List.length_cons]
        at ih ⊢
      omega
  constructor
  · intro heq
    have hlength := congrArg List.length heq
    clear heq
    induction fields with
    | nil => exact fun field hmem => absurd hmem List.not_mem_nil
    | cons field fields ih =>
      have hvalue := hprefix field.2
      have hrest := hshorter fields
      simp only [shownText, wholeText, List.flatMap_cons, List.length_append, List.length_cons]
        at hrest hlength ih
      have hwhole : (field.2.takeWhile (· ≠ fixEquals)).length = field.2.length := by omega
      have hself := (List.takeWhile_prefix (· ≠ fixEquals)).eq_of_length hwhole
      intro field' hmem
      rcases List.mem_cons.mp hmem with rfl | hmem
      · intro hequals
        have hall := (List.takeWhile_eq_self_iff.mp hself) fixEquals hequals
        simp at hall
      · exact ih (by omega) field' hmem
  · intro h
    refine List.flatMap_congr fun field hfield => ?_
    rw [takeWhile_ne_self (h field hfield)]

end FixDeserialiser

/-- The text of a record, without names and with them, is the whole message. -/
def ShowsWholeMessage (fieldNames fields : List (Bytes × Bytes)) : Prop :=
  (({} : FixDeserialiser).processFixMessage (recordMessage fields)).2 =
      fixToHumanReadible (recordMessage fields) ∧
    (({ fieldNames } : FixDeserialiser).processFixMessage (recordMessage fields)).2 =
      ({ fieldNames } : FixDeserialiser).wholeText fields

/-- The whole message is shown if and only if no value contains `=`. -/
theorem showsWholeMessage_iff (fieldNames : List (Bytes × Bytes)) {fields : List (Bytes × Bytes)}
    (h : ∀ field ∈ fields, IsRecordField field) :
    ShowsWholeMessage fieldNames fields ↔ ∀ field ∈ fields, fixEquals ∉ field.2 := by
  rw [ShowsWholeMessage, FixDeserialiser.processFixMessage_eq _ h,
    FixDeserialiser.processFixMessage_eq _ h, ← FixDeserialiser.wholeText_noNames {} rfl h,
    FixDeserialiser.shownText_iff, FixDeserialiser.shownText_iff]
  exact and_self_iff

/-- A message type and a text. -/
def exampleRecord (value : Bytes) : List (Bytes × Bytes) :=
  [(text "35", text "B"), (text "58", value)]

theorem exampleRecord_fields {value : Bytes} (h : IsRecordField (text "58", value)) :
    ∀ field ∈ exampleRecord value, IsRecordField field := by
  intro field hfield
  rcases List.mem_cons.mp hfield with rfl | hfield
  · exact ⟨by decide, by decide, by decide⟩
  · obtain rfl := List.mem_singleton.mp hfield
    exact h

theorem showsWholeMessage_iff_news :
    ShowsWholeMessage [(text "35", text "MsgType")] (exampleRecord (text "a:b")) := by
  have hfields : ∀ field ∈ exampleRecord (text "a:b"), IsRecordField field :=
    exampleRecord_fields ⟨by decide, by decide, by decide⟩
  refine (showsWholeMessage_iff _ hfields).mpr fun field hfield => ?_
  rcases List.mem_cons.mp hfield with rfl | hfield
  · decide
  · obtain rfl := List.mem_singleton.mp hfield
    decide

/-- Of the text `a=b` only `a` is shown. -/
theorem showsWholeMessage_fails :
    (∀ field ∈ exampleRecord (text "a=b"), IsRecordField field) ∧
      (({} : FixDeserialiser).processFixMessage (recordMessage (exampleRecord (text "a=b")))).2 =
        text "35=B|58=a|" ∧
      ¬ ShowsWholeMessage [] (exampleRecord (text "a=b")) := by
  refine ⟨exampleRecord_fields ⟨by decide, by decide, by decide⟩, by decide, ?_⟩
  rintro ⟨hshown, -⟩
  revert hshown
  decide

end Llfix
