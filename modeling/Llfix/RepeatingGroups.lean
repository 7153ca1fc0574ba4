import Llfix.EncodedFields
import Llfix.Lib.GroupScan
import Llfix.MsgTypeCodes

/-!
# Repeating groups

The parser knows which tags open a repeating group and which belong to one, and keeps the count tag
of the group it stands in. A tag that does not belong to that group ends it, and is not looked at
again.

Results:
1. `specified_isARepeatingGroupCountTag`, `specified_isARepeatingGroupTag`: what the tables answer.
2. `getValue_eq`: the values of a tag in the store.
3. `parseParts_scan`: the parser records a message as a scan for groups finds it.
4. `repeatingGroups_iff`: the groups are recognised exactly when none stands directly behind another.
5. `repeatingGroups_fails`: two groups, one directly behind the other.
-/

namespace Llfix

open GroupScan

/-! ## The tables -/

/-- A call of `specify_repeating_group`. -/
structure GroupDeclaration where
  messageType : Bytes
  countTag : Tag
  members : List Tag
deriving DecidableEq, Repr

/-- `IncomingFixRepeatingGroupSpecs`: the entries of the two tables. -/
structure IncomingFixRepeatingGroupSpecs where
  countTags : List (UInt32 × Tag) := []
  repeatingGroupTags : List (UInt32 × Tag × Tag) := []

namespace IncomingFixRepeatingGroupSpecs

variable (specs : IncomingFixRepeatingGroupSpecs)

/-- `add_count_tag`. -/
def addCountTag (messageType : Bytes) (tag : Tag) : IncomingFixRepeatingGroupSpecs :=
  let entry := (packMessageType messageType, tag)
  if entry ∈ specs.countTags then specs else { specs with countTags := specs.countTags ++ [entry] }

/-- `add_repeating_group_tag`. -/
def addRepeatingGroupTag (messageType : Bytes) (countTag tag : Tag) :
    IncomingFixRepeatingGroupSpecs :=
  let entry := (packMessageType messageType, countTag, tag)
  if entry ∈ specs.repeatingGroupTags then specs
  else { specs with repeatingGroupTags := specs.repeatingGroupTags ++ [entry] }

/-- `specify_repeating_group`. -/
def specifyRepeatingGroup (d : GroupDeclaration) : IncomingFixRepeatingGroupSpecs :=
  d.members.foldl (fun specs tag => specs.addRepeatingGroupTag d.messageType d.countTag tag)
    (specs.addCountTag d.messageType d.countTag)

/-- `is_a_repeating_group_count_tag` and `is_a_repeating_group_tag`. -/
def answers : RepeatingGroupSpecs where
  isARepeatingGroupCountTag encodedMsgType tag := (encodedMsgType, tag) ∈ specs.countTags
  isARepeatingGroupTag encodedMsgType countTag tag :=
    (encodedMsgType, countTag, tag) ∈ specs.repeatingGroupTags

theorem mem_countTags_addCountTag (messageType : Bytes) (tag : Tag) (entry : UInt32 × Tag) :
    entry ∈ (specs.addCountTag messageType tag).countTags ↔
      entry ∈ specs.countTags ∨ entry = (packMessageType messageType, tag) := by
  unfold addCountTag
  dsimp only
  split
  next hmem => exact ⟨Or.inl, fun h => h.elim id fun heq => heq ▸ hmem⟩
  next => rw [List.mem_append, List.mem_singleton]

theorem mem_repeatingGroupTags_addRepeatingGroupTag (messageType : Bytes) (countTag tag : Tag)
    (entry : UInt32 × Tag × Tag) :
    entry ∈ (specs.addRepeatingGroupTag messageType countTag tag).repeatingGroupTags ↔
      entry ∈ specs.repeatingGroupTags ∨
        entry = (packMessageType messageType, countTag, tag) := by
  unfold addRepeatingGroupTag
  dsimp only
  split
  next hmem => exact ⟨Or.inl, fun h => h.elim id fun heq => heq ▸ hmem⟩
  next => rw [List.mem_append, List.mem_singleton]

/-- A declaration adds its count tag and its members, and nothing else. -/
theorem specifyRepeatingGroup_entries (d : GroupDeclaration) :
    (∀ entry, entry ∈ (specs.specifyRepeatingGroup d).countTags ↔
      entry ∈ specs.countTags ∨ entry = (packMessageType d.messageType, d.countTag)) ∧
    ∀ entry, entry ∈ (specs.specifyRepeatingGroup d).repeatingGroupTags ↔
      entry ∈ specs.repeatingGroupTags ∨
        ∃ tag ∈ d.members, entry = (packMessageType d.messageType, d.countTag, tag) := by
  have hmembers : ∀ (members : List Tag) (specs : IncomingFixRepeatingGroupSpecs),
      let added := members.foldl
        (fun specs tag => specs.addRepeatingGroupTag d.messageType d.countTag tag) specs
      (∀ entry, entry ∈ added.countTags ↔ entry ∈ specs.countTags) ∧
        ∀ entry, entry ∈ added.repeatingGroupTags ↔
          entry ∈ specs.repeatingGroupTags ∨
            ∃ tag ∈ members, entry = (packMessageType d.messageType, d.countTag, tag) := by
    intro members
    induction members with
    | nil =>
      intro specs
      exact ⟨fun entry => Iff.rfl, fun entry => by simp⟩
    | cons tag members ih =>
      intro specs
      obtain ⟨hcount, hgroup⟩ := ih (specs.addRepeatingGroupTag d.messageType d.countTag tag)
      constructor
      · intro entry
        refine (hcount entry).trans ?_
        unfold addRepeatingGroupTag
        dsimp only
        split <;> rfl
      · intro entry
        refine (hgroup entry).trans ?_
        rw [mem_repeatingGroupTags_addRepeatingGroupTag]
        simp only [List.mem_cons, exists_eq_or_imp]
        tauto
  obtain ⟨hcount, hgroup⟩ := hmembers d.members (specs.addCountTag d.messageType d.countTag)
  refine ⟨fun entry => (hcount entry).trans (specs.mem_countTags_addCountTag _ _ entry),
    fun entry => (hgroup entry).trans ?_⟩
  unfold addCountTag
  dsimp only
  split <;> rfl

end IncomingFixRepeatingGroupSpecs

/-- The tables behind calls of `specify_repeating_group`. -/
def specified (declarations : List GroupDeclaration) : IncomingFixRepeatingGroupSpecs :=
  declarations.foldl IncomingFixRepeatingGroupSpecs.specifyRepeatingGroup {}

theorem specified_entries (declarations : List GroupDeclaration) :
    (∀ entry, entry ∈ (specified declarations).countTags ↔
      ∃ d ∈ declarations, entry = (packMessageType d.messageType, d.countTag)) ∧
    ∀ entry, entry ∈ (specified declarations).repeatingGroupTags ↔
      ∃ d ∈ declarations, ∃ tag ∈ d.members,
        entry = (packMessageType d.messageType, d.countTag, tag) := by
  induction declarations using List.reverseRecOn with
  | nil => exact ⟨fun entry => by simp [specified], fun entry => by simp [specified]⟩
  | append_singleton declarations d ih =>
    have hlast : specified (declarations ++ [d]) =
        (specified declarations).specifyRepeatingGroup d := List.foldl_append
    obtain ⟨hcount, hgroup⟩ := (specified declarations).specifyRepeatingGroup_entries d
    rw [hlast]
    constructor
    · intro entry
      rw [hcount, ih.1]
      simp only [List.mem_append, List.mem_singleton, or_and_right, exists_or, exists_eq_left]
    · intro entry
      rw [hgroup, ih.2]
      simp only [List.mem_append, List.mem_singleton, or_and_right, exists_or, exists_eq_left]

/-- A count tag of a message type is one that was declared for a type that is packed alike. -/
theorem specified_isARepeatingGroupCountTag (declarations : List GroupDeclaration)
    (encodedMsgType : UInt32) (tag : Tag) :
    (specified declarations).answers.isARepeatingGroupCountTag encodedMsgType tag = true ↔
      ∃ d ∈ declarations, packMessageType d.messageType = encodedMsgType ∧ d.countTag = tag := by
  show decide ((encodedMsgType, tag) ∈ (specified declarations).countTags) = true ↔ _
  rw [decide_eq_true_eq, (specified_entries declarations).1]
  simp only [Prod.mk.injEq, eq_comm]

/-- A member is one of a declaration with the count tag. -/
theorem specified_isARepeatingGroupTag (declarations : List GroupDeclaration)
    (encodedMsgType : UInt32) (countTag tag : Tag) :
    (specified declarations).answers.isARepeatingGroupTag encodedMsgType countTag tag = true ↔
      ∃ d ∈ declarations, packMessageType d.messageType = encodedMsgType ∧
        d.countTag = countTag ∧ tag ∈ d.members := by
  show decide ((encodedMsgType, countTag, tag) ∈ (specified declarations).repeatingGroupTags) =
    true ↔ _
  rw [decide_eq_true_eq, (specified_entries declarations).2]
  constructor
  · rintro ⟨d, hd, member, hmember, heq⟩
    simp only [Prod.mk.injEq] at heq
    obtain ⟨rfl, rfl, rfl⟩ := heq
    exact ⟨d, hd, rfl, rfl, hmember⟩
  · rintro ⟨d, hd, rfl, rfl, hmember⟩
    exact ⟨d, hd, tag, hmember, rfl⟩

/-! ## The store -/

namespace IncomingFixRepeatingGroups

/-- The loop of `get_value`: `index` values of the tag have still to be passed. -/
def getValue (tag : Tag) : Nat → List (Tag × Bytes) → Option Bytes
  | _, [] => none
  | index, field :: fields =>
    if field.1 = tag then
      if index = 0 then some field.2 else getValue tag (index - 1) fields
    else getValue tag index fields

/-- `get_value` finds the values of the tag in their order. -/
theorem getValue_eq (tag : Tag) (index : Nat) (fields : List (Tag × Bytes)) :
    getValue tag index fields =
      ((fields.filter fun field => field.1 = tag).map Prod.snd)[index]? := by
  induction fields generalizing index with
  | nil => rfl
  | cons field fields ih =>
    by_cases htag : field.1 = tag
    · have hfilter : (field :: fields).filter (fun field => field.1 = tag) =
          field :: fields.filter fun field => field.1 = tag :=
        List.filter_cons_of_pos (decide_eq_true htag)
      rw [getValue, if_pos htag, hfilter, List.map_cons]
      cases index with
      | zero => rfl
      | succ index =>
        rw [if_neg (Nat.succ_ne_zero index), ih, List.getElem?_cons_succ]
        rfl
    · have hfilter : (field :: fields).filter (fun field => field.1 = tag) =
          fields.filter fun field => field.1 = tag :=
        List.filter_cons_of_neg (by rw [decide_eq_true_eq]; exact htag)
      rw [getValue, if_neg htag, hfilter, ih]

end IncomingFixRepeatingGroups

/-! ## The dictionary -/

/-- A field is put into the dictionary, where a tag is kept once. -/
def insertNew (dict : List (Tag × Bytes)) (field : Tag × Bytes) : List (Tag × Bytes) :=
  if (dict.lookup field.1).isSome then dict else dict ++ [field]

/-- The dictionary gives the first value of a tag. -/
theorem lookup_insertNew (dict : List (Tag × Bytes)) (field : Tag × Bytes)
    (fields : List (Tag × Bytes)) (tag : Tag) :
    (insertNew dict field ++ fields).lookup tag = (dict ++ field :: fields).lookup tag := by
  unfold insertNew
  split
  next hsome =>
    rw [List.lookup_append, List.lookup_append]
    cases hdict : dict.lookup tag with
    | some value => rfl
    | none =>
      have hne : tag ≠ field.1 := by
        rintro rfl
        rw [hdict] at hsome
        cases hsome
      rw [Option.none_or, Option.none_or]
      obtain ⟨key, value⟩ := field
      rw [List.lookup_cons, beq_false_of_ne hne]
  next => rw [List.append_assoc, List.singleton_append]

theorem lookup_foldl_insertNew (dict fields : List (Tag × Bytes)) (tag : Tag) :
    (fields.foldl insertNew dict).lookup tag = (dict ++ fields).lookup tag := by
  induction fields generalizing dict with
  | nil => rw [List.append_nil]; rfl
  | cons field fields ih =>
    rw [List.foldl_cons, ih, lookup_insertNew]

/-! ## One field -/

namespace MessageParser

/-- The count tag of the group that the loop stands in. -/
def openGroup (p : MessageParser) : Option Tag :=
  if p.inARepeatingGroup then some p.currentRgCountTag else none

/-- What the loop goes by for a packed type. -/
def groupRules (specs : RepeatingGroupSpecs) (encodedMsgType : UInt32) : Rules Tag where
  opens tag :=
    encodedMsgType ≠ noMessageType && specs.isARepeatingGroupCountTag encodedMsgType tag
  belongs := specs.isARepeatingGroupTag encodedMsgType

section

variable (p : MessageParser) (specs : RepeatingGroupSpecs) (tag : Tag)

/-- Without a type, no group is open. -/
def NoGroupBeforeType : Prop :=
  p.encodedCurrentMessageType = noMessageType → p.openGroup = none

theorem updateRepeatingGroup_openGroup (h : p.NoGroupBeforeType) :
    (p.updateRepeatingGroup specs tag).openGroup =
      (groupRules specs p.encodedCurrentMessageType).step p.openGroup tag := by
  have hin : p.inARepeatingGroup = true → p.openGroup = some p.currentRgCountTag :=
    fun hopen => if_pos hopen
  have hout : p.inARepeatingGroup = false → p.openGroup = none :=
    fun hclosed => if_neg (by rw [hclosed]; exact Bool.false_ne_true)
  unfold updateRepeatingGroup
  by_cases htype : p.encodedCurrentMessageType = noMessageType
  · have hnone : (groupRules specs p.encodedCurrentMessageType).opens tag = false := by
      simp [groupRules, htype]
    rw [if_neg (not_not.mpr htype), h htype]
    exact (if_neg (by rw [hnone]; exact Bool.false_ne_true)).symm
  · have hopens : (groupRules specs p.encodedCurrentMessageType).opens tag =
        specs.isARepeatingGroupCountTag p.encodedCurrentMessageType tag := by
      simp [groupRules, htype]
    rw [if_pos htype]
    cases hgroup : p.inARepeatingGroup with
    | false =>
      rw [if_pos rfl, hout hgroup, Rules.step, Option.elim_none, hopens]
      split
      · rfl
      · exact hout hgroup
    | true =>
      rw [if_neg Bool.true_eq_false_eq_False, hin hgroup, Rules.step, Option.elim_some]
      show (if specs.isARepeatingGroupTag _ _ tag = false then _ else _ : MessageParser).openGroup =
        if specs.isARepeatingGroupTag p.encodedCurrentMessageType p.currentRgCountTag tag = true
          then some p.currentRgCountTag else none
      cases specs.isARepeatingGroupTag p.encodedCurrentMessageType p.currentRgCountTag tag with
      | true =>
        rw [if_neg Bool.true_eq_false_eq_False, if_pos rfl]
        exact hin hgroup
      | false => rfl

theorem updateRepeatingGroup_groupState {q : MessageParser} (h : q.groupState = p.groupState) :
    (q.updateRepeatingGroup specs tag).groupState =
      (p.updateRepeatingGroup specs tag).groupState := by
  have hstate := h
  simp only [groupState, Prod.mk.injEq] at h
  obtain ⟨htype, hin, hcount⟩ := h
  unfold updateRepeatingGroup
  rw [htype, hin, hcount]
  split_ifs
  · simp [groupState]
  · exact hstate
  · simp [groupState]
  · exact hstate
  · exact hstate

end

/-- The loop stands inside a message of a packed type, with a group open or none. -/
structure InScan (p : MessageParser) (encodedMsgType : UInt32) (group : Option Tag) : Prop where
  type : p.encodedCurrentMessageType = encodedMsgType
  openGroup : p.openGroup = group
  noGroup : encodedMsgType = noMessageType → group = none

section

variable (p : MessageParser) (specs : RepeatingGroupSpecs) (start : Nat) (tag : Tag)
  (value : Bytes)

theorem setTag_groupState : (p.setTag tag value).groupState = p.groupState := by
  unfold setTag
  split_ifs <;> rfl

theorem validateTag9AndTag35_groupState :
    (p.validateTag9AndTag35 start).groupState = p.groupState := by
  unfold validateTag9AndTag35
  cases p.currentTag35TagStartIndex with
  | none => rfl
  | some tag35Start =>
    dsimp only
    split_ifs
    · exact p.rejectIf_groupState _ _
    · rfl
    · rfl

theorem beforeSetTag_groupState :
    (p.beforeSetTag specs tag).groupState = (p.updateRepeatingGroup specs tag).groupState := by
  refine updateRepeatingGroup_groupState p specs tag ?_
  rw [validateHeaderTagsOrder, rejectIf_groupState]
  exact p.rejectIf_groupState _ _

theorem afterTag_groupState (htype : tag ≠ tagMsgType) :
    (p.afterTag start tag value).groupState = p.groupState := by
  unfold afterTag
  split_ifs
  · exact validateTag9AndTag35_groupState p start
  · rfl

/-- Tag 35 gives the type and leaves the group. -/
theorem afterTag_msgType :
    (p.afterTag start tagMsgType value).encodedCurrentMessageType = packMessageType value ∧
      (p.afterTag start tagMsgType value).openGroup = p.openGroup :=
  ⟨rfl, rfl⟩

/-- Behind a field that is not tag 35, the group is the one that was open when it was stored. -/
theorem recordTag_groupState (htype : tag ≠ tagMsgType) :
    (p.recordTag specs start tag value).groupState =
      (p.updateRepeatingGroup specs tag).groupState := by
  rw [recordTag_eq, afterTag_groupState _ start tag value htype, setTag_groupState,
    beforeSetTag_groupState]

/-- The loop reads a field that `encode` has written, also one without a value. -/
theorem endOfPart_field :
    p.endOfPart specs start (fieldPart (tag, value)) =
      (p.rejectIf (value.length = 0) fixErrorCodeTagWithoutValue).recordTag specs start tag
        value := by
  rw [endOfPart, fieldOf_fieldPart]
  dsimp only
  rw [endOfValue, if_pos (isTagFormat_unsignedIntToChars tag), charsToUnsignedInt_unsignedIntToChars]

theorem endOfPart_field_reachedChecksum :
    (p.endOfPart specs start (fieldPart (tag, value))).reachedChecksum =
      (p.reachedChecksum || decide (tag = tagChecksum)) := by
  rw [endOfPart_field, recordTag_eq, afterTag_reachedChecksum]
  simp [beforeSetTag]

end

section

variable {p : MessageParser} (specs : RepeatingGroupSpecs) (start : Nat) {tag : Tag}
  (value : Bytes) {encodedMsgType : UInt32} {group : Option Tag}

theorem openGroup_eq {q : MessageParser} (h : q.groupState = p.groupState) :
    q.openGroup = p.openGroup := by
  simp only [groupState, Prod.mk.injEq] at h
  rw [openGroup, openGroup, h.2.1, h.2.2]

theorem isSome_openGroup (q : MessageParser) : q.openGroup.isSome = q.inARepeatingGroup := by
  unfold openGroup
  cases q.inARepeatingGroup <;> rfl

theorem updateRepeatingGroup_type (q : MessageParser) (specs : RepeatingGroupSpecs) (tag : Tag) :
    (q.updateRepeatingGroup specs tag).encodedCurrentMessageType =
      q.encodedCurrentMessageType := by
  unfold updateRepeatingGroup
  split_ifs <;> rfl

/-- A field of a group goes to the store, any other into the dictionary. -/
theorem recordTag_kept (q : MessageParser) (specs : RepeatingGroupSpecs) (start : Nat) (tag : Tag)
    (value : Bytes) :
    let grouped := (q.updateRepeatingGroup specs tag).inARepeatingGroup
    (q.recordTag specs start tag value).message.tags =
        (if grouped then q.message.tags else insertNew q.message.tags (tag, value)) ∧
      (q.recordTag specs start tag value).repeatingGroups =
        q.repeatingGroups ++ if grouped then [(tag, value)] else [] := by
  have hkept := q.recordTag_stored specs start tag value
  cases hgroup : (q.updateRepeatingGroup specs tag).inARepeatingGroup with
  | true =>
    have hstores : q.Stores specs tag := Or.inl hgroup
    rw [if_pos hstores, storedWith, if_pos hgroup] at hkept
    obtain ⟨hmessage, hgroups⟩ := Prod.mk.inj hkept
    exact ⟨congrArg IncomingFixMessage.tags hmessage, hgroups⟩
  | false =>
    dsimp only
    rw [if_neg Bool.false_ne_true, if_neg Bool.false_ne_true, List.append_nil]
    cases hhas : q.message.hasTag tag with
    | true =>
      have hstores : ¬ q.Stores specs tag := by
        rintro (h | h)
        · exact Bool.false_ne_true (hgroup.symm.trans h)
        · exact Bool.false_ne_true (h.symm.trans hhas)
      rw [if_neg hstores] at hkept
      obtain ⟨hmessage, hgroups⟩ := Prod.mk.inj hkept
      exact ⟨(congrArg IncomingFixMessage.tags hmessage).trans (if_pos hhas).symm, hgroups⟩
    | false =>
      have hstores : q.Stores specs tag := Or.inr hhas
      rw [if_pos hstores, storedWith, if_neg (by rw [hgroup]; exact Bool.false_ne_true)] at hkept
      obtain ⟨hmessage, hgroups⟩ := Prod.mk.inj hkept
      refine ⟨(congrArg IncomingFixMessage.tags hmessage).trans (if_neg ?_).symm, hgroups⟩
      show ¬ q.message.hasTag tag = true
      rw [hhas]
      exact Bool.false_ne_true

/-- What a field does to the dictionary, the store and the group that is open. -/
theorem InScan.endOfPart (h : p.InScan encodedMsgType group) (htype : tag ≠ tagMsgType) :
    let next := (groupRules specs encodedMsgType).step group tag
    let q := p.endOfPart specs start (fieldPart (tag, value))
    q.InScan encodedMsgType next ∧
      q.message.tags =
        (if next.isSome then p.message.tags else insertNew p.message.tags (tag, value)) ∧
      q.repeatingGroups =
        p.repeatingGroups ++ if next.isSome then [(tag, value)] else [] := by
  dsimp only
  let p' := p.rejectIf (value.length = 0) fixErrorCodeTagWithoutValue
  have hstate : p'.groupState = p.groupState := p.rejectIf_groupState _ _
  have hstored : p'.stored = p.stored := p.rejectIf_stored _ _
  have hopen : p'.openGroup = group := (openGroup_eq hstate).trans h.openGroup
  have hmsgType : p'.encodedCurrentMessageType = encodedMsgType :=
    (Prod.mk.inj hstate).1.trans h.type
  have hstep : (p'.updateRepeatingGroup specs tag).openGroup =
      (groupRules specs encodedMsgType).step group tag := by
    rw [updateRepeatingGroup_openGroup p' specs tag, hmsgType, hopen]
    rw [NoGroupBeforeType, hmsgType, hopen]
    exact h.noGroup
  have hin : (p'.updateRepeatingGroup specs tag).inARepeatingGroup =
      ((groupRules specs encodedMsgType).step group tag).isSome := by
    rw [← hstep, isSome_openGroup]
  have hrecord := p'.recordTag_groupState specs start tag value htype
  have hkept := p'.recordTag_kept specs start tag value
  rw [hin] at hkept
  obtain ⟨hmessage, hgroups⟩ := Prod.mk.inj hstored
  rw [endOfPart_field]
  refine ⟨⟨?_, ?_, ?_⟩, ?_, ?_⟩
  · exact (Prod.mk.inj hrecord).1.trans ((p'.updateRepeatingGroup_type specs tag).trans hmsgType)
  · exact (openGroup_eq hrecord).trans hstep
  · intro hnone
    have hgroup := h.noGroup hnone
    have hcloses : (groupRules specs noMessageType).opens tag = false := by simp [groupRules]
    rw [hgroup, hnone]
    show (if (groupRules specs noMessageType).opens tag = true then some tag else none) = none
    rw [hcloses]
    exact if_neg Bool.false_ne_true
  · rw [← hmessage]
    exact hkept.1
  · rw [← hgroups]
    exact hkept.2

/-- Tag 35 goes into the dictionary, and from there on the type is known. -/
theorem InScan.endOfPart_msgType (h : p.InScan noMessageType none) (msgType : Bytes) :
    let q := p.endOfPart specs start (fieldPart (tagMsgType, msgType))
    q.InScan (packMessageType msgType) none ∧
      q.message.tags = insertNew p.message.tags (tagMsgType, msgType) ∧
      q.repeatingGroups = p.repeatingGroups := by
  dsimp only
  let p' := p.rejectIf (msgType.length = 0) fixErrorCodeTagWithoutValue
  have hstate : p'.groupState = p.groupState := p.rejectIf_groupState _ _
  have hstored : p'.stored = p.stored := p.rejectIf_stored _ _
  have hno : p'.updateRepeatingGroup specs tagMsgType = p' := by
    have hmsgType : p'.encodedCurrentMessageType = noMessageType :=
      (Prod.mk.inj hstate).1.trans h.type
    exact if_neg (not_not.mpr hmsgType)
  have hclosed : p'.inARepeatingGroup = false := by
    rw [← isSome_openGroup, openGroup_eq hstate, h.openGroup]
    rfl
  have hkept := p'.recordTag_kept specs start tagMsgType msgType
  rw [hno, hclosed] at hkept
  dsimp only at hkept
  rw [if_neg Bool.false_ne_true, if_neg Bool.false_ne_true, List.append_nil] at hkept
  obtain ⟨hmessage, hgroups⟩ := Prod.mk.inj hstored
  rw [hmessage, hgroups] at hkept
  rw [endOfPart_field]
  have hbefore := (p'.beforeSetTag specs tagMsgType).setTag_groupState tagMsgType msgType
  rw [beforeSetTag_groupState, hno] at hbefore
  obtain ⟨hmsgType, hopen⟩ := afterTag_msgType
    ((p'.beforeSetTag specs tagMsgType).setTag tagMsgType msgType) start msgType
  rw [← recordTag_eq] at hmsgType hopen
  rw [openGroup_eq hbefore, openGroup_eq hstate, h.openGroup] at hopen
  exact ⟨⟨hmsgType, hopen, fun _ => rfl⟩, hkept⟩

end

end MessageParser

/-! ## Fields one after another -/

namespace MessageParser

/-- The variables behind fields of a packed type: they are recorded as the scan takes them. -/
structure Scanned (specs : RepeatingGroupSpecs) (encodedMsgType : UInt32) (p : MessageParser)
    (group : Option Tag) (fields : List (Tag × Bytes)) (q : MessageParser) : Prop where
  inScan : q.InScan encodedMsgType ((groupRules specs encodedMsgType).after group fields)
  reachedChecksum : q.reachedChecksum = false
  tags : q.message.tags =
    ((groupRules specs encodedMsgType).single group fields).foldl insertNew p.message.tags
  repeatingGroups : q.repeatingGroups =
    p.repeatingGroups ++ (groupRules specs encodedMsgType).grouped group fields

section

variable {p q r : MessageParser} (specs : RepeatingGroupSpecs) {encodedMsgType : UInt32}
  {group : Option Tag} {fields : List (Tag × Bytes)}

theorem Scanned.nil (h : p.InScan encodedMsgType group) (hreached : p.reachedChecksum = false) :
    Scanned specs encodedMsgType p group [] p :=
  ⟨h, hreached, rfl, (List.append_nil _).symm⟩

variable {specs} in
theorem Scanned.append {more : List (Tag × Bytes)} (h : Scanned specs encodedMsgType p group fields q)
    (hmore : Scanned specs encodedMsgType q ((groupRules specs encodedMsgType).after group fields)
      more r) :
    Scanned specs encodedMsgType p group (fields ++ more) r := by
  have hafter : (groupRules specs encodedMsgType).after group (fields ++ more) =
      (groupRules specs encodedMsgType).after
        ((groupRules specs encodedMsgType).after group fields) more :=
    List.foldl_append
  refine ⟨?_, hmore.reachedChecksum, ?_, ?_⟩
  · rw [hafter]
    exact hmore.inScan
  · rw [hmore.tags, h.tags, ← List.foldl_append, Rules.single_append]
  · rw [hmore.repeatingGroups, h.repeatingGroups, Rules.grouped_append, List.append_assoc]

/-- A field that is neither tag 10 nor tag 35. -/
theorem InScan.scanned (h : p.InScan encodedMsgType group) (hreached : p.reachedChecksum = false)
    {tag : Tag} (htag : tag ≠ tagChecksum ∧ tag ≠ tagMsgType) (value : Bytes) (start : Nat) :
    Scanned specs encodedMsgType p group [(tag, value)]
      (p.endOfPart specs start (fieldPart (tag, value))) := by
  obtain ⟨hscan, htags, hgroups⟩ := h.endOfPart specs start value htag.2
  refine ⟨hscan, ?_, htags.trans ?_, hgroups.trans ?_⟩
  · rw [endOfPart_field_reachedChecksum, hreached, decide_eq_false htag.1]
    rfl
  · rw [Rules.single, Rules.single, List.append_nil]
    dsimp only
    split
    · rfl
    · rfl
  · rw [Rules.grouped, Rules.grouped, List.append_nil]

/-- The loop over fields does what the scan does. -/
theorem parseParts_scan (h : p.InScan encodedMsgType group) (hreached : p.reachedChecksum = false)
    (hfields : ∀ field ∈ fields, field.1 ≠ tagChecksum ∧ field.1 ≠ tagMsgType) (start : Nat)
    (parts : List Bytes) :
    ∃ q : MessageParser,
      p.parseParts specs start (fields.map fieldPart ++ parts) =
        q.parseParts specs (start + (fields.flatMap encodeField).length) parts ∧
      Scanned specs encodedMsgType p group fields q := by
  induction fields generalizing p group start with
  | nil => exact ⟨p, rfl, .nil specs h hreached⟩
  | cons field fields ih =>
    obtain ⟨tag, value⟩ := field
    have hfirst := h.scanned specs hreached (hfields (tag, value) List.mem_cons_self) value start
    obtain ⟨q, hparse, hrest⟩ := ih hfirst.inScan hfirst.reachedChecksum
      (fun f hf => hfields f (List.mem_cons_of_mem _ hf))
      (start + (fieldPart (tag, value)).length + 1)
    have hlength : start + (((tag, value) :: fields).flatMap encodeField).length =
        start + (fieldPart (tag, value)).length + 1 + (fields.flatMap encodeField).length := by
      rw [List.flatMap_cons, List.length_append, encodeField_eq, List.length_append,
        List.length_singleton]
      omega
    refine ⟨q, ?_, hfirst.append hrest⟩
    rw [List.map_cons, List.cons_append, parseParts, hlength, ← hparse]
    exact if_neg (by rw [hfirst.reachedChecksum]; exact Bool.false_ne_true)

end

/-! ## The header -/

/-- The fields up to tag 35. -/
def headerFields (beginString bodyLength msgType : Bytes) : List (Tag × Bytes) :=
  [(tagBeginString, beginString), (tagBodyLength, bodyLength), (tagMsgType, msgType)]

/-- The variables behind the header. -/
structure BehindHeader (beginString bodyLength msgType : Bytes) (p : MessageParser) : Prop where
  inScan : p.InScan (packMessageType msgType) none
  reachedChecksum : p.reachedChecksum = false
  tags : p.message.tags = (headerFields beginString bodyLength msgType).foldl insertNew []
  repeatingGroups : p.repeatingGroups = []

theorem inScan_initial : ({} : MessageParser).InScan noMessageType none :=
  ⟨rfl, rfl, fun _ => rfl⟩

/-- Before tag 35, everything goes into the dictionary. -/
theorem Scanned.behindHeader {specs : RepeatingGroupSpecs} {p : MessageParser}
    {beginString bodyLength : Bytes}
    (h : Scanned specs noMessageType {} none
      [(tagBeginString, beginString), (tagBodyLength, bodyLength)] p) (msgType : Bytes)
    (start : Nat) :
    BehindHeader beginString bodyLength msgType
      (p.endOfPart specs start (fieldPart (tagMsgType, msgType))) := by
  have hclosed : ∀ tag, (groupRules specs noMessageType).opens tag = false := fun tag => rfl
  obtain ⟨hnone, hall⟩ := Rules.scan_closed hclosed
    [(tagBeginString, beginString), (tagBodyLength, bodyLength)]
  have hscan := h.inScan
  rw [hscan.noGroup rfl] at hscan
  obtain ⟨hscan', htags', hgroups'⟩ := hscan.endOfPart_msgType specs start msgType
  refine ⟨hscan', ?_, ?_, ?_⟩
  · rw [endOfPart_field_reachedChecksum, h.reachedChecksum]
    rfl
  · rw [htags', h.tags, hall]
    rfl
  · rw [hgroups', h.repeatingGroups, hnone]
    rfl

end MessageParser

namespace MessageParser

/-- The variables behind tag 10. -/
structure BehindChecksum (specs : RepeatingGroupSpecs) (encodedMsgType : UInt32)
    (p : MessageParser) (group : Option Tag) (checksum : Bytes) (q : MessageParser) : Prop where
  reachedChecksum : q.reachedChecksum = true
  tags : q.message.tags = ((groupRules specs encodedMsgType).single group
    [(tagChecksum, checksum)]).foldl insertNew p.message.tags
  repeatingGroups : q.repeatingGroups = p.repeatingGroups ++
    (groupRules specs encodedMsgType).grouped group [(tagChecksum, checksum)]

theorem InScan.behindChecksum {p : MessageParser} (specs : RepeatingGroupSpecs)
    {encodedMsgType : UInt32} {group : Option Tag} (h : p.InScan encodedMsgType group)
    (hreached : p.reachedChecksum = false) (checksum : Bytes) (start : Nat) :
    BehindChecksum specs encodedMsgType p group checksum
      (p.endOfPart specs start (fieldPart (tagChecksum, checksum))) := by
  have htype : tagChecksum ≠ tagMsgType := by decide
  obtain ⟨-, htags, hgroups⟩ :=
    h.endOfPart specs start checksum htype
  refine ⟨?_, htags.trans ?_, hgroups.trans ?_⟩
  · rw [endOfPart_field_reachedChecksum, hreached]
    rfl
  · rw [Rules.single, Rules.single, List.append_nil]
    dsimp only
    split
    · rfl
    · rfl
  · rw [Rules.grouped, Rules.grouped, List.append_nil]

end MessageParser

/-! ## A whole message -/

/-- The fields behind tag 35 are recorded where the scan puts them, by their tags. -/
structure RecordedBy (rules : Rules Tag) (header body : List (Tag × Bytes)) (p : MessageParser)
    (rx : RxMessage) : Prop where
  store : p.repeatingGroups = rules.grouped none body
  dictionary : ∀ tag, rx.message.tags.lookup tag = (header ++ rules.single none body).lookup tag

/-- A message with repeating groups: the header, what stands between tag 35 and tag 10, and the
value of tag 10. -/
structure GroupMessage where
  beginString : Bytes
  bodyLength : Bytes
  msgType : Bytes
  segments : List (Segment Tag Bytes)
  checksum : Bytes

namespace GroupMessage

variable (m : GroupMessage)

def header : List (Tag × Bytes) :=
  MessageParser.headerFields m.beginString m.bodyLength m.msgType

/-- What stands behind tag 35; tag 10 is a field like others here. -/
def body : List (Segment Tag Bytes) := m.segments ++ [.single (tagChecksum, m.checksum)]

def fields : List (Tag × Bytes) := m.header ++ m.body.flatMap Segment.fields

def bytes : Bytes := m.fields.flatMap encodeField

/-- The rules that the parser goes by in the message. -/
def rules (specs : RepeatingGroupSpecs) : Rules Tag :=
  MessageParser.groupRules specs (packMessageType m.msgType)

section

open MessageParser

variable (specs : RepeatingGroupSpecs)

/-- The loop over the header. -/
theorem parseParts_header (parts : List Bytes) :
    ∃ p : MessageParser, parseParts specs {} 0 (m.header.map fieldPart ++ parts) =
        p.parseParts specs (m.header.flatMap encodeField).length parts ∧
      BehindHeader m.beginString m.bodyLength m.msgType p := by
  let opening : List (Tag × Bytes) :=
    [(tagBeginString, m.beginString), (tagBodyLength, m.bodyLength)]
  have hopening : ∀ field ∈ opening, field.1 ≠ tagChecksum ∧ field.1 ≠ tagMsgType := by
    have htag : ∀ tag ∈ [tagBeginString, tagBodyLength], tag ≠ tagChecksum ∧ tag ≠ tagMsgType :=
      forall_tag_of_all (by decide)
    exact fun field hfield => htag field.1 (List.mem_map_of_mem hfield)
  obtain ⟨q, hparse, hscanned⟩ := parseParts_scan specs inScan_initial rfl hopening 0
    (fieldPart (tagMsgType, m.msgType) :: parts)
  have hbehind := hscanned.behindHeader m.msgType (0 + (opening.flatMap encodeField).length)
  refine ⟨_, ?_, hbehind⟩
  have hlength : 0 + (opening.flatMap encodeField).length +
      (fieldPart (tagMsgType, m.msgType)).length + 1 = (m.header.flatMap encodeField).length := by
    have hheader : m.header = opening ++ [(tagMsgType, m.msgType)] := rfl
    rw [hheader, List.flatMap_append, List.flatMap_singleton, encodeField_eq, List.length_append,
      List.length_append, List.length_singleton, Nat.zero_add, Nat.add_assoc]
  refine hparse.trans ?_
  rw [parseParts, hlength]
  exact if_neg (by rw [hbehind.reachedChecksum]; exact Bool.false_ne_true)

/-- The loop ends behind tag 10. -/
theorem parseParts_checksum {p : MessageParser} {encodedMsgType : UInt32} {group : Option Tag}
    (h : p.InScan encodedMsgType group) (hreached : p.reachedChecksum = false) (start : Nat)
    (checksum : Bytes) (parts : List Bytes) :
    ∃ q, p.parseParts specs start (fieldPart (tagChecksum, checksum) :: parts) =
        some (q, start + (encodeField (tagChecksum, checksum)).length) ∧
      BehindChecksum specs encodedMsgType p group checksum q := by
  have hbehind := h.behindChecksum specs hreached checksum start
  refine ⟨_, ?_, hbehind⟩
  rw [parseParts, encodeField_eq, List.length_append, List.length_singleton, ← Nat.add_assoc]
  exact if_pos hbehind.reachedChecksum

/-- The parser records the message as the scan finds it, also with further bytes behind it. -/
theorem parseMessage_scan (hvalues : ∀ field ∈ m.fields, fixDelimiter ∉ field.2)
    (hbody : ∀ field ∈ m.segments.flatMap Segment.fields,
      field.1 ≠ tagChecksum ∧ field.1 ≠ tagMsgType) (more : Bytes) :
    ∃ p rx, parseMessage specs (m.bytes ++ more) = some (p, rx) ∧ rx.buffer = m.bytes ∧
      RecordedBy (m.rules specs) m.header (m.body.flatMap Segment.fields) p rx := by
  let inner := m.segments.flatMap Segment.fields
  let last : List (Tag × Bytes) := [(tagChecksum, m.checksum)]
  have hinner : m.body.flatMap Segment.fields = inner ++ last := by
    rw [body, List.flatMap_append]
    rfl
  have hbytes : m.bytes = joinParts (m.fields.map fieldPart) := flatMap_encodeField _
  have hnoDelimiter : ∀ part ∈ m.fields.map fieldPart, fixDelimiter ∉ part := by
    intro part hpart
    obtain ⟨field, hfield, rfl⟩ := List.mem_map.mp hpart
    exact fieldPart_noDelimiter (hvalues field hfield)
  have hparts : partsFrom [] (m.bytes ++ more) =
      m.header.map fieldPart ++ (inner.map fieldPart ++
        fieldPart (tagChecksum, m.checksum) :: partsFrom [] more) := by
    rw [hbytes, partsFrom_joinParts hnoDelimiter, fields, hinner]
    simp [last]
  -- The header first, then the fields up to tag 10, then tag 10 itself.
  obtain ⟨q, hparse, hheader⟩ := m.parseParts_header specs
    (inner.map fieldPart ++ fieldPart (tagChecksum, m.checksum) :: partsFrom [] more)
  obtain ⟨q', hparse', hinside⟩ := parseParts_scan specs hheader.inScan
    hheader.reachedChecksum hbody (m.header.flatMap encodeField).length
    (fieldPart (tagChecksum, m.checksum) :: partsFrom [] more)
  obtain ⟨p, hparse'', hend⟩ := parseParts_checksum specs hinside.inScan hinside.reachedChecksum
    ((m.header.flatMap encodeField).length + (inner.flatMap encodeField).length) m.checksum
    (partsFrom [] more)
  have hlength : (m.header.flatMap encodeField).length + (inner.flatMap encodeField).length +
      (encodeField (tagChecksum, m.checksum)).length = m.bytes.length := by
    rw [bytes, fields, hinner, List.flatMap_append, List.flatMap_append, List.flatMap_singleton,
      List.length_append, List.length_append, Nat.add_assoc]
  rw [hlength] at hparse''
  have hloop := parse_eq_parseParts specs {} rfl 0 [] List.not_mem_nil none (m.bytes ++ more)
  have hnone : partRead [] none = [] := rfl
  have hzero : 0 + ([] : Bytes).length = 0 := rfl
  rw [hnone, hzero, hparts, hparse, hparse', hparse''] at hloop
  let rx : RxMessage :=
    { message := p.message
      buffer := (m.bytes ++ more).take m.bytes.length
      parserRejectCode := p.parserRejectCode }
  refine ⟨p, rx, ?_, List.take_left, ?_, ?_⟩
  · rw [Llfix.parseMessage, hloop]
    rfl
  · rw [hinner, Rules.grouped_append, hend.repeatingGroups, hinside.repeatingGroups,
      hheader.repeatingGroups, List.nil_append]
    rfl
  · intro tag
    show p.message.tags.lookup tag = _
    rw [hend.tags, hinside.tags, hheader.tags, ← List.foldl_append, ← List.foldl_append,
      lookup_foldl_insertNew, List.nil_append, hinner, Rules.single_append]
    rfl

end

end GroupMessage

/-! ## The groups of a message -/

/-- The count tag and the members. -/
def GroupDeclaration.tags (d : GroupDeclaration) : List Tag := d.countTag :: d.members

/-- The declarations for a message type, in the form in which the parser knows it. -/
def declarationsFor (declarations : List GroupDeclaration) (msgType : Bytes) :
    List GroupDeclaration :=
  declarations.filter fun d => packMessageType d.messageType = packMessageType msgType

def groupTags (declarations : List GroupDeclaration) (msgType : Bytes) : List Tag :=
  (declarationsFor declarations msgType).flatMap GroupDeclaration.tags

theorem mem_declarationsFor {declarations : List GroupDeclaration} {msgType : Bytes}
    {d : GroupDeclaration} : d ∈ declarationsFor declarations msgType ↔
      d ∈ declarations ∧ packMessageType d.messageType = packMessageType msgType := by
  rw [declarationsFor, List.mem_filter, decide_eq_true_eq]

/-- A segment is an ordinary field, or a declared group. -/
def IsDeclared (declarations : List GroupDeclaration) (msgType : Bytes) :
    Segment Tag Bytes → Prop
  | .single field =>
    field.1 ∉ groupTags declarations msgType ∧ field.1 ≠ tagChecksum ∧ field.1 ≠ tagMsgType
  | .group opener members =>
    (∃ d ∈ declarationsFor declarations msgType, d.countTag = opener.1) ∧
      ∀ field ∈ members, ∃ d ∈ declarationsFor declarations msgType,
        d.countTag = opener.1 ∧ field.1 ∈ d.members

instance (declarations : List GroupDeclaration) (msgType : Bytes) (segment : Segment Tag Bytes) :
    Decidable (IsDeclared declarations msgType segment) := by
  cases segment with
  | single field => exact inferInstanceAs (Decidable (_ ∧ _))
  | group opener members => exact inferInstanceAs (Decidable (_ ∧ _))

/-- What a message with repeating groups is: different groups have different tags, the tags of the
header and tag 10 are ordinary ones, and the message has ordinary fields and declared groups. -/
structure GroupMessage.WellFormed (declarations : List GroupDeclaration) (m : GroupMessage) :
    Prop where
  disjoint : ∀ d ∈ declarationsFor declarations m.msgType,
    ∀ other ∈ declarationsFor declarations m.msgType,
      d.countTag ≠ other.countTag → ∀ tag ∈ d.tags, tag ∉ other.tags
  header : ∀ tag ∈ [tagBeginString, tagBodyLength, tagMsgType, tagChecksum],
    tag ∉ groupTags declarations m.msgType
  segments : ∀ segment ∈ m.segments, IsDeclared declarations m.msgType segment
  values : ∀ field ∈ m.fields, fixDelimiter ∉ field.2

/-- The values of a tag in the order of the message. -/
def valuesOf (tag : Tag) (fields : List (Tag × Bytes)) : List Bytes :=
  (fields.filter fun field => field.1 = tag).map Prod.snd

/-- The tags of the groups are in the store, in their order, and all others in the dictionary. -/
structure GroupMessage.Recorded (declarations : List GroupDeclaration) (m : GroupMessage)
    (p : MessageParser) (rx : RxMessage) : Prop where
  store : p.repeatingGroups =
    m.fields.filter fun field => field.1 ∈ groupTags declarations m.msgType
  getValue : ∀ tag ∈ groupTags declarations m.msgType, ∀ index,
    IncomingFixRepeatingGroups.getValue tag index p.repeatingGroups =
      (valuesOf tag m.fields)[index]?
  dictionary : ∀ tag ∉ groupTags declarations m.msgType,
    rx.message.tags.lookup tag = m.fields.lookup tag
  hasTag : ∀ tag, rx.message.hasTag tag = true ↔
    tag ∈ fieldTags m.fields ∧ tag ∉ groupTags declarations m.msgType

/-- Repeating groups are recognised: the message is read, and its fields are recorded where they
belong. -/
def GroupMessage.Recognised (declarations : List GroupDeclaration) (m : GroupMessage)
    (more : Bytes) : Prop :=
  ∃ p rx, parseMessage (specified declarations).answers (m.bytes ++ more) = some (p, rx) ∧
    rx.buffer = m.bytes ∧ m.Recorded declarations p rx

/-! ## When the groups are recognised -/

theorem mem_groupTags {declarations : List GroupDeclaration} {msgType : Bytes} {tag : Tag} :
    tag ∈ groupTags declarations msgType ↔
      ∃ d ∈ declarationsFor declarations msgType, d.countTag = tag ∨ tag ∈ d.members := by
  rw [groupTags, List.mem_flatMap]
  simp only [GroupDeclaration.tags, List.mem_cons, eq_comm]

/-- A dictionary without some tags gives all others. -/
theorem lookup_filter (keeps : Tag → Bool) (fields : List (Tag × Bytes)) (tag : Tag) :
    (fields.filter fun field => keeps field.1).lookup tag =
      if keeps tag then fields.lookup tag else none := by
  induction fields with
  | nil => exact (ite_self none).symm
  | cons field fields ih =>
    obtain ⟨key, value⟩ := field
    cases hkeeps : keeps key with
    | true =>
      have hfilter : ((key, value) :: fields).filter (fun field => keeps field.1) =
          (key, value) :: fields.filter fun field => keeps field.1 :=
        List.filter_cons_of_pos hkeeps
      rw [hfilter, List.lookup_cons, List.lookup_cons, ih]
      cases hkey : tag == key with
      | true =>
        obtain rfl := beq_iff_eq.mp hkey
        exact (if_pos hkeeps).symm
      | false => rfl
    | false =>
      have hfilter : ((key, value) :: fields).filter (fun field => keeps field.1) =
          fields.filter fun field => keeps field.1 :=
        List.filter_cons_of_neg (by rw [hkeeps]; exact Bool.false_ne_true)
      rw [hfilter, ih]
      split
      next htag =>
        have hne : tag ≠ key := by
          rintro rfl
          rw [hkeeps] at htag
          cases htag
        rw [List.lookup_cons, beq_false_of_ne hne]
      next => rfl

namespace GroupMessage

variable {declarations : List GroupDeclaration} {m : GroupMessage}

/-- The rules of the parser for the message. -/
def groupRules (declarations : List GroupDeclaration) (m : GroupMessage) : Rules Tag :=
  m.rules (specified declarations).answers

theorem opens_iff (tag : Tag) :
    (m.groupRules declarations).opens tag = true ↔
      packMessageType m.msgType ≠ noMessageType ∧
        ∃ d ∈ declarationsFor declarations m.msgType, d.countTag = tag := by
  show (decide (packMessageType m.msgType ≠ noMessageType) &&
    (specified declarations).answers.isARepeatingGroupCountTag _ tag) = true ↔ _
  rw [Bool.and_eq_true, decide_eq_true_eq, specified_isARepeatingGroupCountTag]
  simp only [mem_declarationsFor, and_assoc]

theorem belongs_iff (opener tag : Tag) :
    (m.groupRules declarations).belongs opener tag = true ↔
      ∃ d ∈ declarationsFor declarations m.msgType, d.countTag = opener ∧ tag ∈ d.members := by
  refine (specified_isARepeatingGroupTag declarations _ opener tag).trans ?_
  simp only [mem_declarationsFor, and_assoc]

/-- An ordinary field neither opens a group nor belongs to one. -/
theorem wellFormed_single {field : Tag × Bytes}
    (h : field.1 ∉ groupTags declarations m.msgType) :
    (m.groupRules declarations).WellFormed (.single field) where
  single f hf := by
    obtain rfl := List.mem_singleton.mp hf
    constructor
    · rw [Bool.eq_false_iff, Ne, opens_iff]
      rintro ⟨-, d, hd, hcount⟩
      exact h (mem_groupTags.mpr ⟨d, hd, Or.inl hcount⟩)
    · intro opener
      rw [Bool.eq_false_iff, Ne, belongs_iff]
      rintro ⟨d, hd, -, hmember⟩
      exact h (mem_groupTags.mpr ⟨d, hd, Or.inr hmember⟩)
  opens key hkey := absurd hkey (Option.not_mem_none key)
  members key hkey := absurd hkey (Option.not_mem_none key)
  foreign key hkey := absurd hkey (Option.not_mem_none key)

/-- A declared segment is well formed for the parser, when the type of the message is one it
knows. -/
theorem WellFormed.segment (h : m.WellFormed declarations) {segment : Segment Tag Bytes}
    (hsegment : segment ∈ m.segments)
    (htype : packMessageType m.msgType = noMessageType → segment.opener = none) :
    (m.groupRules declarations).WellFormed segment := by
  have hdeclared := h.segments segment hsegment
  cases segment with
  | single field => exact wellFormed_single hdeclared.1
  | group opener members =>
    obtain ⟨⟨d, hd, hcount⟩, hmembers⟩ := hdeclared
    refine ⟨?_, ?_, ?_, ?_⟩
    · exact fun field hfield => absurd hfield List.not_mem_nil
    · intro key hkey
      obtain rfl := Option.some.inj hkey
      refine (opens_iff opener.1).mpr ⟨fun hno => ?_, d, hd, hcount⟩
      cases htype hno
    · intro key hkey field hfield
      obtain rfl := Option.some.inj hkey
      exact (belongs_iff _ _).mpr (hmembers field hfield)
    · intro key hkey before hbelongs
      obtain rfl := Option.some.inj hkey
      obtain ⟨other, hother, hbefore, hmember⟩ := (belongs_iff _ _).mp hbelongs
      by_contra hne
      rw [← hbefore, ← hcount] at hne
      refine h.disjoint other hother d hd hne opener.1 (List.mem_cons_of_mem _ hmember) ?_
      rw [← hcount]
      exact List.mem_cons_self

section

variable (declarations m)

/-- The fields of groups are those with group tags. -/
def Sorted (segment : Segment Tag Bytes) : Prop :=
  (segment.fields.filter fun field => field.1 ∈ groupTags declarations m.msgType) =
      segment.groupFields ∧
    (segment.fields.filter fun field => field.1 ∉ groupTags declarations m.msgType) =
      segment.singleFields

end

theorem sorted_single {field : Tag × Bytes} (h : field.1 ∉ groupTags declarations m.msgType) :
    m.Sorted declarations (.single field) :=
  ⟨List.filter_cons_of_neg (by rw [decide_eq_true_eq]; exact h),
    List.filter_cons_of_pos (decide_eq_true h)⟩

theorem sorted_of_declared {segment : Segment Tag Bytes}
    (h : IsDeclared declarations m.msgType segment) : m.Sorted declarations segment := by
  cases segment with
  | single field => exact sorted_single h.1
  | group opener members =>
    have hall : ∀ field ∈ opener :: members, field.1 ∈ groupTags declarations m.msgType := by
      obtain ⟨⟨d, hd, hcount⟩, hmembers⟩ := h
      intro field hfield
      rcases List.mem_cons.mp hfield with rfl | hfield
      · exact mem_groupTags.mpr ⟨d, hd, Or.inl hcount⟩
      · obtain ⟨d, hd, -, hmember⟩ := hmembers field hfield
        exact mem_groupTags.mpr ⟨d, hd, Or.inr hmember⟩
    constructor
    · exact List.filter_eq_self.mpr fun field hfield => decide_eq_true (hall field hfield)
    · refine List.filter_eq_nil_iff.mpr fun field hfield => ?_
      rw [decide_eq_true_eq]
      exact not_not_intro (hall field hfield)

/-- The fields of the header and tag 10 are ordinary ones. -/
theorem WellFormed.body (h : m.WellFormed declarations)
    (htype : packMessageType m.msgType = noMessageType → ∀ s ∈ m.segments, s.opener = none) :
    ∀ segment ∈ m.body, (m.groupRules declarations).WellFormed segment := by
  intro segment hsegment
  rcases List.mem_append.mp hsegment with hsegment | hsegment
  · exact h.segment hsegment fun hno => htype hno segment hsegment
  · rw [List.mem_singleton.mp hsegment]
    exact wellFormed_single (h.header tagChecksum (by decide))

/-- The fields with group tags are those of the groups. -/
theorem WellFormed.filter_fields (h : m.WellFormed declarations) :
    (m.fields.filter fun field => field.1 ∈ groupTags declarations m.msgType) =
        m.body.flatMap Segment.groupFields ∧
      (m.fields.filter fun field => field.1 ∉ groupTags declarations m.msgType) =
        m.header ++ m.body.flatMap Segment.singleFields := by
  have hheader : ∀ field ∈ m.header, field.1 ∉ groupTags declarations m.msgType := by
    intro field hfield
    have htag : field.1 ∈ fieldTags m.header := List.mem_map_of_mem hfield
    exact h.header field.1 (List.mem_append_left [tagChecksum] htag)
  have hbody : ∀ segment ∈ m.body, m.Sorted declarations segment := by
    intro segment hsegment
    rcases List.mem_append.mp hsegment with hsegment | hsegment
    · exact sorted_of_declared (h.segments segment hsegment)
    · rw [List.mem_singleton.mp hsegment]
      exact sorted_single (h.header tagChecksum (by decide))
  constructor
  · have hnone : m.header.filter (fun field => field.1 ∈ groupTags declarations m.msgType) = [] := by
      refine List.filter_eq_nil_iff.mpr fun field hfield => ?_
      rw [decide_eq_true_eq]
      exact hheader field hfield
    rw [fields, List.filter_append, hnone, List.nil_append, List.filter_flatMap]
    exact List.flatMap_congr fun segment hsegment => (hbody segment hsegment).1
  · have hall : m.header.filter (fun field => field.1 ∉ groupTags declarations m.msgType) =
        m.header :=
      List.filter_eq_self.mpr fun field hfield => decide_eq_true (hheader field hfield)
    rw [fields, List.filter_append, hall, List.filter_flatMap]
    exact congrArg (m.header ++ ·)
      (List.flatMap_congr fun segment hsegment => (hbody segment hsegment).2)

/-- Tags 10 and 35 stand where they should only. -/
theorem WellFormed.ne_checksum (h : m.WellFormed declarations) :
    ∀ field ∈ m.segments.flatMap Segment.fields,
      field.1 ≠ tagChecksum ∧ field.1 ≠ tagMsgType := by
  intro field hfield
  obtain ⟨segment, hsegment, hfield⟩ := List.mem_flatMap.mp hfield
  have hdeclared := h.segments segment hsegment
  cases segment with
  | single ordinary =>
    rw [List.mem_singleton.mp hfield]
    exact hdeclared.2
  | group opener members =>
    have hgroup : field.1 ∈ groupTags declarations m.msgType := by
      have hmem := (sorted_of_declared (m := m) hdeclared).1
      have hin : field ∈ (Segment.group opener members).groupFields := hfield
      rw [← hmem, List.mem_filter, decide_eq_true_eq] at hin
      exact hin.2
    constructor
    · intro heq
      exact h.header tagChecksum (by decide) (heq ▸ hgroup)
    · intro heq
      exact h.header tagMsgType (by decide) (heq ▸ hgroup)

/-- What the parser does with a well-formed message. -/
theorem WellFormed.parseMessage (h : m.WellFormed declarations) (more : Bytes) :
    ∃ p rx, parseMessage (specified declarations).answers (m.bytes ++ more) = some (p, rx) ∧
      rx.buffer = m.bytes ∧
      RecordedBy (m.groupRules declarations) m.header (m.body.flatMap Segment.fields) p rx :=
  m.parseMessage_scan (specified declarations).answers h.values h.ne_checksum more

/-- Recorded as the scan should find it, the message is recorded as it should be. -/
theorem WellFormed.recorded (h : m.WellFormed declarations) {p : MessageParser} {rx : RxMessage}
    (hstore : p.repeatingGroups = m.body.flatMap Segment.groupFields)
    (hdictionary : ∀ tag, rx.message.tags.lookup tag =
      (m.header ++ m.body.flatMap Segment.singleFields).lookup tag) :
    m.Recorded declarations p rx := by
  obtain ⟨hgroups, hsingles⟩ := h.filter_fields
  have hlookup : ∀ tag, rx.message.tags.lookup tag =
      if tag ∈ groupTags declarations m.msgType then none else m.fields.lookup tag := by
    intro tag
    rw [hdictionary, ← hsingles,
      lookup_filter fun tag => decide (tag ∉ groupTags declarations m.msgType)]
    split_ifs with hkeeps hgroup hgroup
    · exact absurd hgroup (of_decide_eq_true hkeeps)
    · rfl
    · rfl
    · exact absurd (decide_eq_true hgroup) hkeeps
  refine ⟨hstore.trans hgroups.symm, ?_, ?_, ?_⟩
  · intro tag htag index
    rw [IncomingFixRepeatingGroups.getValue_eq, hstore, ← hgroups, List.filter_filter, valuesOf]
    congr 2
    refine List.filter_congr fun field _ => ?_
    by_cases hfield : field.1 = tag
    · rw [hfield, decide_eq_true htag, Bool.and_true]
    · rw [decide_eq_false hfield, Bool.false_and]
  · intro tag htag
    rw [hlookup, if_neg htag]
  · intro tag
    rw [IncomingFixMessage.hasTag, hlookup]
    split
    next hgroup => exact ⟨fun hnone => absurd hnone Bool.false_ne_true, fun h => absurd hgroup h.2⟩
    next hgroup =>
      rw [Option.isSome_iff_ne_none, Ne, lookup_eq_none_iff, not_not]
      exact (and_iff_left hgroup).symm

/-- Of a message that is recorded as it should be, no group tag is taken for a single one. -/
theorem Recorded.single_ordinary {p : MessageParser} {rx : RxMessage}
    (h : m.Recorded declarations p rx) {single : List (Tag × Bytes)}
    (hdictionary : ∀ tag, rx.message.tags.lookup tag = (m.header ++ single).lookup tag) :
    ∀ field ∈ single, field.1 ∉ groupTags declarations m.msgType := by
  intro field hfield
  refine ((h.hasTag field.1).mp ?_).2
  have hmem : field.1 ∈ fieldTags (m.header ++ single) :=
    List.mem_map_of_mem (List.mem_append_right _ hfield)
  rw [IncomingFixMessage.hasTag, hdictionary, Option.isSome_iff_ne_none, Ne, lookup_eq_none_iff,
    not_not]
  exact hmem

/-- No group stands directly behind another, unless its count tag is declared as a member of that;
and the packed type is not the one that the parser has before it knows the type. -/
def Separated (declarations : List GroupDeclaration) (m : GroupMessage) : Prop :=
  (packMessageType m.msgType = noMessageType → ∀ s ∈ m.segments, s.opener = none) ∧
    (m.groupRules declarations).Separated m.segments

/-- Tag 10 may stand behind everything. -/
theorem separated_body {rules : Rules Tag} : rules.Separated m.body ↔ rules.Separated m.segments := by
  rw [Rules.Separated, body, List.isChain_append]
  constructor
  · exact fun h => h.1
  · refine fun h => ⟨h, List.IsChain.singleton _, fun segment _ last hlast => ?_⟩
    obtain rfl := Option.some.inj hlast
    exact fun opener _ key hkey => absurd hkey (Option.not_mem_none key)

theorem WellFormed.recognised_iff (h : m.WellFormed declarations) (more : Bytes) :
    m.Recognised declarations more ↔ m.Separated declarations := by
  obtain ⟨p, rx, hparse, hbuffer, hstore, hdictionary⟩ := h.parseMessage more
  constructor
  · rintro ⟨p', rx', hparse', -, hrecorded⟩
    rw [hparse] at hparse'
    obtain ⟨rfl, rfl⟩ := Prod.mk.inj (Option.some.inj hparse')
    have hordinary := hrecorded.single_ordinary hdictionary
    have htype : packMessageType m.msgType = noMessageType →
        ∀ s ∈ m.segments, s.opener = none := by
      intro hno segment hsegment
      have hclosed : ∀ key, (m.groupRules declarations).opens key = false := by
        intro key
        rw [Bool.eq_false_iff, Ne, opens_iff]
        exact fun hopens => hopens.1 hno
      rw [(Rules.scan_closed hclosed _).2] at hordinary
      cases segment with
      | single field => rfl
      | group opener members =>
        obtain ⟨⟨d, hd, hcount⟩, -⟩ := h.segments _ hsegment
        refine absurd (mem_groupTags.mpr ⟨d, hd, Or.inl hcount⟩) (hordinary opener ?_)
        exact List.mem_flatMap.mpr ⟨_, List.mem_append_left _ hsegment, List.mem_cons_self⟩
    refine ⟨htype, ?_⟩
    by_contra hbehind
    have hnot : ¬ ((∀ s ∈ m.body.head?, (m.groupRules declarations).MayFollow none s) ∧
        (m.groupRules declarations).Separated m.body) :=
      fun hboth => hbehind (separated_body.mp hboth.2)
    obtain ⟨field, hfield, hopens⟩ := Rules.opener_single (h.body htype) hnot
    obtain ⟨-, d, hd, hcount⟩ := (opens_iff field.1).mp hopens
    exact hordinary field hfield (mem_groupTags.mpr ⟨d, hd, Or.inl hcount⟩)
  · rintro ⟨htype, hseparated⟩
    have hfirst : ∀ s ∈ m.body.head?, (m.groupRules declarations).MayFollow none s :=
      fun s _ opener hopener => absurd hopener (Option.not_mem_none opener)
    obtain ⟨hgrouped, hsingle⟩ := Rules.segments_scan (h.body htype) hfirst
      (separated_body.mpr hseparated)
    rw [hgrouped] at hstore
    rw [hsingle] at hdictionary
    exact ⟨p, rx, hparse, hbuffer, h.recorded hstore hdictionary⟩

end GroupMessage

/-- Repeating groups are recognised exactly when none stands directly behind another. -/
theorem repeatingGroups_iff {declarations : List GroupDeclaration} {m : GroupMessage}
    (h : m.WellFormed declarations) (more : Bytes) :
    m.Recognised declarations more ↔ m.Separated declarations :=
  h.recognised_iff more

/-- Parties and legs of an order. -/
def exampleDeclarations : List GroupDeclaration :=
  [{ messageType := text "D", countTag := 453, members := [448, 447, 452] },
    { messageType := text "D", countTag := 555, members := [600, 624] }]

/-- An order with parties and legs, and with some fields between them. -/
def examplePartiesAndLegs (between : List (Segment Tag Bytes)) : GroupMessage where
  beginString := text "FIX.4.4"
  bodyLength := text "60"
  msgType := text "D"
  segments := .group (453, text "1") [(448, text "P"), (447, text "D"), (452, text "3")] ::
    (between ++ [.group (555, text "1") [(600, text "XYZ"), (624, text "1")]])
  checksum := text "000"

theorem examplePartiesAndLegs_wellFormed {between : List (Segment Tag Bytes)}
    (h : between = [] ∨ between = [.single (60, text "NOW")]) :
    (examplePartiesAndLegs between).WellFormed exampleDeclarations := by
  have hfor : declarationsFor exampleDeclarations (text "D") = exampleDeclarations := by decide
  have hdisjoint : ∀ d ∈ exampleDeclarations, ∀ other ∈ exampleDeclarations,
      d.countTag ≠ other.countTag → ∀ tag ∈ d.tags, tag ∉ other.tags := by
    intro d hd other hother hne
    simp only [exampleDeclarations, List.mem_cons, List.not_mem_nil, or_false] at hd hother
    rcases hd with rfl | rfl <;> rcases hother with rfl | rfl
    · exact absurd rfl hne
    · exact forall_tag_of_all (by decide)
    · exact forall_tag_of_all (by decide)
    · exact absurd rfl hne
  have hheader : ∀ tag ∈ [tagBeginString, tagBodyLength, tagMsgType, tagChecksum],
      tag ∉ groupTags exampleDeclarations (text "D") :=
    forall_tag_of_all (by decide)
  rw [← hfor] at hdisjoint
  rcases h with rfl | rfl
  · exact ⟨hdisjoint, hheader, by decide, by decide⟩
  · exact ⟨hdisjoint, hheader, by decide, by decide⟩

theorem examplePartiesAndLegs_separated :
    (examplePartiesAndLegs [.single (60, text "NOW")]).Separated exampleDeclarations := by
  refine ⟨fun htype => absurd htype (by decide), .cons_cons ?_ (.cons_cons ?_ (.singleton _))⟩
  · exact fun opener _ key hkey => absurd hkey (Option.not_mem_none key)
  · exact fun opener hopener => absurd hopener (Option.not_mem_none opener)

theorem repeatingGroups_iff_between :
    (examplePartiesAndLegs [.single (60, text "NOW")]).Recognised exampleDeclarations [] :=
  (repeatingGroups_iff (examplePartiesAndLegs_wellFormed (Or.inr rfl)) []).mpr
    examplePartiesAndLegs_separated

/-- The count tag of the legs, directly behind the parties, goes into the dictionary. -/
theorem repeatingGroups_fails :
    (examplePartiesAndLegs []).WellFormed exampleDeclarations ∧
      ¬ (examplePartiesAndLegs []).Recognised exampleDeclarations [] := by
  refine ⟨examplePartiesAndLegs_wellFormed (Or.inl rfl), ?_⟩
  rintro ⟨p, rx, hparse, -, hrecorded⟩
  have hsingle : (parseMessage (specified exampleDeclarations).answers
      ((examplePartiesAndLegs []).bytes ++ [])).any (fun result =>
        result.2.message.hasTag 555) = true := by
    decide +kernel
  rw [hparse] at hsingle
  exact absurd ((hrecorded.hasTag 555).mp hsingle).2 (by decide)

end Llfix
