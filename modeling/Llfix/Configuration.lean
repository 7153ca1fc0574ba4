import Mathlib.Data.List.DropRight
import Mathlib.Data.List.Nodup
import Mathlib.Data.List.TakeWhile
import Llfix.MessageSerialiser

/-!
# Configuration files

`Configuration` of `configuration.h`: groups of attributes, and the file that `save_to_file` writes
and `load_from_file` reads. A group is a line `[name]`, an attribute is a line `name=value` of the
group whose line was the last one. The attributes of the group `root` stand under no line.

The tables of the source are hash tables: the lists here are in the order of their iteration, and
`SameAs` says that two configurations differ in that order only. Opening a file succeeds here.
-/

namespace Llfix

/-! ## The tables -/

/-- The attributes of a group with their values, where a name may occur again. -/
abbrev Attributes := List (Bytes × Bytes)

/-- `m_dictionaries[groupName]`, which is an empty group at first, after a change. -/
def updateGroup (groupName : Bytes) (change : Attributes → Attributes) :
    List (Bytes × Attributes) → List (Bytes × Attributes)
  | [] => [(groupName, change [])]
  | (name, attributes) :: dictionaries =>
    if name = groupName then (name, change attributes) :: dictionaries else
      (name, attributes) :: updateGroup groupName change dictionaries

theorem mem_updateGroup {groupName name : Bytes} {change : Attributes → Attributes}
    {dictionaries : List (Bytes × Attributes)} :
    name ∈ (updateGroup groupName change dictionaries).map Prod.fst ↔
      name ∈ dictionaries.map Prod.fst ∨ name = groupName := by
  induction dictionaries with
  | nil =>
    rw [updateGroup, List.map_cons, List.map_nil, List.mem_singleton]
    exact (or_iff_right List.not_mem_nil).symm
  | cons group dictionaries ih =>
    rw [updateGroup, List.map_cons, List.mem_cons]
    split
    · rename_i heq
      rw [List.map_cons, List.mem_cons, ← heq]
      exact (or_iff_left_of_imp Or.inl).symm
    · rw [List.map_cons, List.mem_cons, ih, or_assoc]

theorem nodup_updateGroup {groupName : Bytes} {change : Attributes → Attributes}
    {dictionaries : List (Bytes × Attributes)} (h : (dictionaries.map Prod.fst).Nodup) :
    ((updateGroup groupName change dictionaries).map Prod.fst).Nodup := by
  induction dictionaries with
  | nil => exact List.nodup_singleton groupName
  | cons group dictionaries ih =>
    obtain ⟨hfresh, hrest⟩ := List.nodup_cons.mp h
    rw [updateGroup]
    split
    · exact List.nodup_cons.mpr ⟨hfresh, hrest⟩
    · rename_i hne
      refine List.nodup_cons.mpr ⟨fun hmem => ?_, ih hrest⟩
      rcases mem_updateGroup.mp hmem with hmem | heq
      · exact hfresh hmem
      · exact hne heq

/-- `Configuration`: each group once. -/
structure Configuration where
  dictionaries : List (Bytes × Attributes) := []
  nodup : (dictionaries.map Prod.fst).Nodup := by exact List.nodup_nil

namespace Configuration

/-- `ROOT_GROUP_NAME`. -/
def rootGroupName : Bytes := text "root"

/-- The key of a group: the name is taken for a C string. -/
def groupKey (groupName : Bytes) : Bytes := groupName.takeWhile (· ≠ 0)

/-- `get_group_names`. -/
def groupNames (c : Configuration) : List Bytes := c.dictionaries.map Prod.fst

/-- `m_dictionaries.find(groupName)`. -/
def find (c : Configuration) (groupName : Bytes) : Option Attributes :=
  c.dictionaries.lookup groupName

/-- `does_group_exist`. -/
def doesGroupExist (c : Configuration) (groupName : Bytes) : Bool :=
  (c.find (groupKey groupName)).isSome

/-- The group of a key after a change. -/
def update (c : Configuration) (key : Bytes) (change : Attributes → Attributes) : Configuration :=
  ⟨updateGroup key change c.dictionaries, nodup_updateGroup c.nodup⟩

/-- `add_group`. -/
def addGroup (c : Configuration) (groupName : Bytes) : Configuration :=
  c.update (groupKey groupName) fun _ => []

/-- `add_attribute`. -/
def addAttribute (c : Configuration) (attributeName value groupName : Bytes) : Configuration :=
  let c := if c.doesGroupExist groupName = false then c.addGroup groupName else c
  c.update (groupKey groupName) (· ++ [(attributeName, value)])

/-! ## The writer -/

/-- The line of a group, if it has one, and those of its attributes. -/
def groupContent (group : Bytes × Attributes) : Bytes :=
  (if group.1 ≠ rootGroupName then
    '['.toUInt8 :: group.1 ++ [']'.toUInt8, '\n'.toUInt8] else []) ++
    group.2.flatMap fun iter => iter.1 ++ fixEquals :: iter.2 ++ ['\n'.toUInt8]

/-- `save_to_file`: what the file holds. -/
def saveToFile (c : Configuration) : Bytes := c.dictionaries.flatMap groupContent

/-! ## The reader -/

/-- `std::isspace`. -/
def isSpace (ch : UInt8) : Bool := ch = ' '.toUInt8 || (9 ≤ ch && ch ≤ 13)

/-- `trim_in_place`. -/
def trim (inputString : Bytes) : Bytes := (inputString.dropWhile isSpace).rdropWhile isSpace

/-- `split_by_first_separator`. -/
def splitByFirstSeparator (input : Bytes) (separator : UInt8) : List Bytes :=
  if 0 < input.length then
    if separator ∈ input then
      [input.takeWhile (· ≠ separator), (input.dropWhile (· ≠ separator)).drop 1]
    else [input.takeWhile (· ≠ 0)]
  else []

/-- The variables of `load_from_file`. An error ends the loading. -/
structure Loading where
  configuration : Configuration
  currentGroupName : Bytes := rootGroupName
  lineNumber : UInt64 := 0
  error : Option Bytes := none

namespace Loading

/-- The error in the line. -/
def errorAt (s : Loading) (message : Bytes) : Loading :=
  { s with
    error := some (message ++ text " , line number : " ++ text (toString s.lineNumber.toNat)) }

/-- The line of a group, which must be a new one. -/
def startGroup (s : Loading) (groupName : Bytes) : Loading :=
  let s := { s with currentGroupName := groupName }
  if (s.configuration.find groupName).isSome then
    { s with error := some (text "A group with name " ++ groupName ++ text " already exists") }
  else s

/-- The line of an attribute. -/
def readAttribute (s : Loading) (line : Bytes) : Loading :=
  if fixEquals ∉ line then s.errorAt (text "Line doesn`t contain equals sign")
  else
    match splitByFirstSeparator line fixEquals with
    | [attributeName, value] =>
      let configuration := s.configuration.addAttribute attributeName value s.currentGroupName
      { s with configuration }
    | _ => s

/-- The line has both brackets, wherever they stand. -/
def HasBrackets (line : Bytes) : Prop := '['.toUInt8 ∈ line ∧ ']'.toUInt8 ∈ line

instance (line : Bytes) : Decidable (HasBrackets line) := inferInstanceAs (Decidable (_ ∧ _))

/-- The body of the loop of `load_from_file`. -/
def readLine (s : Loading) (line : Bytes) : Loading :=
  let s := { s with lineNumber := s.lineNumber + 1 }
  let line := trim line
  if line.length = 0 then s
  else if line.head? = some '#'.toUInt8 then s
  else if line.length < 3 then s.errorAt (text "Line is too short")
  else if HasBrackets line then s.startGroup ((line.drop 1).take (line.length - 2))
  else s.readAttribute line

/-- The loop of `load_from_file`. -/
def readLines : Loading → List Bytes → Loading
  | s, [] => s
  | s, line :: lines =>
    let s := s.readLine line
    if s.error.isSome then s else s.readLines lines

end Loading

/-- `std::getline` over the file. A last line without a newline counts, unless it is empty. -/
def fileLines (content : Bytes) : List Bytes := splitOnto '\n'.toUInt8 content []

/-- `load_from_file`, which forgets what it held. It has succeeded when there is no error. -/
def loadFromFile (_ : Configuration) (content : Bytes) : Loading :=
  let s : Loading := { configuration := ({} : Configuration).addGroup rootGroupName }
  s.readLines (fileLines content)

/-! ## What a configuration says -/

/-- The attributes of a group, each with the group. -/
def groupEntries (group : Bytes × Attributes) : List (Bytes × Bytes × Bytes) :=
  group.2.map (Prod.mk group.1)

/-- Every attribute with its group and its value. -/
def entries (c : Configuration) : List (Bytes × Bytes × Bytes) :=
  c.dictionaries.flatMap groupEntries

/-- The same groups with the same attributes and values. The orders of iteration do not count. -/
structure SameAs (c d : Configuration) : Prop where
  groups : c.groupNames.Perm d.groupNames
  entries : c.entries.Perm d.entries

/-- The arguments of `add_attribute`. -/
structure AttributeCall where
  attributeName : Bytes
  value : Bytes
  groupName : Bytes := rootGroupName
deriving DecidableEq, Repr

/-- The entry that a call makes. -/
def AttributeCall.entry (call : AttributeCall) : Bytes × Bytes × Bytes :=
  (groupKey call.groupName, call.attributeName, call.value)

/-- The configuration after some calls of `add_attribute`. -/
def addAttributes (c : Configuration) (calls : List AttributeCall) : Configuration :=
  calls.foldl (fun c call => c.addAttribute call.attributeName call.value call.groupName) c

variable {c : Configuration}

theorem find_eq_none {groupName : Bytes} (h : groupName ∉ c.groupNames) :
    c.find groupName = none := by
  refine List.lookup_eq_none_iff.mpr fun group hgroup => ?_
  rw [bne_iff_ne]
  rintro rfl
  exact h (List.mem_map_of_mem hgroup)

theorem not_mem_of_find {groupName : Bytes} (h : (c.find groupName).isSome = false) :
    groupName ∉ c.groupNames := by
  intro hmem
  obtain ⟨group, hgroup, rfl⟩ := List.mem_map.mp hmem
  have hne := List.lookup_eq_none_iff.mp (Option.not_isSome_iff_eq_none.mp (ne_true_of_eq_false h))
  exact (bne_iff_ne.mp (hne group hgroup)) rfl

theorem mem_groupNames_update {key name : Bytes} {change : Attributes → Attributes} :
    name ∈ (c.update key change).groupNames ↔ name ∈ c.groupNames ∨ name = key :=
  mem_updateGroup

theorem mem_groupNames_addAttribute {attributeName value groupName name : Bytes} :
    name ∈ (c.addAttribute attributeName value groupName).groupNames ↔
      name ∈ c.groupNames ∨ name = groupKey groupName := by
  rw [addAttribute, mem_groupNames_update]
  split
  · rw [addGroup, mem_groupNames_update, or_assoc, or_self]
  · exact Iff.rfl

/-- A group that there was not is empty, so that no entry is lost. -/
theorem entries_addGroup {groupName : Bytes} (h : c.doesGroupExist groupName = false) :
    (c.addGroup groupName).entries = c.entries := by
  have hfresh : groupKey groupName ∉ c.dictionaries.map Prod.fst := not_mem_of_find h
  rw [entries, addGroup, update, entries]
  dsimp only
  generalize c.dictionaries = dictionaries at hfresh ⊢
  induction dictionaries with
  | nil => rfl
  | cons group dictionaries ih =>
    obtain ⟨hne, hrest⟩ := not_or.mp fun hmem => hfresh (List.mem_cons.mpr hmem)
    rw [updateGroup, if_neg (Ne.symm hne), List.flatMap_cons, List.flatMap_cons, ih hrest]

theorem entries_append {key : Bytes} (iter : Bytes × Bytes) :
    (c.update key (· ++ [iter])).entries.Perm ((key, iter) :: c.entries) := by
  rw [entries, update, entries]
  dsimp only
  induction c.dictionaries with
  | nil => exact List.Perm.refl _
  | cons group dictionaries ih =>
    rw [updateGroup]
    split
    · rename_i heq
      rw [List.flatMap_cons, List.flatMap_cons, groupEntries, List.map_append, List.append_assoc,
        ← heq]
      exact List.perm_middle
    · rw [List.flatMap_cons, List.flatMap_cons]
      exact (ih.append_left _).trans List.perm_middle

theorem entries_addAttribute (attributeName value groupName : Bytes) :
    (c.addAttribute attributeName value groupName).entries.Perm
      ((groupKey groupName, attributeName, value) :: c.entries) := by
  rw [addAttribute]
  refine (entries_append _).trans ?_
  split
  · rename_i hnew
    rw [entries_addGroup hnew]
  · exact List.Perm.refl _

theorem entries_addAttributes (calls : List AttributeCall) :
    (c.addAttributes calls).entries.Perm (c.entries ++ calls.map AttributeCall.entry) := by
  induction calls generalizing c with
  | nil =>
    rw [List.map_nil, List.append_nil]
    exact List.Perm.refl _
  | cons call calls ih =>
    refine ih.trans ?_
    rw [List.map_cons]
    exact ((entries_addAttribute _ _ _).append_right _).trans List.perm_middle.symm

theorem mem_groupNames_addAttributes {calls : List AttributeCall} {name : Bytes} :
    name ∈ (c.addAttributes calls).groupNames ↔
      name ∈ c.groupNames ∨ ∃ call ∈ calls, groupKey call.groupName = name := by
  induction calls generalizing c with
  | nil => simp [addAttributes]
  | cons call calls ih =>
    rw [addAttributes, List.foldl_cons]
    refine ih.trans ?_
    rw [mem_groupNames_addAttribute, or_assoc, List.exists_mem_cons_iff, eq_comm]

end Configuration

end Llfix
