import Llfix.Configuration

/-!
# The lines of a configuration file

What `save_to_file` writes, line by line, and what `load_from_file` does with each line.

Results:
1. `readLine_attribute`, `readLine_group`: the lines of attributes and of groups.
2. `entries_readLines_le`: a line with both brackets is no attribute, in any file.
3. `Reads`, `Reads.trans`: what the reader does with some lines, put together.
-/

namespace Llfix

namespace Configuration

/-! ## Names and values -/

/-- No white space stands at either end. -/
structure Trimmed (bytes : Bytes) : Prop where
  left : bytes.head?.any isSpace = false
  right : bytes.getLast?.any isSpace = false

/-- The names of groups and of attributes. -/
structure IsName (name : Bytes) : Prop where
  nonempty : name ≠ []
  trimmed : Trimmed name
  noEquals : fixEquals ∉ name
  noOpening : '['.toUInt8 ∉ name
  noClosing : ']'.toUInt8 ∉ name
  noNewline : '\n'.toUInt8 ∉ name
  noComment : '#'.toUInt8 ∉ name.head?

structure IsValue (value : Bytes) : Prop where
  nonempty : value ≠ []
  trimmed : Trimmed value
  noNewline : '\n'.toUInt8 ∉ value

theorem trim_eq {bytes : Bytes} (h : Trimmed bytes) : trim bytes = bytes := by
  cases bytes with
  | nil => rfl
  | cons c bytes =>
    have hleft : (c :: bytes).dropWhile isSpace = c :: bytes := by
      have hc : isSpace c = false := h.left
      rw [List.dropWhile_cons, hc]
      rfl
    rw [trim, hleft, List.rdropWhile_eq_self_iff]
    intro hne hspace
    have hlast := h.right
    rw [List.getLast?_eq_some_getLast hne, Option.any_some, hspace] at hlast
    cases hlast

/-! ## The lines of a file -/

def attributeLine (iter : Bytes × Bytes) : Bytes := iter.1 ++ fixEquals :: iter.2

def groupLine (groupName : Bytes) : Bytes := '['.toUInt8 :: groupName ++ [']'.toUInt8]

/-- The lines of a group. -/
def groupLines (group : Bytes × Attributes) : List Bytes :=
  (if group.1 ≠ rootGroupName then [groupLine group.1] else []) ++ group.2.map attributeLine

/-- What the names and values of a group are, when they come from calls with names and values. -/
structure IsGroup (group : Bytes × Attributes) : Prop where
  key : groupKey group.1 = group.1
  noNewline : '\n'.toUInt8 ∉ group.1
  names : ∀ iter ∈ group.2, IsName iter.1
  values : ∀ iter ∈ group.2, IsValue iter.2

theorem newline_not_mem_groupLines {group : Bytes × Attributes} (h : IsGroup group) :
    ∀ line ∈ groupLines group, '\n'.toUInt8 ∉ line := by
  intro line hline hnewline
  rcases List.mem_append.mp hline with hline | hline
  · split at hline
    · obtain rfl := List.mem_singleton.mp hline
      rcases List.mem_append.mp hnewline with hnewline | hnewline
      · rcases List.mem_cons.mp hnewline with heq | hnewline
        · exact absurd heq (by decide)
        · exact h.noNewline hnewline
      · exact absurd (List.mem_singleton.mp hnewline) (by decide)
    · exact absurd hline List.not_mem_nil
  · obtain ⟨iter, hiter, rfl⟩ := List.mem_map.mp hline
    rcases List.mem_append.mp hnewline with hnewline | hnewline
    · exact (h.names iter hiter).noNewline hnewline
    · rcases List.mem_cons.mp hnewline with heq | hnewline
      · exact absurd heq (by decide)
      · exact (h.values iter hiter).noNewline hnewline

theorem groupContent_eq (group : Bytes × Attributes) :
    groupContent group = (groupLines group).flatMap (· ++ ['\n'.toUInt8]) := by
  rw [groupContent, groupLines, List.flatMap_append, List.flatMap_map]
  split
  · rw [List.flatMap_singleton, groupLine,
      List.append_assoc ('['.toUInt8 :: group.1) [']'.toUInt8] ['\n'.toUInt8]]
    rfl
  · rfl

theorem fileLines_saveToFile {c : Configuration} (h : ∀ group ∈ c.dictionaries, IsGroup group) :
    fileLines c.saveToFile = c.dictionaries.flatMap groupLines := by
  have hcontent : c.saveToFile =
      (c.dictionaries.flatMap groupLines).flatMap (· ++ ['\n'.toUInt8]) := by
    rw [saveToFile, List.flatMap_assoc]
    exact List.flatMap_congr fun group _ => groupContent_eq group
  rw [fileLines, hcontent]
  refine splitOnto_lines fun line hline => ?_
  obtain ⟨group, hgroup, hline⟩ := List.mem_flatMap.mp hline
  exact newline_not_mem_groupLines (h group hgroup) line hline

/-! ## One line -/

section

variable {s : Loading}

theorem trimmed_attributeLine {iter : Bytes × Bytes} (hname : IsName iter.1)
    (hvalue : IsValue iter.2) : Trimmed (attributeLine iter) := by
  constructor
  · rw [attributeLine, List.head?_append_of_ne_nil _ hname.nonempty]
    exact hname.trimmed.left
  · rw [attributeLine, List.getLast?_append_of_ne_nil _ (List.cons_ne_nil _ _),
      List.getLast?_cons_of_ne_nil hvalue.nonempty]
    exact hvalue.trimmed.right

theorem hasBrackets_attributeLine {iter : Bytes × Bytes} (hname : IsName iter.1) :
    Loading.HasBrackets (attributeLine iter) ↔ Loading.HasBrackets iter.2 := by
  have hmem : ∀ {c : UInt8}, c ∉ iter.1 → c ≠ fixEquals →
      (c ∈ attributeLine iter ↔ c ∈ iter.2) := by
    intro c hfront hequals
    rw [attributeLine, List.mem_append, List.mem_cons, or_iff_right hfront,
      or_iff_right hequals]
  exact and_congr (hmem hname.noOpening (by decide)) (hmem hname.noClosing (by decide))

theorem splitByFirstSeparator_attributeLine {iter : Bytes × Bytes} (hname : IsName iter.1) :
    splitByFirstSeparator (attributeLine iter) fixEquals = [iter.1, iter.2] := by
  have hbefore : ∀ c ∈ iter.1, decide (c ≠ fixEquals) = true := by
    intro c hc
    rw [decide_eq_true_eq]
    rintro rfl
    exact hname.noEquals hc
  have hpositive : 0 < (attributeLine iter).length := by
    rw [attributeLine, List.length_append, List.length_cons]
    exact Nat.lt_of_lt_of_le (Nat.succ_pos _) (Nat.le_add_left _ _)
  have hmem : fixEquals ∈ attributeLine iter :=
    List.mem_append_right _ List.mem_cons_self
  rw [splitByFirstSeparator, if_pos hpositive, if_pos hmem, attributeLine,
    List.takeWhile_append_of_pos hbefore, List.dropWhile_append_of_pos hbefore,
    List.takeWhile_cons, List.dropWhile_cons]
  simp

/-- The line of an attribute whose value does not have both brackets. -/
theorem readLine_attribute {iter : Bytes × Bytes} (hname : IsName iter.1)
    (hvalue : IsValue iter.2) (hplain : ¬ Loading.HasBrackets iter.2) :
    s.readLine (attributeLine iter) =
      { s with
        lineNumber := s.lineNumber + 1
        configuration := s.configuration.addAttribute iter.1 iter.2 s.currentGroupName } := by
  have hlength : 3 ≤ (attributeLine iter).length := by
    have hfront := List.length_pos_iff.mpr hname.nonempty
    have hback := List.length_pos_iff.mpr hvalue.nonempty
    rw [attributeLine, List.length_append, List.length_cons]
    omega
  have hcomment : (attributeLine iter).head? ≠ some '#'.toUInt8 := by
    rw [attributeLine, List.head?_append_of_ne_nil _ hname.nonempty]
    exact hname.noComment
  have hbrackets : ¬ Loading.HasBrackets (attributeLine iter) :=
    fun h => hplain ((hasBrackets_attributeLine hname).mp h)
  have hequals : ¬ fixEquals ∉ attributeLine iter :=
    not_not.mpr (List.mem_append_right _ List.mem_cons_self)
  unfold Loading.readLine
  dsimp only
  rw [trim_eq (trimmed_attributeLine hname hvalue), if_neg (by omega), if_neg hcomment,
    if_neg (by omega), if_neg hbrackets, Loading.readAttribute, if_neg hequals,
    splitByFirstSeparator_attributeLine hname]

theorem trim_groupLine (groupName : Bytes) : trim (groupLine groupName) = groupLine groupName := by
  refine trim_eq ⟨rfl, ?_⟩
  rw [groupLine, List.getLast?_concat]
  rfl

/-- The line of a group, whatever its name is. -/
theorem readLine_group {groupName : Bytes} (hnonempty : groupName ≠ []) :
    s.readLine (groupLine groupName) =
      { s with lineNumber := s.lineNumber + 1 }.startGroup groupName := by
  have hpositive := List.length_pos_iff.mpr hnonempty
  have hlength : (groupLine groupName).length = groupName.length + 2 := by
    rw [groupLine, List.length_append, List.length_cons, List.length_singleton]
  have hcomment : (groupLine groupName).head? ≠ some '#'.toUInt8 :=
    fun heq => absurd (Option.some.inj heq) (by decide)
  have hbrackets : Loading.HasBrackets (groupLine groupName) :=
    ⟨List.mem_append_left _ List.mem_cons_self, List.mem_append_right _ List.mem_cons_self⟩
  have hname : ((groupLine groupName).drop 1).take (groupName.length + 2 - 2) = groupName := by
    rw [groupLine, List.cons_append, List.drop_one, List.tail_cons, Nat.add_sub_cancel,
      List.take_left]
  unfold Loading.readLine
  dsimp only
  rw [trim_groupLine, hlength, if_neg (by omega), if_neg hcomment, if_neg (by omega),
    if_pos hbrackets, hname]

theorem readLine_emptyGroup : (s.readLine (groupLine [])).error ≠ none := by
  unfold Loading.readLine
  dsimp only
  rw [trim_groupLine]
  exact Option.some_ne_none _

/-- A line adds one entry at most, and none when it has both brackets. -/
theorem entries_readLine_le (line : Bytes) :
    (s.readLine line).configuration.entries.length ≤
      s.configuration.entries.length + if Loading.HasBrackets (trim line) then 0 else 1 := by
  have hsame := Nat.le_add_right s.configuration.entries.length
    (if Loading.HasBrackets (trim line) then 0 else 1)
  unfold Loading.readLine
  dsimp only
  split
  · exact hsame
  split
  · exact hsame
  split
  · exact hsame
  split
  · rw [Loading.startGroup]
    split
    · exact Nat.le_refl _
    · exact Nat.le_refl _
  · rw [Loading.readAttribute]
    split
    · exact Nat.le_succ _
    split
    · exact ((entries_addAttribute _ _ _).length_eq).le
    · exact Nat.le_succ _

end

/-! ## Some lines -/

section

variable {s : Loading} {front back lines : List Bytes}

theorem readLines_append (back : List Bytes) (h : (s.readLines front).error = none) :
    s.readLines (front ++ back) = (s.readLines front).readLines back := by
  induction front generalizing s with
  | nil => rfl
  | cons line front ih =>
    rw [List.cons_append, Loading.readLines, Loading.readLines]
    rw [Loading.readLines] at h
    split
    · rename_i herror
      rw [if_pos herror] at h
      rw [h] at herror
      cases herror
    · rename_i hnone
      rw [if_neg hnone] at h
      exact ih h

/-- Loading succeeds only if each line can be read. -/
theorem readLine_of_readLines {line : Bytes} (hline : line ∈ lines)
    (h : (s.readLines lines).error = none) : ∃ s' : Loading, (s'.readLine line).error = none := by
  induction lines generalizing s with
  | nil => exact absurd hline List.not_mem_nil
  | cons line' lines ih =>
    rw [Loading.readLines] at h
    split at h
    · rename_i herror
      rw [h] at herror
      cases herror
    · rename_i hnone
      rcases List.mem_cons.mp hline with rfl | hline
      · exact ⟨s, Option.not_isSome_iff_eq_none.mp hnone⟩
      · exact ih hline h

/-- The entries of a file are at most its lines without brackets. -/
theorem entries_readLines_le (s : Loading) (lines : List Bytes) :
    (s.readLines lines).configuration.entries.length ≤
      s.configuration.entries.length +
        lines.countP fun line => ¬ Loading.HasBrackets (trim line) := by
  induction lines generalizing s with
  | nil => exact Nat.le_refl _
  | cons line lines ih =>
    have hline := entries_readLine_le (s := s) line
    have hcount : (if Loading.HasBrackets (trim line) then 0 else 1) =
        if decide (¬ Loading.HasBrackets (trim line)) = true then 1 else 0 := by
      simp only [decide_eq_true_eq, ite_not]
    rw [Loading.readLines, List.countP_cons, ← hcount]
    split
    · omega
    · have hlines := ih (s.readLine line)
      omega

/-- What the reader does with some lines: it stands under the line of a group then, and has read
some entries. -/
structure Reads (s : Loading) (lines : List Bytes) (current : Bytes)
    (added : List (Bytes × Bytes × Bytes)) : Prop where
  noError : (s.readLines lines).error = none
  standsUnder : (s.readLines lines).currentGroupName = current
  entries : (s.readLines lines).configuration.entries.Perm (s.configuration.entries ++ added)
  groups : ∀ name, name ∈ (s.readLines lines).configuration.groupNames ↔
    name ∈ s.configuration.groupNames ∨ ∃ entry ∈ added, entry.1 = name

variable {current current' : Bytes} {added added' : List (Bytes × Bytes × Bytes)}

theorem reads_nil (h : s.error = none) : Reads s [] s.currentGroupName [] where
  noError := h
  standsUnder := rfl
  entries := by
    rw [List.append_nil]
    exact List.Perm.refl _
  groups name := by
    refine (or_iff_left ?_).symm
    rintro ⟨entry, hmem, -⟩
    exact absurd hmem List.not_mem_nil

theorem Reads.trans (h : Reads s front current added)
    (h' : Reads (s.readLines front) back current' added') :
    Reads s (front ++ back) current' (added ++ added') := by
  have happend := readLines_append back h.noError
  constructor
  · rw [happend]
    exact h'.noError
  · rw [happend]
    exact h'.standsUnder
  · rw [happend, ← List.append_assoc]
    exact h'.entries.trans (h.entries.append_right added')
  · intro name
    rw [happend, h'.groups, h.groups, or_assoc]
    simp only [List.mem_append, or_and_right, exists_or]

/-- One line that adds one entry. -/
theorem reads_attribute {iter : Bytes × Bytes} (h : s.error = none)
    (hname : IsName iter.1) (hvalue : IsValue iter.2) (hplain : ¬ Loading.HasBrackets iter.2) :
    Reads s [attributeLine iter] s.currentGroupName [(groupKey s.currentGroupName, iter)] := by
  have hline : s.readLines [attributeLine iter] = s.readLine (attributeLine iter) := by
    rw [Loading.readLines]
    split
    · rfl
    · rfl
  constructor
  · rw [hline, readLine_attribute hname hvalue hplain]
    exact h
  · rw [hline, readLine_attribute hname hvalue hplain]
  · rw [hline, readLine_attribute hname hvalue hplain]
    exact (entries_addAttribute _ _ _).trans (List.perm_append_singleton _ _).symm
  · intro name
    rw [hline, readLine_attribute hname hvalue hplain]
    refine mem_groupNames_addAttribute.trans ?_
    simp [eq_comm]

theorem reads_attributes {iters : Attributes} (h : s.error = none)
    (hnames : ∀ iter ∈ iters, IsName iter.1) (hvalues : ∀ iter ∈ iters, IsValue iter.2)
    (hplain : ∀ iter ∈ iters, ¬ Loading.HasBrackets iter.2) :
    Reads s (iters.map attributeLine) s.currentGroupName
      (iters.map (Prod.mk (groupKey s.currentGroupName))) := by
  induction iters generalizing s with
  | nil => exact reads_nil h
  | cons iter iters ih =>
    have hfirst := reads_attribute h (hnames iter List.mem_cons_self)
      (hvalues iter List.mem_cons_self) (hplain iter List.mem_cons_self)
    have hrest := ih hfirst.noError (fun iter' hmem => hnames iter' (List.mem_cons_of_mem _ hmem))
      (fun iter' hmem => hvalues iter' (List.mem_cons_of_mem _ hmem))
      fun iter' hmem => hplain iter' (List.mem_cons_of_mem _ hmem)
    rw [hfirst.standsUnder] at hrest
    exact hfirst.trans hrest

theorem reads_groupLine {groupName : Bytes} (h : s.error = none) (hnonempty : groupName ≠ [])
    (hfresh : groupName ∉ s.configuration.groupNames) :
    Reads s [groupLine groupName] groupName [] := by
  have hline : s.readLines [groupLine groupName] =
      { s with lineNumber := s.lineNumber + 1, currentGroupName := groupName } := by
    have hstart : s.readLine (groupLine groupName) =
        { s with lineNumber := s.lineNumber + 1, currentGroupName := groupName } := by
      have hnew : (s.configuration.find groupName).isSome = false := by
        rw [find_eq_none hfresh]
        rfl
      rw [readLine_group hnonempty, Loading.startGroup]
      dsimp only
      rw [hnew]
      rfl
    rw [Loading.readLines, hstart]
    dsimp only
    rw [h]
    rfl
  have hnil := reads_nil h
  constructor
  · rw [hline]
    exact h
  · rw [hline]
  · rw [hline]
    exact hnil.entries
  · rw [hline]
    exact hnil.groups

end

end Configuration

end Llfix
