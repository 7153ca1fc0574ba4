import Llfix.ConfigurationLines

/-!
# Saving and loading a configuration

`save_to_file` writes the groups in the order of iteration, each under its line, and the root group
under none. `load_from_file` gives an attribute to the group whose line was the last one, and takes
each line that has both brackets for the line of a group.

Results:
1. `reads_groups`: without brackets in values, each attribute lands in the group of the last line
   before it, whichever group it belongs to.
2. `entries_saved_iff`: when all attributes land in their groups.
3. `roundTrips_iff`: the configuration comes back exactly when no value has both brackets, no group
   has an empty name and the root group is written first.
-/

namespace Llfix

namespace Configuration

/-! ## Groups -/

/-- The group whose line is the last one when the attributes of a group are read. -/
def landingGroup (current : Bytes) (group : Bytes × Attributes) : Bytes :=
  if group.1 = rootGroupName then current else group.1

/-- The entries that the reader makes of some groups. -/
def landings : Bytes → List (Bytes × Attributes) → List (Bytes × Bytes × Bytes)
  | _, [] => []
  | current, group :: groups =>
    group.2.map (Prod.mk (landingGroup current group)) ++
      landings (landingGroup current group) groups

/-- No value of a group has both brackets, and its name is not empty. -/
structure IsPlain (group : Bytes × Attributes) : Prop where
  name : group.1 ≠ []
  values : ∀ iter ∈ group.2, ¬ Loading.HasBrackets iter.2

section

variable {s : Loading} {group : Bytes × Attributes} {groups : List (Bytes × Attributes)}

theorem reads_group (h : s.error = none) (hkey : groupKey s.currentGroupName = s.currentGroupName)
    (hgroup : IsGroup group) (hplain : IsPlain group)
    (hfresh : group.1 = rootGroupName ∨ group.1 ∉ s.configuration.groupNames) :
    Reads s (groupLines group) (landingGroup s.currentGroupName group)
      (group.2.map (Prod.mk (landingGroup s.currentGroupName group))) := by
  rw [groupLines, landingGroup]
  split
  · rename_i hne
    have hline := reads_groupLine h hplain.name (hfresh.resolve_left hne)
    have hrest := reads_attributes hline.noError hgroup.names hgroup.values hplain.values
    rw [hline.standsUnder, hgroup.key] at hrest
    exact hline.trans hrest
  · rename_i heq
    have hall := reads_attributes h hgroup.names hgroup.values hplain.values
    rw [if_pos (not_not.mp heq)]
    rwa [hkey] at hall

/-- The groups of a file, each once, are read without an error. -/
theorem reads_groups (h : s.error = none) (hkey : groupKey s.currentGroupName = s.currentGroupName)
    (hgroups : ∀ group ∈ groups, IsGroup group) (hplain : ∀ group ∈ groups, IsPlain group)
    (hnodup : (groups.map Prod.fst).Nodup)
    (hfresh : ∀ group ∈ groups, group.1 = rootGroupName ∨
      group.1 ∉ s.configuration.groupNames ∧ group.1 ≠ s.currentGroupName) :
    ∃ current,
      Reads s (groups.flatMap groupLines) current (landings s.currentGroupName groups) := by
  induction groups generalizing s with
  | nil => exact ⟨_, reads_nil h⟩
  | cons group groups ih =>
    obtain ⟨hnew, hnodup⟩ := List.nodup_cons.mp hnodup
    have hgroup := hgroups group List.mem_cons_self
    have hfirst := reads_group h hkey hgroup (hplain group List.mem_cons_self)
      ((hfresh group List.mem_cons_self).imp_right And.left)
    have hlanding : groupKey (landingGroup s.currentGroupName group) =
        landingGroup s.currentGroupName group := by
      rw [landingGroup]
      split
      · exact hkey
      · exact hgroup.key
    -- a later group has neither been read nor is the one under whose line the reader stands
    have hlater : ∀ later ∈ groups, later.1 = rootGroupName ∨
        later.1 ∉ (s.readLines (groupLines group)).configuration.groupNames ∧
          later.1 ≠ landingGroup s.currentGroupName group := by
      intro later hmem
      refine (hfresh later (List.mem_cons_of_mem _ hmem)).imp_right fun hunread => ?_
      have hother : later.1 ≠ group.1 :=
        fun heq => hnew (heq ▸ List.mem_map_of_mem hmem)
      have hne : later.1 ≠ landingGroup s.currentGroupName group := by
        rw [landingGroup]
        split
        · exact hunread.2
        · exact hother
      refine ⟨fun hread => ?_, hne⟩
      rcases (hfirst.groups later.1).mp hread with hread | ⟨entry, hentry, heq⟩
      · exact hunread.1 hread
      · obtain ⟨iter, -, rfl⟩ := List.mem_map.mp hentry
        exact hne heq.symm
    have hrest := ih hfirst.noError (by rwa [hfirst.standsUnder])
      (fun later hmem => hgroups later (List.mem_cons_of_mem _ hmem))
      (fun later hmem => hplain later (List.mem_cons_of_mem _ hmem)) hnodup
      (by rwa [hfirst.standsUnder])
    rw [hfirst.standsUnder] at hrest
    obtain ⟨current, hrest⟩ := hrest
    exact ⟨current, hfirst.trans hrest⟩

/-- The attributes of each group land in it, unless those of the root group come later. -/
theorem landings_tail {current : Bytes} (h : rootGroupName ∉ groups.map Prod.fst) :
    landings current groups = groups.flatMap groupEntries := by
  induction groups generalizing current with
  | nil => rfl
  | cons group groups ih =>
    obtain ⟨hne, hrest⟩ := not_or.mp fun hmem => h (List.mem_cons.mpr hmem)
    rw [landings, landingGroup, if_neg (Ne.symm hne), ih hrest]
    rfl

theorem landings_rootFirst (h : rootGroupName ∉ (groups.map Prod.fst).tail) :
    landings rootGroupName groups = groups.flatMap groupEntries := by
  cases groups with
  | nil => rfl
  | cons group groups =>
    have hfirst : landingGroup rootGroupName group = group.1 := by
      rw [landingGroup]
      split
      · rename_i heq
        exact heq.symm
      · rfl
    rw [landings, hfirst, landings_tail h]
    rfl

/-- Once the reader stands under the line of a group, nothing lands in the root group. -/
theorem landings_ne_root {current : Bytes} (h : current ≠ rootGroupName) :
    ∀ entry ∈ landings current groups, entry.1 ≠ rootGroupName := by
  induction groups generalizing current with
  | nil => exact fun entry hmem => absurd hmem List.not_mem_nil
  | cons group groups ih =>
    have hlanding : landingGroup current group ≠ rootGroupName := by
      rw [landingGroup]
      split
      · exact h
      · assumption
    intro entry hentry
    rcases List.mem_append.mp hentry with hentry | hentry
    · obtain ⟨iter, -, rfl⟩ := List.mem_map.mp hentry
      exact hlanding
    · exact ih hlanding entry hentry

end

/-! ## A saved configuration -/

section

variable {c : Configuration}

theorem mem_entries {entry : Bytes × Bytes × Bytes} :
    entry ∈ c.entries ↔ ∃ group ∈ c.dictionaries, entry.1 = group.1 ∧ entry.2 ∈ group.2 := by
  rw [entries, List.mem_flatMap]
  refine exists_congr fun group => and_congr_right fun _ => ?_
  rw [groupEntries, List.mem_map]
  constructor
  · rintro ⟨iter, hiter, rfl⟩
    exact ⟨rfl, hiter⟩
  · rintro ⟨heq, hiter⟩
    exact ⟨entry.2, hiter, by rw [← heq]⟩

/-- The reader before the first line: there is a root group without attributes. -/
def beforeFile : Loading := { configuration := ({} : Configuration).addGroup rootGroupName }

theorem groupNames_beforeFile : beforeFile.configuration.groupNames = [rootGroupName] := rfl

theorem entries_beforeFile : beforeFile.configuration.entries = [] := rfl

theorem loadFromFile_saved (loader : Configuration)
    (hgroups : ∀ group ∈ c.dictionaries, IsGroup group) :
    loader.loadFromFile c.saveToFile =
      beforeFile.readLines (c.dictionaries.flatMap groupLines) := by
  rw [loadFromFile, fileLines_saveToFile hgroups]
  rfl

theorem reads_saved (hgroups : ∀ group ∈ c.dictionaries, IsGroup group)
    (hplain : ∀ group ∈ c.dictionaries, IsPlain group) :
    ∃ current, Reads beforeFile (c.dictionaries.flatMap groupLines) current
      (landings rootGroupName c.dictionaries) := by
  refine reads_groups rfl rfl hgroups hplain c.nodup fun group _ => ?_
  by_cases hroot : group.1 = rootGroupName
  · exact Or.inl hroot
  · refine Or.inr ⟨?_, hroot⟩
    rw [groupNames_beforeFile, List.mem_singleton]
    exact hroot

/-- The lines without brackets are those of the attributes whose values do not have both. -/
theorem countP_groupLines {group : Bytes × Attributes} (h : IsGroup group) :
    ((groupLines group).countP fun line => ¬ Loading.HasBrackets (trim line)) =
      (groupEntries group).countP fun entry => ¬ Loading.HasBrackets entry.2.2 := by
  have hline : ((if group.1 ≠ rootGroupName then [groupLine group.1] else []).countP
      fun line => ¬ Loading.HasBrackets (trim line)) = 0 := by
    rw [List.countP_eq_zero]
    intro line hmem
    split at hmem
    · obtain rfl := List.mem_singleton.mp hmem
      rw [trim_groupLine, decide_eq_true_eq, not_not]
      exact ⟨List.mem_append_left _ List.mem_cons_self, List.mem_append_right _ List.mem_cons_self⟩
    · exact absurd hmem List.not_mem_nil
  rw [groupLines, List.countP_append, hline, Nat.zero_add, groupEntries, List.countP_map,
    List.countP_map]
  refine List.countP_congr fun iter hiter => ?_
  have hname := h.names iter hiter
  rw [Function.comp_apply, Function.comp_apply, decide_eq_true_eq, decide_eq_true_eq,
    trim_eq (trimmed_attributeLine hname (h.values iter hiter)), hasBrackets_attributeLine hname]

/-- All entries come back only if no line is taken for another. -/
theorem isPlain_of_saved (hgroups : ∀ group ∈ c.dictionaries, IsGroup group)
    (hnone : (beforeFile.readLines (c.dictionaries.flatMap groupLines)).error = none)
    (hentries :
      (beforeFile.readLines (c.dictionaries.flatMap groupLines)).configuration.entries.Perm
        c.entries) :
    ∀ group ∈ c.dictionaries, IsPlain group := by
  have hcount : ((c.dictionaries.flatMap groupLines).countP
      fun line => ¬ Loading.HasBrackets (trim line)) =
        c.entries.countP fun entry => ¬ Loading.HasBrackets entry.2.2 := by
    rw [entries, List.countP_flatMap, List.countP_flatMap]
    refine congrArg List.sum (List.map_congr_left fun group hgroup => ?_)
    exact countP_groupLines (hgroups group hgroup)
  have hbound := entries_readLines_le beforeFile (c.dictionaries.flatMap groupLines)
  rw [hentries.length_eq, entries_beforeFile, hcount, List.length_nil, Nat.zero_add] at hbound
  have hall := List.countP_eq_length.mp (Nat.le_antisymm List.countP_le_length hbound)
  intro group hgroup
  constructor
  · intro hempty
    have hline : groupLine [] ∈ c.dictionaries.flatMap groupLines := by
      refine List.mem_flatMap.mpr ⟨group, hgroup, List.mem_append_left _ ?_⟩
      rw [hempty, if_pos (by decide)]
      exact List.mem_singleton_self _
    obtain ⟨s, hs⟩ := readLine_of_readLines hline hnone
    exact readLine_emptyGroup hs
  · intro iter hiter
    exact of_decide_eq_true (hall (group.1, iter) (mem_entries.mpr ⟨group, hgroup, rfl, hiter⟩))

/-- All entries come back if and only if no line is taken for another and the root group is the
first one. -/
theorem entries_saved_iff (hgroups : ∀ group ∈ c.dictionaries, IsGroup group)
    (hnonempty : ∀ group ∈ c.dictionaries, group.2 ≠ []) :
    ((beforeFile.readLines (c.dictionaries.flatMap groupLines)).error = none ∧
      (beforeFile.readLines (c.dictionaries.flatMap groupLines)).configuration.entries.Perm
        c.entries) ↔
      (∀ group ∈ c.dictionaries, IsPlain group) ∧ rootGroupName ∉ c.groupNames.tail := by
  constructor
  · rintro ⟨hnone, hentries⟩
    have hplain := isPlain_of_saved hgroups hnone hentries
    refine ⟨hplain, fun hroot => ?_⟩
    obtain ⟨current, hreads⟩ := reads_saved hgroups hplain
    have hlandings := hreads.entries.symm.trans hentries
    rw [entries_beforeFile, List.nil_append] at hlandings
    have hnodup := c.nodup
    rw [groupNames] at hroot
    cases hdictionaries : c.dictionaries with
    | nil =>
      rw [hdictionaries] at hroot
      exact absurd hroot List.not_mem_nil
    | cons first groups =>
      rw [hdictionaries] at hroot hnodup hlandings
      -- the root group is not the first one, so that its attributes land in another
      have hfirst : first.1 ≠ rootGroupName := by
        intro heq
        exact (List.nodup_cons.mp hnodup).1 (heq ▸ hroot)
      obtain ⟨group, hgroup, hname⟩ := List.mem_map.mp hroot
      have hmem : group ∈ c.dictionaries := by
        rw [hdictionaries]
        exact List.mem_cons_of_mem _ hgroup
      obtain ⟨iter, hiter⟩ := List.exists_mem_of_ne_nil _ (hnonempty group hmem)
      have hentry : (group.1, iter) ∈ c.entries := mem_entries.mpr ⟨group, hmem, rfl, hiter⟩
      have hlanding : landingGroup rootGroupName first ≠ rootGroupName := by
        rw [landingGroup, if_neg hfirst]
        exact hfirst
      rcases List.mem_append.mp (hlandings.mem_iff.mpr hentry) with hland | hland
      · obtain ⟨iter', -, heq⟩ := List.mem_map.mp hland
        exact hlanding ((congrArg Prod.fst heq).trans hname)
      · exact landings_ne_root hlanding _ hland hname
  · rintro ⟨hplain, hroot⟩
    obtain ⟨current, hreads⟩ := reads_saved hgroups hplain
    rw [landings_rootFirst hroot] at hreads
    refine ⟨hreads.noError, hreads.entries.trans ?_⟩
    rw [entries_beforeFile, List.nil_append]
    exact List.Perm.refl _

/-- The groups are then those of the file and the root group. -/
theorem groupNames_saved (hgroups : ∀ group ∈ c.dictionaries, IsGroup group)
    (hnonempty : ∀ group ∈ c.dictionaries, group.2 ≠ [])
    (hplain : ∀ group ∈ c.dictionaries, IsPlain group) (hroot : rootGroupName ∉ c.groupNames.tail)
    (name : Bytes) :
    name ∈ (beforeFile.readLines (c.dictionaries.flatMap groupLines)).configuration.groupNames ↔
      name = rootGroupName ∨ name ∈ c.groupNames := by
  obtain ⟨current, hreads⟩ := reads_saved hgroups hplain
  rw [landings_rootFirst hroot] at hreads
  rw [hreads.groups, groupNames_beforeFile, List.mem_singleton]
  refine or_congr_right ⟨?_, ?_⟩
  · rintro ⟨entry, hentry, rfl⟩
    obtain ⟨group, hgroup, hname, -⟩ := mem_entries.mp hentry
    rw [hname]
    exact List.mem_map_of_mem hgroup
  · intro hname
    obtain ⟨group, hgroup, rfl⟩ := List.mem_map.mp hname
    obtain ⟨iter, hiter⟩ := List.exists_mem_of_ne_nil _ (hnonempty group hgroup)
    exact ⟨(group.1, iter), mem_entries.mpr ⟨group, hgroup, rfl, hiter⟩, rfl⟩

end

/-! ## The round trip -/

/-- A call with names and a value. -/
structure IsAttributeCall (call : AttributeCall) : Prop where
  attributeName : IsName call.attributeName
  value : IsValue call.value
  groupName : IsName call.groupName

/-- The file loads without an error, whatever the loader held, and the same groups come back with
the same attributes and values. -/
def RoundTrips (loader c : Configuration) : Prop :=
  (loader.loadFromFile c.saveToFile).error = none ∧
    (loader.loadFromFile c.saveToFile).configuration.SameAs c

/-- The same, but for a root group without attributes, which the loader always makes. -/
def RoundTripsButRoot (loader c : Configuration) : Prop :=
  (loader.loadFromFile c.saveToFile).error = none ∧
    (loader.loadFromFile c.saveToFile).configuration.entries.Perm c.entries ∧
    ∀ name, name ∈ (loader.loadFromFile c.saveToFile).configuration.groupNames ↔
      name = rootGroupName ∨ name ∈ c.groupNames

/-- No value has both brackets, and no group has an empty name: a name that begins with a NUL is
empty. -/
def ArePlain (calls : List AttributeCall) : Prop :=
  ∀ call ∈ calls, ¬ Loading.HasBrackets call.value ∧ groupKey call.groupName ≠ []

section

variable {c : Configuration} {calls : List AttributeCall}

theorem groupKey_groupKey (groupName : Bytes) :
    groupKey (groupKey groupName) = groupKey groupName := by
  rw [groupKey, groupKey, List.takeWhile_takeWhile]
  simp

theorem SameAs.mem_entries (hc : c.SameAs (addAttributes {} calls))
    {entry : Bytes × Bytes × Bytes} : entry ∈ c.entries ↔ ∃ call ∈ calls, call.entry = entry := by
  rw [hc.entries.mem_iff, (entries_addAttributes calls).mem_iff]
  exact List.mem_map

theorem SameAs.mem_groupNames (hc : c.SameAs (addAttributes {} calls)) {name : Bytes} :
    name ∈ c.groupNames ↔ ∃ call ∈ calls, groupKey call.groupName = name := by
  rw [hc.groups.mem_iff, mem_groupNames_addAttributes]
  exact or_iff_right List.not_mem_nil

theorem SameAs.isGroup (hc : c.SameAs (addAttributes {} calls))
    (hcalls : ∀ call ∈ calls, IsAttributeCall call) :
    ∀ group ∈ c.dictionaries, IsGroup group := by
  intro group hgroup
  obtain ⟨call, hcall, hname⟩ := hc.mem_groupNames.mp (List.mem_map_of_mem hgroup)
  have hiter : ∀ iter ∈ group.2, ∃ call ∈ calls, call.entry = (group.1, iter) := by
    intro iter hiter
    exact hc.mem_entries.mp (Configuration.mem_entries.mpr ⟨group, hgroup, rfl, hiter⟩)
  refine ⟨?_, ?_, fun iter hmem => ?_, fun iter hmem => ?_⟩
  · rw [← hname, groupKey_groupKey]
  · rw [← hname]
    intro hnewline
    exact (hcalls call hcall).groupName.noNewline ((List.takeWhile_sublist _).subset hnewline)
  · obtain ⟨call', hcall', heq⟩ := hiter iter hmem
    obtain rfl := congrArg Prod.snd heq
    exact (hcalls call' hcall').attributeName
  · obtain ⟨call', hcall', heq⟩ := hiter iter hmem
    obtain rfl := congrArg Prod.snd heq
    exact (hcalls call' hcall').value

/-- Each group has been made for an attribute. -/
theorem SameAs.nonempty (hc : c.SameAs (addAttributes {} calls)) :
    ∀ group ∈ c.dictionaries, group.2 ≠ [] := by
  intro group hgroup hempty
  obtain ⟨call, hcall, hname⟩ := hc.mem_groupNames.mp (List.mem_map_of_mem hgroup)
  obtain ⟨group', hgroup', heq, hiter⟩ :=
    Configuration.mem_entries.mp (hc.mem_entries.mpr ⟨call, hcall, rfl⟩)
  obtain rfl := List.inj_on_of_nodup_map c.nodup hgroup' hgroup (heq.symm.trans hname)
  rw [hempty] at hiter
  exact absurd hiter List.not_mem_nil

theorem SameAs.isPlain_iff (hc : c.SameAs (addAttributes {} calls)) :
    (∀ group ∈ c.dictionaries, IsPlain group) ↔ ArePlain calls := by
  constructor
  · intro h call hcall
    obtain ⟨group, hgroup, hname, hiter⟩ :=
      Configuration.mem_entries.mp (hc.mem_entries.mpr ⟨call, hcall, rfl⟩)
    exact ⟨(h group hgroup).values _ hiter, fun hempty => (h group hgroup).name
      (hname.symm.trans hempty)⟩
  · intro h group hgroup
    constructor
    · obtain ⟨call, hcall, hname⟩ := hc.mem_groupNames.mp (List.mem_map_of_mem hgroup)
      rw [← hname]
      exact (h call hcall).2
    · intro iter hiter
      have hentry : (group.1, iter) ∈ c.entries :=
        Configuration.mem_entries.mpr ⟨group, hgroup, rfl, hiter⟩
      obtain ⟨call, hcall, heq⟩ := hc.mem_entries.mp hentry
      obtain rfl := congrArg Prod.snd heq
      exact (h call hcall).1

theorem roundTripsButRoot_iff (loader : Configuration)
    (hcalls : ∀ call ∈ calls, IsAttributeCall call) (hc : c.SameAs (addAttributes {} calls)) :
    RoundTripsButRoot loader c ↔ ArePlain calls ∧ rootGroupName ∉ c.groupNames.tail := by
  have hgroups := hc.isGroup hcalls
  have hsaved := entries_saved_iff hgroups hc.nonempty
  rw [hc.isPlain_iff] at hsaved
  rw [RoundTripsButRoot, loadFromFile_saved loader hgroups, ← and_assoc, hsaved]
  refine and_iff_left_of_imp fun h => ?_
  exact groupNames_saved hgroups hc.nonempty (hc.isPlain_iff.mpr h.1) h.2

theorem roundTrips_iff_butRoot (loader : Configuration)
    (hcalls : ∀ call ∈ calls, IsAttributeCall call) (hc : c.SameAs (addAttributes {} calls)) :
    RoundTrips loader c ↔ RoundTripsButRoot loader c ∧ rootGroupName ∈ c.groupNames := by
  constructor
  · rintro ⟨hnone, hsame⟩
    have hbutRoot : RoundTripsButRoot loader c := by
      have hgroups := hc.isGroup hcalls
      have hentries := hsame.entries
      rw [loadFromFile_saved loader hgroups] at hnone hentries
      have hfirst := (entries_saved_iff hgroups hc.nonempty).mp ⟨hnone, hentries⟩
      exact (roundTripsButRoot_iff loader hcalls hc).mpr ⟨hc.isPlain_iff.mp hfirst.1, hfirst.2⟩
    exact ⟨hbutRoot, hsame.groups.mem_iff.mp ((hbutRoot.2.2 rootGroupName).mpr (Or.inl rfl))⟩
  · rintro ⟨⟨hnone, hentries, hgroups⟩, hroot⟩
    refine ⟨hnone, (List.perm_ext_iff_of_nodup (Configuration.nodup _) c.nodup).mpr ?_, hentries⟩
    intro name
    refine (hgroups name).trans (or_iff_right_of_imp ?_)
    rintro rfl
    exact hroot

theorem head_eq_some_iff {α : Type*} {x : α} {xs : List α} (h : xs.Nodup) :
    xs.head? = some x ↔ x ∉ xs.tail ∧ x ∈ xs := by
  cases xs with
  | nil => simp
  | cons y ys =>
    obtain ⟨hfresh, -⟩ := List.nodup_cons.mp h
    rw [List.head?_cons, List.tail_cons, List.mem_cons, Option.some.injEq]
    constructor
    · rintro rfl
      exact ⟨hfresh, Or.inl rfl⟩
    · rintro ⟨hlater, heq | hmem⟩
      · exact heq.symm
      · exact absurd hmem hlater

/-- The configuration comes back if and only if no value has both brackets, no group has an empty
name and the root group is written first. Without attributes in the root group, the loader adds that
group and nothing else is different. -/
theorem roundTrips_iff (loader : Configuration) (hcalls : ∀ call ∈ calls, IsAttributeCall call)
    (hc : c.SameAs (addAttributes {} calls)) :
    (RoundTrips loader c ↔ ArePlain calls ∧ c.groupNames.head? = some rootGroupName) ∧
      (RoundTripsButRoot loader c ↔ ArePlain calls ∧ rootGroupName ∉ c.groupNames.tail) := by
  have hbutRoot := roundTripsButRoot_iff loader hcalls hc
  refine ⟨?_, hbutRoot⟩
  have hnodup : c.groupNames.Nodup := c.nodup
  rw [roundTrips_iff_butRoot loader hcalls hc, hbutRoot, and_assoc, head_eq_some_iff hnodup]

end

/-! ## Two files -/

/-- An attribute of the root group and one of another group. -/
def exampleCalls (value : Bytes) : List AttributeCall :=
  [⟨text "FONT_SIZE", text "8", rootGroupName⟩, ⟨text "LOG_LEVEL", value, text "LOGGER"⟩]

theorem exampleCalls_areCalls {value : Bytes} (h : IsValue value) :
    ∀ call ∈ exampleCalls value, IsAttributeCall call := by
  have hname : IsName (text "LOG_LEVEL") ∧ IsName (text "LOGGER") ∧ IsName (text "FONT_SIZE") ∧
      IsName rootGroupName := by
    refine ⟨?_, ?_, ?_, ?_⟩
    all_goals
      exact ⟨by decide, ⟨by decide, by decide⟩, by decide, by decide, by decide, by decide,
        by decide⟩
  intro call hcall
  rcases List.mem_cons.mp hcall with rfl | hcall
  · exact ⟨hname.2.2.1, ⟨by decide, ⟨by decide, by decide⟩, by decide⟩, hname.2.2.2⟩
  · obtain rfl := List.mem_singleton.mp hcall
    exact ⟨hname.1, h, hname.2.1⟩

/-- The table when the root group is iterated first. -/
def rootFirst (value : Bytes) : Configuration where
  dictionaries :=
    [(rootGroupName, [(text "FONT_SIZE", text "8")]), (text "LOGGER", [(text "LOG_LEVEL", value)])]
  nodup := by
    have hnames : [rootGroupName, text "LOGGER"].Nodup := by decide
    exact hnames

theorem rootFirst_sameAs (value : Bytes) :
    (rootFirst value).SameAs (addAttributes {} (exampleCalls value)) :=
  ⟨List.Perm.refl _, List.Perm.refl _⟩

/-- The table when the group that was added last is iterated first. -/
def loggerFirst (value : Bytes) : Configuration where
  dictionaries :=
    [(text "LOGGER", [(text "LOG_LEVEL", value)]), (rootGroupName, [(text "FONT_SIZE", text "8")])]
  nodup := by
    have hnames : [text "LOGGER", rootGroupName].Nodup := by decide
    exact hnames

theorem loggerFirst_sameAs (value : Bytes) :
    (loggerFirst value).SameAs (addAttributes {} (exampleCalls value)) :=
  ⟨List.Perm.swap _ _ _, List.Perm.swap _ _ _⟩

/-- With the root group first, one bracket in a value does no harm. -/
theorem roundTrips_iff_rootFirst :
    RoundTrips {} (rootFirst (text "INFO=[1")) ∧
      RoundTripsButRoot {} (rootFirst (text "INFO=[1")) := by
  have hcalls : ∀ call ∈ exampleCalls (text "INFO=[1"), IsAttributeCall call :=
    exampleCalls_areCalls ⟨by decide, ⟨by decide, by decide⟩, by decide⟩
  have hplain : ArePlain (exampleCalls (text "INFO=[1")) := by
    rw [ArePlain]
    decide
  have hboth := roundTrips_iff {} hcalls (rootFirst_sameAs (text "INFO=[1"))
  exact ⟨hboth.1.mpr ⟨hplain, rfl⟩, hboth.2.mpr ⟨hplain, by decide⟩⟩

/-- When the root group is iterated last, its attribute lands in the other group. With a value in
brackets, the attribute is lost in any order. -/
theorem roundTrips_fails :
    ((∀ call ∈ exampleCalls (text "INFO"), IsAttributeCall call) ∧
      (loggerFirst (text "INFO")).SameAs (addAttributes {} (exampleCalls (text "INFO"))) ∧
      (({} : Configuration).loadFromFile
        (loggerFirst (text "INFO")).saveToFile).configuration.entries =
        [(text "LOGGER", text "LOG_LEVEL", text "INFO"),
          (text "LOGGER", text "FONT_SIZE", text "8")] ∧
      ¬ RoundTrips {} (loggerFirst (text "INFO")) ∧
      ¬ RoundTripsButRoot {} (loggerFirst (text "INFO"))) ∧
    (∀ call ∈ exampleCalls (text "[x]"), IsAttributeCall call) ∧
      (rootFirst (text "[x]")).SameAs (addAttributes {} (exampleCalls (text "[x]"))) ∧
      (({} : Configuration).loadFromFile
        (rootFirst (text "[x]")).saveToFile).configuration.entries =
        [(rootGroupName, text "FONT_SIZE", text "8")] ∧
      ¬ RoundTrips {} (rootFirst (text "[x]")) ∧
      ¬ RoundTripsButRoot {} (rootFirst (text "[x]")) := by
  have hinfo : (({} : Configuration).loadFromFile
      (loggerFirst (text "INFO")).saveToFile).configuration.entries =
      [(text "LOGGER", text "LOG_LEVEL", text "INFO"),
        (text "LOGGER", text "FONT_SIZE", text "8")] := by
    decide +kernel
  have hbracket : (({} : Configuration).loadFromFile
      (rootFirst (text "[x]")).saveToFile).configuration.entries =
      [(rootGroupName, text "FONT_SIZE", text "8")] := by
    decide +kernel
  refine ⟨⟨exampleCalls_areCalls ⟨by decide, ⟨by decide, by decide⟩, by decide⟩,
      loggerFirst_sameAs _, hinfo, ?_, ?_⟩,
    exampleCalls_areCalls ⟨by decide, ⟨by decide, by decide⟩, by decide⟩, rootFirst_sameAs _,
    hbracket, ?_, ?_⟩
  · rintro ⟨-, hsame⟩
    have hentries := hsame.entries
    rw [hinfo] at hentries
    revert hentries
    decide
  · rintro ⟨-, hentries, -⟩
    rw [hinfo] at hentries
    revert hentries
    decide
  · rintro ⟨-, hsame⟩
    have hentries := hsame.entries
    rw [hbracket] at hentries
    revert hentries
    decide
  · rintro ⟨-, hentries, -⟩
    rw [hbracket] at hentries
    revert hentries
    decide

end Configuration

end Llfix
