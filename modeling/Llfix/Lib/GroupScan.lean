import Mathlib.Data.List.Chain

/-!
# Groups in a list of fields

A list of fields with keys, in which groups stand between single fields: an opener and members that
belong to it. A scan goes through the list and knows nothing but the group that is open. At a field
that does not belong to it, the open group is left; the field is a single one then, also when it is
an opener.

Results:
1. `segments_scan`: the scan finds the groups that do not follow each other.
2. `opener_single`: of two groups that follow each other, the opener of one is taken for a single
   field.
-/

namespace GroupScan

/-- Which keys open a group, and which belong to the group of an opener. -/
structure Rules (α : Type*) where
  opens : α → Bool
  belongs : α → α → Bool

/-- A single field, or an opener with its members. -/
inductive Segment (α β : Type*)
  | single (field : α × β)
  | group (opener : α × β) (members : List (α × β))

namespace Segment

variable {α β : Type*}

def fields : Segment α β → List (α × β)
  | single field => [field]
  | group opener members => opener :: members

/-- The fields of a group. -/
def groupFields : Segment α β → List (α × β)
  | single _ => []
  | group opener members => opener :: members

def singleFields : Segment α β → List (α × β)
  | single field => [field]
  | group .. => []

/-- The key of the opener. -/
def opener : Segment α β → Option α
  | single _ => none
  | group opener _ => some opener.1

end Segment

namespace Rules

variable {α β : Type*} (rules : Rules α)

/-- The group that is open behind a field, when `group` was open before it. -/
def step (group : Option α) (key : α) : Option α :=
  group.elim (if rules.opens key then some key else none)
    fun opener => if rules.belongs opener key then some opener else none

/-- The group that is open behind fields. -/
def after (group : Option α) (fields : List (α × β)) : Option α :=
  fields.foldl (fun group field => rules.step group field.1) group

/-- The fields that are taken for parts of groups. -/
def grouped : Option α → List (α × β) → List (α × β)
  | _, [] => []
  | group, field :: fields =>
    let group := rules.step group field.1
    (if group.isSome then [field] else []) ++ grouped group fields

/-- The fields that are taken for single ones. -/
def single : Option α → List (α × β) → List (α × β)
  | _, [] => []
  | group, field :: fields =>
    let group := rules.step group field.1
    (if group.isSome then [] else [field]) ++ single group fields

/-- What the segments of a list are: a single field neither opens a group nor belongs to one, the
members belong to their opener, and no opener belongs to the group of another. -/
structure WellFormed (segment : Segment α β) : Prop where
  single : ∀ field ∈ segment.singleFields,
    rules.opens field.1 = false ∧ ∀ opener, rules.belongs opener field.1 = false
  opens : ∀ key ∈ segment.opener, rules.opens key = true
  members : ∀ key ∈ segment.opener, ∀ field ∈ segment.groupFields.tail,
    rules.belongs key field.1 = true
  foreign : ∀ key ∈ segment.opener, ∀ opener, rules.belongs opener key = true → opener = key

/-- The segment does not open a group directly behind an open one, unless its opener belongs to
that. -/
def MayFollow (group : Option α) (segment : Segment α β) : Prop :=
  ∀ opener ∈ group, ∀ key ∈ segment.opener, rules.belongs opener key = true

/-- No group stands directly behind another. -/
def Separated (segments : List (Segment α β)) : Prop :=
  segments.IsChain fun segment next => rules.MayFollow segment.opener next

/-! ## The scan -/

section

variable {rules} {group : Option α}

theorem grouped_append (front back : List (α × β)) :
    rules.grouped group (front ++ back) =
      rules.grouped group front ++ rules.grouped (rules.after group front) back := by
  induction front generalizing group with
  | nil => rfl
  | cons field front ih =>
    rw [List.cons_append, grouped, grouped, ih, List.append_assoc]
    rfl

theorem single_append (front back : List (α × β)) :
    rules.single group (front ++ back) =
      rules.single group front ++ rules.single (rules.after group front) back := by
  induction front generalizing group with
  | nil => rfl
  | cons field front ih =>
    rw [List.cons_append, single, single, ih, List.append_assoc]
    rfl

/-- Without openers, all fields are single ones. -/
theorem scan_closed (h : ∀ key, rules.opens key = false) (fields : List (α × β)) :
    rules.grouped none fields = [] ∧ rules.single none fields = fields := by
  induction fields with
  | nil => exact ⟨rfl, rfl⟩
  | cons field fields ih =>
    have hstep : rules.step none field.1 = none := by
      show (if rules.opens field.1 = true then some field.1 else none) = none
      rw [h]
      exact if_neg Bool.false_ne_true
    constructor
    · rw [grouped, hstep]
      exact ih.1
    · rw [single, hstep]
      exact congrArg (field :: ·) ih.2

/-- Every field is taken for one or the other. -/
theorem mem_scan {field : α × β} {fields : List (α × β)} (h : field ∈ fields) :
    field ∈ rules.grouped group fields ∨ field ∈ rules.single group fields := by
  induction fields generalizing group with
  | nil => cases h
  | cons first fields ih =>
    rw [grouped, single]
    rcases List.mem_cons.mp h with rfl | h
    · split
      · exact Or.inl (List.mem_append_left _ (List.mem_singleton_self _))
      · exact Or.inr (List.mem_append_left _ (List.mem_singleton_self _))
    · exact (ih h).imp (List.mem_append_right _) (List.mem_append_right _)

/-- What is taken for what depends on the keys only. -/
theorem keys_scan {fields fields' : List (α × β)} (h : fields.map Prod.fst = fields'.map Prod.fst) :
    (rules.grouped group fields).map Prod.fst = (rules.grouped group fields').map Prod.fst ∧
      (rules.single group fields).map Prod.fst = (rules.single group fields').map Prod.fst := by
  induction fields generalizing group fields' with
  | nil =>
    obtain rfl := List.map_eq_nil_iff.mp h.symm
    exact ⟨rfl, rfl⟩
  | cons field fields ih =>
    cases fields' with
    | nil => cases h
    | cons field' fields' =>
      obtain ⟨hkey, hrest⟩ := List.cons.inj h
      obtain ⟨hgrouped, hsingle⟩ := @ih (rules.step group field.1) fields' hrest
      rw [grouped, grouped, single, single, ← hkey]
      simp only [List.map_append, hgrouped, hsingle]
      split
      · exact ⟨congrArg (· :: _) hkey, rfl⟩
      · exact ⟨rfl, congrArg (· :: _) hkey⟩

/-- A list is what the scan finds in it. -/
theorem scan_injective {fields fields' : List (α × β)}
    (h : fields.map Prod.fst = fields'.map Prod.fst)
    (hgrouped : rules.grouped group fields = rules.grouped group fields')
    (hsingle : rules.single group fields = rules.single group fields') : fields = fields' := by
  induction fields generalizing group fields' with
  | nil => exact (List.map_eq_nil_iff.mp h.symm).symm
  | cons field fields ih =>
    cases fields' with
    | nil => cases h
    | cons field' fields' =>
      obtain ⟨hkey, hrest⟩ := List.cons.inj h
      rw [grouped, grouped, ← hkey] at hgrouped
      rw [single, single, ← hkey] at hsingle
      split at hgrouped
      next hopen =>
        rw [if_pos hopen, if_pos hopen] at hsingle
        obtain ⟨hfield, hgrouped⟩ := List.cons.inj hgrouped
        rw [hfield, ih hrest hgrouped hsingle]
      next hclosed =>
        rw [if_neg hclosed, if_neg hclosed] at hsingle
        obtain ⟨hfield, hsingle⟩ := List.cons.inj hsingle
        rw [hfield, ih hrest hgrouped hsingle]

/-- A key that neither opens a group nor belongs to one leaves every group. -/
theorem step_ordinary {key : α}
    (h : rules.opens key = false ∧ ∀ opener, rules.belongs opener key = false) :
    rules.step group key = none := by
  cases group with
  | none => exact if_neg (by rw [h.1]; exact Bool.false_ne_true)
  | some opener => exact if_neg (by rw [h.2]; exact Bool.false_ne_true)

/-- The fields of such a key are found among the single ones, wherever they stand. -/
theorem lookup_single [BEq α] [LawfulBEq α] {key : α}
    (h : rules.opens key = false ∧ ∀ opener, rules.belongs opener key = false)
    (fields : List (α × β)) : (rules.single group fields).lookup key = fields.lookup key := by
  induction fields generalizing group with
  | nil => rfl
  | cons field fields ih =>
    obtain ⟨first, value⟩ := field
    rw [single, List.lookup_append, ih, List.lookup_cons]
    cases hkey : key == first with
    | true =>
      obtain rfl := beq_iff_eq.mp hkey
      rw [step_ordinary h, if_neg (by exact Bool.false_ne_true), List.lookup_cons, hkey]
      rfl
    | false =>
      split
      · rfl
      · rw [List.lookup_cons, hkey]
        rfl

/-- Members keep their group open. -/
theorem members_scan {opener : α} {members : List (α × β)}
    (h : ∀ field ∈ members, rules.belongs opener field.1 = true) :
    rules.grouped (some opener) members = members ∧ rules.single (some opener) members = [] ∧
      rules.after (some opener) members = some opener := by
  induction members with
  | nil => exact ⟨rfl, rfl, rfl⟩
  | cons field members ih =>
    have hstep : rules.step (some opener) field.1 = some opener :=
      if_pos (h field List.mem_cons_self)
    obtain ⟨hgrouped, hsingle, hafter⟩ := ih fun f hf => h f (List.mem_cons_of_mem _ hf)
    refine ⟨?_, ?_, ?_⟩
    · rw [grouped, hstep, hgrouped]
      rfl
    · rw [single, hstep, hsingle]
      rfl
    · rw [after, List.foldl_cons, hstep]
      exact hafter

/-- A segment that may follow is found. -/
theorem segment_scan {segment : Segment α β} (h : rules.WellFormed segment)
    (hfollows : rules.MayFollow group segment) :
    rules.grouped group segment.fields = segment.groupFields ∧
      rules.single group segment.fields = segment.singleFields ∧
      rules.after group segment.fields = segment.opener := by
  cases segment with
  | single field =>
    have hstep := @step_ordinary _ rules group _ (h.single field (List.mem_singleton_self _))
    refine ⟨?_, ?_, ?_⟩
    · rw [Segment.fields, grouped, hstep]
      rfl
    · rw [Segment.fields, single, hstep]
      rfl
    · exact hstep
  | group opener members =>
    have hstep : rules.step group opener.1 = some opener.1 := by
      cases group with
      | none => exact if_pos (h.opens opener.1 rfl)
      | some before =>
        have hbelongs := hfollows before rfl opener.1 rfl
        obtain rfl := h.foreign opener.1 rfl before hbelongs
        exact if_pos hbelongs
    obtain ⟨hgrouped, hsingle, hafter⟩ := members_scan (h.members opener.1 rfl)
    refine ⟨?_, ?_, ?_⟩
    · rw [Segment.fields, grouped, hstep]
      exact congrArg (opener :: ·) hgrouped
    · rw [Segment.fields, single, hstep]
      exact hsingle
    · rw [Segment.fields, after, List.foldl_cons, hstep]
      exact hafter

theorem segments_scan {segments : List (Segment α β)} (h : ∀ s ∈ segments, rules.WellFormed s)
    (hfirst : ∀ s ∈ segments.head?, rules.MayFollow group s) (hseparated : rules.Separated segments) :
    rules.grouped group (segments.flatMap Segment.fields) =
        segments.flatMap Segment.groupFields ∧
      rules.single group (segments.flatMap Segment.fields) =
        segments.flatMap Segment.singleFields := by
  induction segments generalizing group with
  | nil => exact ⟨rfl, rfl⟩
  | cons segment segments ih =>
    obtain ⟨hgrouped, hsingle, hafter⟩ := segment_scan (h segment List.mem_cons_self)
      (hfirst segment rfl)
    obtain ⟨hnext, hrest⟩ := List.isChain_cons.mp hseparated
    obtain ⟨hgrouped', hsingle'⟩ := ih (fun s hs => h s (List.mem_cons_of_mem _ hs)) hnext hrest
    constructor
    · rw [List.flatMap_cons, grouped_append, hgrouped, hafter, hgrouped', List.flatMap_cons]
    · rw [List.flatMap_cons, single_append, hsingle, hafter, hsingle', List.flatMap_cons]

/-- A group directly behind another: its opener is taken for a single field. -/
theorem opener_single {segments : List (Segment α β)} (h : ∀ s ∈ segments, rules.WellFormed s)
    (hnot : ¬ ((∀ s ∈ segments.head?, rules.MayFollow group s) ∧ rules.Separated segments)) :
    ∃ field ∈ rules.single group (segments.flatMap Segment.fields), rules.opens field.1 = true := by
  induction segments generalizing group with
  | nil =>
    have hnone : ∀ s ∈ ([] : List (Segment α β)).head?, rules.MayFollow group s :=
      fun s hs => absurd hs (Option.not_mem_none s)
    exact absurd ⟨hnone, List.IsChain.nil⟩ hnot
  | cons segment segments ih =>
    by_cases hfollows : rules.MayFollow group segment
    · obtain ⟨-, -, hafter⟩ := segment_scan (h segment List.mem_cons_self) hfollows
      have hlater : ¬ ((∀ s ∈ segments.head?, rules.MayFollow segment.opener s) ∧
          rules.Separated segments) := by
        intro hboth
        refine hnot ⟨fun s hs => ?_, List.isChain_cons.mpr hboth⟩
        rw [← Option.some.inj hs]
        exact hfollows
      obtain ⟨field, hfield, hopens⟩ := ih (fun s hs => h s (List.mem_cons_of_mem _ hs)) hlater
      refine ⟨field, ?_, hopens⟩
      rw [List.flatMap_cons, single_append, hafter]
      exact List.mem_append_right _ hfield
    · -- the opener does not belong to the group that is open
      simp only [MayFollow, not_forall, exists_prop] at hfollows
      obtain ⟨before, hgroup, key, hkey, hforeign⟩ := hfollows
      cases segment with
      | single field => cases hkey
      | group opener members =>
        obtain rfl := Option.some.inj hkey
        have hstep : rules.step group opener.1 = none := by
          rw [Option.mem_def.mp hgroup]
          exact if_neg hforeign
        refine ⟨opener, ?_, (h _ List.mem_cons_self).opens opener.1 rfl⟩
        rw [List.flatMap_cons, Segment.fields, List.cons_append, single, hstep]
        exact List.mem_cons_self

end

end Rules

end GroupScan
