import Llfix.StampedMessage

/-!
# A stamped message is a cleared map

The tags that stay in the dictionary across `reset` are told apart by their generation. No stamp is
ever newer than its message, also when the counter wraps around, so the next generation is a fresh
one.

Results:
1. `Agrees.setTag`, `Agrees.reset`, `Agrees.copy`: each call follows a message that `reset` empties.
2. `copyFromItself_diverges`: a message with group values that is copied from itself never ends.
3. `generationStamps`: every sequence of calls on any number of messages, with the exact condition
   on it.
-/

namespace Llfix

open GuardedRun

namespace NodeDictionary

variable {K V : Type} [DecidableEq K] {hash : K → Nat} {d : NodeDictionary K V} {m : K → Option V}

omit [DecidableEq K] in
theorem forEach_getElem? (d : NodeDictionary K V) (f : V → V) (i : Nat) :
    (d.forEach f).nodeCache[i]? =
      d.nodeCache[i]?.map fun n =>
        if i < d.itemCount then { n with value := f n.value } else n := by
  rw [forEach]
  dsimp only
  rcases Nat.lt_or_ge i d.itemCount with hi | hi
  · simp only [if_pos hi]
    rcases Nat.lt_or_ge i d.nodeCache.length with hlt | hge
    · rw [List.getElem?_append_left, List.getElem?_map, List.getElem?_take_of_lt hi]
      rw [List.length_map, List.length_take]
      exact Nat.lt_min.mpr ⟨hi, hlt⟩
    · rw [List.getElem?_eq_none hge, List.getElem?_eq_none (by simp; omega)]
      rfl
  · simp only [if_neg (Nat.not_lt.mpr hi), Option.map_id']
    rcases Nat.lt_or_ge d.itemCount d.nodeCache.length with hlt | hge
    · have hlength : ((d.nodeCache.take d.itemCount).map fun n =>
          { n with value := f n.value }).length = d.itemCount := by
        rw [List.length_map, List.length_take]
        omega
      rw [List.getElem?_append_right (by rw [hlength]; exact hi), hlength, List.getElem?_drop,
        Nat.add_sub_cancel' hi]
    · rw [List.getElem?_eq_none (by simp; omega), List.getElem?_eq_none (by omega)]

omit [DecidableEq K] in
theorem forEach_itemAt (d : NodeDictionary K V) (f : V → V) {i : Nat} (hi : i < d.itemCount) :
    (d.forEach f).itemAt i = (d.itemAt i).map fun item => (item.1, f item.2) := by
  rw [itemAt, itemAt, forEach_getElem?, Option.map_map, Option.map_map]
  refine congrFun (congrArg _ (funext fun n => ?_)) _
  rw [Function.comp_apply, if_pos hi]
  rfl

omit [DecidableEq K] in
/-- A loop that changes the values changes those of the map. -/
theorem Represents.forEach (h : d.Represents hash m) (f : V → V) :
    (d.forEach f).Represents hash fun key => (m key).map f := by
  obtain ⟨chains, hchained⟩ := h.chained
  have hnext : ∀ i, (d.forEach f).nextOf i = d.nextOf i := by
    intro i
    rw [nextOf, nextOf, forEach_getElem?, Option.map_map]
    refine congrFun (congrArg _ (funext fun n => ?_)) _
    rw [Function.comp_apply]
    split <;> rfl
  have hkeys : ∀ i, ((d.forEach f).itemAt i).map Prod.fst = (d.itemAt i).map Prod.fst := by
    intro i
    rw [itemAt, itemAt, forEach_getElem?, Option.map_map, Option.map_map, Option.map_map]
    refine congrFun (congrArg _ (funext fun n => ?_)) _
    rw [Function.comp_apply, Function.comp_apply]
    split <;> rfl
  have hlength : (d.forEach f).nodeCache.length = d.nodeCache.length := by
    rw [NodeDictionary.forEach]
    simp only [List.length_append, List.length_map, List.length_take, List.length_drop]
    omega
  refine ⟨⟨chains, hchained.of_keys rfl rfl hlength hnext hkeys⟩, fun key value => ?_⟩
  rw [Option.map_eq_some_iff, mem_items]
  constructor
  · rintro ⟨old, hold, rfl⟩
    obtain ⟨i, hi, hitem⟩ := mem_items.mp ((h.items key old).mp hold)
    exact ⟨i, hi, by rw [forEach_itemAt d f hi, hitem]; rfl⟩
  · rintro ⟨i, hi, hitem⟩
    rw [forEach_itemAt d f hi] at hitem
    obtain ⟨item, hold, heq⟩ := Option.map_eq_some_iff.mp hitem
    obtain ⟨rfl, rfl⟩ := Prod.mk.inj heq
    exact ⟨item.2, (h.items item.1 item.2).mpr (mem_items.mpr ⟨i, hi, hold⟩), rfl⟩

end NodeDictionary

/-! ## The repeating groups -/

namespace RepeatingGroupStore

variable {V : Type} {placeholder : Tag × V} {store : RepeatingGroupStore V}

/-- There is always a place for the next pair. -/
def HasRoom (store : RepeatingGroupStore V) : Prop := store.pointer < store.tagValuePairs.length

theorem hasRoom_set (h : store.HasRoom) (tag : Tag) (value : V) :
    (store.set placeholder tag value).HasRoom := by
  rw [HasRoom] at h
  rw [HasRoom, set]
  dsimp only
  rw [List.length_set]
  split
  next =>
    rw [List.length_append]
    exact Nat.succ_lt_succ h
  next hne => exact Nat.lt_of_le_of_ne h hne

theorem values_set (h : store.HasRoom) (tag : Tag) (value : V) :
    (store.set placeholder tag value).values = store.values ++ [(tag, value)] := by
  have htake : ∀ pairs : List (Tag × V), store.pointer < pairs.length →
      (pairs.set store.pointer (tag, value)).take (store.pointer + 1) =
        pairs.take store.pointer ++ [(tag, value)] := by
    intro pairs hlt
    rw [List.take_add_one, List.take_set_of_le (Nat.le_refl _), List.getElem?_set_self hlt]
    rfl
  rw [values, values, set]
  dsimp only
  split
  next =>
    rw [htake _ (by rw [List.length_append]; exact Nat.lt_succ_of_lt h),
      List.take_append_of_le_length (Nat.le_of_lt h)]
  next => exact htake _ h

theorem values_copy (placeholder : Tag × V) (other : RepeatingGroupStore V) (h : store.HasRoom) :
    (store.copyNonDirtyValuesFrom placeholder other).HasRoom ∧
      (store.copyNonDirtyValuesFrom placeholder other).values = store.values ++ other.values := by
  rw [copyNonDirtyValuesFrom]
  generalize other.values = pairs
  induction pairs generalizing store with
  | nil => exact ⟨h, (List.append_nil _).symm⟩
  | cons pair pairs ih =>
    obtain ⟨hroom, hvalues⟩ := ih (hasRoom_set h pair.1 pair.2)
    refine ⟨hroom, ?_⟩
    rw [List.foldl_cons, hvalues, values_set h, List.append_assoc]
    rfl

/-- The bound of the loop runs ahead of its index. -/
theorem copyFromItself_diverges (placeholder : Tag × V) (rounds : Nat) {i : Nat}
    (h : i < store.pointer) : store.copyFromItself placeholder rounds i = none := by
  induction rounds generalizing i store with
  | zero => exact if_neg (Nat.not_le.mpr h)
  | succ rounds ih =>
    rw [copyFromItself, if_neg (Nat.not_le.mpr h)]
    cases store.tagValuePairs[i]? with
    | none => rfl
    | some pair => exact ih (Nat.succ_lt_succ h)

end RepeatingGroupStore

/-! ## The cleared map -/

/-- A message that `reset` empties. -/
structure ClearedMessage (V : Type) where
  tags : Tag → Option V := fun _ => none
  groups : List (Tag × V) := []

/-- What a call makes of such messages; a copy takes the tags of the other one over. -/
def clearedCall {V : Type} (messages : Nat → ClearedMessage V) :
    StampedCall V → Nat → ClearedMessage V
  | .setTag i tag value =>
    Function.update messages i
      { messages i with tags := Function.update (messages i).tags tag (some value) }
  | .setRepeatingGroupTag i tag value =>
    Function.update messages i
      { messages i with groups := (messages i).groups ++ [(tag, value)] }
  | .reset i => Function.update messages i {}
  | .copyNonDirtyTagValuesFrom i other =>
    Function.update messages i
      { tags := fun tag => ((messages other).tags tag).or ((messages i).tags tag)
        groups := (messages i).groups ++ (messages other).groups }

/-- A call ends, unless a message with group values is copied from itself. -/
def Returns {V : Type} (messages : Nat → ClearedMessage V) : StampedCall V → Prop
  | .setTag _ _ _ => True
  | .setRepeatingGroupTag _ _ _ => True
  | .reset _ => True
  | .copyNonDirtyTagValuesFrom i other => other = i → (messages i).groups = []

namespace StampedMessage

variable {V : Type} (null : V) {m other : StampedMessage V} {a b : ClearedMessage V}

/-- The tags of the current generation are those of the cleared message, and no stamp is newer. -/
structure Agrees (m : StampedMessage V) (a : ClearedMessage V) : Prop where
  dict : ∃ nodes, m.dict.Represents tagHash nodes ∧
    (∀ tag node, nodes tag = some node → node.generationId ≤ m.generationId) ∧
    ∀ tag value, a.tags tag = some value ↔
      nodes tag = some { value := value, generationId := m.generationId }
  groups : m.repeatingGroups.values = a.groups
  room : m.repeatingGroups.HasRoom

namespace Agrees

theorem hasTag (h : m.Agrees a) (tag : Tag) : m.hasTag tag = some (a.tags tag).isSome := by
  obtain ⟨nodes, hnodes, -, htags⟩ := h.dict
  have htag := htags tag
  rw [StampedMessage.hasTag, hnodes.hasKey, StampedMessage.node, hnodes.item]
  cases hnode : nodes tag with
  | none =>
    have hnone : a.tags tag = none := by
      refine Option.eq_none_iff_forall_ne_some.mpr fun value hvalue => ?_
      rw [htag, hnode] at hvalue
      exact Option.some_ne_none _ hvalue.symm
    rw [hnone]
    rfl
  | some node =>
    have hsome : (a.tags tag).isSome = decide (node.generationId = m.generationId) := by
      rw [Bool.eq_iff_iff, Option.isSome_iff_exists, decide_eq_true_eq]
      constructor
      · rintro ⟨value, hvalue⟩
        rw [htag, hnode] at hvalue
        rw [Option.some.inj hvalue]
      · intro hgeneration
        refine ⟨node.value, (htag node.value).mpr ?_⟩
        rw [hnode, ← hgeneration]
    rw [hsome]
    rfl

theorem getTagValue (h : m.Agrees a) {tag : Tag} {value : V} (hvalue : a.tags tag = some value) :
    m.getTagValue tag = some value := by
  obtain ⟨nodes, hnodes, -, htags⟩ := h.dict
  rw [StampedMessage.getTagValue, StampedMessage.node, hnodes.item, (htags tag value).mp hvalue]
  rfl

theorem setTag (h : m.Agrees a) (tag : Tag) (value : V) :
    ∃ m', m.setTag null tag value = some m' ∧
      m'.Agrees { a with tags := Function.update a.tags tag (some value) } := by
  obtain ⟨nodes, hnodes, hstamps, htags⟩ := h.dict
  -- the dictionary holds the new node, with the stamp of the message
  have hagrees : ∀ dict : NodeDictionary Tag (StampedValue V),
      dict.Represents tagHash (Function.update nodes tag
        (some { value := value, generationId := m.generationId })) →
      ({ m with dict := dict } : StampedMessage V).Agrees
        { a with tags := Function.update a.tags tag (some value) } := by
    intro dict hdict
    refine ⟨⟨_, hdict, fun t node hnode => ?_, fun t v => ?_⟩, h.groups, h.room⟩
    · by_cases ht : t = tag
      · subst ht
        rw [Function.update_self] at hnode
        rw [← Option.some.inj hnode]
        exact UInt64.le_refl _
      · rw [Function.update_of_ne ht] at hnode
        exact hstamps t node hnode
    · by_cases ht : t = tag
      · subst ht
        dsimp only
        rw [Function.update_self, Function.update_self, Option.some.injEq, Option.some.injEq,
          StampedValue.mk.injEq]
        exact (and_iff_left rfl).symm
      · dsimp only
        rw [Function.update_of_ne ht, Function.update_of_ne ht]
        exact htags t v
  rw [StampedMessage.setTag, hnodes.hasKey, Option.bind_some]
  cases hnode : nodes tag with
  | some node =>
    obtain ⟨dict, hset, hdict⟩ := hnodes.setExistingItem tag
      { value := value, generationId := m.generationId }
    rw [hnode] at hset hdict
    rw [Option.isSome_some, if_pos rfl, hset]
    exact ⟨_, rfl, hagrees dict hdict⟩
  | none =>
    obtain ⟨dict, ok, hinsert, hok, hdict⟩ := hnodes.insert (unused null) hnode
      { value := value, generationId := m.generationId } true
    rw [Option.isSome_none, if_neg Bool.false_ne_true, hinsert]
    cases ok with
    | false => exact absurd (hok rfl).1.symm Bool.false_ne_true
    | true => exact ⟨_, rfl, hagrees dict hdict⟩

theorem setRepeatingGroupTag (h : m.Agrees a) (tag : Tag) (value : V) :
    (m.setRepeatingGroupTag null tag value).Agrees
      { a with groups := a.groups ++ [(tag, value)] } where
  dict := h.dict
  groups := by
    rw [StampedMessage.setRepeatingGroupTag]
    dsimp only
    rw [RepeatingGroupStore.values_set h.room, h.groups]
  room := RepeatingGroupStore.hasRoom_set h.room tag value

/-- No stamp in the dictionary is that of the next generation. -/
theorem reset (h : m.Agrees a) : m.reset.Agrees {} := by
  obtain ⟨nodes, hnodes, hstamps, -⟩ := h.dict
  have hlt : (0 : Nat) < m.repeatingGroups.tagValuePairs.length :=
    Nat.lt_of_le_of_lt (Nat.zero_le _) h.room
  refine ⟨?_, ?_, ?_⟩
  · rw [StampedMessage.reset]
    dsimp only
    split
    next hwrap =>
      have hone : m.generationId + 1 + 1 = 1 := by rw [hwrap]; rfl
      refine ⟨_, hnodes.forEach fun node => { node with generationId := 0 },
        fun tag node hnode => ?_, fun tag value => ?_⟩
      · obtain ⟨old, -, rfl⟩ := Option.map_eq_some_iff.mp hnode
        exact UInt64.le_iff_toNat_le.mpr (Nat.zero_le _)
      · refine iff_of_false (Option.some_ne_none value).symm fun hnode => ?_
        obtain ⟨old, -, hold⟩ := Option.map_eq_some_iff.mp hnode
        have hzero := congrArg StampedValue.generationId hold
        dsimp only at hzero
        rw [hone] at hzero
        exact absurd hzero (by decide)
    next hnowrap =>
      have hnext : m.generationId < m.generationId + 1 := by
        have hmax := m.generationId.toNat_lt
        have hne : m.generationId.toNat + 1 ≠ 18446744073709551616 := by
          intro hmod
          refine hnowrap (UInt64.toNat_inj.mp ?_)
          rw [UInt64.toNat_add]
          exact (congrArg (· % 18446744073709551616) hmod).trans (Nat.mod_self _)
        rw [UInt64.lt_iff_toNat_lt, UInt64.toNat_add]
        have hsum : (m.generationId.toNat + (1 : UInt64).toNat) % 2 ^ 64 =
            m.generationId.toNat + 1 := Nat.mod_eq_of_lt (by
          have hone : (1 : UInt64).toNat = 1 := rfl
          omega)
        rw [hsum]
        exact Nat.lt_succ_self _
      refine ⟨nodes, hnodes, fun tag node hnode => ?_, fun tag value => ?_⟩
      · exact UInt64.le_of_lt (UInt64.lt_of_le_of_lt (hstamps tag node hnode) hnext)
      · refine iff_of_false (Option.some_ne_none value).symm fun hnode => ?_
        exact absurd (hstamps tag _ hnode) (UInt64.not_le.mpr hnext)
  · rw [StampedMessage.reset]
    dsimp only
    split <;> exact List.take_zero
  · rw [StampedMessage.reset]
    dsimp only
    split <;> exact hlt

/-- The loop of a copy takes over the tags of the items that are not stale. -/
theorem copyItems (hother : other.Agrees b) {items : List (Tag × StampedValue V)}
    (hitems : ∀ item ∈ items, ∀ value, b.tags item.1 = some value → item.2.value = value)
    (h : m.Agrees a) :
    ∃ m' tags, items.foldlM
        (fun m item => (other.hasTag item.1).bind fun has =>
          if has then m.setTag null item.1 item.2.value else some m) m = some m' ∧
      m'.Agrees { a with tags := tags } ∧
      ∀ tag, tags tag =
        if tag ∈ items.map Prod.fst then (b.tags tag).or (a.tags tag) else a.tags tag := by
  induction items generalizing m a with
  | nil => exact ⟨m, a.tags, rfl, h, fun tag => (if_neg List.not_mem_nil).symm⟩
  | cons item items ih =>
    rw [List.forall_mem_cons] at hitems
    obtain ⟨hitem, hitems⟩ := hitems
    have hmem : ∀ tag, tag ∈ (item :: items).map Prod.fst ↔
        tag = item.1 ∨ tag ∈ items.map Prod.fst := fun tag => List.mem_cons
    rw [List.foldlM_cons, hother.hasTag, Option.bind_some]
    cases hb : b.tags item.1 with
    | none =>
      obtain ⟨m', tags, hfold, hagrees, htags⟩ := ih hitems h
      refine ⟨m', tags, hfold, hagrees, fun tag => ?_⟩
      rw [htags]
      by_cases htag : tag = item.1
      · rw [htag, hb, Option.none_or, ite_self, ite_self]
      · simp only [hmem, htag, false_or]
    | some value =>
      obtain rfl := hitem value hb
      obtain ⟨m₁, hset, h₁⟩ := h.setTag null item.1 item.2.value
      obtain ⟨m', tags, hfold, hagrees, htags⟩ := ih hitems h₁
      rw [Option.isSome_some, if_pos rfl, hset]
      refine ⟨m', tags, hfold, hagrees, fun tag => ?_⟩
      rw [htags]
      dsimp only
      by_cases htag : tag = item.1
      · rw [htag, hb, Function.update_self, if_pos ((hmem _).mpr (Or.inl rfl)), Option.some_or,
          Option.some_or, ite_self]
      · rw [Function.update_of_ne htag]
        simp only [hmem, htag, false_or]

theorem copyTags (h : m.Agrees a) (hother : other.Agrees b) :
    ∃ m', m.copyTags null other = some m' ∧
      m'.Agrees { a with tags := fun tag => (b.tags tag).or (a.tags tag) } := by
  obtain ⟨nodes, hnodes, -, hb⟩ := hother.dict
  have hvalue : ∀ item ∈ other.dict.items, ∀ value, b.tags item.1 = some value →
      item.2.value = value := by
    intro item hitem value hvalue
    have hnode := (hnodes.items item.1 item.2).mpr hitem
    rw [hb, hnode] at hvalue
    rw [Option.some.inj hvalue]
  obtain ⟨m', tags, hfold, hagrees, htags⟩ := copyItems null hother hvalue h
  have heq : tags = fun tag => (b.tags tag).or (a.tags tag) := by
    funext tag
    rw [htags]
    split
    next => rfl
    next habsent =>
      cases hbtag : b.tags tag with
      | none => exact (Option.none_or).symm
      | some value =>
        refine absurd ((hnodes.isSome_iff tag).mp ?_) habsent
        rw [(hb tag value).mp hbtag]
        rfl
  rw [heq] at hagrees
  exact ⟨m', hfold, hagrees⟩

theorem copy (h : m.Agrees a) (hother : other.Agrees b) :
    ∃ m', m.copyNonDirtyTagValuesFrom null other = some m' ∧
      m'.Agrees { tags := fun tag => (b.tags tag).or (a.tags tag)
                  groups := a.groups ++ b.groups } := by
  obtain ⟨m₁, hcopy, h₁⟩ := h.copyTags null hother
  obtain ⟨hroom, hvalues⟩ := RepeatingGroupStore.values_copy (0, null) other.repeatingGroups h₁.room
  rw [StampedMessage.copyNonDirtyTagValuesFrom, hcopy]
  refine ⟨_, rfl, h₁.dict, ?_, hroom⟩
  rw [hvalues, h₁.groups, hother.groups]

theorem pointer_eq (h : m.Agrees a) : m.repeatingGroups.pointer = a.groups.length := by
  rw [← h.groups, RepeatingGroupStore.values, List.length_take]
  exact (Nat.min_eq_left (Nat.le_of_lt h.room)).symm

theorem copyItself (h : m.Agrees a) (rounds : Nat) (hgroups : a.groups = []) :
    ∃ m', m.copyItself null rounds = some m' ∧
      m'.Agrees { tags := fun tag => (a.tags tag).or (a.tags tag)
                  groups := a.groups ++ a.groups } := by
  obtain ⟨m₁, hcopy, h₁⟩ := h.copyTags null h
  have hpointer : m₁.repeatingGroups.pointer ≤ 0 := by
    rw [h₁.pointer_eq, hgroups]
    exact Nat.le_refl _
  have hend : m₁.repeatingGroups.copyFromItself (0, null) rounds 0 = some m₁.repeatingGroups := by
    cases rounds with
    | zero => exact if_pos hpointer
    | succ rounds => exact if_pos hpointer
  rw [StampedMessage.copyItself, hcopy, Option.bind_some, hend]
  refine ⟨m₁, rfl, h₁.dict, ?_, h₁.room⟩
  rw [h₁.groups, hgroups]
  rfl

theorem copyItself_diverges (h : m.Agrees a) (rounds : Nat) (hgroups : a.groups ≠ []) :
    m.copyItself null rounds = none := by
  obtain ⟨m₁, hcopy, h₁⟩ := h.copyTags null h
  have hpointer : 0 < m₁.repeatingGroups.pointer := by
    rw [h₁.pointer_eq]
    exact List.length_pos_of_ne_nil hgroups
  rw [StampedMessage.copyItself, hcopy, Option.bind_some,
    RepeatingGroupStore.copyFromItself_diverges _ _ hpointer]
  rfl

end Agrees

theorem agrees_initialise (null : V) :
    ∃ m, initialise null = some m ∧ m.Agrees {} := by
  obtain ⟨d, hinitialise, hrepresents⟩ :=
    NodeDictionary.represents_initialise tagHash (unused null) (show 0 < 64 by decide)
  rw [initialise, hinitialise]
  refine ⟨_, rfl, ⟨_, hrepresents, fun tag node hnode => ?_, fun tag value => ?_⟩, rfl, ?_⟩
  · exact absurd hnode.symm (Option.some_ne_none node)
  · exact iff_of_false (Option.some_ne_none value).symm (Option.some_ne_none _).symm
  · rw [RepeatingGroupStore.HasRoom]
    dsimp only
    rw [RepeatingGroupStore.create, List.length_replicate]
    exact Nat.zero_lt_succ _

/-! ## Iteration -/

theorem visitFrom_eq (m : StampedMessage V) {rounds : Nat} {nodes : List (Tag × StampedValue V)}
    (h : nodes.length ≤ rounds) :
    m.visitFrom rounds (m.skipStaleEntries nodes) =
      nodes.filter fun node => node.2.generationId = m.generationId := by
  induction nodes generalizing rounds with
  | nil => cases rounds <;> rfl
  | cons node nodes ih =>
    rw [List.length_cons] at h
    by_cases hfresh : node.2.generationId = m.generationId
    · have hskip : m.skipStaleEntries (node :: nodes) = node :: nodes :=
        List.dropWhile_cons_of_neg (by simpa using hfresh)
      rw [hskip, List.filter_cons_of_pos (by simpa using hfresh)]
      cases rounds with
      | zero => exact absurd h (Nat.not_succ_le_zero _)
      | succ rounds =>
        rw [visitFrom, ih (Nat.le_of_succ_le_succ h)]
    · have hskip : m.skipStaleEntries (node :: nodes) = m.skipStaleEntries nodes :=
        List.dropWhile_cons_of_pos (by simpa using hfresh)
      rw [hskip, List.filter_cons_of_neg (by simpa using hfresh)]
      exact ih (Nat.le_of_succ_le h)

theorem visited_eq (m : StampedMessage V) :
    m.visited = (m.dict.items.filter fun node => node.2.generationId = m.generationId).map
      fun node => (node.1, node.2.value) := by
  rw [visited, visitFrom_eq m (Nat.le_refl _)]

/-- What a message answers when it is the cleared one. -/
structure Answers (m : StampedMessage V) (a : ClearedMessage V) : Prop where
  hasTag : ∀ tag, m.hasTag tag = some (a.tags tag).isSome
  getTagValue : ∀ tag value, a.tags tag = some value → m.getTagValue tag = some value
  once : (m.visited.map Prod.fst).Nodup
  visited : ∀ tag value, (tag, value) ∈ m.visited ↔ a.tags tag = some value
  groups : m.repeatingGroups.values = a.groups

theorem Agrees.answers (h : m.Agrees a) : m.Answers a := by
  obtain ⟨nodes, hnodes, -, htags⟩ := h.dict
  obtain ⟨chains, hchained⟩ := hnodes.chained
  refine ⟨h.hasTag, fun tag value => h.getTagValue, ?_, fun tag value => ?_, h.groups⟩
  · rw [visited_eq, List.map_map]
    exact hchained.keys_nodup.sublist (List.filter_sublist.map Prod.fst)
  · rw [visited_eq, htags, hnodes.items, List.mem_map]
    constructor
    · rintro ⟨node, hnode, heq⟩
      obtain ⟨rfl, rfl⟩ := Prod.mk.inj heq
      obtain ⟨hmem, hfresh⟩ := List.mem_filter.mp hnode
      rw [← of_decide_eq_true hfresh]
      exact hmem
    · intro hmem
      exact ⟨_, List.mem_filter.mpr ⟨hmem, decide_eq_true rfl⟩, rfl⟩

end StampedMessage

/-! ## Every sequence of calls -/

open StampedMessage

section Calls

variable {V : Type} (null : V) {messages : Nat → StampedMessage V}
  {cleared : Nat → ClearedMessage V}

theorem agrees_update (h : ∀ i, (messages i).Agrees (cleared i)) {i : Nat} {m : StampedMessage V}
    {a : ClearedMessage V} (hm : m.Agrees a) (j : Nat) :
    (Function.update messages i m j).Agrees (Function.update cleared i a j) := by
  by_cases hj : j = i
  · rw [hj, Function.update_self, Function.update_self]
    exact hm
  · rw [Function.update_of_ne hj, Function.update_of_ne hj]
    exact h j

theorem callMessage_agrees (h : ∀ i, (messages i).Agrees (cleared i)) (rounds : Nat)
    {call : StampedCall V} (hreturns : Returns cleared call) :
    ∃ messages', callMessage null rounds messages call = some messages' ∧
      ∀ i, (messages' i).Agrees (clearedCall cleared call i) := by
  cases call with
  | setTag i tag value =>
    obtain ⟨m, hset, hm⟩ := (h i).setTag null tag value
    exact ⟨_, congrArg (Option.map _) hset, agrees_update h hm⟩
  | setRepeatingGroupTag i tag value =>
    exact ⟨_, rfl, agrees_update h ((h i).setRepeatingGroupTag null tag value)⟩
  | reset i => exact ⟨_, rfl, agrees_update h (h i).reset⟩
  | copyNonDirtyTagValuesFrom i other =>
    rw [callMessage]
    split
    next heq =>
      subst heq
      obtain ⟨m, hcopy, hm⟩ := (h other).copyItself null rounds (hreturns rfl)
      exact ⟨_, congrArg (Option.map _) hcopy, agrees_update h hm⟩
    next =>
      obtain ⟨m, hcopy, hm⟩ := (h i).copy null (h other)
      exact ⟨_, congrArg (Option.map _) hcopy, agrees_update h hm⟩

theorem callMessage_diverges (h : ∀ i, (messages i).Agrees (cleared i)) (rounds : Nat)
    {call : StampedCall V} (hreturns : ¬ Returns cleared call) :
    callMessage null rounds messages call = none := by
  cases call with
  | setTag i tag value => exact absurd trivial hreturns
  | setRepeatingGroupTag i tag value => exact absurd trivial hreturns
  | reset i => exact absurd trivial hreturns
  | copyNonDirtyTagValuesFrom i other =>
    obtain ⟨rfl, hgroups⟩ := Classical.not_imp.mp hreturns
    rw [callMessage, if_pos rfl, (h other).copyItself_diverges null rounds hgroups]
    rfl

/-- A run of calls ends exactly when each of them does, and then agrees with the cleared
messages. -/
theorem callMessages_from (h : ∀ i, (messages i).Agrees (cleared i)) (rounds : Nat)
    (calls : List (StampedCall V)) :
    (Guarded clearedCall Returns cleared calls →
      ∃ messages', calls.foldlM (callMessage null rounds) messages = some messages' ∧
        ∀ i, (messages' i).Agrees (run clearedCall cleared calls i)) ∧
    (¬ Guarded clearedCall Returns cleared calls →
      calls.foldlM (callMessage null rounds) messages = none) := by
  induction calls generalizing messages cleared with
  | nil => exact ⟨fun _ => ⟨messages, rfl, h⟩, fun hends => absurd trivial hends⟩
  | cons call calls ih =>
    rw [List.foldlM_cons, guarded_cons]
    by_cases hreturns : Returns cleared call
    · obtain ⟨messages', hcall, h'⟩ := callMessage_agrees null h rounds hreturns
      rw [hcall]
      exact ⟨fun hends => (ih h').1 hends.2, fun hends => (ih h').2 fun hrest =>
        hends ⟨hreturns, hrest⟩⟩
    · refine ⟨fun hends => absurd hends.1 hreturns, fun _ => ?_⟩
      rw [callMessage_diverges null h rounds hreturns]
      rfl

end Calls

/-- The calls on messages that were initialised all return, and the messages then answer as the
cleared ones do. -/
def CallsAnswer {V : Type} (null : V) (rounds : Nat) (calls : List (StampedCall V)) : Prop :=
  ∃ messages, callMessages null rounds calls = some messages ∧
    ∀ i, (messages i).Answers (run clearedCall (fun _ => {}) calls i)

theorem callMessages_answers {V : Type} (null : V) (rounds : Nat) {calls : List (StampedCall V)}
    (h : Guarded clearedCall Returns (fun _ => {}) calls) : CallsAnswer null rounds calls := by
  obtain ⟨m, hinitialise, hm⟩ := agrees_initialise null
  obtain ⟨messages, hfold, hagrees⟩ := (callMessages_from null (fun _ => hm) rounds calls).1 h
  refine ⟨messages, ?_, fun i => (hagrees i).answers⟩
  rw [callMessages, hinitialise]
  exact hfold

theorem callMessages_diverges {V : Type} (null : V) (rounds : Nat) {calls : List (StampedCall V)}
    (h : ¬ Guarded clearedCall Returns (fun _ => {}) calls) :
    callMessages null rounds calls = none := by
  obtain ⟨m, hinitialise, hm⟩ := agrees_initialise null
  rw [callMessages, hinitialise]
  exact (callMessages_from null (fun _ => hm) rounds calls).2 h

/-- After a sequence of calls the messages answer as the cleared ones do exactly when no message
with group values is copied from itself. Where one is, the sequence does not end in any number of
rounds. -/
theorem generationStamps {V : Type} (null : V) (rounds : Nat) (calls : List (StampedCall V)) :
    (CallsAnswer null rounds calls ↔ Guarded clearedCall Returns (fun _ => {}) calls) ∧
      (callMessages null rounds calls = none ↔
        ¬ Guarded clearedCall Returns (fun _ => {}) calls) := by
  by_cases h : Guarded clearedCall Returns (fun _ => ({} : ClearedMessage V)) calls
  · have hanswer := callMessages_answers null rounds h
    refine ⟨iff_of_true hanswer h, iff_of_false ?_ (not_not.mpr h)⟩
    obtain ⟨messages, hmessages, -⟩ := hanswer
    rw [hmessages]
    exact Option.some_ne_none messages
  · have hnone := callMessages_diverges null rounds h
    refine ⟨iff_of_false ?_ h, iff_of_true hnone h⟩
    rintro ⟨messages, hmessages, -⟩
    rw [hnone] at hmessages
    exact Option.some_ne_none messages hmessages.symm

/-- Two messages: the first is set, reset and set again, and copied into the second one; the first
one, without group values then, is copied from itself. -/
def exampleStampedCalls : List (StampedCall String) :=
  [.setTag 0 55 "A", .setRepeatingGroupTag 0 269 "0", .reset 0, .setTag 0 38 "5",
    .setRepeatingGroupTag 1 269 "1", .copyNonDirtyTagValuesFrom 1 0,
    .copyNonDirtyTagValuesFrom 0 0]

theorem generationStamps_example : CallsAnswer "" 0 exampleStampedCalls := by
  refine (generationStamps "" 0 exampleStampedCalls).1.mpr
    ⟨trivial, trivial, trivial, trivial, trivial, ?_, ?_, trivial⟩
  · exact fun h => absurd h (by decide)
  · exact fun _ => rfl

/-- A message with a group value that is copied from itself. -/
theorem generationStamps_fails :
    ¬ ∃ rounds, CallsAnswer "" rounds
      [.setRepeatingGroupTag 0 269 "0", .copyNonDirtyTagValuesFrom 0 0] := by
  rintro ⟨rounds, messages, hmessages, -⟩
  have hcopy : ¬ Guarded clearedCall Returns (fun _ => {})
      [.setRepeatingGroupTag 0 269 "0", .copyNonDirtyTagValuesFrom 0 0] := by
    rintro ⟨-, hreturns, -⟩
    exact List.cons_ne_nil _ _ (hreturns rfl)
  rw [callMessages_diverges "" rounds hcopy] at hmessages
  exact Option.some_ne_none messages hmessages.symm

end Llfix
