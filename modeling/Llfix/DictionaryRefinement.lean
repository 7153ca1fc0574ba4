import Llfix.DictionaryChains
import Mathlib.Logic.Function.Basic

/-!
# The dictionary as a finite map

Whatever the hash function, a dictionary that is used as it is meant to be, with `insert` for keys
that are not there, answers as a finite map.

Results:
1. `Represents.insert`, `Represents.remove`, `Represents.setExistingItem`, `Represents.get`: each
   call follows the map.
2. `Reached.represents`: so does every sequence of calls.
3. `dictionary_refines`: with what holds of the nodes, the chains and the iteration.
-/

namespace Llfix

open LinkedNodes

namespace NodeDictionary

variable {K V : Type} [DecidableEq K] {hash : K → Nat} {d : NodeDictionary K V}

/-! ## The abstract map -/

/-- The dictionary holds the finite map `m`. -/
structure Represents (hash : K → Nat) (d : NodeDictionary K V) (m : K → Option V) : Prop where
  chained : ∃ chains, Chained hash d chains
  items : ∀ key value, m key = some value ↔ (key, value) ∈ d.items

namespace Represents

variable {m : K → Option V} (h : d.Represents hash m)

include h

/-- Where a key of the map stands, and where no key stands. -/
theorem find (key : K) :
    (d.find hash key = some none ∧ m key = none) ∨
    ∃ i value, i < d.itemCount ∧ d.itemAt i = some (key, value) ∧
      d.find hash key = some (some i) ∧ m key = some value := by
  obtain ⟨chains, hchained⟩ := h.chained
  rcases hchained.find key with ⟨hfind, hnone⟩ | ⟨i, value, hi, hitem, hfind⟩
  · refine Or.inl ⟨hfind, Option.eq_none_iff_forall_ne_some.mpr fun value hvalue => ?_⟩
    obtain ⟨i, hi, hitem⟩ := mem_items.mp ((h.items key value).mp hvalue)
    exact hnone i _ hi hitem rfl
  · exact Or.inr ⟨i, value, hi, hitem, hfind,
      (h.items key value).mpr (mem_items.mpr ⟨i, hi, hitem⟩)⟩

omit [DecidableEq K] in
theorem isSome_iff (key : K) : (m key).isSome = true ↔ key ∈ d.items.map Prod.fst := by
  rw [Option.isSome_iff_exists, List.mem_map]
  constructor
  · rintro ⟨value, hvalue⟩
    exact ⟨(key, value), (h.items key value).mp hvalue, rfl⟩
  · rintro ⟨item, hitem, rfl⟩
    exact ⟨item.2, (h.items item.1 item.2).mpr hitem⟩

theorem get (key : K) : d.get hash key = some (m key) := by
  rw [NodeDictionary.get]
  rcases h.find key with ⟨hfind, hm⟩ | ⟨i, value, -, hitem, hfind, hm⟩
  · rw [hfind, hm]
    rfl
  · obtain ⟨n, hn, heq⟩ := Option.map_eq_some_iff.mp hitem
    have hvalue : n.value = value := congrArg Prod.snd heq
    rw [hfind, hm, Option.map_some, Option.bind_some, hn, Option.map_some, hvalue]

theorem item (key : K) :
    d.item hash key = some ((m key).elim (.error "Dictionary non-existent item") .ok) := by
  rw [NodeDictionary.item, h.get key]
  rfl

theorem hasKey (key : K) : d.hasKey hash key = some (m key).isSome := by
  rw [NodeDictionary.hasKey]
  rcases h.find key with ⟨hfind, hm⟩ | ⟨i, value, -, -, hfind, hm⟩
  · rw [hfind, hm]
    rfl
  · rw [hfind, hm]
    rfl

theorem setExistingItem (key : K) (value : V) :
    ∃ d', d.setExistingItem hash key value = some (d', (m key).isSome) ∧
      d'.Represents hash (if (m key).isSome then Function.update m key (some value) else m) := by
  rw [NodeDictionary.setExistingItem]
  rcases h.find key with ⟨hfind, hm⟩ | ⟨i, old, hi, hitem, hfind, hm⟩
  · rw [hfind, hm]
    exact ⟨d, rfl, h⟩
  · rw [hfind, hm]
    refine ⟨_, rfl, ?_⟩
    rw [Option.isSome_some, if_pos rfl]
    have hnode : ∀ j, ({ d with nodeCache := d.nodeCache.modify i fun n =>
        { n with value := value } } : NodeDictionary K V).nodeCache[j]? =
          d.nodeCache[j]?.map fun n => if i = j then { n with value := value } else n :=
      fun j => List.getElem?_modify _ i d.nodeCache j
    generalize hd' : ({ d with nodeCache := d.nodeCache.modify i fun n =>
        { n with value := value } } : NodeDictionary K V) = d' at hnode ⊢
    -- Only the value in place `i` changes: keys, links and chains stay as they are.
    have hitems : ∀ j, d'.itemAt j = if j = i then some (key, value) else d.itemAt j := by
      intro j
      rw [itemAt, hnode]
      rcases eq_or_ne j i with rfl | hj
      · obtain ⟨n, hn, heq⟩ := Option.map_eq_some_iff.mp hitem
        have hkey : n.key = key := congrArg Prod.fst heq
        rw [hn, Option.map_some, Option.map_some, if_pos rfl, if_pos rfl]
        exact congrArg some (Prod.ext hkey rfl)
      · simp only [if_neg hj.symm, if_neg hj, Option.map_id', itemAt]
    have hcount : d'.itemCount = d.itemCount := by rw [← hd']
    obtain ⟨chains, hchained⟩ := h.chained
    refine ⟨⟨chains, hchained.of_keys ?_ hcount ?_ ?_ ?_⟩, ?_⟩
    · rw [← hd']
    · rw [← hd']
      exact List.length_modify ..
    · intro j
      rw [nextOf, hnode, Option.map_map]
      refine congrFun (congrArg _ (funext fun n => ?_)) _
      rw [Function.comp_apply]
      split <;> rfl
    · intro j
      rw [hitems]
      split
      next hj => rw [hj, hitem, Option.map_some, Option.map_some]
      next => rfl
    · intro k v
      rw [mem_items, hcount]
      by_cases hk : k = key
      · subst hk
        rw [Function.update_self]
        constructor
        · intro hv
          refine ⟨i, hi, ?_⟩
          rw [hitems, if_pos rfl, Option.some.inj hv]
        · rintro ⟨j, hj, hjv⟩
          have hji : j = i := by
            by_contra hne
            rw [hitems, if_neg hne] at hjv
            exact hne (hchained.distinct j i _ _ hj hi hjv hitem rfl)
          rw [hitems, if_pos hji] at hjv
          rw [(Prod.mk.inj (Option.some.inj hjv)).2]
      · rw [Function.update_of_ne hk, h.items, mem_items]
        refine exists_congr fun j => and_congr_right fun hj => ?_
        rw [hitems]
        split
        next hji =>
          rw [hji, hitem]
          refine iff_of_false (fun he => hk ?_) (fun he => hk ?_)
          · exact (Prod.mk.inj (Option.some.inj he)).1.symm
          · exact (Prod.mk.inj (Option.some.inj he)).1.symm
        next => exact Iff.rfl

/-- `insert` of a key that is not there; it fails only when the block is full and no memory is
granted for a larger one. -/
theorem insert (unused : K × V) {key : K} (habsent : m key = none) (value : V)
    (allocated : Bool) :
    ∃ d' ok, d.insert hash unused key value allocated = some (d', ok) ∧
      (ok = false → allocated = false ∧ d' = d) ∧
      d'.Represents hash (if ok then Function.update m key (some value) else m) := by
  obtain ⟨chains, hchained⟩ := h.chained
  have hnone : ∀ value', (key, value') ∉ d.items := by
    intro value' hmem
    rw [← h.items, habsent] at hmem
    exact Option.some_ne_none value' hmem.symm
  -- the dictionary with room for one more node
  have hplaced : ∀ {d' : NodeDictionary K V} {chains'}, Chained hash d' chains' →
      d'.itemCount < d'.tableSize → d'.items.Perm d.items →
      (d'.place hash key value).Represents hash (Function.update m key (some value)) := by
    intro d' chains' hchained' hroom hperm
    have hblock : d'.itemCount < d'.nodeCache.length := hchained'.block ▸ hroom
    refine ⟨⟨_, hchained'.place hash key value hroom fun i item hi hitem hkey => ?_⟩, ?_⟩
    · have hmem := hperm.subset (mem_items.mpr ⟨i, hi, hitem⟩)
      exact hnone item.2 (hkey ▸ hmem)
    · intro k v
      rw [place_items hash key value hblock, List.mem_append, hperm.mem_iff, List.mem_singleton]
      by_cases hk : k = key
      · subst hk
        rw [Function.update_self, Option.some.injEq, Prod.mk.injEq]
        have hno := hnone v
        constructor
        · rintro rfl
          exact Or.inr ⟨rfl, rfl⟩
        · rintro (hmem | ⟨-, rfl⟩)
          · exact absurd hmem hno
          · rfl
      · rw [Function.update_of_ne hk, h.items, Prod.mk.injEq]
        exact (or_iff_left fun he => hk he.1).symm
  rw [NodeDictionary.insert]
  split
  next hfull =>
    cases allocated with
    | false => exact ⟨d, false, rfl, fun _ => ⟨rfl, rfl⟩, h⟩
    | true =>
      have hpos := hchained.size_pos
      obtain ⟨d', chains', hgrow, hchained', hsize, hcount, hperm⟩ :=
        hchained.grow unused (Nat.mul_pos hpos Nat.two_pos) (by omega)
      rw [hgrow]
      refine ⟨_, true, rfl, fun hfalse => absurd hfalse.symm Bool.false_ne_true, ?_⟩
      have hlt : d'.itemCount < d'.tableSize := by omega
      exact hplaced hchained' hlt hperm
  next hroom =>
    refine ⟨_, true, rfl, fun hfalse => absurd hfalse.symm Bool.false_ne_true, ?_⟩
    exact hplaced hchained (Nat.lt_of_le_of_ne hchained.count_le hroom) (List.Perm.refl _)

theorem remove (key : K) :
    ∃ d', d.remove hash key = some d' ∧ d'.Represents hash (Function.update m key none) := by
  obtain ⟨chains, hchained⟩ := h.chained
  obtain ⟨d', chains', hremove, hchained', hitems⟩ := hchained.remove key
  refine ⟨d', hremove, ⟨chains', hchained'⟩, fun k v => ?_⟩
  rw [hitems]
  by_cases hk : k = key
  · subst hk
    rw [Function.update_self]
    exact iff_of_false (Option.some_ne_none v).symm fun hmem => hmem.2 rfl
  · rw [Function.update_of_ne hk, h.items]
    exact (and_iff_left hk).symm

end Represents

omit [DecidableEq K] in
/-- `initialise` makes an empty dictionary. -/
theorem represents_initialise (hash : K → Nat) (unused : K × V) {size : Nat} (hsize : 0 < size) :
    ∃ d', initialise hash unused size true = some (d', true) ∧
      d'.Represents hash fun _ => none := by
  refine ⟨_, rfl, ⟨_, chained_created hash unused hsize⟩, fun key value => ?_⟩
  exact iff_of_false (Option.some_ne_none value).symm List.not_mem_nil

end NodeDictionary

/-! ## Every sequence of calls -/

namespace DictionaryCall

variable {K V : Type} [DecidableEq K]

/-- Only keys that are not there are inserted. -/
def Allowed (m : K → Option V) : DictionaryCall K V → Prop
  | .insert key _ _ => m key = none
  | .remove _ => True
  | .setExistingItem _ _ => True
  | .get _ => True
  | .item _ => True
  | .hasKey _ => True

/-- What a finite map answers. An `insert` may fail for want of memory. -/
def Answers (m : K → Option V) : DictionaryCall K V → DictionaryAnswer V → Prop
  | .insert _ _ allocated, .insert ok => ok = false → allocated = false
  | .remove _, .remove => True
  | .setExistingItem key _, .setExistingItem ok => ok = (m key).isSome
  | .get key, .get value => value = m key
  | .item key, .item value => value = (m key).elim (.error "Dictionary non-existent item") .ok
  | .hasKey key, .hasKey found => found = (m key).isSome
  | _, _ => False

/-- The finite map behind a call. -/
def after (m : K → Option V) : DictionaryCall K V → DictionaryAnswer V → K → Option V
  | .insert key value _, .insert ok => if ok then Function.update m key (some value) else m
  | .remove key, _ => Function.update m key none
  | .setExistingItem key value, _ =>
    if (m key).isSome then Function.update m key (some value) else m
  | _, _ => m

end DictionaryCall

namespace NodeDictionary

variable {K V : Type} [DecidableEq K] {hash : K → Nat} {unused : K × V} {size : Nat}
  {d : NodeDictionary K V} {m : K → Option V}

/-- A dictionary that was initialised once, and the finite map that the calls since have made. -/
inductive Reached (hash : K → Nat) (unused : K × V) (size : Nat) :
    NodeDictionary K V → (K → Option V) → Prop
  | initialise {d : NodeDictionary K V} :
      initialise hash unused size true = some (d, true) → Reached hash unused size d fun _ => none
  | call {d d' : NodeDictionary K V} {m : K → Option V} {c : DictionaryCall K V}
      {answer : DictionaryAnswer V} :
      Reached hash unused size d m → c.Allowed m → d.call hash unused c = some (d', answer) →
        Reached hash unused size d' (c.after m answer)

/-- A call answers as the finite map does and keeps to it. -/
theorem Represents.call (h : d.Represents hash m) (unused : K × V) {c : DictionaryCall K V}
    (hallowed : c.Allowed m) :
    ∃ d' answer, d.call hash unused c = some (d', answer) ∧ c.Answers m answer ∧
      d'.Represents hash (c.after m answer) := by
  cases c with
  | insert key value allocated =>
    obtain ⟨d', ok, hinsert, hok, hd'⟩ := h.insert unused hallowed value allocated
    exact ⟨d', .insert ok, by rw [NodeDictionary.call, hinsert]; rfl, fun hfalse => (hok hfalse).1,
      hd'⟩
  | remove key =>
    obtain ⟨d', hremove, hd'⟩ := h.remove key
    exact ⟨d', .remove, by rw [NodeDictionary.call, hremove]; rfl, trivial, hd'⟩
  | setExistingItem key value =>
    obtain ⟨d', hset, hd'⟩ := h.setExistingItem key value
    exact ⟨d', .setExistingItem _, by rw [NodeDictionary.call, hset]; rfl, rfl, hd'⟩
  | get key => exact ⟨d, .get _, by rw [NodeDictionary.call, h.get]; rfl, rfl, h⟩
  | item key => exact ⟨d, .item _, by rw [NodeDictionary.call, h.item]; rfl, rfl, h⟩
  | hasKey key => exact ⟨d, .hasKey _, by rw [NodeDictionary.call, h.hasKey]; rfl, rfl, h⟩

theorem Reached.represents (hsize : 0 < size) (h : Reached hash unused size d m) :
    d.Represents hash m := by
  induction h with
  | initialise hd =>
    obtain ⟨d', hd', hrepresents⟩ := represents_initialise hash unused hsize
    rw [hd'] at hd
    rw [← (Prod.mk.inj (Option.some.inj hd)).1]
    exact hrepresents
  | call _ hallowed hcall ih =>
    obtain ⟨d'', answer, hcall', -, hrepresents⟩ := ih.call unused hallowed
    rw [hcall'] at hcall
    obtain ⟨rfl, rfl⟩ := Prod.mk.inj (Option.some.inj hcall)
    exact hrepresents

end NodeDictionary

open NodeDictionary

/-- After every sequence of calls: the next call answers as the finite map does; the nodes below
`itemCount`, which are those iterated over, hold each key of the map once, with its value; and every
chain ends and holds the keys of its bucket, each once. -/
theorem dictionary_refines {K V : Type} [DecidableEq K] {hash : K → Nat} {unused : K × V}
    {size : Nat} (hsize : 0 < size) {d : NodeDictionary K V} {m : K → Option V}
    (h : Reached hash unused size d m) :
    (∀ c : DictionaryCall K V, c.Allowed m →
      ∃ d' answer, d.call hash unused c = some (d', answer) ∧ c.Answers m answer) ∧
    d.items.length = d.itemCount ∧ (d.items.map Prod.fst).Nodup ∧
    (∀ key value, (key, value) ∈ d.items ↔ m key = some value) ∧
    ∃ chains : Nat → List Nat, ∀ b, b < d.tableSize →
      Leads d.nextOf (d.table.getD b none) (chains b) none ∧ (chains b).Nodup ∧
      ((chains b).filterMap fun i => (d.itemAt i).map Prod.fst).Nodup ∧
      ∀ key, (key ∈ (chains b).filterMap fun i => (d.itemAt i).map Prod.fst) ↔
        (m key).isSome = true ∧ hash key % d.tableSize = b := by
  have hrepresents := h.represents hsize
  obtain ⟨chains, hchained⟩ := hrepresents.chained
  refine ⟨fun c hc => ?_, hchained.items_length, hchained.keys_nodup,
    fun key value => (hrepresents.items key value).symm, chains, fun b hb => ?_⟩
  · obtain ⟨d', answer, hcall, hanswer, -⟩ := hrepresents.call unused hc
    exact ⟨d', answer, hcall, hanswer⟩
  · refine ⟨hchained.links b hb, hchained.nodup b hb, hchained.chainKeys_nodup hb, fun key => ?_⟩
    rw [hrepresents.isSome_iff, hchained.mem_chainKeys hb]
    rfl

/-- Three keys of one chain, after the table has grown twice; the first one is removed, and the last
node takes its place. -/
theorem dictionary_refines_removed :
    ∃ d m, Reached (fun _ => 0) ((0, 0) : Nat × Nat) 1 d m ∧
      d.items = [(2, 20), (3, 30)] ∧ d.get (fun _ => 0) 2 = some (some 20) ∧
      (d.items.map Prod.fst).Nodup := by
  have h0 : Reached (fun _ => 0) ((0, 0) : Nat × Nat) 1 _ _ := .initialise rfl
  have h1 := h0.call (c := .insert 1 10 true) rfl rfl
  have h2 := h1.call (c := .insert 2 20 true) rfl rfl
  have h3 := h2.call (c := .insert 3 30 true) rfl rfl
  have h4 := h3.call (c := .remove 1) trivial rfl
  exact ⟨_, _, h4, by decide, by decide, (dictionary_refines Nat.one_pos h4).2.2.1⟩

end Llfix
