import Llfix.NodeDictionary
import Mathlib.Data.List.Perm.Subperm
import Mathlib.Logic.Function.Basic

/-!
# The chains of the dictionary

`insert` puts a node at the front of a chain, `remove` takes one out and moves the last node of the
block into its place, and `grow` builds all chains anew.

Results:
1. `Links.setPointer`: one pointer is set, and the chain goes on elsewhere.
2. `Chained.place`, `Chained.grow`, `Chained.remove`: every live node stays in the chain of its key,
   once, and the live nodes are those below `itemCount`.
-/

namespace Llfix

open LinkedNodes

namespace NodeDictionary

variable {K V : Type} {hash : K → Nat} {d : NodeDictionary K V} {chains : Nat → List Nat}

/-- The pointer of a node of the cache. -/
def nextOf (d : NodeDictionary K V) (i : Nat) : Option (Option Nat) :=
  d.nodeCache[i]?.map (·.next)

/-- The chain that a key belongs to. -/
def bucket (hash : K → Nat) (d : NodeDictionary K V) (key : K) : Nat := hash key % d.tableSize

theorem moduloTableSize_eq (d : NodeDictionary K V) (key : K) :
    d.moduloTableSize (hash key) = d.bucket hash key :=
  (Nat.mod_eq_sub_div_mul).symm

/-- The pointers of the table lead through `chains`. -/
def Links (d : NodeDictionary K V) (chains : Nat → List Nat) : Prop :=
  ∀ b, b < d.tableSize → Leads d.nextOf (d.table.getD b none) (chains b) none

/-- The nodes below `itemCount` are the live ones: each stands once in the chain of its key, and
their keys are different. -/
structure Chained (hash : K → Nat) (d : NodeDictionary K V) (chains : Nat → List Nat) : Prop where
  size_pos : 0 < d.tableSize
  block : d.nodeCache.length = d.tableSize
  count_le : d.itemCount ≤ d.tableSize
  links : d.Links chains
  nodup : ∀ b, b < d.tableSize → (chains b).Nodup
  mem : ∀ b, b < d.tableSize → ∀ i,
    i ∈ chains b ↔ i < d.itemCount ∧ ∃ item, d.itemAt i = some item ∧ d.bucket hash item.1 = b
  distinct : ∀ i j item item', i < d.itemCount → j < d.itemCount → d.itemAt i = some item →
    d.itemAt j = some item' → item.1 = item'.1 → i = j

/-! ## Items -/

theorem mem_items {item : K × V} :
    item ∈ d.items ↔ ∃ i, i < d.itemCount ∧ d.itemAt i = some item := by
  rw [items, List.mem_map]
  constructor
  · rintro ⟨n, hn, rfl⟩
    obtain ⟨i, hi⟩ := List.mem_iff_getElem?.mp hn
    rw [List.getElem?_take] at hi
    split at hi
    next hlt =>
      refine ⟨i, hlt, ?_⟩
      rw [itemAt, hi]
      rfl
    next => exact absurd hi.symm (Option.some_ne_none n)
  · rintro ⟨i, hlt, hitem⟩
    obtain ⟨n, hn, rfl⟩ := Option.map_eq_some_iff.mp hitem
    refine ⟨n, List.mem_iff_getElem?.mpr ⟨i, ?_⟩, rfl⟩
    rw [List.getElem?_take_of_lt hlt]
    exact hn

theorem itemAt_isSome (hblock : d.nodeCache.length = d.tableSize) {i : Nat}
    (hi : i < d.tableSize) : ∃ item, d.itemAt i = some item := by
  rw [← hblock] at hi
  refine ⟨((d.nodeCache[i]).key, (d.nodeCache[i]).value), ?_⟩
  rw [itemAt, List.getElem?_eq_getElem hi]
  rfl

namespace Chained

theorem bucket_lt (h : Chained hash d chains) (key : K) : d.bucket hash key < d.tableSize :=
  Nat.mod_lt _ h.size_pos

theorem itemAt_some (h : Chained hash d chains) {i : Nat} (hi : i < d.itemCount) :
    ∃ item, d.itemAt i = some item :=
  itemAt_isSome h.block (Nat.lt_of_lt_of_le hi h.count_le)

theorem lt_of_mem (h : Chained hash d chains) {b i : Nat} (hb : b < d.tableSize)
    (hi : i ∈ chains b) : i < d.itemCount := ((h.mem b hb i).mp hi).1

/-- A chain is not longer than the block. -/
theorem length_le (h : Chained hash d chains) {b : Nat} (hb : b < d.tableSize) :
    (chains b).length ≤ d.nodeCache.length := by
  have hsub : chains b ⊆ List.range d.itemCount :=
    fun i hi => List.mem_range.mpr (h.lt_of_mem hb hi)
  have hle := (List.subperm_of_subset (h.nodup b hb) hsub).length_le
  rw [List.length_range] at hle
  rw [h.block]
  exact Nat.le_trans hle h.count_le

/-- Two chains have no node in common. -/
theorem disjoint (h : Chained hash d chains) {b b' i : Nat} (hb : b < d.tableSize)
    (hb' : b' < d.tableSize) (hi : i ∈ chains b) (hi' : i ∈ chains b') : b = b' := by
  obtain ⟨-, item, hitem, rfl⟩ := (h.mem b hb i).mp hi
  obtain ⟨-, item', hitem', rfl⟩ := (h.mem b' hb' i).mp hi'
  rw [hitem] at hitem'
  rw [Option.some.inj hitem']

theorem keys_nodup (h : Chained hash d chains) : (d.items.map Prod.fst).Nodup := by
  rw [items, List.map_map, List.Nodup, List.pairwise_iff_getElem]
  intro i j hi hj hij heq
  rw [List.length_map, List.length_take, h.block, Nat.min_eq_left h.count_le] at hi hj
  have hitem : ∀ i, (hi : i < d.itemCount) →
      ∃ n : DictionaryNode K V, d.nodeCache[i]? = some n ∧ d.itemAt i = some (n.key, n.value) := by
    intro i hi
    have hlt : i < d.nodeCache.length := h.block ▸ Nat.lt_of_lt_of_le hi h.count_le
    refine ⟨d.nodeCache[i], List.getElem?_eq_getElem hlt, ?_⟩
    rw [itemAt, List.getElem?_eq_getElem hlt]
    rfl
  obtain ⟨n, hn, hni⟩ := hitem i hi
  obtain ⟨m, hm, hmj⟩ := hitem j hj
  rw [List.getElem_map, List.getElem_map, List.getElem_take, List.getElem_take] at heq
  rw [(List.getElem?_eq_some_iff.mp hn).2, (List.getElem?_eq_some_iff.mp hm).2] at heq
  exact Nat.ne_of_lt hij (h.distinct i j _ _ hi hj hni hmj heq)

end Chained

/-! ## Loops along a chain -/

/-- The walk ends, behind the chain or at the first node that is wanted. -/
theorem walk_spec {nodes : List (DictionaryNode K V)} (wanted : Nat → DictionaryNode K V → Bool)
    {path : List Nat} {start : Option Nat} {rounds : Nat} (prev : Option Nat)
    (hleads : Leads (fun i => nodes[i]?.map (·.next)) start path none)
    (hrounds : path.length ≤ rounds) :
    (walk nodes wanted rounds prev start = some none ∧
      ∀ i ∈ path, ∀ n, nodes[i]? = some n → wanted i n = false) ∨
    ∃ front i back n, path = front ++ i :: back ∧ nodes[i]? = some n ∧ wanted i n = true ∧
      walk nodes wanted rounds prev start = some (some (front.getLast?.or prev, i)) := by
  induction path generalizing start prev rounds with
  | nil =>
    obtain rfl : start = none := hleads
    refine Or.inl ⟨?_, fun i hi => absurd hi List.not_mem_nil⟩
    cases rounds with
    | zero => rfl
    | succ rounds => rfl
  | cons i path ih =>
    obtain ⟨rfl, p, hp, hrest⟩ := hleads
    obtain ⟨n, hn, rfl⟩ := Option.map_eq_some_iff.mp hp
    obtain ⟨rounds, rfl⟩ : ∃ r, rounds = r + 1 :=
      Nat.exists_eq_succ_of_ne_zero (Nat.ne_of_gt (Nat.lt_of_lt_of_le (Nat.succ_pos _) hrounds))
    have hstep : walk nodes wanted (rounds + 1) prev (some i) =
        if wanted i n then some (some (prev, i))
        else walk nodes wanted rounds (some i) n.next := by
      rw [walk, hn]
    rw [hstep]
    cases hwanted : wanted i n with
    | true =>
      exact Or.inr ⟨[], i, path, n, rfl, hn, hwanted, rfl⟩
    | false =>
      rcases ih (some i) hrest (Nat.le_of_succ_le_succ hrounds) with ⟨hend, hnone⟩ |
        ⟨front, j, back, m, hpath, hm, hfound, hresult⟩
      · refine Or.inl ⟨hend, fun j hj m hm => ?_⟩
        rcases List.mem_cons.mp hj with rfl | hj
        · rw [hn] at hm
          rw [← Option.some.inj hm]
          exact hwanted
        · exact hnone j hj m hm
      · refine Or.inr ⟨i :: front, j, back, m, by rw [hpath]; rfl, hm, hfound, ?_⟩
        have hlast : (i :: front).getLast?.or prev = front.getLast?.or (some i) := by
          cases front with
          | nil => rfl
          | cons j front =>
            rw [List.getLast?_cons_cons]
            rw [List.getLast?_eq_some_getLast (List.cons_ne_nil j front)]
            rfl
        rw [hlast]
        exact hresult

theorem collect_spec {path : List Nat} {start : Option Nat} {rounds : Nat}
    (hleads : Leads d.nextOf start path none) (hrounds : path.length ≤ rounds) :
    collect d.nodeCache rounds start = some (path.filterMap d.itemAt) := by
  induction path generalizing start rounds with
  | nil =>
    obtain rfl : start = none := hleads
    cases rounds with
    | zero => rfl
    | succ rounds => rfl
  | cons i path ih =>
    obtain ⟨rfl, p, hp, hrest⟩ := hleads
    obtain ⟨n, hn, rfl⟩ := Option.map_eq_some_iff.mp hp
    obtain ⟨rounds, rfl⟩ : ∃ r, rounds = r + 1 :=
      Nat.exists_eq_succ_of_ne_zero (Nat.ne_of_gt (Nat.lt_of_lt_of_le (Nat.succ_pos _) hrounds))
    have hitem : d.itemAt i = some (n.key, n.value) := by
      rw [itemAt, hn]
      rfl
    rw [collect, hn, List.filterMap_cons_some hitem]
    dsimp only
    rw [ih hrest (Nat.le_of_succ_le_succ hrounds)]
    rfl

theorem Links.walkChain (h : d.Links chains) {b : Nat} (hb : b < d.tableSize)
    (hlength : (chains b).length ≤ d.nodeCache.length)
    (wanted : Nat → DictionaryNode K V → Bool) :
    (d.walkChain wanted b = some none ∧
      ∀ i ∈ chains b, ∀ n, d.nodeCache[i]? = some n → wanted i n = false) ∨
    ∃ front i back n, chains b = front ++ i :: back ∧ d.nodeCache[i]? = some n ∧
      wanted i n = true ∧ d.walkChain wanted b = some (some (front.getLast?, i)) := by
  have hspec := walk_spec wanted none (h b hb) hlength
  simp only [Option.or_none] at hspec
  exact hspec

/-! ## One node is written -/

theorem Chained.links_of_nextOf {d' : NodeDictionary K V} (h : d.Links chains)
    (htable : d'.table = d.table) (hnext : ∀ b, b < d.tableSize → ∀ i ∈ chains b,
      d'.nextOf i = d.nextOf i) : d'.Links chains := by
  intro b hb
  have hb' : b < d.tableSize := by
    rw [tableSize, htable] at hb
    exact hb
  rw [htable]
  exact (h b hb').frame (hnext b hb')

/-- The values of the nodes do not matter to the chains. -/
theorem Chained.of_keys {d' : NodeDictionary K V} (h : Chained hash d chains)
    (htable : d'.table = d.table) (hcount : d'.itemCount = d.itemCount)
    (hlength : d'.nodeCache.length = d.nodeCache.length) (hnext : ∀ i, d'.nextOf i = d.nextOf i)
    (hkeys : ∀ i, (d'.itemAt i).map Prod.fst = (d.itemAt i).map Prod.fst) :
    Chained hash d' chains := by
  have hsize : d'.tableSize = d.tableSize := congrArg List.length htable
  have hitem : ∀ i item, d'.itemAt i = some item →
      ∃ item', d.itemAt i = some item' ∧ item'.1 = item.1 := by
    intro i item hitem
    have hkey := hkeys i
    rw [hitem] at hkey
    exact Option.map_eq_some_iff.mp hkey.symm
  have hitem' : ∀ i item, d.itemAt i = some item →
      ∃ item', d'.itemAt i = some item' ∧ item'.1 = item.1 := by
    intro i item hitem
    have hkey := hkeys i
    rw [hitem] at hkey
    exact Option.map_eq_some_iff.mp hkey
  exact
    { size_pos := hsize ▸ h.size_pos
      block := by rw [hlength, hsize, h.block]
      count_le := by
        rw [hcount, hsize]
        exact h.count_le
      links := Chained.links_of_nextOf h.links htable fun _ _ i _ => hnext i
      nodup := by
        rw [hsize]
        exact h.nodup
      mem := by
        intro b hb i
        rw [hsize] at hb
        have hbucket : ∀ key, d'.bucket hash key = d.bucket hash key :=
          fun key => congrArg (hash key % ·) hsize
        simp only [hcount, h.mem b hb i, hbucket]
        refine and_congr_right fun _ => ⟨?_, ?_⟩
        · rintro ⟨item, hi, hbucket⟩
          obtain ⟨item', hi', hkey⟩ := hitem' i item hi
          exact ⟨item', hi', hkey ▸ hbucket⟩
        · rintro ⟨item, hi, hbucket⟩
          obtain ⟨item', hi', hkey⟩ := hitem i item hi
          exact ⟨item', hi', hkey ▸ hbucket⟩
      distinct := by
        intro i j item item' hi hj hitemi hitemj hkey
        rw [hcount] at hi hj
        obtain ⟨old, hold, hkeyi⟩ := hitem i item hitemi
        obtain ⟨old', hold', hkeyj⟩ := hitem j item' hitemj
        exact h.distinct i j old old' hi hj hold hold' (by rw [hkeyi, hkeyj, hkey]) }

section Place

variable (hash) (key : K) (value : V)

theorem place_tableSize (d : NodeDictionary K V) :
    (d.place hash key value).tableSize = d.tableSize := List.length_set

theorem place_getElem? (hroom : d.itemCount < d.nodeCache.length) (i : Nat) :
    (d.place hash key value).nodeCache[i]? =
      if i = d.itemCount then
        some { key := key, value := value, next := d.table.getD (d.bucket hash key) none }
      else d.nodeCache[i]? := by
  rw [place]
  dsimp only
  rw [moduloTableSize_eq]
  rcases eq_or_ne i d.itemCount with rfl | hi
  · rw [if_pos rfl, List.getElem?_set_self hroom]
  · rw [if_neg hi, List.getElem?_set_ne hi.symm]

theorem place_itemAt (hroom : d.itemCount < d.nodeCache.length) (i : Nat) :
    (d.place hash key value).itemAt i =
      if i = d.itemCount then some (key, value) else d.itemAt i := by
  rw [itemAt, place_getElem? hash key value hroom]
  split <;> rfl

theorem place_nextOf (hroom : d.itemCount < d.nodeCache.length) (i : Nat) :
    (d.place hash key value).nextOf i =
      if i = d.itemCount then some (d.table.getD (d.bucket hash key) none) else d.nextOf i := by
  rw [nextOf, place_getElem? hash key value hroom]
  split <;> rfl

theorem place_items (hroom : d.itemCount < d.nodeCache.length) :
    (d.place hash key value).items = d.items ++ [(key, value)] := by
  have hnode := place_getElem? hash key value hroom d.itemCount
  have htake : (d.place hash key value).nodeCache.take d.itemCount =
      d.nodeCache.take d.itemCount := List.take_set_of_le (Nat.le_refl _)
  have hcount : (d.place hash key value).itemCount = d.itemCount + 1 := rfl
  rw [items, hcount, List.take_add_one, htake, hnode, if_pos rfl, List.map_append]
  rfl

/-- The next node becomes the first of its chain. -/
theorem Chained.place (h : Chained hash d chains) (hroom : d.itemCount < d.tableSize)
    (habsent : ∀ i item, i < d.itemCount → d.itemAt i = some item → item.1 ≠ key) :
    Chained hash (d.place hash key value)
      (Function.update chains (d.bucket hash key) (d.itemCount :: chains (d.bucket hash key))) := by
  have hb := h.bucket_lt key
  have hblock : d.itemCount < d.nodeCache.length := h.block ▸ hroom
  have hitem := place_itemAt hash key value hblock
  have hnext := place_nextOf hash key value hblock
  have hsize := place_tableSize hash key value d
  have hbucket : ∀ k, (d.place hash key value).bucket hash k = d.bucket hash k :=
    fun k => congrArg (hash k % ·) hsize
  have hnew : ∀ b, b < d.tableSize → d.itemCount ∉ chains b :=
    fun b hb hmem => Nat.lt_irrefl _ (h.lt_of_mem hb hmem)
  -- No chain has come to the new node yet: what follows in the old chains is not touched.
  have hkept : ∀ b, b < d.tableSize → ∀ i ∈ chains b,
      (d.place hash key value).nextOf i = d.nextOf i := by
    intro b hb i hi
    rw [hnext, if_neg]
    rintro rfl
    exact hnew b hb hi
  have htable : ∀ b, (d.place hash key value).table.getD b none =
      if b = d.bucket hash key then some d.itemCount else d.table.getD b none := by
    intro b
    rw [NodeDictionary.place]
    dsimp only
    rw [moduloTableSize_eq, List.getD_eq_getElem?_getD, List.getD_eq_getElem?_getD]
    rcases eq_or_ne b (d.bucket hash key) with rfl | hne
    · rw [if_pos rfl, List.getElem?_set_self hb]
      rfl
    · rw [if_neg hne, List.getElem?_set_ne hne.symm]
  exact
    { size_pos := hsize ▸ h.size_pos
      block := by
        rw [hsize, ← h.block]
        exact List.length_set
      count_le := by
        rw [hsize]
        exact hroom
      links := by
        intro b hb'
        rw [hsize] at hb'
        rw [htable]
        rcases eq_or_ne b (d.bucket hash key) with rfl | hne
        · rw [if_pos rfl, Function.update_self]
          refine ⟨rfl, _, ?_, (h.links _ hb').frame (hkept _ hb')⟩
          rw [hnext, if_pos rfl]
        · rw [if_neg hne, Function.update_of_ne hne]
          exact (h.links b hb').frame (hkept b hb')
      nodup := by
        intro b hb'
        rw [hsize] at hb'
        rcases eq_or_ne b (d.bucket hash key) with rfl | hne
        · rw [Function.update_self]
          exact List.nodup_cons.mpr ⟨hnew _ hb', h.nodup _ hb'⟩
        · rw [Function.update_of_ne hne]
          exact h.nodup b hb'
      mem := by
        intro b hb' i
        rw [hsize] at hb'
        have hcount : (d.place hash key value).itemCount = d.itemCount + 1 := rfl
        simp only [hcount, hitem, hbucket]
        rcases eq_or_ne i d.itemCount with rfl | hi
        · -- the new node is in the chain of its key
          simp only [↓reduceIte, Option.some.injEq, exists_eq_left', Nat.lt_succ_self, true_and]
          rcases eq_or_ne b (d.bucket hash key) with rfl | hne
          · rw [Function.update_self]
            exact iff_of_true List.mem_cons_self rfl
          · rw [Function.update_of_ne hne]
            exact iff_of_false (hnew b hb') hne.symm
        · have hlt : i < d.itemCount + 1 ↔ i < d.itemCount := by omega
          rw [if_neg hi, hlt, ← h.mem b hb' i]
          rcases eq_or_ne b (d.bucket hash key) with rfl | hne
          · rw [Function.update_self, List.mem_cons]
            exact or_iff_right hi
          · rw [Function.update_of_ne hne]
      distinct := by
        intro i j item item' hi hj hitemi hitemj hkey
        rw [hitem] at hitemi hitemj
        have hlt : ∀ i, i < d.itemCount + 1 → i ≠ d.itemCount → i < d.itemCount := by omega
        rcases eq_or_ne i d.itemCount with rfl | hi'
        · rcases eq_or_ne j d.itemCount with rfl | hj'
          · rfl
          · rw [if_pos rfl] at hitemi
            rw [if_neg hj'] at hitemj
            rw [← Option.some.inj hitemi] at hkey
            exact absurd hkey.symm (habsent j item' (hlt j hj hj') hitemj)
        · rw [if_neg hi'] at hitemi
          rcases eq_or_ne j d.itemCount with rfl | hj'
          · rw [if_pos rfl] at hitemj
            rw [← Option.some.inj hitemj] at hkey
            exact absurd hkey (habsent i item (hlt i hi hi') hitemi)
          · rw [if_neg hj'] at hitemj
            exact h.distinct i j item item' (hlt i hi hi') (hlt j hj hj') hitemi hitemj hkey }

end Place

/-! ## `grow` -/

/-- Pairs with new keys are placed one after the other. -/
theorem Chained.placeAll (h : Chained hash d chains) (pairs : List (K × V))
    (hroom : d.itemCount + pairs.length ≤ d.tableSize)
    (hkeys : ((d.items ++ pairs).map Prod.fst).Nodup) :
    ∃ chains', Chained hash (pairs.foldl (fun copy n => copy.place hash n.1 n.2) d) chains' ∧
      (pairs.foldl (fun copy n => copy.place hash n.1 n.2) d).items = d.items ++ pairs ∧
      (pairs.foldl (fun copy n => copy.place hash n.1 n.2) d).tableSize = d.tableSize ∧
      (pairs.foldl (fun copy n => copy.place hash n.1 n.2) d).itemCount =
        d.itemCount + pairs.length := by
  induction pairs generalizing d chains with
  | nil => exact ⟨chains, h, (List.append_nil _).symm, rfl, rfl⟩
  | cons n pairs ih =>
    rw [List.length_cons] at hroom
    have hlt : d.itemCount < d.tableSize := by omega
    have hblock : d.itemCount < d.nodeCache.length := h.block ▸ hlt
    have habsent : ∀ i item, i < d.itemCount → d.itemAt i = some item → item.1 ≠ n.1 := by
      intro i item hi hitem hkey
      rw [List.map_append, List.map_cons] at hkeys
      have hmem : item.1 ∈ d.items.map Prod.fst :=
        List.mem_map_of_mem (mem_items.mpr ⟨i, hi, hitem⟩)
      exact List.disjoint_of_nodup_append hkeys hmem (hkey ▸ List.mem_cons_self)
    have hitems := place_items hash n.1 n.2 hblock
    have hsize := place_tableSize hash n.1 n.2 d
    have hcount : (d.place hash n.1 n.2).itemCount = d.itemCount + 1 := rfl
    obtain ⟨chains', hchained, hitems', hsize', hcount'⟩ :=
      ih (h.place hash n.1 n.2 hlt habsent) (by rw [hcount, hsize]; omega)
        (by rw [hitems, List.append_assoc]; exact hkeys)
    refine ⟨chains', hchained, ?_, hsize'.trans hsize, ?_⟩
    · rw [List.foldl_cons, hitems', hitems, List.append_assoc]
      rfl
    · rw [List.foldl_cons, hcount', hcount, List.length_cons]
      omega

/-- A new table and a new block. -/
theorem chained_created (hash : K → Nat) (unused : K × V) {size : Nat} (hsize : 0 < size) :
    Chained hash ({ table := List.replicate size none
                    nodeCache := List.replicate size { key := unused.1, value := unused.2 } } :
      NodeDictionary K V) (fun _ => []) where
  size_pos := by rwa [tableSize, List.length_replicate]
  block := by rw [tableSize, List.length_replicate, List.length_replicate]
  count_le := Nat.zero_le _
  links := by
    intro b hb
    rw [tableSize, List.length_replicate] at hb
    rw [List.getD_eq_getElem?_getD, List.getElem?_replicate_of_lt hb]
    exact rfl
  nodup := fun b _ => List.nodup_nil
  mem := fun b _ i => iff_of_false List.not_mem_nil fun hi => Nat.not_lt_zero i hi.1
  distinct := fun i _ _ _ hi => absurd hi (Nat.not_lt_zero i)

/-- The loops of `grow` read the nodes of the chains, chain by chain. -/
theorem foldlM_collect (h : Chained hash d chains) {buckets : List Nat}
    (hbuckets : ∀ b ∈ buckets, b < d.tableSize) (copy : NodeDictionary K V) :
    (buckets.map fun b => d.table.getD b none).foldlM
      (fun copy first => (collect d.nodeCache d.nodeCache.length first).map fun chain =>
        chain.foldl (fun copy n => copy.place hash n.1 n.2) copy) copy =
    some (((buckets.flatMap chains).filterMap d.itemAt).foldl
      (fun copy n => copy.place hash n.1 n.2) copy) := by
  induction buckets generalizing copy with
  | nil => rfl
  | cons b buckets ih =>
    have hb := hbuckets b List.mem_cons_self
    rw [List.map_cons, List.foldlM_cons, collect_spec (h.links b hb) (h.length_le hb),
      List.flatMap_cons, List.filterMap_append, List.foldl_append]
    exact ih (fun b' hb' => hbuckets b' (List.mem_cons_of_mem b hb')) _

namespace Chained

/-- The chains of all buckets hold the live nodes. -/
theorem perm_range (h : Chained hash d chains) :
    ((List.range d.tableSize).flatMap chains).Perm (List.range d.itemCount) := by
  refine (List.perm_ext_iff_of_nodup ?_ List.nodup_range).mpr fun i => ?_
  · refine List.nodup_flatMap.mpr ⟨fun b hb => h.nodup b (List.mem_range.mp hb), ?_⟩
    refine List.nodup_range.imp_of_mem fun {b b'} hb hb' hne i hi hi' => hne ?_
    exact h.disjoint (List.mem_range.mp hb) (List.mem_range.mp hb') hi hi'
  · rw [List.mem_flatMap, List.mem_range]
    constructor
    · rintro ⟨b, hb, hi⟩
      exact h.lt_of_mem (List.mem_range.mp hb) hi
    · intro hi
      obtain ⟨item, hitem⟩ := h.itemAt_some hi
      have hb := h.bucket_lt item.1
      exact ⟨_, List.mem_range.mpr hb, (h.mem _ hb i).mpr ⟨hi, item, hitem, rfl⟩⟩

theorem items_eq (h : Chained hash d chains) :
    d.items = (List.range d.itemCount).filterMap d.itemAt := by
  have hlength : d.itemCount ≤ d.nodeCache.length := h.block ▸ h.count_le
  have hall : ∀ n, n ≤ d.itemCount →
      (d.nodeCache.take n).map (fun n => (n.key, n.value)) =
        (List.range n).filterMap d.itemAt := by
    intro n hn
    induction n with
    | zero => rfl
    | succ n ih =>
      have hlt : n < d.nodeCache.length := Nat.lt_of_lt_of_le hn hlength
      have hitem : d.itemAt n = some (d.nodeCache[n].key, d.nodeCache[n].value) := by
        rw [itemAt, List.getElem?_eq_getElem hlt]
        rfl
      rw [List.take_add_one, List.getElem?_eq_getElem hlt, List.map_append,
        ih (Nat.le_of_succ_le hn), List.range_succ, List.filterMap_append,
        List.filterMap_cons_some hitem]
      rfl
  exact hall d.itemCount (Nat.le_refl _)

theorem items_length (h : Chained hash d chains) : d.items.length = d.itemCount := by
  rw [items, List.length_map, List.length_take, h.block]
  exact Nat.min_eq_left h.count_le

/-- A chain holds each of its keys once. -/
theorem chainKeys_nodup (h : Chained hash d chains) {b : Nat} (hb : b < d.tableSize) :
    ((chains b).filterMap fun i => (d.itemAt i).map Prod.fst).Nodup := by
  rw [List.Nodup, List.pairwise_filterMap]
  refine (h.nodup b hb).imp_of_mem fun {i j} hi hj hne key hkey key' hkey' he => hne ?_
  obtain ⟨item, hitem, rfl⟩ := Option.map_eq_some_iff.mp hkey
  obtain ⟨item', hitem', rfl⟩ := Option.map_eq_some_iff.mp hkey'
  exact h.distinct i j _ _ (h.lt_of_mem hb hi) (h.lt_of_mem hb hj) hitem hitem' he

/-- A chain holds the keys of its bucket. -/
theorem mem_chainKeys (h : Chained hash d chains) {b : Nat} (hb : b < d.tableSize) (key : K) :
    (key ∈ (chains b).filterMap fun i => (d.itemAt i).map Prod.fst) ↔
      key ∈ d.items.map Prod.fst ∧ d.bucket hash key = b := by
  rw [List.mem_filterMap, List.mem_map]
  constructor
  · rintro ⟨i, hi, hkey⟩
    obtain ⟨item, hitem, rfl⟩ := Option.map_eq_some_iff.mp hkey
    obtain ⟨hlt, item', hitem', hbucket⟩ := (h.mem b hb i).mp hi
    rw [hitem] at hitem'
    obtain rfl := Option.some.inj hitem'
    exact ⟨⟨item, mem_items.mpr ⟨i, hlt, hitem⟩, rfl⟩, hbucket⟩
  · rintro ⟨⟨item, hmem, rfl⟩, hbucket⟩
    obtain ⟨i, hlt, hitem⟩ := mem_items.mp hmem
    refine ⟨i, (h.mem b hb i).mpr ⟨hlt, item, hitem, hbucket⟩, ?_⟩
    rw [hitem]
    rfl

/-- The pairs that `grow` reads are the items. -/
theorem collected_perm (h : Chained hash d chains) :
    (((List.range d.tableSize).flatMap chains).filterMap d.itemAt).Perm d.items := by
  rw [h.items_eq]
  exact h.perm_range.filterMap _

/-- `grow` keeps all items. -/
theorem grow (h : Chained hash d chains) (unused : K × V) {size : Nat} (hpos : 0 < size)
    (hsize : d.itemCount ≤ size) :
    ∃ d' chains', d.grow hash unused size true = some (d', true) ∧ Chained hash d' chains' ∧
      d'.tableSize = size ∧ d'.itemCount = d.itemCount ∧ d'.items.Perm d.items := by
  have hperm := h.collected_perm
  have hcreated := chained_created hash unused hpos
  have hcount := hperm.length_eq.trans h.items_length
  obtain ⟨chains', hchained, hitems, hsize', hcount'⟩ :=
    hcreated.placeAll (((List.range d.tableSize).flatMap chains).filterMap d.itemAt)
      (by rw [hcount, tableSize, List.length_replicate, Nat.zero_add]; exact hsize)
      ((hperm.map Prod.fst).nodup_iff.mpr h.keys_nodup)
  have htable : d.table = (List.range d.tableSize).map fun b => d.table.getD b none := by
    refine List.ext_getElem (by rw [List.length_map, List.length_range, tableSize]) ?_
    intro b hb _
    rw [List.getElem_map, List.getElem_range, List.getD_eq_getElem?_getD,
      List.getElem?_eq_getElem hb]
    rfl
  have hloop := foldlM_collect h (fun b hb => List.mem_range.mp hb)
    { table := List.replicate size none
      nodeCache := List.replicate size { key := unused.1, value := unused.2 } }
  rw [← htable] at hloop
  rw [hcount, Nat.zero_add] at hcount'
  refine ⟨_, chains', ?_, hchained, ?_, hcount', ?_⟩
  · rw [NodeDictionary.grow, if_neg (Bool.noConfusion)]
    dsimp only
    rw [hloop, Option.map_some, ← hcount']
  · rw [hsize', tableSize, List.length_replicate]
  · rw [hitems]
    exact hperm

end Chained

/-! ## `remove` -/

section SetPointer

variable (index : Nat) (prev p : Option Nat)

theorem setPointer_tableSize (d : NodeDictionary K V) :
    (d.setPointer index prev p).tableSize = d.tableSize := by
  cases prev with
  | none => exact List.length_set
  | some i => rfl

theorem setPointer_length (d : NodeDictionary K V) :
    (d.setPointer index prev p).nodeCache.length = d.nodeCache.length := by
  cases prev with
  | none => rfl
  | some i => exact List.length_modify ..

theorem setPointer_itemCount (d : NodeDictionary K V) :
    (d.setPointer index prev p).itemCount = d.itemCount := by
  cases prev with
  | none => rfl
  | some i => rfl

theorem setPointer_itemAt (d : NodeDictionary K V) (j : Nat) :
    (d.setPointer index prev p).itemAt j = d.itemAt j := by
  cases prev with
  | none => rfl
  | some i =>
    have hnode : (d.setPointer index (some i) p).nodeCache[j]? =
        d.nodeCache[j]?.map fun n => if i = j then { n with next := p } else n :=
      List.getElem?_modify _ i d.nodeCache j
    rw [itemAt, itemAt, hnode, Option.map_map]
    refine congrFun (congrArg _ (funext fun n => ?_)) _
    rw [Function.comp_apply]
    split <;> rfl

theorem setPointer_nextOf (d : NodeDictionary K V) (j : Nat) :
    (d.setPointer index prev p).nextOf j =
      if prev = some j then (d.nextOf j).map fun _ => p else d.nextOf j := by
  cases prev with
  | none => rw [if_neg (Option.some_ne_none j).symm]; rfl
  | some i =>
    have hnode : (d.setPointer index (some i) p).nodeCache[j]? =
        d.nodeCache[j]?.map fun n => if i = j then { n with next := p } else n :=
      List.getElem?_modify _ i d.nodeCache j
    rw [nextOf, nextOf, hnode, Option.map_map, Option.map_map]
    rcases eq_or_ne i j with rfl | hne
    · rw [if_pos rfl]
      refine congrFun (congrArg _ (funext fun n => ?_)) _
      rw [Function.comp_apply, if_pos rfl]
      rfl
    · rw [if_neg fun he => hne (Option.some.inj he)]
      refine congrFun (congrArg _ (funext fun n => ?_)) _
      rw [Function.comp_apply, if_neg hne]

/-- The pointer behind `front` is set anew, and the chain goes on with `tail`. -/
theorem Links.setPointer (h : d.Links chains) {b i : Nat} (hb : b < d.tableSize)
    {front back tail : List Nat} (hchain : chains b = front ++ i :: back)
    (hnodup : (chains b).Nodup)
    (hother : ∀ b', b' < d.tableSize → b' ≠ b → ∀ j ∈ chains b', j ∉ front)
    {p : Option Nat} (htail : Leads d.nextOf p tail none) (hfresh : ∀ j ∈ tail, j ∉ front) :
    (d.setPointer b front.getLast? p).Links (Function.update chains b (front ++ tail)) := by
  intro b' hb'
  rw [setPointer_tableSize] at hb'
  have hnext := setPointer_nextOf b front.getLast? p d
  have hkept : ∀ j, j ∉ front → (d.setPointer b front.getLast? p).nextOf j = d.nextOf j := by
    intro j hj
    rw [hnext, if_neg]
    exact fun hlast => hj (List.mem_of_getLast? hlast)
  have htail' : Leads (d.setPointer b front.getLast? p).nextOf p tail none :=
    htail.frame fun j hj => hkept j (hfresh j hj)
  rcases eq_or_ne b' b with rfl | hne
  · rw [Function.update_self]
    cases hfront : front.getLast? with
    | none =>
      -- the first pointer of the chain is in the table
      obtain rfl : front = [] := List.getLast?_eq_none_iff.mp hfront
      have hpointer : (d.setPointer b' none p).table.getD b' none = p := by
        rw [NodeDictionary.setPointer, List.getD_eq_getElem?_getD, List.getElem?_set_self hb]
        rfl
      rw [hpointer]
      exact htail'
    | some x =>
      obtain ⟨rest, hrest⟩ := List.getLast?_eq_some_iff.mp hfront
      have hstart := h b' hb
      rw [hchain, hrest] at hstart
      obtain ⟨q, hpath, -⟩ := leads_append.mp hstart
      have hx : x ∉ rest := by
        rw [hchain, hrest] at hnodup
        exact fun hmem => List.disjoint_of_nodup_append (List.nodup_append.mp hnodup).1 hmem
          List.mem_cons_self
      rw [hrest]
      refine hpath.redirect hx ?_ (fun j hj hjx => ?_) (hfront ▸ htail')
      · obtain ⟨old, hold⟩ :=
          Option.isSome_iff_exists.mp (hpath.mem_block (List.mem_append_right _ List.mem_cons_self))
        have hxnext := hnext x
        rw [hfront, if_pos rfl, hold] at hxnext
        exact hxnext
      · have hjnext := hnext j
        rw [hfront, if_neg fun he => hjx (Option.some.inj he).symm] at hjnext
        exact hjnext
  · rw [Function.update_of_ne hne]
    have htable : (d.setPointer b front.getLast? p).table.getD b' none = d.table.getD b' none := by
      cases front.getLast? with
      | none =>
        rw [NodeDictionary.setPointer, List.getD_eq_getElem?_getD, List.getElem?_set_ne hne.symm,
          List.getD_eq_getElem?_getD]
      | some x => rfl
    rw [htable]
    exact (h b' hb').frame fun j hj => hkept j (hother b' hb' hne j hj)

end SetPointer

theorem mem_without {front back : List Nat} {x : Nat} (h : (front ++ x :: back).Nodup) (i : Nat) :
    i ∈ front ++ back ↔ i ∈ front ++ x :: back ∧ i ≠ x := by
  have hx : x ∉ front ++ back := (List.nodup_middle.mp h).notMem
  have hmem : i ∈ front ++ x :: back ↔ i = x ∨ i ∈ front ++ back := by
    rw [List.mem_append, List.mem_cons, List.mem_append]
    exact or_left_comm
  rw [hmem]
  constructor
  · exact fun hi => ⟨Or.inr hi, fun he => hx (he ▸ hi)⟩
  · exact fun hi => hi.1.resolve_left hi.2

theorem mem_replaced {front back : List Nat} {x y : Nat} (h : (front ++ x :: back).Nodup) (i : Nat) :
    i ∈ front ++ y :: back ↔ i ∈ front ++ x :: back ∧ i ≠ x ∨ i = y := by
  rw [← mem_without h, List.mem_append, List.mem_cons, List.mem_append]
  tauto

/-- The last node is moved into the place of a node that no chain leads to. -/
theorem moveLast_links {hash : K → Nat} {current last : Nat} {lastNode : DictionaryNode K V}
    (hlinks : d.Links chains) (hnodup : ∀ b, b < d.tableSize → (chains b).Nodup)
    (hlength : ∀ b, b < d.tableSize → (chains b).length ≤ d.nodeCache.length)
    (hdisjoint : ∀ b b' i, b < d.tableSize → b' < d.tableSize → i ∈ chains b → i ∈ chains b' →
      b = b')
    (hcurrent : ∀ b, b < d.tableSize → current ∉ chains b) (hlt : current < d.nodeCache.length)
    (hlast : d.nodeCache[last]? = some lastNode) (hb : d.bucket hash lastNode.key < d.tableSize)
    (hmem : last ∈ chains (d.bucket hash lastNode.key)) :
    ∃ d' chains', d.moveLast hash current last = some d' ∧ d'.Links chains' ∧
      d'.tableSize = d.tableSize ∧ d'.nodeCache.length = d.nodeCache.length ∧
      d'.itemCount = d.itemCount ∧
      (∀ i, d'.itemAt i = if i = current then d.itemAt last else d.itemAt i) ∧
      (∀ b, b < d.tableSize → (chains' b).Nodup) ∧
      ∀ b, b < d.tableSize → ∀ i, i ∈ chains' b ↔
        i ∈ chains b ∧ i ≠ last ∨ i = current ∧ b = d.bucket hash lastNode.key := by
  -- First the copy of the last node into the free place: no chain leads there, so the links hold.
  have hne : last ≠ current := fun he => hcurrent _ hb (he ▸ hmem)
  obtain ⟨copied, hcopied⟩ : ∃ copied : NodeDictionary K V,
    copied = { d with nodeCache := d.nodeCache.set current lastNode } := ⟨_, rfl⟩
  have hnode : ∀ i, copied.nodeCache[i]? =
      if i = current then some lastNode else d.nodeCache[i]? := by
    intro i
    rw [hcopied]
    rcases eq_or_ne i current with rfl | hi
    · rw [if_pos rfl, List.getElem?_set_self hlt]
    · rw [if_neg hi, List.getElem?_set_ne hi.symm]
  have hlinks' : copied.Links chains := by
    refine Chained.links_of_nextOf hlinks (by rw [hcopied]) fun b hb' i hi => ?_
    rw [nextOf, nextOf, hnode, if_neg]
    rintro rfl
    exact hcurrent b hb' hi
  have hsize : copied.tableSize = d.tableSize := by rw [hcopied]; rfl
  have hlength' : copied.nodeCache.length = d.nodeCache.length := by
    rw [hcopied]
    exact List.length_set
  have hbucket : copied.moduloTableSize (hash lastNode.key) = d.bucket hash lastNode.key := by
    rw [moduloTableSize_eq, bucket, hsize, bucket]
  have hitem : ∀ i, copied.itemAt i = if i = current then d.itemAt last else d.itemAt i := by
    intro i
    rw [itemAt, hnode, itemAt, itemAt, hlast]
    split <;> rfl
  have hcount : copied.itemCount = d.itemCount := by rw [hcopied]
  have hmove : d.moveLast hash current last =
      (copied.walkChain (fun i _ => i = last) (d.bucket hash lastNode.key)).map fun found =>
        found.elim copied fun place =>
          copied.setPointer (d.bucket hash lastNode.key) place.1 (some current) := by
    rw [moveLast, hlast]
    dsimp only
    rw [← hcopied, hbucket]
  -- Then the walk to the place of the last node in its chain, where the pointer to it is turned.
  rcases hlinks'.walkChain (hsize ▸ hb) (hlength' ▸ hlength _ hb) (fun i _ => i = last) with
    ⟨-, hnone⟩ | ⟨front, i, back, n, hchain, hn, hi, hfound⟩
  · have hlastNode : copied.nodeCache[last]? = some lastNode := by
      rw [hnode, if_neg hne, hlast]
    exact absurd rfl (of_decide_eq_false (hnone last hmem lastNode hlastNode))
  · obtain rfl : i = last := of_decide_eq_true hi
    have hfull := hnodup _ hb
    rw [hchain] at hfull
    have hpath := hlinks' _ (hsize ▸ hb)
    rw [hchain] at hpath
    obtain ⟨-, -, -, q, hq, htail⟩ := leads_append.mp hpath
    have hnext : copied.nextOf i = some lastNode.next := by
      rw [nextOf, hnode, if_neg hne, hlast]
      rfl
    have hnext' : copied.nextOf current = some lastNode.next := by
      rw [nextOf, hnode, if_pos rfl]
      rfl
    rw [hnext] at hq
    obtain rfl := Option.some.inj hq
    have hfront : current ∉ front := fun hc =>
      hcurrent _ hb (hchain ▸ List.mem_append_left _ hc)
    refine ⟨copied.setPointer (d.bucket hash lastNode.key) front.getLast? (some current),
      Function.update chains (d.bucket hash lastNode.key) (front ++ current :: back),
      by rw [hmove, hfound]; rfl, ?_, ?_, ?_, ?_, fun j => ?_, fun b hb' => ?_, fun b hb' j => ?_⟩
    -- the copy leads on to where the last node led, so the rest of the chain is kept
    · refine hlinks'.setPointer (hsize ▸ hb) hchain (hnodup _ hb) (fun b' hb' hne' j hj hjf => ?_)
        ⟨rfl, _, hnext', htail⟩ fun j hj hjf => ?_
      · refine hne' (hdisjoint _ _ j (hsize ▸ hb') hb hj ?_)
        rw [hchain]
        exact List.mem_append_left _ hjf
      · rcases List.mem_cons.mp hj with rfl | hj
        · exact hfront hjf
        · exact List.disjoint_of_nodup_append hfull hjf (List.mem_cons_of_mem _ hj)
    · rw [setPointer_tableSize, hsize]
    · rw [setPointer_length, hlength']
    · rw [setPointer_itemCount, hcount]
    · rw [setPointer_itemAt, hitem]
    · rcases eq_or_ne b (d.bucket hash lastNode.key) with rfl | hne'
      · rw [Function.update_self]
        have hrest := (List.nodup_middle.mp hfull).of_cons
        refine List.nodup_middle.mpr (List.nodup_cons.mpr ⟨?_, hrest⟩)
        intro hc
        exact hcurrent _ hb' (hchain ▸ ((mem_without hfull current).mp hc).1)
      · rw [Function.update_of_ne hne']
        exact hnodup b hb'
    · rcases eq_or_ne b (d.bucket hash lastNode.key) with rfl | hne'
      · rw [Function.update_self, mem_replaced hfull, hchain]
        simp only [and_true]
      · rw [Function.update_of_ne hne']
        have hother : j ∈ chains b → j ≠ i := fun hj he =>
          hne' (hdisjoint _ _ j hb' hb hj (he ▸ hmem))
        constructor
        · exact fun hj => Or.inl ⟨hj, hother hj⟩
        · rintro (⟨hj, -⟩ | ⟨-, hbb⟩)
          · exact hj
          · exact absurd hbb hne'

namespace Chained

/-- The node of a key leaves its chain, and no node has moved yet. -/
theorem unlink (h : Chained hash d chains) {front back : List Nat} {current : Nat}
    {n : DictionaryNode K V} (hn : d.nodeCache[current]? = some n)
    (hchain : chains (d.bucket hash n.key) = front ++ current :: back) :
    (d.setPointer (d.bucket hash n.key) front.getLast? n.next).Links
      (Function.update chains (d.bucket hash n.key) (front ++ back)) ∧
    (∀ b, b < d.tableSize → (Function.update chains (d.bucket hash n.key) (front ++ back) b).Nodup) ∧
    ∀ b, b < d.tableSize → ∀ i,
      i ∈ Function.update chains (d.bucket hash n.key) (front ++ back) b ↔
        i ∈ chains b ∧ i ≠ current := by
  have hb := h.bucket_lt n.key
  have hnodup := h.nodup _ hb
  have hfull := hnodup
  rw [hchain] at hfull
  have hmem : current ∈ chains (d.bucket hash n.key) := by
    rw [hchain]
    exact List.mem_append_right _ List.mem_cons_self
  refine ⟨?_, fun b hb' => ?_, fun b hb' i => ?_⟩
  · have hpath := h.links _ hb
    rw [hchain] at hpath
    obtain ⟨-, -, -, q, hq, htail⟩ := leads_append.mp hpath
    have hnext : d.nextOf current = some n.next := by
      rw [nextOf, hn]
      rfl
    rw [hnext] at hq
    obtain rfl := Option.some.inj hq
    refine h.links.setPointer hb hchain hnodup (fun b' hb' hne j hj hjf => hne ?_) htail
      fun j hj hjf => ?_
    · exact h.disjoint hb' hb hj (hchain ▸ List.mem_append_left _ hjf)
    · exact List.disjoint_of_nodup_append hfull hjf (List.mem_cons_of_mem _ hj)
  · rcases eq_or_ne b (d.bucket hash n.key) with rfl | hne
    · rw [Function.update_self]
      exact (List.nodup_middle.mp hfull).of_cons
    · rw [Function.update_of_ne hne]
      exact h.nodup b hb'
  · rcases eq_or_ne b (d.bucket hash n.key) with rfl | hne
    · rw [Function.update_self, mem_without hfull, hchain]
    · rw [Function.update_of_ne hne]
      refine (and_iff_left_of_imp fun hi he => hne ?_).symm
      exact h.disjoint hb' hb hi (he ▸ hmem)

/-- What is left to show of a `remove`: the last item stands in the place of the one removed. -/
theorem of_removed (h : Chained hash d chains) {d' : NodeDictionary K V} {chains' : Nat → List Nat}
    {current : Nat} {item lastItem : K × V} (hcurrent : current < d.itemCount)
    (hitem : d.itemAt current = some item) (hlast : d.itemAt (d.itemCount - 1) = some lastItem)
    (hsize : d'.tableSize = d.tableSize) (hlength : d'.nodeCache.length = d.nodeCache.length)
    (hcount : d'.itemCount = d.itemCount - 1) (hlinks : d'.Links chains')
    (hnodup : ∀ b, b < d.tableSize → (chains' b).Nodup)
    (hitems : ∀ i, i < d.itemCount - 1 → d'.itemAt i =
      if i = current then d.itemAt (d.itemCount - 1) else d.itemAt i)
    (hmem : ∀ b, b < d.tableSize → ∀ i, i ∈ chains' b ↔
      (i ∈ chains b ∧ i ≠ current) ∧ i ≠ d.itemCount - 1 ∨
        i = current ∧ current ≠ d.itemCount - 1 ∧ b = d.bucket hash lastItem.1) :
    Chained hash d' chains' ∧ ∀ other, other ∈ d'.items ↔ other ∈ d.items ∧ other.1 ≠ item.1 := by
  have hbucket : ∀ key, d'.bucket hash key = d.bucket hash key :=
    fun key => congrArg (hash key % ·) hsize
  -- the places of the items before
  let old := fun i => if i = current then d.itemCount - 1 else i
  have hold : ∀ i, i < d.itemCount - 1 → d'.itemAt i = d.itemAt (old i) := by
    intro i hi
    rw [hitems i hi]
    dsimp only [old]
    split <;> rfl
  have hlt : ∀ i, i < d.itemCount - 1 → old i < d.itemCount ∧ old i ≠ current := by
    intro i hi
    dsimp only [old]
    split <;> omega
  constructor
  · exact
      { size_pos := hsize ▸ h.size_pos
        block := by rw [hlength, hsize, h.block]
        count_le := by
          rw [hcount, hsize]
          exact Nat.le_trans (Nat.sub_le _ _) h.count_le
        links := hlinks
        nodup := by
          rw [hsize]
          exact hnodup
        mem := by
          intro b hb i
          rw [hsize] at hb
          rw [hmem b hb i, hcount]
          simp only [hbucket]
          rcases eq_or_ne i current with rfl | hi
          · have hle : i < d.itemCount - 1 ↔ i ≠ d.itemCount - 1 := by omega
            rw [hle]
            constructor
            · rintro (⟨⟨-, hne⟩, -⟩ | ⟨-, hne, rfl⟩)
              · exact absurd rfl hne
              · refine ⟨hne, lastItem, ?_, rfl⟩
                rw [hitems i (hle.mpr hne), if_pos rfl, hlast]
            · rintro ⟨hne, other, hother, rfl⟩
              rw [hitems i (hle.mpr hne), if_pos rfl, hlast] at hother
              exact Or.inr ⟨rfl, hne, by rw [Option.some.inj hother]⟩
          · have hle : i < d.itemCount - 1 ↔ i < d.itemCount ∧ i ≠ d.itemCount - 1 := by omega
            rw [h.mem b hb i]
            constructor
            · rintro (⟨⟨⟨hic, other, hother, hb'⟩, -⟩, hne⟩ | ⟨he, -⟩)
              · refine ⟨hle.mpr ⟨hic, hne⟩, other, ?_, hb'⟩
                rw [hitems i (hle.mpr ⟨hic, hne⟩), if_neg hi, hother]
              · exact absurd he hi
            · rintro ⟨hil, other, hother, hb'⟩
              rw [hitems i hil, if_neg hi] at hother
              exact Or.inl ⟨⟨⟨(hle.mp hil).1, other, hother, hb'⟩, hi⟩, (hle.mp hil).2⟩
        distinct := by
          intro i j other other' hi hj hotheri hotherj hkey
          rw [hcount] at hi hj
          rw [hold i hi] at hotheri
          rw [hold j hj] at hotherj
          have heq := h.distinct _ _ _ _ (hlt i hi).1 (hlt j hj).1 hotheri hotherj hkey
          dsimp only [old] at heq
          split at heq
          all_goals split at heq
          all_goals omega }
  · intro other
    rw [mem_items, mem_items, hcount]
    constructor
    · rintro ⟨i, hi, hother⟩
      rw [hold i hi] at hother
      obtain ⟨hoi, hne⟩ := hlt i hi
      refine ⟨⟨old i, hoi, hother⟩, fun hkey => hne ?_⟩
      exact h.distinct _ _ _ _ hoi hcurrent hother hitem hkey
    · rintro ⟨⟨j, hj, hother⟩, hkey⟩
      have hne : j ≠ current := by
        rintro rfl
        rw [hitem] at hother
        exact hkey (by rw [Option.some.inj hother])
      rcases eq_or_ne j (d.itemCount - 1) with rfl | hjl
      · have hc : current < d.itemCount - 1 := by omega
        refine ⟨current, hc, ?_⟩
        rw [hitems current hc, if_pos rfl, hother]
      · have hjc : j < d.itemCount - 1 := by omega
        refine ⟨j, hjc, ?_⟩
        rw [hitems j hjc, if_neg hne, hother]

end Chained

variable [DecidableEq K]

/-- A key is found at its place, or is not among the live ones. -/
theorem Chained.find (h : Chained hash d chains) (key : K) :
    (d.find hash key = some none ∧ ∀ i item, i < d.itemCount → d.itemAt i = some item →
      item.1 ≠ key) ∨
    ∃ i value, i < d.itemCount ∧ d.itemAt i = some (key, value) ∧
      d.find hash key = some (some i) := by
  have hb := h.bucket_lt key
  rw [NodeDictionary.find, moduloTableSize_eq]
  rcases h.links.walkChain hb (h.length_le hb) (fun _ n => n.key = key) with ⟨hend, hnone⟩ |
    ⟨front, i, back, n, hchain, hn, hkey, hfound⟩
  · refine Or.inl ⟨by rw [hend]; rfl, fun i item hi hitem hkey => ?_⟩
    obtain ⟨n, hn, rfl⟩ := Option.map_eq_some_iff.mp hitem
    have hmem : i ∈ chains (d.bucket hash key) :=
      (h.mem _ hb i).mpr ⟨hi, _, hitem, by rw [hkey]⟩
    exact of_decide_eq_false (hnone i hmem n hn) hkey
  · have hmem : i ∈ chains (d.bucket hash key) := by
      rw [hchain]
      exact List.mem_append_right _ List.mem_cons_self
    refine Or.inr ⟨i, n.value, h.lt_of_mem hb hmem, ?_, by rw [hfound]; rfl⟩
    rw [itemAt, hn, Option.map_some, of_decide_eq_true hkey]

/-! ## The other items -/

namespace Chained

/-- `remove` of a key leaves exactly the other items. -/
theorem remove (h : Chained hash d chains) (key : K) :
    ∃ d' chains', d.remove hash key = some d' ∧ Chained hash d' chains' ∧
      ∀ item, item ∈ d'.items ↔ item ∈ d.items ∧ item.1 ≠ key := by
  have hb := h.bucket_lt key
  rw [NodeDictionary.remove, moduloTableSize_eq]
  dsimp only
  rcases h.links.walkChain hb (h.length_le hb) (fun _ n => n.key = key) with ⟨hend, hnone⟩ |
    ⟨front, current, back, n, hchain, hn, hkey, hfound⟩
  · -- the key is not there
    rw [hend]
    refine ⟨d, chains, rfl, h, fun item => (and_iff_left_of_imp fun hitem hkey => ?_).symm⟩
    obtain ⟨i, hi, hitem⟩ := mem_items.mp hitem
    obtain ⟨n, hn, rfl⟩ := Option.map_eq_some_iff.mp hitem
    have hmem := (h.mem _ hb i).mpr ⟨hi, _, hitem, by rw [hkey]⟩
    exact of_decide_eq_false (hnone i hmem n hn) hkey
  · obtain rfl : n.key = key := of_decide_eq_true hkey
    rw [hfound]
    dsimp only
    rw [hn]
    dsimp only
    obtain ⟨hlinks, hnodup, hmem⟩ := h.unlink hn hchain
    have hcurrent : current < d.itemCount := by
      refine h.lt_of_mem hb ?_
      rw [hchain]
      exact List.mem_append_right _ List.mem_cons_self
    have hitem : d.itemAt current = some (n.key, n.value) := by
      rw [itemAt, hn]
      rfl
    generalize hchains' : Function.update chains (d.bucket hash n.key) (front ++ back) = chains'
      at hlinks hnodup hmem
    obtain ⟨unlinked, hunlinked⟩ : ∃ unlinked,
      unlinked = d.setPointer (d.bucket hash n.key) front.getLast? n.next := ⟨_, rfl⟩
    rw [← hunlinked] at hlinks ⊢
    have hsize : unlinked.tableSize = d.tableSize := by rw [hunlinked, setPointer_tableSize]
    have hlength : unlinked.nodeCache.length = d.nodeCache.length := by
      rw [hunlinked, setPointer_length]
    have hcount : unlinked.itemCount = d.itemCount := by rw [hunlinked, setPointer_itemCount]
    have hitems : ∀ i, unlinked.itemAt i = d.itemAt i := by
      intro i
      rw [hunlinked, setPointer_itemAt]
    have hlt : d.itemCount - 1 < d.itemCount := by omega
    obtain ⟨lastItem, hlastItem⟩ := h.itemAt_some hlt
    split
    next hlast =>
      -- the last node itself is removed
      rw [Option.map_some]
      obtain ⟨d', hd'⟩ : ∃ d', d' = { unlinked with itemCount := unlinked.itemCount - 1 } :=
        ⟨_, rfl⟩
      rw [← hd']
      have hchained : Chained hash d' chains' ∧
          ∀ other, other ∈ d'.items ↔ other ∈ d.items ∧ other.1 ≠ n.key := by
        refine h.of_removed hcurrent hitem hlastItem ?_ ?_ ?_ ?_ hnodup (fun i hi => ?_)
          fun b hb i => ?_
        · rw [hd', ← hsize]
          rfl
        · rw [hd', hlength]
        · rw [hd', hcount]
        · rw [hd']
          exact fun b hb => hlinks b hb
        · rw [if_neg (by omega), hd', ← hitems]
          rfl
        · rw [hmem b hb i, hlast]
          tauto
      exact ⟨d', chains', rfl, hchained⟩
    next hlast =>
      obtain ⟨lastNode, hlastNode, hlastKey⟩ : ∃ lastNode : DictionaryNode K V,
          unlinked.nodeCache[d.itemCount - 1]? = some lastNode ∧ lastNode.key = lastItem.1 := by
        have hsame := hitems (d.itemCount - 1)
        rw [hlastItem] at hsame
        obtain ⟨lastNode, hnode, rfl⟩ := Option.map_eq_some_iff.mp hsame
        exact ⟨lastNode, hnode, rfl⟩
      have hbucket : unlinked.bucket hash lastNode.key = d.bucket hash lastItem.1 := by
        rw [bucket, hsize, hlastKey, bucket]
      have hlastBucket := h.bucket_lt lastItem.1
      have hsub : ∀ b, b < d.tableSize → ∀ i, i ∈ chains' b → i ∈ chains b :=
        fun b hb i hi => ((hmem b hb i).mp hi).1
      have hmoved : ∃ moved chains'',
          unlinked.moveLast hash current (d.itemCount - 1) = some moved ∧ moved.Links chains'' ∧
          moved.tableSize = unlinked.tableSize ∧
          moved.nodeCache.length = unlinked.nodeCache.length ∧
          moved.itemCount = unlinked.itemCount ∧
          (∀ i, moved.itemAt i = if i = current then unlinked.itemAt (d.itemCount - 1)
            else unlinked.itemAt i) ∧
          (∀ b, b < unlinked.tableSize → (chains'' b).Nodup) ∧
          ∀ b, b < unlinked.tableSize → ∀ i, i ∈ chains'' b ↔
            i ∈ chains' b ∧ i ≠ d.itemCount - 1 ∨
              i = current ∧ b = unlinked.bucket hash lastNode.key := by
        refine moveLast_links hlinks (hsize ▸ hnodup) (fun b hb => ?_) (fun b b' i hb hb' hi hi' => ?_)
          (fun b hb hi => ?_) ?_ hlastNode (hbucket ▸ hsize ▸ hlastBucket) ?_
        · rw [hsize] at hb
          have hsubperm := List.subperm_of_subset (hnodup b hb) (hsub b hb)
          rw [hlength]
          exact Nat.le_trans hsubperm.length_le (h.length_le hb)
        · rw [hsize] at hb hb'
          exact h.disjoint hb hb' (hsub b hb i hi) (hsub b' hb' i hi')
        · rw [hsize] at hb
          exact ((hmem b hb current).mp hi).2 rfl
        · rw [hlength, h.block]
          exact Nat.lt_of_lt_of_le hcurrent h.count_le
        · rw [hbucket]
          refine (hmem _ hlastBucket _).mpr ⟨?_, fun he => hlast he.symm⟩
          exact (h.mem _ hlastBucket _).mpr ⟨hlt, lastItem, hlastItem, rfl⟩
      obtain ⟨moved, chains'', hmove, hlinks', hsize', hlength', hcount', hitems', hnodup', hmem'⟩ :=
        hmoved
      rw [hmove, Option.map_some]
      obtain ⟨d', hd'⟩ : ∃ d', d' = { moved with itemCount := moved.itemCount - 1 } := ⟨_, rfl⟩
      rw [← hd']
      have hchained : Chained hash d' chains'' ∧
          ∀ other, other ∈ d'.items ↔ other ∈ d.items ∧ other.1 ≠ n.key := by
        refine h.of_removed hcurrent hitem hlastItem ?_ ?_ ?_ ?_ (hsize ▸ hnodup') (fun i hi => ?_)
          fun b hb i => ?_
        · rw [hd', ← hsize, ← hsize']
          rfl
        · rw [hd', hlength', hlength]
        · rw [hd', hcount', hcount]
        · rw [hd']
          exact fun b hb => hlinks' b hb
        · rw [hd', ← hitems, ← hitems i, ← hitems']
          rfl
        · rw [hmem' b (hsize ▸ hb) i, hmem b hb i, hbucket]
          tauto
      exact ⟨d', chains'', rfl, hchained⟩

end Chained

end NodeDictionary

end Llfix
