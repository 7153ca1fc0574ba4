import Mathlib.Data.List.Basic
import Mathlib.Data.List.Nodup

/-!
# Chained hash tables

A hash table with separate chaining is a list of chains; a key belongs to the chain that its hash
selects. New pairs go to the front of a chain, and growing pushes all pairs into an empty table
of another size.

Results:
1. `push_perm`, `rebuild_perm`: pushing adds the pair, rebuilding keeps all pairs.
2. `find_push`, `find_setExisting`: what is found after an update.
3. `find_eq_some_iff`: in a table whose keys are distinct and in their chains, exactly the stored
   pairs are found.
-/

namespace ChainTable

variable {K V : Type*}

/-- The pairs of all chains, chain by chain. -/
def nodes (table : List (List (K × V))) : List (K × V) := table.flatten

/-- The keys of all chains. -/
def keys (table : List (List (K × V))) : List K := (nodes table).map Prod.fst

section Operations

variable (hash : K → Nat)

/-- The chain of a key. -/
def chain (table : List (List (K × V))) (k : K) : List (K × V) :=
  table[hash k % table.length]?.getD []

/-- A new pair becomes the head of its chain. -/
def push (table : List (List (K × V))) (n : K × V) : List (List (K × V)) :=
  table.modify (hash n.1 % table.length) (n :: ·)

/-- The pairs pushed one by one into an empty table with `size` chains. -/
def rebuild (size : Nat) (pairs : List (K × V)) : List (List (K × V)) :=
  pairs.foldl (push hash) (List.replicate size [])

/-- Every key is in the chain its hash selects. -/
def Placed (table : List (List (K × V))) : Prop :=
  ∀ i c, table[i]? = some c → ∀ n ∈ c, hash n.1 % table.length = i

variable [DecidableEq K]

/-- The value of the first pair with the key. -/
def find (table : List (List (K × V))) (k : K) : Option V := (chain hash table k).lookup k

/-- The first pair with the key gets another value. -/
def setFirst (k : K) (v : V) : List (K × V) → List (K × V)
  | [] => []
  | n :: ns => if n.1 = k then (n.1, v) :: ns else n :: setFirst k v ns

/-- The value of a stored key is replaced. -/
def setExisting (table : List (List (K × V))) (k : K) (v : V) : List (List (K × V)) :=
  table.modify (hash k % table.length) (setFirst k v)

end Operations

section Push

variable {hash : K → Nat} (table : List (List (K × V))) (n : K × V)

@[simp] theorem push_length : (push hash table n).length = table.length := by
  simp [push]

theorem modify_cons_perm (i : Nat) (h : i < table.length) :
    (nodes (table.modify i (n :: ·))).Perm (n :: nodes table) := by
  induction table generalizing i with
  | nil => simp at h
  | cons c cs ih =>
    cases i with
    | zero => simp [nodes]
    | succ i =>
      have hi : i < cs.length := by simpa using h
      simpa [nodes] using ((ih i hi).append_left c).trans List.perm_middle

theorem push_perm (h : 0 < table.length) :
    (nodes (push hash table n)).Perm (n :: nodes table) :=
  modify_cons_perm table n _ (Nat.mod_lt _ h)

theorem Placed.push {table : List (List (K × V))} (h : Placed hash table) :
    Placed hash (push hash table n) := by
  intro i c hc m hm
  rw [push_length]
  rw [ChainTable.push, List.getElem?_modify] at hc
  obtain ⟨c', hc', rfl⟩ := Option.map_eq_some_iff.mp hc
  split at hm
  · rename_i hidx
    rcases List.mem_cons.mp hm with rfl | hm
    · exact hidx
    · exact h i c' hc' m hm
  · exact h i c' hc' m hm

end Push

section Rebuild

variable {hash : K → Nat}

theorem placed_replicate (size : Nat) :
    Placed hash (List.replicate size ([] : List (K × V))) := by
  intro i c hc n hn
  rw [List.getElem?_replicate] at hc
  split at hc
  · obtain rfl := Option.some.inj hc
    cases hn
  · cases hc

variable {table : List (List (K × V))} (pairs : List (K × V))

theorem foldl_push_length : (pairs.foldl (push hash) table).length = table.length := by
  induction pairs generalizing table with
  | nil => rfl
  | cons n ns ih => rw [List.foldl_cons, ih, push_length]

theorem foldl_push_perm (h : 0 < table.length) :
    (nodes (pairs.foldl (push hash) table)).Perm (pairs ++ nodes table) := by
  induction pairs generalizing table with
  | nil => exact List.Perm.refl _
  | cons n ns ih =>
    have hpush : 0 < (push hash table n).length := by simpa using h
    exact (ih hpush).trans (((push_perm table n h).append_left ns).trans List.perm_middle)

theorem foldl_push_placed (h : Placed hash table) : Placed hash (pairs.foldl (push hash) table) := by
  induction pairs generalizing table with
  | nil => exact h
  | cons n ns ih => exact ih (h.push n)

@[simp] theorem rebuild_length (size : Nat) : (rebuild hash size pairs).length = size := by
  rw [rebuild, foldl_push_length, List.length_replicate]

theorem rebuild_perm {size : Nat} (h : 0 < size) : (nodes (rebuild hash size pairs)).Perm pairs := by
  have hempty : nodes (List.replicate size ([] : List (K × V))) = [] := by simp [nodes]
  have hlength : 0 < (List.replicate size ([] : List (K × V))).length := by simpa using h
  have hperm : (nodes (rebuild hash size pairs)).Perm (pairs ++ nodes (List.replicate size [])) :=
    foldl_push_perm pairs hlength
  rwa [hempty, List.append_nil] at hperm

theorem rebuild_placed (size : Nat) : Placed hash (rebuild hash size pairs) :=
  foldl_push_placed pairs (placed_replicate size)

end Rebuild

section Chain

variable {hash : K → Nat} {table : List (List (K × V))}

theorem mem_chain_iff (h : Placed hash table) {k : K} {v : V} :
    (k, v) ∈ chain hash table k ↔ (k, v) ∈ nodes table := by
  rw [chain, nodes, List.mem_flatten]
  constructor
  · intro hmem
    cases hc : table[hash k % table.length]? with
    | none => simp [hc] at hmem
    | some c =>
      rw [hc] at hmem
      exact ⟨c, List.mem_of_getElem? hc, hmem⟩
  · rintro ⟨c, hc, hmem⟩
    obtain ⟨i, hi⟩ := List.getElem?_of_mem hc
    have hidx := h i c hi (k, v) hmem
    rw [hidx, hi]
    exact hmem

theorem chain_sublist (k : K) : (chain hash table k).Sublist (nodes table) := by
  rw [chain, nodes]
  cases hc : table[hash k % table.length]? with
  | none => exact List.nil_sublist _
  | some c => exact List.sublist_flatten_of_mem (List.mem_of_getElem? hc)

end Chain

section Find

variable [DecidableEq K] {hash : K → Nat} {table : List (List (K × V))}

theorem lookup_cons (n : K × V) (ns : List (K × V)) (k : K) :
    (n :: ns).lookup k = if k = n.1 then some n.2 else ns.lookup k := by
  rw [List.lookup_cons]
  by_cases hk : k = n.1
  · simp [hk]
  · have hbeq : (k == n.1) = false := by simpa using hk
    simp [hk, hbeq]

theorem lookup_eq_some_iff {ns : List (K × V)} (h : (ns.map Prod.fst).Nodup) {k : K} {v : V} :
    ns.lookup k = some v ↔ (k, v) ∈ ns := by
  induction ns with
  | nil => simp
  | cons n ns ih =>
    obtain ⟨k', v'⟩ := n
    rw [List.map_cons, List.nodup_cons] at h
    by_cases hk : k = k'
    · subst hk
      have hnot : ∀ v, (k, v) ∉ ns := fun v hv => h.1 (List.mem_map.mpr ⟨(k, v), hv, rfl⟩)
      simp [hnot, eq_comm]
    · rw [lookup_cons, if_neg hk]
      simpa [hk] using ih h.2

/-- Exactly the stored pairs are found. -/
theorem find_eq_some_iff (h : Placed hash table) (hkeys : (keys table).Nodup) {k : K} {v : V} :
    find hash table k = some v ↔ (k, v) ∈ nodes table := by
  have hchain : ((chain hash table k).map Prod.fst).Nodup :=
    hkeys.sublist ((chain_sublist k).map Prod.fst)
  rw [find, lookup_eq_some_iff hchain, mem_chain_iff h]

theorem find_isSome_iff (h : Placed hash table) (hkeys : (keys table).Nodup) {k : K} :
    (find hash table k).isSome ↔ k ∈ keys table := by
  rw [Option.isSome_iff_exists, keys, List.mem_map]
  constructor
  · rintro ⟨v, hv⟩
    exact ⟨(k, v), (find_eq_some_iff h hkeys).mp hv, rfl⟩
  · rintro ⟨⟨_, v⟩, hv, rfl⟩
    exact ⟨v, (find_eq_some_iff h hkeys).mpr hv⟩

/-- Rebuilding changes nothing that is found. -/
theorem find_rebuild (h : Placed hash table) (hkeys : (keys table).Nodup) {size : Nat}
    (hsize : 0 < size) (k : K) :
    find hash (rebuild hash size (nodes table)) k = find hash table k := by
  have hperm : (nodes (rebuild hash size (nodes table))).Perm (nodes table) :=
    rebuild_perm _ hsize
  have hkeys' : (keys (rebuild hash size (nodes table))).Nodup :=
    (hperm.map Prod.fst).nodup_iff.mpr hkeys
  refine Option.ext fun v => ?_
  rw [find_eq_some_iff (rebuild_placed _ size) hkeys', find_eq_some_iff h hkeys, hperm.mem_iff]

theorem find_push (hlength : 0 < table.length) (n : K × V) (k : K) :
    find hash (push hash table n) k = if k = n.1 then some n.2 else find hash table k := by
  have hk : hash k % table.length < table.length := Nat.mod_lt _ hlength
  unfold find chain
  rw [push_length, push, List.getElem?_modify, List.getElem?_eq_getElem hk]
  by_cases hkey : k = n.1
  · simp [hkey, lookup_cons]
  · by_cases hidx : hash n.1 % table.length = hash k % table.length
    · simp [hidx, hkey, lookup_cons]
    · simp [hidx, hkey]

end Find

section SetExisting

variable [DecidableEq K] {hash : K → Nat} (k : K) (v : V)

theorem setFirst_keys (ns : List (K × V)) :
    (setFirst k v ns).map Prod.fst = ns.map Prod.fst := by
  induction ns with
  | nil => rfl
  | cons n ns ih =>
    rw [setFirst]
    split
    · rfl
    · simp [ih]

theorem setFirst_lookup (ns : List (K × V)) (k' : K) :
    (setFirst k v ns).lookup k' =
      if k' = k then (ns.lookup k).map fun _ => v else ns.lookup k' := by
  induction ns with
  | nil => simp [setFirst]
  | cons n ns ih =>
    obtain ⟨key, value⟩ := n
    rw [setFirst]
    by_cases hkey : key = k
    · subst hkey
      by_cases hk' : k' = key
      · simp [hk', lookup_cons]
      · simp [hk', lookup_cons]
    · have hkey' : ¬ k = key := fun h => hkey h.symm
      by_cases hk' : k' = key
      · simp [hkey, hk', lookup_cons]
      · simp [hkey, hkey', hk', lookup_cons, ih]

variable (table : List (List (K × V)))

@[simp] theorem setExisting_length : (setExisting hash table k v).length = table.length := by
  simp [setExisting]

theorem modify_setFirst_keys (i : Nat) : keys (table.modify i (setFirst k v)) = keys table := by
  induction table generalizing i with
  | nil => simp
  | cons c cs ih =>
    cases i with
    | zero => simp [keys, nodes, setFirst_keys]
    | succ i =>
      have hi := ih i
      simp only [keys, nodes] at hi
      simp [keys, nodes, hi]

@[simp] theorem setExisting_keys : keys (setExisting hash table k v) = keys table :=
  modify_setFirst_keys k v table _

theorem setExisting_placed {table : List (List (K × V))} (h : Placed hash table) :
    Placed hash (setExisting hash table k v) := by
  intro i c hc n hn
  rw [setExisting_length]
  rw [setExisting, List.getElem?_modify] at hc
  obtain ⟨c', hc', rfl⟩ := Option.map_eq_some_iff.mp hc
  have hn' : n.1 ∈ c'.map Prod.fst := by
    have hmem : n.1 ∈ List.map Prod.fst _ := List.mem_map_of_mem hn
    split at hmem
    · rwa [setFirst_keys] at hmem
    · exact hmem
  obtain ⟨m, hm, hkey⟩ := List.mem_map.mp hn'
  rw [← hkey]
  exact h i c' hc' m hm

theorem find_setExisting (k' : K) :
    find hash (setExisting hash table k v) k' =
      if k' = k then (find hash table k).map fun _ => v else find hash table k' := by
  unfold find chain
  rw [setExisting_length, setExisting, List.getElem?_modify]
  by_cases hkey : k' = k
  · subst hkey
    cases table[hash k' % table.length]? with
    | none => simp
    | some c => simp [setFirst_lookup]
  · cases table[hash k' % table.length]? with
    | none => simp [hkey]
    | some c =>
      by_cases hidx : hash k % table.length = hash k' % table.length
      · simp [hidx, hkey, setFirst_lookup]
      · simp [hidx, hkey]

end SetExisting

section MapValues

variable {hash : K → Nat}

/-- Every value is replaced. -/
def mapValues (f : V → V) (table : List (List (K × V))) : List (List (K × V)) :=
  table.map fun c => c.map fun n => (n.1, f n.2)

variable (f : V → V) (table : List (List (K × V)))

@[simp] theorem mapValues_length : (mapValues f table).length = table.length := by
  simp [mapValues]

theorem mapValues_nodes : nodes (mapValues f table) = (nodes table).map fun n => (n.1, f n.2) := by
  simp [nodes, mapValues, List.map_flatten]

@[simp] theorem mapValues_keys : keys (mapValues f table) = keys table := by
  rw [keys, mapValues_nodes, keys, List.map_map]
  rfl

theorem mapValues_placed {table : List (List (K × V))} (h : Placed hash table) :
    Placed hash (mapValues f table) := by
  intro i c hc n hn
  rw [mapValues, List.getElem?_map] at hc
  obtain ⟨c', hc', rfl⟩ := Option.map_eq_some_iff.mp hc
  obtain ⟨m, hm, rfl⟩ := List.mem_map.mp hn
  rw [mapValues_length]
  exact h i c' hc' m hm

theorem find_mapValues [DecidableEq K] (k : K) :
    find hash (mapValues f table) k = (find hash table k).map f := by
  have hlookup : ∀ ns : List (K × V),
      (ns.map fun n => (n.1, f n.2)).lookup k = (ns.lookup k).map f := by
    intro ns
    induction ns with
    | nil => rfl
    | cons n ns ih =>
      rw [List.map_cons, lookup_cons, lookup_cons, ih]
      split <;> rfl
  unfold find chain
  rw [mapValues_length, mapValues, List.getElem?_map]
  cases table[hash k % table.length]? with
  | none => rfl
  | some c => exact hlookup c

end MapValues

end ChainTable
