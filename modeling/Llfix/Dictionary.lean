import Llfix.Lib.ChainTable

/-!
# `Dictionary`

The hash table of `dictionary.h`. Its nodes stand in one block, `m_node_cache`, with room for
`m_table_size` of them; the chains of `m_table` run through that block. `insert` takes the next
node of the block, and `grow` moves everything to a new block.

The model keeps the chains as lists. A history records at which index of which block a node was
written, and the calls of `grow`; a write that misses its block has no effect of its own.

Results:
1. `grow_wellFormed`, `place_wellFormed`, `setExistingItem_wellFormed`: the operations keep a
   dictionary well formed.
2. `growWrites_inBounds_iff`: `grow` stays inside the new block exactly when it is large enough.
-/

namespace Llfix

open ChainTable

/-- A node was written at `m_node_cache + index`, in a block of `capacity` nodes. -/
structure NodeWrite where
  index : Nat
  capacity : Nat
deriving DecidableEq, Repr

def NodeWrite.InBounds (w : NodeWrite) : Prop := w.index < w.capacity

instance (w : NodeWrite) : Decidable w.InBounds := inferInstanceAs (Decidable (_ < _))

/-- A call `grow(size)` on a dictionary with `itemCount` items. -/
structure GrowCall where
  size : Nat
  itemCount : Nat
deriving DecidableEq, Repr

/-- The new block takes all items. -/
def GrowCall.Suffices (c : GrowCall) : Prop := c.itemCount ≤ c.size

instance (c : GrowCall) : Decidable c.Suffices := inferInstanceAs (Decidable (_ ≤ _))

structure Dictionary (K V : Type) where
  table : List (List (K × V)) := []
  itemCount : Nat := 0
  nodeWrites : List NodeWrite := []
  growCalls : List GrowCall := []
deriving Repr

namespace Dictionary

variable {K V : Type} (hash : K → Nat)

/-- `table_size`, which is the number of nodes of the block as well. -/
def tableSize (d : Dictionary K V) : Nat := d.table.length

/-- The state of the copy loop of `grow`. -/
structure Copy (K V : Type) where
  table : List (List (K × V))
  copyCount : Nat := 0
  nodeWrites : List NodeWrite := []

/-- One node is copied into the new block. -/
def copyNode (size : Nat) (c : Copy K V) (n : K × V) : Copy K V :=
  { table := push hash c.table n
    copyCount := c.copyCount + 1
    nodeWrites := c.nodeWrites ++ [⟨c.copyCount, size⟩] }

/-- `grow`. `allocated` says that the memory for the block and the table is granted. -/
def grow (d : Dictionary K V) (size : Nat) (allocated : Bool) : Dictionary K V × Bool :=
  let d := { d with growCalls := d.growCalls ++ [⟨size, d.itemCount⟩] }
  if allocated = false then (d, false)
  else
    let copy := (nodes d.table).foldl (copyNode hash size) { table := List.replicate size [] }
    let rest := (List.range' copy.copyCount (size - copy.copyCount)).map fun i => ⟨i, size⟩
    ({ d with table := copy.table, nodeWrites := d.nodeWrites ++ copy.nodeWrites ++ rest }, true)

def initialise (d : Dictionary K V) (size : Nat) (allocated : Bool) : Dictionary K V × Bool :=
  d.grow hash size allocated

/-- The end of `insert`: the next node of the block becomes the head of its chain. -/
def place (d : Dictionary K V) (key : K) (value : V) : Dictionary K V :=
  { d with
    table := push hash d.table (key, value)
    itemCount := d.itemCount + 1
    nodeWrites := d.nodeWrites ++ [⟨d.itemCount, d.tableSize⟩] }

/-- `insert`. -/
def insert (d : Dictionary K V) (key : K) (value : V) (allocated : Bool) :
    Dictionary K V × Bool :=
  let (d, ok) :=
    if d.itemCount = d.tableSize then d.grow hash (d.tableSize * 2) allocated else (d, true)
  if ok = false then (d, false) else (d.place hash key value, true)

/-- `get`, and `operator[]` on a key that is there. -/
def get [DecidableEq K] (d : Dictionary K V) (key : K) : Option V := find hash d.table key

def hasKey [DecidableEq K] (d : Dictionary K V) (key : K) : Bool := (d.get hash key).isSome

def setExistingItem [DecidableEq K] (d : Dictionary K V) (key : K) (value : V) : Dictionary K V :=
  { d with table := setExisting hash d.table key value }

/-- A loop over `begin()` to `end()` that changes the values. -/
def forEach (d : Dictionary K V) (f : V → V) : Dictionary K V :=
  { d with table := mapValues f d.table }

/-- Every key stands once, in its chain, and the items are counted. -/
structure WellFormed (d : Dictionary K V) : Prop where
  placed : Placed hash d.table
  distinct : (keys d.table).Nodup
  counted : d.itemCount = (nodes d.table).length

variable {hash}

theorem wellFormed_empty : WellFormed hash ({} : Dictionary K V) :=
  ⟨fun _ _ h => (by cases h), List.nodup_nil, rfl⟩

/-! ## `grow` -/

/-- The writes of a `grow(size)` with `count` nodes to copy. -/
def growWrites (count size : Nat) : List NodeWrite :=
  (List.range count).map (fun i => ⟨i, size⟩) ++
    (List.range' count (size - count)).map fun i => ⟨i, size⟩

theorem growWrites_inBounds_iff (count size : Nat) :
    (∀ w ∈ growWrites count size, w.InBounds) ↔ count ≤ size := by
  simp only [growWrites, List.mem_append, List.mem_map, List.mem_range, List.mem_range'_1]
  constructor
  · intro h
    cases count with
    | zero => exact Nat.zero_le _
    | succ n => exact h ⟨n, size⟩ (.inl ⟨n, n.lt_succ_self, rfl⟩)
  · rintro hle w (⟨i, hi, rfl⟩ | ⟨i, hi, rfl⟩)
    · exact Nat.lt_of_lt_of_le hi hle
    · have hlt := hi.2
      change i < size
      omega

theorem foldl_copyNode (size : Nat) (ns : List (K × V)) (c : Copy K V) :
    ns.foldl (copyNode hash size) c =
      { table := ns.foldl (push hash) c.table
        copyCount := c.copyCount + ns.length
        nodeWrites := c.nodeWrites ++
          (List.range' c.copyCount ns.length).map fun i => ⟨i, size⟩ } := by
  induction ns generalizing c with
  | nil => simp
  | cons n ns ih =>
    rw [List.foldl_cons, ih, List.foldl_cons]
    simp [copyNode, List.range'_succ, Nat.add_comm, Nat.add_left_comm]

section Grow

variable (d : Dictionary K V) (size : Nat)

theorem grow_refused : (d.grow hash size false) =
    ({ d with growCalls := d.growCalls ++ [⟨size, d.itemCount⟩] }, false) := rfl

theorem grow_allocated : (d.grow hash size true) =
    ({ d with
        table := rebuild hash size (nodes d.table)
        nodeWrites := d.nodeWrites ++ growWrites (nodes d.table).length size
        growCalls := d.growCalls ++ [⟨size, d.itemCount⟩] }, true) := by
  simp [grow, foldl_copyNode, rebuild, growWrites, List.range_eq_range']

@[simp] theorem grow_tableSize : (d.grow hash size true).1.tableSize = size := by
  rw [grow_allocated, tableSize, rebuild_length]

variable {d size}

theorem grow_perm (hsize : 0 < size) :
    (keys (d.grow hash size true).1.table).Perm (keys d.table) := by
  rw [grow_allocated]
  exact (rebuild_perm _ hsize).map Prod.fst

theorem grow_wellFormed (h : d.WellFormed hash) (hsize : 0 < size) :
    (d.grow hash size true).1.WellFormed hash := by
  have hperm : (nodes (rebuild hash size (nodes d.table))).Perm (nodes d.table) :=
    rebuild_perm _ hsize
  rw [grow_allocated]
  exact ⟨rebuild_placed _ _, (hperm.map Prod.fst).nodup_iff.mpr h.distinct,
    h.counted.trans hperm.length_eq.symm⟩

theorem grow_get [DecidableEq K] (h : d.WellFormed hash) (hsize : 0 < size) (key : K) :
    (d.grow hash size true).1.get hash key = d.get hash key := by
  rw [grow_allocated]
  exact find_rebuild h.placed h.distinct hsize key

end Grow

/-! ## `insert` -/

section Insert

variable {d : Dictionary K V} (key : K) (value : V)

theorem insert_room (h : d.itemCount ≠ d.tableSize) (allocated : Bool) :
    d.insert hash key value allocated = (d.place hash key value, true) := by
  simp [insert, h]

theorem insert_full (h : d.itemCount = d.tableSize) :
    d.insert hash key value true =
      ((d.grow hash (d.tableSize * 2) true).1.place hash key value, true) := by
  simp [insert, h, grow_allocated]

theorem insert_refused (h : d.itemCount = d.tableSize) :
    d.insert hash key value false = d.grow hash (d.tableSize * 2) false := by
  simp [insert, h, grow_refused]

@[simp] theorem place_tableSize : (d.place hash key value).tableSize = d.tableSize :=
  push_length _ _

theorem place_itemCount : (d.place hash key value).itemCount = d.itemCount + 1 := rfl

theorem place_nodeWrites : (d.place hash key value).nodeWrites =
    d.nodeWrites ++ [⟨d.itemCount, d.tableSize⟩] := rfl

theorem place_growCalls : (d.place hash key value).growCalls = d.growCalls := rfl

theorem place_perm (hsize : 0 < d.tableSize) :
    (keys (d.place hash key value).table).Perm (key :: keys d.table) :=
  (push_perm d.table (key, value) hsize).map Prod.fst

theorem place_wellFormed (h : d.WellFormed hash) (hsize : 0 < d.tableSize)
    (hkey : key ∉ keys d.table) : (d.place hash key value).WellFormed hash := by
  refine ⟨h.placed.push _, ?_, ?_⟩
  · rw [(place_perm key value hsize).nodup_iff]
    exact List.nodup_cons.mpr ⟨hkey, h.distinct⟩
  · have hperm : (nodes (push hash d.table (key, value))).Perm ((key, value) :: nodes d.table) :=
      push_perm d.table (key, value) hsize
    have hlength := hperm.length_eq
    rw [List.length_cons, ← h.counted] at hlength
    exact hlength.symm

theorem place_get [DecidableEq K] (hsize : 0 < d.tableSize) (key' : K) :
    (d.place hash key value).get hash key' =
      if key' = key then some value else d.get hash key' :=
  find_push hsize (key, value) key'

end Insert

/-! ## Updates of values -/

section Values

variable (d : Dictionary K V) (key : K) (value : V)

@[simp] theorem setExistingItem_tableSize [DecidableEq K] :
    (d.setExistingItem hash key value).tableSize = d.tableSize :=
  setExisting_length _ _ _

theorem setExistingItem_itemCount [DecidableEq K] :
    (d.setExistingItem hash key value).itemCount = d.itemCount := rfl

theorem setExistingItem_nodeWrites [DecidableEq K] :
    (d.setExistingItem hash key value).nodeWrites = d.nodeWrites := rfl

theorem setExistingItem_growCalls [DecidableEq K] :
    (d.setExistingItem hash key value).growCalls = d.growCalls := rfl

theorem setExistingItem_keys [DecidableEq K] :
    keys (d.setExistingItem hash key value).table = keys d.table :=
  setExisting_keys _ _ _

theorem setExistingItem_get [DecidableEq K] (key' : K) :
    (d.setExistingItem hash key value).get hash key' =
      if key' = key then (d.get hash key).map fun _ => value else d.get hash key' :=
  find_setExisting key value d.table key'

@[simp] theorem forEach_tableSize (f : V → V) : (d.forEach f).tableSize = d.tableSize :=
  mapValues_length _ _

theorem forEach_keys (f : V → V) : keys (d.forEach f).table = keys d.table :=
  mapValues_keys _ _

theorem forEach_get [DecidableEq K] (f : V → V) :
    (d.forEach f).get hash key = (d.get hash key).map f :=
  find_mapValues f d.table key

end Values

section WellFormed

variable {d : Dictionary K V} (h : d.WellFormed hash)
include h

theorem hasKey_iff [DecidableEq K] (key : K) : d.hasKey hash key = true ↔ key ∈ keys d.table :=
  find_isSome_iff h.placed h.distinct

theorem setExistingItem_wellFormed [DecidableEq K] (key : K) (value : V) :
    (d.setExistingItem hash key value).WellFormed hash := by
  have hkeys : keys (d.setExistingItem hash key value).table = keys d.table :=
    d.setExistingItem_keys key value
  refine ⟨setExisting_placed key value h.placed, hkeys ▸ h.distinct, ?_⟩
  have hlength := congrArg List.length hkeys
  simp only [keys, List.length_map] at hlength
  exact h.counted.trans hlength.symm

theorem forEach_wellFormed (f : V → V) : (d.forEach f).WellFormed hash := by
  refine ⟨mapValues_placed f h.placed, ?_, ?_⟩
  · exact d.forEach_keys f ▸ h.distinct
  · have hlength := congrArg List.length (mapValues_nodes f d.table)
    rw [List.length_map] at hlength
    exact h.counted.trans hlength.symm

end WellFormed

end Dictionary

end Llfix
