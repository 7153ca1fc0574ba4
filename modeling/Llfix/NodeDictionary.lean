import Llfix.Lib.LinkedNodes

/-!
# `Dictionary` and its node cache

The hash table of `dictionary.h` with its pointers: the nodes stand in one block, `m_node_cache`,
the table holds the first node of each chain, and the other nodes are reached by their `next`. A
pointer is the number of a node.

A loop along a chain is given as many rounds as the block has nodes. It returns `none` when it has
not ended by then, or follows a pointer out of the block.
-/

namespace Llfix

structure DictionaryNode (K V : Type) where
  key : K
  value : V
  next : Option Nat := none
deriving DecidableEq, Repr

structure NodeDictionary (K V : Type) where
  table : List (Option Nat) := []
  nodeCache : List (DictionaryNode K V) := []
  itemCount : Nat := 0
deriving DecidableEq, Repr

namespace NodeDictionary

variable {K V : Type} (hash : K → Nat)

def tableSize (d : NodeDictionary K V) : Nat := d.table.length

def moduloTableSize (d : NodeDictionary K V) (input : Nat) : Nat :=
  input - input / d.tableSize * d.tableSize

/-- The pair at a place of the node cache. -/
def itemAt (d : NodeDictionary K V) (i : Nat) : Option (K × V) :=
  d.nodeCache[i]?.map fun n => (n.key, n.value)

/-- The pairs from `begin()` to `end()`. -/
def items (d : NodeDictionary K V) : List (K × V) :=
  (d.nodeCache.take d.itemCount).map fun n => (n.key, n.value)

/-! ## Loops along a chain -/

/-- The loop of `remove` and the lookups: the first node that is `wanted`, with the one before. -/
def walk (nodes : List (DictionaryNode K V)) (wanted : Nat → DictionaryNode K V → Bool) :
    Nat → Option Nat → Option Nat → Option (Option (Option Nat × Nat))
  | _, _, none => some none
  | 0, _, some _ => none
  | rounds + 1, prev, some current =>
    match nodes[current]? with
    | none => none
    | some node =>
      if wanted current node then some (some (prev, current))
      else walk nodes wanted rounds (some current) node.next

/-- The loop of `grow` along one chain. -/
def collect (nodes : List (DictionaryNode K V)) : Nat → Option Nat → Option (List (K × V))
  | _, none => some []
  | 0, some _ => none
  | rounds + 1, some current =>
    match nodes[current]? with
    | none => none
    | some node => (collect nodes rounds node.next).map ((node.key, node.value) :: ·)

/-- The walk along the chain with an index. -/
def walkChain (d : NodeDictionary K V) (wanted : Nat → DictionaryNode K V → Bool) (index : Nat) :
    Option (Option (Option Nat × Nat)) :=
  walk d.nodeCache wanted d.nodeCache.length none (d.table.getD index none)

/-! ## `grow` and `insert` -/

/-- A pair is written into the next node, which becomes the first one of its chain. -/
def place (d : NodeDictionary K V) (key : K) (value : V) : NodeDictionary K V :=
  let index := d.moduloTableSize (hash key)
  { table := d.table.set index (some d.itemCount)
    nodeCache := d.nodeCache.set d.itemCount
      { key := key, value := value, next := d.table.getD index none }
    itemCount := d.itemCount + 1 }

/-- `grow`, with `itemCount` as `copy_count` while nodes are copied. The default constructor of a
node gives the pair `unused`; `allocated` says that the memory is granted. -/
def grow (unused : K × V) (d : NodeDictionary K V) (size : Nat) (allocated : Bool) :
    Option (NodeDictionary K V × Bool) :=
  if allocated = false then some (d, false)
  else
    let created : NodeDictionary K V :=
      { table := List.replicate size none
        nodeCache := List.replicate size { key := unused.1, value := unused.2 } }
    let copied := d.table.foldlM
      (fun copy first => (collect d.nodeCache d.nodeCache.length first).map fun chain =>
        chain.foldl (fun copy n => copy.place hash n.1 n.2) copy) created
    copied.map fun copy => ({ copy with itemCount := d.itemCount }, true)

def initialise (unused : K × V) (size : Nat) (allocated : Bool) :
    Option (NodeDictionary K V × Bool) :=
  grow hash unused {} size allocated

def insert (unused : K × V) (d : NodeDictionary K V) (key : K) (value : V) (allocated : Bool) :
    Option (NodeDictionary K V × Bool) :=
  let room :=
    if d.itemCount = d.tableSize then d.grow hash unused (d.tableSize * 2) allocated
    else some (d, true)
  room.map fun r => if r.2 then (r.1.place hash key value, true) else (r.1, false)

/-! ## `remove` -/

/-- The pointer that led to a node of the chain: that of the node before, or the table's. -/
def setPointer (d : NodeDictionary K V) (index : Nat) (prev : Option Nat) (p : Option Nat) :
    NodeDictionary K V :=
  match prev with
  | none => { d with table := d.table.set index p }
  | some i => { d with nodeCache := d.nodeCache.modify i fun n => { n with next := p } }

/-- The last node is moved into the place of a node that has left its chain. -/
def moveLast (d : NodeDictionary K V) (current last : Nat) : Option (NodeDictionary K V) :=
  match d.nodeCache[last]? with
  | none => none
  | some lastNode =>
    let d := { d with nodeCache := d.nodeCache.set current lastNode }
    let lastIndex := d.moduloTableSize (hash lastNode.key)
    (d.walkChain (fun i _ => i = last) lastIndex).map fun found =>
      found.elim d fun place => d.setPointer lastIndex place.1 (some current)

variable [DecidableEq K]

def remove (d : NodeDictionary K V) (key : K) : Option (NodeDictionary K V) :=
  let index := d.moduloTableSize (hash key)
  match d.walkChain (fun _ n => n.key = key) index with
  | none => none
  | some none => some d
  | some (some (prev, current)) =>
    match d.nodeCache[current]? with
    | none => none
    | some node =>
      let unlinked := d.setPointer index prev node.next
      let last := d.itemCount - 1
      let moved := if current = last then some unlinked else unlinked.moveLast hash current last
      moved.map fun d => { d with itemCount := d.itemCount - 1 }

/-! ## Lookups -/

/-- The place of a key in the node cache. -/
def find (d : NodeDictionary K V) (key : K) : Option (Option Nat) :=
  (d.walkChain (fun _ n => n.key = key) (d.moduloTableSize (hash key))).map fun found =>
    found.map Prod.snd

/-- `get`; the inner `none` is false. -/
def get (d : NodeDictionary K V) (key : K) : Option (Option V) :=
  (d.find hash key).map fun found => found.bind fun i => d.nodeCache[i]?.map (·.value)

/-- `operator[]`; the error is the text it throws. -/
def item (d : NodeDictionary K V) (key : K) : Option (Except String V) :=
  (d.get hash key).map fun found => found.elim (.error "Dictionary non-existent item") .ok

def hasKey (d : NodeDictionary K V) (key : K) : Option Bool :=
  (d.find hash key).map (·.isSome)

def setExistingItem (d : NodeDictionary K V) (key : K) (value : V) :
    Option (NodeDictionary K V × Bool) :=
  (d.find hash key).map fun found =>
    match found with
    | some i =>
      ({ d with nodeCache := d.nodeCache.modify i fun n => { n with value := value } }, true)
    | none => (d, false)

/-! ## Iteration -/

/-- A loop from `begin()` to `end()` that changes the values. -/
def forEach (d : NodeDictionary K V) (f : V → V) : NodeDictionary K V :=
  { d with nodeCache :=
      (d.nodeCache.take d.itemCount).map (fun n => { n with value := f n.value }) ++
        d.nodeCache.drop d.itemCount }

end NodeDictionary

/-! ## Calls -/

inductive DictionaryCall (K V : Type)
  | insert (key : K) (value : V) (allocated : Bool)
  | remove (key : K)
  | setExistingItem (key : K) (value : V)
  | get (key : K)
  | item (key : K)
  | hasKey (key : K)
deriving DecidableEq, Repr

inductive DictionaryAnswer (V : Type)
  | insert (ok : Bool)
  | remove
  | setExistingItem (ok : Bool)
  | get (value : Option V)
  | item (value : Except String V)
  | hasKey (found : Bool)

/-- A call, which returns the dictionary behind it and its answer. -/
def NodeDictionary.call {K V : Type} [DecidableEq K] (hash : K → Nat) (unused : K × V)
    (d : NodeDictionary K V) : DictionaryCall K V → Option (NodeDictionary K V × DictionaryAnswer V)
  | .insert key value allocated =>
    (d.insert hash unused key value allocated).map fun r => (r.1, .insert r.2)
  | .remove key => (d.remove hash key).map fun d' => (d', .remove)
  | .setExistingItem key value =>
    (d.setExistingItem hash key value).map fun r => (r.1, .setExistingItem r.2)
  | .get key => (d.get hash key).map fun value => (d, .get value)
  | .item key => (d.item hash key).map fun value => (d, .item value)
  | .hasKey key => (d.hasKey hash key).map fun found => (d, .hasKey found)

end Llfix
