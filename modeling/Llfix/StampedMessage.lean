import Llfix.DictionaryRefinement
import Llfix.UnknownSessionContext

/-!
# The incoming message and its generations

`IncomingFixMessage` with its dictionary as it is stored. `reset` only takes the next generation;
what was set before stays in the dictionary with an older stamp. The values are the string views
that `set_tag` is given, and are only passed on.
-/

namespace Llfix

/-- `IncomingValue`. -/
structure StampedValue (V : Type) where
  value : V
  generationId : UInt64 := 0
deriving DecidableEq, Repr

/-- `IncomingFixRepeatingGroups`: the pairs below `pointer` are in use. -/
structure RepeatingGroupStore (V : Type) where
  tagValuePairs : List (Tag × V)
  pointer : Nat := 0
deriving DecidableEq, Repr

namespace RepeatingGroupStore

variable {V : Type} (placeholder : Tag × V)

/-- The constructor adds 1024 placeholders. -/
def create : RepeatingGroupStore V :=
  { tagValuePairs := List.replicate 1024 placeholder }

def set (store : RepeatingGroupStore V) (tag : Tag) (value : V) : RepeatingGroupStore V :=
  let pairs :=
    if store.pointer + 1 = store.tagValuePairs.length then store.tagValuePairs ++ [placeholder]
    else store.tagValuePairs
  { tagValuePairs := pairs.set store.pointer (tag, value), pointer := store.pointer + 1 }

def reset (store : RepeatingGroupStore V) : RepeatingGroupStore V := { store with pointer := 0 }

/-- The pairs from `begin()` to `end()`. -/
def values (store : RepeatingGroupStore V) : List (Tag × V) :=
  store.tagValuePairs.take store.pointer

/-- `copy_non_dirty_values_from` another store. -/
def copyNonDirtyValuesFrom (store other : RepeatingGroupStore V) : RepeatingGroupStore V :=
  other.values.foldl (fun store pair => store.set placeholder pair.1 pair.2) store

/-- `copy_non_dirty_values_from` the store itself, from index `i` on: the loop ends at the pointer,
which `set` moves on. `none` is a loop that has not ended after so many rounds. -/
def copyFromItself : Nat → Nat → RepeatingGroupStore V → Option (RepeatingGroupStore V)
  | 0, i, store => if store.pointer ≤ i then some store else none
  | rounds + 1, i, store =>
    if store.pointer ≤ i then some store
    else
      store.tagValuePairs[i]?.bind fun pair =>
        copyFromItself rounds (i + 1) (store.set placeholder pair.1 pair.2)

end RepeatingGroupStore

/-- `IncomingFixMessage`. -/
structure StampedMessage (V : Type) where
  dict : NodeDictionary Tag (StampedValue V)
  generationId : UInt64 := 1
  repeatingGroups : RepeatingGroupStore V
deriving DecidableEq, Repr

namespace StampedMessage

variable {V : Type} (null : V)

/-- The pair of a node that was never used. -/
def unused : Tag × StampedValue V := (0, { value := null })

/-- A message behind its constructor and `initialise`. -/
def initialise : Option (StampedMessage V) :=
  (NodeDictionary.initialise tagHash (unused null) 64 true).map fun r =>
    { dict := r.1, repeatingGroups := RepeatingGroupStore.create (0, null) }

/-- `m_dict[tag]`; `none` also when it throws. -/
def node (m : StampedMessage V) (tag : Tag) : Option (StampedValue V) :=
  (m.dict.item tagHash tag).bind Except.toOption

def hasTag (m : StampedMessage V) (tag : Tag) : Option Bool :=
  (m.dict.hasKey tagHash tag).bind fun known =>
    if known = false then some false
    else (m.node tag).map fun node => node.generationId = m.generationId

def getTagValue (m : StampedMessage V) (tag : Tag) : Option V := (m.node tag).map (·.value)

def setTag (m : StampedMessage V) (tag : Tag) (value : V) : Option (StampedMessage V) :=
  let node : StampedValue V := { value := value, generationId := m.generationId }
  (m.dict.hasKey tagHash tag).bind fun known =>
    if known then
      (m.dict.setExistingItem tagHash tag node).map fun r => { m with dict := r.1 }
    else
      (m.dict.insert tagHash (unused null) tag node true).map fun r => { m with dict := r.1 }

def setRepeatingGroupTag (m : StampedMessage V) (tag : Tag) (value : V) : StampedMessage V :=
  { m with repeatingGroups := m.repeatingGroups.set (0, null) tag value }

def reset (m : StampedMessage V) : StampedMessage V :=
  let m :=
    if m.generationId + 1 = 0 then
      -- the counter has wrapped around
      { m with
        dict := m.dict.forEach fun node => { node with generationId := 0 }
        generationId := m.generationId + 1 + 1 }
    else { m with generationId := m.generationId + 1 }
  { m with repeatingGroups := m.repeatingGroups.reset }

/-- The loop of `copy_non_dirty_tag_values_from` over the dictionary. A message that runs it over
its own items writes each value where it already stands. -/
def copyTags (m other : StampedMessage V) : Option (StampedMessage V) :=
  other.dict.items.foldlM
    (fun m item => (other.hasTag item.1).bind fun has =>
      if has then m.setTag null item.1 item.2.value else some m) m

/-- `copy_non_dirty_tag_values_from` another message. -/
def copyNonDirtyTagValuesFrom (m other : StampedMessage V) : Option (StampedMessage V) :=
  (m.copyTags null other).map fun m =>
    { m with repeatingGroups :=
        m.repeatingGroups.copyNonDirtyValuesFrom (0, null) other.repeatingGroups }

/-- `copy_non_dirty_tag_values_from` the message itself. -/
def copyItself (rounds : Nat) (m : StampedMessage V) : Option (StampedMessage V) :=
  (m.copyTags null m).bind fun m =>
    (m.repeatingGroups.copyFromItself (0, null) rounds 0).map fun groups =>
      { m with repeatingGroups := groups }

/-! ## Iteration -/

/-- `skip_stale_entries`, with the nodes up to `end()`. -/
def skipStaleEntries (m : StampedMessage V) (nodes : List (Tag × StampedValue V)) :
    List (Tag × StampedValue V) :=
  nodes.dropWhile fun node => node.2.generationId ≠ m.generationId

/-- The nodes a loop visits whose iterator is at the first one of `nodes`. -/
def visitFrom (m : StampedMessage V) : Nat → List (Tag × StampedValue V) →
    List (Tag × StampedValue V)
  | 0, _ => []
  | _ + 1, [] => []
  | rounds + 1, node :: nodes => node :: visitFrom m rounds (m.skipStaleEntries nodes)

/-- The tags and values from `begin()` to `end()`. -/
def visited (m : StampedMessage V) : List (Tag × V) :=
  (m.visitFrom m.dict.items.length (m.skipStaleEntries m.dict.items)).map fun node =>
    (node.1, node.2.value)

end StampedMessage

/-! ## Calls on several messages -/

inductive StampedCall (V : Type)
  | setTag (i : Nat) (tag : Tag) (value : V)
  | setRepeatingGroupTag (i : Nat) (tag : Tag) (value : V)
  | reset (i : Nat)
  | copyNonDirtyTagValuesFrom (i other : Nat)
deriving DecidableEq, Repr

/-- A call on the messages, the `i`-th of which is changed. A loop that a message runs over its own
groups is given `rounds`; all others end. -/
def callMessage {V : Type} (null : V) (rounds : Nat) (messages : Nat → StampedMessage V) :
    StampedCall V → Option (Nat → StampedMessage V)
  | .setTag i tag value =>
    ((messages i).setTag null tag value).map (Function.update messages i)
  | .setRepeatingGroupTag i tag value =>
    some (Function.update messages i ((messages i).setRepeatingGroupTag null tag value))
  | .reset i => some (Function.update messages i (messages i).reset)
  | .copyNonDirtyTagValuesFrom i other =>
    (if other = i then (messages i).copyItself null rounds
      else (messages i).copyNonDirtyTagValuesFrom null (messages other)).map
        (Function.update messages i)

/-- The calls one after the other, on messages that were all initialised. -/
def callMessages {V : Type} (null : V) (rounds : Nat) (calls : List (StampedCall V)) :
    Option (Nat → StampedMessage V) :=
  (StampedMessage.initialise null).bind fun m =>
    calls.foldlM (callMessage null rounds) fun _ => m

end Llfix
