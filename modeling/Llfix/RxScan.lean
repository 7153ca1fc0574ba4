import Llfix.RxBuffer

/-!
# A scan of the received bytes

What `process_rx_buffer` finds in a buffer, said of the bytes alone. While a `10=` with a delimiter
is still ahead, the next message goes from the first begin string to the delimiter of its tag 10.
The engine looks for the last such `10=` once, before its loop, and compares indices with it then;
the scan looks at the bytes that are left.

Results:
1. `le_finalTag10DelimiterIndex_iff`: the index that the engine compares with stands for the `10=`
   that is still ahead.
2. `parseLoop_leaves`: the messages of the loop, and what stands behind them at each of its exits.
3. `LeavesFrom.eq_completeMessages`: unless a message disconnects, these are the messages of the
   scan.
-/

namespace Llfix

/-! ## The search for the begin string -/

/-- A begin string starts the bytes, or may do so when more of them are there. -/
def mayBegin : Bytes → Bool
  | [] => false
  | [c] => c = '8'.toUInt8
  | c :: c' :: _ => c = '8'.toUInt8 && c' = fixEquals

theorem findBeginStringPosition_some {rest : Bytes} {o : Nat}
    (h : findBeginStringPosition rest = some o) :
    (∃ t, rest.drop o = '8'.toUInt8 :: fixEquals :: t) ∧
      ∀ p < o, mayBegin (rest.drop p) = false := by
  induction rest using findBeginStringPosition.induct generalizing o with
  | case1 c c' rest hc =>
    obtain ⟨rfl, rfl⟩ : c = '8'.toUInt8 ∧ c' = fixEquals := by simpa using hc
    obtain rfl : 0 = o := by simpa [findBeginStringPosition] using h
    exact ⟨⟨rest, rfl⟩, fun p hp => absurd hp (Nat.not_lt_zero p)⟩
  | case2 c c' rest hc ih =>
    rw [findBeginStringPosition, if_neg hc] at h
    obtain ⟨o', ho', rfl⟩ := Option.map_eq_some_iff.mp h
    obtain ⟨hstart, hskip⟩ := ih ho'
    refine ⟨hstart, fun p hp => ?_⟩
    cases p with
    | zero => exact Bool.eq_false_iff.mpr hc
    | succ p => exact hskip p (Nat.lt_of_succ_lt_succ hp)
  | case3 rest hrest => simp [findBeginStringPosition] at h

theorem findBeginStringPosition_none {rest : Bytes} (h : findBeginStringPosition rest = none)
    {p : Nat} (hp : p + 1 < rest.length) : mayBegin (rest.drop p) = false := by
  induction rest using findBeginStringPosition.induct generalizing p with
  | case1 c c' rest hc => simp [findBeginStringPosition, hc] at h
  | case2 c c' rest hc ih =>
    rw [findBeginStringPosition, if_neg hc] at h
    cases p with
    | zero => exact Bool.eq_false_iff.mpr hc
    | succ p => exact ih (Option.map_eq_none_iff.mp h) (Nat.lt_of_succ_lt_succ hp)
  | case3 rest hrest =>
    match rest, hrest with
    | [], _ => exact absurd hp (Nat.not_lt_zero _)
    | [c], _ => exact absurd hp (by simp)
    | c :: c' :: t, hrest => exact (hrest c c' t rfl).elim

/-- The bytes from the first begin string on. -/
def skipToBeginString (rest : Bytes) : Bytes :=
  (findBeginStringPosition rest).elim [] rest.drop

theorem skipToBeginString_of_some {rest : Bytes} {o : Nat}
    (h : findBeginStringPosition rest = some o) : skipToBeginString rest = rest.drop o := by
  rw [skipToBeginString, h]
  rfl

theorem skipToBeginString_of_none {rest : Bytes} (h : findBeginStringPosition rest = none) :
    skipToBeginString rest = [] := by
  rw [skipToBeginString, h]
  rfl

theorem skipToBeginString_suffix (rest : Bytes) : skipToBeginString rest <:+ rest := by
  cases hfind : findBeginStringPosition rest with
  | none =>
    rw [skipToBeginString_of_none hfind]
    exact List.nil_suffix
  | some o =>
    rw [skipToBeginString_of_some hfind]
    exact List.drop_suffix o rest

/-! ## Where the last `10=` is -/

section

variable {buffer : Bytes}

theorem findIdx?_delimiter {d : Nat} (hd : buffer[d]? = some fixDelimiter) :
    ∃ k ≤ d, buffer.findIdx? (· = fixDelimiter) = some k ∧ buffer[k]? = some fixDelimiter := by
  obtain ⟨hlt, hget⟩ := List.getElem?_eq_some_iff.mp hd
  cases h : buffer.findIdx? (· = fixDelimiter) with
  | none =>
    have hnone := List.findIdx?_eq_none_iff.mp h buffer[d] (List.getElem_mem hlt)
    simp [hget] at hnone
  | some k =>
    obtain ⟨hk, hfound, hfirst⟩ := List.findIdx?_eq_some_iff_getElem.mp h
    refine ⟨k, ?_, rfl, ?_⟩
    · by_contra hdk
      exact hfirst d (Nat.lt_of_not_le hdk) (by simp [hget])
    · rw [List.getElem?_eq_getElem hk, of_decide_eq_true hfound]

/-- The last delimiter. -/
theorem findDelimiterFromEnd_spec {d : Nat} (hd : buffer[d]? = some fixDelimiter) :
    ∃ last, findDelimiterFromEnd buffer = some last ∧ d ≤ last ∧
      buffer[last]? = some fixDelimiter := by
  obtain ⟨hlt, -⟩ := List.getElem?_eq_some_iff.mp hd
  have hreverse : buffer.reverse[buffer.length - 1 - d]? = some fixDelimiter := by
    rw [List.getElem?_reverse' (j := d) (by omega), hd]
  obtain ⟨k, hk, hfind, hget⟩ := findIdx?_delimiter hreverse
  refine ⟨buffer.length - 1 - k, ?_, by omega, ?_⟩
  · rw [findDelimiterFromEnd, hfind]
    rfl
  · rw [← List.getElem?_reverse (by omega), hget]

/-- The next delimiter. -/
theorem delimiterFrom_spec {index d : Nat} (hd : buffer[d]? = some fixDelimiter)
    (hle : index ≤ d) :
    ∃ next, delimiterFrom buffer index = some next ∧ index ≤ next ∧
      buffer[next]? = some fixDelimiter := by
  have hdrop : (buffer.drop index)[d - index]? = some fixDelimiter := by
    rw [List.getElem?_drop, Nat.add_sub_cancel' hle, hd]
  obtain ⟨k, -, hfind, hget⟩ := findIdx?_delimiter hdrop
  refine ⟨index + k, ?_, Nat.le_add_right index k, ?_⟩
  · rw [delimiterFrom, hfind]
    rfl
  · rw [← List.getElem?_drop, hget]

/-- There is none before the next delimiter. -/
theorem delimiterFrom_some {index next : Nat} (h : delimiterFrom buffer index = some next) :
    index ≤ next ∧ buffer[next]? = some fixDelimiter ∧
      ∀ k, index ≤ k → k < next → buffer[k]? ≠ some fixDelimiter := by
  obtain ⟨n, hfind, rfl⟩ := Option.map_eq_some_iff.mp h
  obtain ⟨hn, hfound, hfirst⟩ := List.findIdx?_eq_some_iff_getElem.mp hfind
  refine ⟨Nat.le_add_right index n, ?_, fun k hk hlt hget => ?_⟩
  · rw [← List.getElem?_drop, List.getElem?_eq_getElem hn, of_decide_eq_true hfound]
  · obtain ⟨k, rfl⟩ := Nat.exists_eq_add_of_le hk
    rw [← List.getElem?_drop] at hget
    obtain ⟨hk', hget⟩ := List.getElem?_eq_some_iff.mp hget
    exact hfirst k (by omega) (by simp [hget])

/-- The text `10=` at an index. -/
def Tag10At (buffer : Bytes) (index : Nat) : Prop := (buffer.drop index).take 3 = tag10Text

theorem Tag10At.getElem {index : Nat} (h : Tag10At buffer index) {k : Nat} (hk : k < 3) :
    buffer[index + k]? = tag10Text[k]? := by
  rw [← List.getElem?_drop, ← List.getElem?_take_of_lt hk, h]

theorem Tag10At.noDelimiter {index : Nat} (h : Tag10At buffer index) {k : Nat} (hk : k < 3) :
    buffer[index + k]? ≠ some fixDelimiter := by
  rw [h.getElem hk]
  intro hget
  exact absurd (List.mem_of_getElem? hget) (by decide)

/-- A delimiter from the `10=` on stands behind its three bytes. -/
theorem Tag10At.le_delimiter {index d : Nat} (h : Tag10At buffer index) (hle : index ≤ d)
    (hd : buffer[d]? = some fixDelimiter) : index + 3 ≤ d := by
  by_contra hlt
  obtain ⟨k, rfl⟩ := Nat.exists_eq_add_of_le hle
  exact h.noDelimiter (by omega) hd

theorem Tag10At.drop_iff {start index : Nat} :
    Tag10At (buffer.drop start) index ↔ Tag10At buffer (start + index) := by
  unfold Tag10At
  rw [List.drop_drop]

/-- The search goes down to the last `10=`. -/
theorem tag10SearchFrom_spec {i index : Nat} (hi : Tag10At buffer i) (hle : i ≤ index) :
    ∃ j, i ≤ j ∧ j ≤ index ∧ Tag10At buffer j ∧
      tag10SearchFrom buffer index = delimiterFrom buffer (j + 2) := by
  induction index with
  | zero =>
    obtain rfl := Nat.le_zero.mp hle
    refine ⟨0, Nat.le_refl 0, Nat.le_refl 0, hi, ?_⟩
    exact if_pos hi
  | succ index ih =>
    by_cases h : Tag10At buffer (index + 1)
    · refine ⟨index + 1, hle, Nat.le_refl _, h, ?_⟩
      exact if_pos h
    · have hne : i ≠ index + 1 := fun heq => h (heq ▸ hi)
      obtain ⟨j, hij, hj, hat, heq⟩ := ih (by omega)
      refine ⟨j, hij, by omega, hat, ?_⟩
      exact (if_neg h).trans heq

/-- A search that finds something has stopped at a `10=`. -/
theorem tag10SearchFrom_some {index final : Nat} (h : tag10SearchFrom buffer index = some final) :
    ∃ j, Tag10At buffer j ∧ delimiterFrom buffer (j + 2) = some final := by
  induction index with
  | zero =>
    unfold tag10SearchFrom at h
    split_ifs at h with hat
    exact ⟨0, hat, h⟩
  | succ index ih =>
    unfold tag10SearchFrom at h
    split_ifs at h with hat
    · exact ⟨index + 1, hat, h⟩
    · exact ih h

/-- What the engine takes for the last delimiter behind a `10=` is the first one behind it. -/
theorem finalTag10DelimiterIndex_some {final : Nat}
    (h : finalTag10DelimiterIndex buffer = some final) :
    ∃ j, Tag10At buffer j ∧ j + 2 ≤ final ∧ buffer[final]? = some fixDelimiter ∧
      ∀ k, j + 2 ≤ k → k < final → buffer[k]? ≠ some fixDelimiter := by
  unfold finalTag10DelimiterIndex at h
  split_ifs at h
  obtain ⟨last, -, hlast⟩ := Option.bind_eq_some_iff.mp h
  unfold findTag10StartFromEnd at hlast
  split_ifs at hlast
  obtain ⟨j, hat, hfrom⟩ := tag10SearchFrom_some hlast
  exact ⟨j, hat, delimiterFrom_some hfrom⟩

theorem finalTag10DelimiterIndex_delimiter {final : Nat}
    (h : finalTag10DelimiterIndex buffer = some final) :
    buffer[final]? = some fixDelimiter := by
  obtain ⟨-, -, -, hget, -⟩ := finalTag10DelimiterIndex_some h
  exact hget

/-- A `10=` at `i` and a delimiter from there on: the engine sees a delimiter behind a `10=`, no
sooner than there. -/
theorem finalTag10DelimiterIndex_of_tag10 {i e : Nat} (hi : Tag10At buffer i) (hie : i ≤ e)
    (he : buffer[e]? = some fixDelimiter) :
    ∃ final, finalTag10DelimiterIndex buffer = some final ∧ i + 2 ≤ final ∧
      buffer[final]? = some fixDelimiter := by
  obtain ⟨hlt, -⟩ := List.getElem?_eq_some_iff.mp he
  have hie := hi.le_delimiter hie he
  obtain ⟨last, hfind, hlast, hget⟩ := findDelimiterFromEnd_spec he
  have hstart : i ≤ min last (buffer.length - 3) := by omega
  obtain ⟨j, hij, hj, hat, hsearch⟩ := tag10SearchFrom_spec hi hstart
  have hjlast := hat.le_delimiter (Nat.le_trans hj (Nat.min_le_left _ _)) hget
  have hvalue : j + 2 ≤ last := by omega
  obtain ⟨final, hfinal, hle, hgetfinal⟩ := delimiterFrom_spec hget hvalue
  refine ⟨final, ?_, by omega, hgetfinal⟩
  unfold finalTag10DelimiterIndex minimumRequiredInitialBufferForParsing
  rw [if_neg (by omega), hfind]
  show findTag10StartFromEnd buffer last = some final
  rw [findTag10StartFromEnd, if_neg (by omega), hsearch, hfinal]

end

/-- The text `10=` stands in the bytes, and a delimiter behind it. -/
def holdsChecksum : Bytes → Bool
  | [] => false
  | c :: rest =>
    (c :: rest).take 3 = tag10Text && fixDelimiter ∈ c :: rest || holdsChecksum rest

theorem holdsChecksum_iff {rest : Bytes} :
    holdsChecksum rest = true ↔
      ∃ i e, Tag10At rest i ∧ i ≤ e ∧ rest[e]? = some fixDelimiter := by
  induction rest with
  | nil => simp [holdsChecksum]
  | cons c rest ih =>
    rw [holdsChecksum, Bool.or_eq_true, ih, Bool.and_eq_true, decide_eq_true_eq,
      decide_eq_true_eq]
    constructor
    · rintro (⟨hat, hmem⟩ | ⟨i, e, hat, hle, he⟩)
      · obtain ⟨e, he⟩ := List.mem_iff_getElem?.mp hmem
        exact ⟨0, e, hat, Nat.zero_le e, he⟩
      · exact ⟨i + 1, e + 1, hat, Nat.succ_le_succ hle, he⟩
    · rintro ⟨i, e, hat, hle, he⟩
      cases i with
      | zero => exact .inl ⟨hat, List.mem_of_getElem? he⟩
      | succ i =>
        obtain ⟨e, rfl⟩ : ∃ n, e = n + 1 := ⟨e - 1, by omega⟩
        exact .inr ⟨i, e, hat, Nat.le_of_succ_le_succ hle, he⟩

/-- At the begin of the buffer and behind a delimiter: the engine has a `10=` ahead. -/
theorem le_finalTag10DelimiterIndex_iff {buffer : Bytes} {readIndex : Nat}
    (hbehind : 0 < readIndex → buffer[readIndex - 1]? = some fixDelimiter) :
    (∃ final, finalTag10DelimiterIndex buffer = some final ∧ readIndex ≤ final) ↔
      holdsChecksum (buffer.drop readIndex) = true := by
  rw [holdsChecksum_iff]
  constructor
  · rintro ⟨final, hfinal, hle⟩
    obtain ⟨j, hat, hj, hget, hnone⟩ := finalTag10DelimiterIndex_some hfinal
    -- a delimiter between the `10=` and the one that the engine has found
    have hread : readIndex ≤ j := by
      by_contra hlt
      have hd := hbehind (by omega)
      have hbetween := hat.le_delimiter (d := readIndex - 1) (by omega) hd
      exact hnone (readIndex - 1) (by omega) (by omega) hd
    refine ⟨j - readIndex, final - readIndex, ?_, by omega, ?_⟩
    · rw [Tag10At.drop_iff, Nat.add_sub_cancel' hread]
      exact hat
    · rw [List.getElem?_drop, Nat.add_sub_cancel' hle, hget]
  · rintro ⟨i, e, hat, hie, he⟩
    rw [List.getElem?_drop] at he
    obtain ⟨final, hfinal, hle, -⟩ :=
      finalTag10DelimiterIndex_of_tag10 (Tag10At.drop_iff.mp hat) (by omega) he
    exact ⟨final, hfinal, by omega⟩

/-! ## The scan -/

/-- The messages that a scan of the bytes finds, with fuel for that many. -/
def scanMessages : Nat → Bytes → List Bytes
  | 0, _ => []
  | fuel + 1, rest =>
    if holdsChecksum rest then
      match messageEnd [] true (skipToBeginString rest) with
      | none => []
      | some length =>
        (skipToBeginString rest).take length ::
          scanMessages fuel ((skipToBeginString rest).drop length)
    else []

/-- The complete messages in the bytes. -/
def completeMessages (bytes : Bytes) : List Bytes := scanMessages bytes.length bytes

/-- What stands behind the messages. -/
def restAfter (buffer : Bytes) (messages : List Bytes) : Bytes :=
  messages.foldl (fun rest message => (skipToBeginString rest).drop message.length) buffer

@[simp] theorem restAfter_nil (buffer : Bytes) : restAfter buffer [] = buffer := rfl

@[simp] theorem restAfter_cons (buffer message : Bytes) (messages : List Bytes) :
    restAfter buffer (message :: messages) =
      restAfter ((skipToBeginString buffer).drop message.length) messages := rfl

theorem restAfter_suffix (buffer : Bytes) (messages : List Bytes) :
    restAfter buffer messages <:+ buffer := by
  induction messages generalizing buffer with
  | nil => exact List.suffix_refl buffer
  | cons message messages ih =>
    rw [restAfter_cons]
    exact (ih _).trans ((List.drop_suffix _ _).trans (skipToBeginString_suffix buffer))

/-- The bytes behind the complete messages. -/
def behindMessages (bytes : Bytes) : Bytes := restAfter bytes (completeMessages bytes)

/-- The scan is not through with the bytes, a `10=` is still ahead, but no begin string. -/
def runsOut (bytes : Bytes) : Bool :=
  holdsChecksum (behindMessages bytes) && (findBeginStringPosition (behindMessages bytes)).isNone

/-- None of the messages, behind the processed ones, leads to a disconnect. -/
def staysOpen (disconnects : List Bytes → Bool) : List Bytes → List Bytes → Bool
  | _, [] => true
  | processed, message :: messages =>
    !disconnects (processed ++ [message]) &&
      staysOpen disconnects (processed ++ [message]) messages

/-- The messages stand complete in the bytes, each at the first begin string behind the one before
it, and a `10=` was ahead of each. -/
def Complete : Bytes → List Bytes → Prop
  | _, [] => True
  | rest, message :: messages =>
    holdsChecksum rest = true ∧
      messageEnd [] true (skipToBeginString rest) = some message.length ∧
      message <+: skipToBeginString rest ∧
      Complete ((skipToBeginString rest).drop message.length) messages

/-- The scan begins with messages that stand complete in the bytes. -/
theorem Complete.scanMessages {rest : Bytes} {messages : List Bytes} (h : Complete rest messages)
    {fuel : Nat} (hfuel : messages.length ≤ fuel) :
    scanMessages fuel rest =
      messages ++ scanMessages (fuel - messages.length) (restAfter rest messages) := by
  induction messages generalizing rest fuel with
  | nil => rfl
  | cons message messages ih =>
    obtain ⟨hchecksum, hend, hprefix, htail⟩ := h
    obtain ⟨fuel, rfl⟩ : ∃ n, fuel = n + 1 := ⟨fuel - 1, by simp at hfuel; omega⟩
    rw [Llfix.scanMessages, if_pos hchecksum, hend]
    dsimp only
    rw [← List.prefix_iff_eq_take.mp hprefix, ih htail (Nat.le_of_succ_le_succ hfuel),
      List.length_cons, Nat.add_sub_add_right]
    rfl

/-- There is a byte for each message. -/
theorem Complete.length_le {rest : Bytes} {messages : List Bytes} (h : Complete rest messages) :
    messages.length ≤ rest.length := by
  induction messages generalizing rest with
  | nil => exact Nat.zero_le _
  | cons message messages ih =>
    obtain ⟨-, hend, -, htail⟩ := h
    have hpos := messageEnd_le hend
    have hrest := ih htail
    have hskip := (skipToBeginString_suffix rest).length_le
    rw [List.length_drop] at hrest
    rw [List.length_cons]
    omega

theorem staysOpen_append {disconnects : List Bytes → Bool} {processed messages more : List Bytes}
    (h : staysOpen disconnects processed (messages ++ more) = true) :
    staysOpen disconnects processed messages = true := by
  induction messages generalizing processed with
  | nil => rfl
  | cons message messages ih =>
    rw [List.cons_append, staysOpen, Bool.and_eq_true] at h
    rw [staysOpen, Bool.and_eq_true]
    exact ⟨h.1, ih h.2⟩

/-! ## The loop -/

/-- What stands behind the last message when the loop is left. -/
def RxExit.Leaves (buffer rest : Bytes) : RxExit → Prop
  | .noBeginString => holdsChecksum rest = true ∧ findBeginStringPosition rest = none
  | .incompleteMessage offset => offset ≤ buffer.length ∧
      buffer.drop offset = skipToBeginString rest ∧ (findBeginStringPosition rest).isSome ∧
      holdsChecksum rest = true ∧ messageEnd [] true (skipToBeginString rest) = none
  | .disconnected => True
  | .atEnd => rest = []
  | .remainder offset => (offset = 0 ∨ offset < buffer.length) ∧
      buffer.drop offset = rest ∧ holdsChecksum rest = false

/-- A result of the loop, from `readIndex` on: the messages it adds, and what stands behind them.
It ends in a disconnect exactly when one of these messages leads to one. -/
def LeavesFrom (disconnects : List Bytes → Bool) (buffer : Bytes) (processed : List Bytes)
    (readIndex : Nat) (result : List Bytes × RxExit) : Prop :=
  ∃ messages, result.1 = processed ++ messages ∧ Complete (buffer.drop readIndex) messages ∧
    result.2.Leaves buffer (restAfter (buffer.drop readIndex) messages) ∧
    (staysOpen disconnects processed messages = true ↔ result.2 ≠ .disconnected)

section

variable {disconnects : List Bytes → Bool} {buffer : Bytes} {processed : List Bytes}
  {readIndex offset length : Nat} {result : List Bytes × RxExit}

/-- Nothing is left to the scan where the loop is left without a disconnect. -/
theorem RxExit.Leaves.scanMessages {rest : Bytes} {exit : RxExit} (h : exit.Leaves buffer rest)
    (hexit : exit ≠ .disconnected) (fuel : Nat) : scanMessages fuel rest = [] := by
  cases fuel with
  | zero => rfl
  | succ fuel =>
    rw [Llfix.scanMessages]
    cases exit with
    | noBeginString => rw [if_pos h.1, skipToBeginString_of_none h.2]; rfl
    | incompleteMessage offset => rw [if_pos h.2.2.2.1, h.2.2.2.2]
    | disconnected => exact absurd rfl hexit
    | atEnd =>
      obtain rfl : rest = [] := h
      rfl
    | remainder offset => rw [if_neg (ne_of_eq_of_ne h.2.2 Bool.false_ne_true)]

/-- Of the exits without a disconnect, the one for a missing begin string is taken where the scan
runs out of them. -/
theorem RxExit.Leaves.noBeginString_iff {rest : Bytes} {exit : RxExit}
    (h : exit.Leaves buffer rest) (hexit : exit ≠ .disconnected) :
    exit = .noBeginString ↔
      (holdsChecksum rest && (findBeginStringPosition rest).isNone) = true := by
  cases exit with
  | noBeginString => exact iff_of_true rfl (by rw [h.1, h.2]; rfl)
  | incompleteMessage offset =>
    obtain ⟨o, ho⟩ := Option.isSome_iff_exists.mp h.2.2.1
    exact iff_of_false RxExit.noConfusion (by simp [ho])
  | disconnected => exact absurd rfl hexit
  | atEnd =>
    obtain rfl : rest = [] := h
    exact iff_of_false RxExit.noConfusion (by simp [holdsChecksum])
  | remainder offset => exact iff_of_false RxExit.noConfusion (by simp [h.2.2])

/-- A result without a disconnect has the messages of the scan, and leaves what stands behind
them. -/
theorem LeavesFrom.eq_completeMessages (h : LeavesFrom disconnects buffer [] 0 result)
    (hexit : result.2 ≠ .disconnected) :
    result.1 = completeMessages buffer ∧ Complete buffer (completeMessages buffer) ∧
      result.2.Leaves buffer (behindMessages buffer) := by
  obtain ⟨messages, hresult, hcomplete, hleaves, -⟩ := h
  rw [List.drop_zero] at hcomplete hleaves
  have hscan : completeMessages buffer = messages := by
    rw [completeMessages, hcomplete.scanMessages hcomplete.length_le,
      hleaves.scanMessages hexit, List.append_nil]
  rw [behindMessages, hscan]
  exact ⟨hresult, hcomplete, hleaves⟩

/-- The loop goes through the scan without a disconnect exactly when no message leads to one. -/
theorem LeavesFrom.staysOpen_iff (h : LeavesFrom disconnects buffer [] 0 result) :
    staysOpen disconnects [] (completeMessages buffer) = true ↔ result.2 ≠ .disconnected := by
  constructor
  · intro hopen
    obtain ⟨messages, -, hcomplete, -, hiff⟩ := h
    rw [List.drop_zero] at hcomplete
    rw [completeMessages, hcomplete.scanMessages hcomplete.length_le] at hopen
    exact hiff.mp (staysOpen_append hopen)
  · intro hexit
    have hmessages := (h.eq_completeMessages hexit).1
    obtain ⟨messages, hresult, -, -, hiff⟩ := h
    rw [← hmessages, hresult]
    exact hiff.mpr hexit

/-- What holds of the loop behind a message holds of it from before the message. -/
theorem LeavesFrom.message (hfind : findBeginStringPosition (buffer.drop readIndex) = some offset)
    (hend : messageEnd [] true (buffer.drop (readIndex + offset)) = some length)
    (hchecksum : holdsChecksum (buffer.drop readIndex) = true)
    (hopen : disconnects (processed ++ [(buffer.drop (readIndex + offset)).take length]) = false)
    (h : LeavesFrom disconnects buffer
      (processed ++ [(buffer.drop (readIndex + offset)).take length])
      (readIndex + offset + length) result) :
    LeavesFrom disconnects buffer processed readIndex result := by
  obtain ⟨messages, hresult, hcomplete, hleaves, hiff⟩ := h
  have hskip : skipToBeginString (buffer.drop readIndex) = buffer.drop (readIndex + offset) := by
    rw [skipToBeginString_of_some hfind, List.drop_drop]
  have hlength : ((buffer.drop (readIndex + offset)).take length).length = length :=
    List.length_take_of_le (messageEnd_le hend).2
  have hrest : (skipToBeginString (buffer.drop readIndex)).drop
      ((buffer.drop (readIndex + offset)).take length).length =
        buffer.drop (readIndex + offset + length) := by
    rw [hskip, hlength, List.drop_drop]
  refine ⟨(buffer.drop (readIndex + offset)).take length :: messages, ?_,
    ⟨hchecksum, ?_, ?_, ?_⟩, ?_, ?_⟩
  · rw [hresult, List.append_assoc, List.singleton_append]
  · rw [hskip, hend, hlength]
  · rw [hskip]
    exact List.take_prefix _ _
  · rw [hrest]
    exact hcomplete
  · rw [restAfter_cons, hrest]
    exact hleaves
  · rw [staysOpen, hopen]
    exact hiff

/-- A loop that is left at once, when no message has led to a disconnect. -/
theorem LeavesFrom.stop {exit : RxExit} (hleaves : exit.Leaves buffer (buffer.drop readIndex))
    (hexit : exit ≠ .disconnected) :
    LeavesFrom disconnects buffer processed readIndex (processed, exit) :=
  ⟨[], (List.append_nil _).symm, trivial, hleaves, iff_of_true rfl hexit⟩

/-- A message that leads to a disconnect. -/
theorem LeavesFrom.disconnect
    (hfind : findBeginStringPosition (buffer.drop readIndex) = some offset)
    (hend : messageEnd [] true (buffer.drop (readIndex + offset)) = some length)
    (hchecksum : holdsChecksum (buffer.drop readIndex) = true)
    (hdis : disconnects (processed ++ [(buffer.drop (readIndex + offset)).take length]) = true) :
    LeavesFrom disconnects buffer processed readIndex
      (processed ++ [(buffer.drop (readIndex + offset)).take length], .disconnected) := by
  have hskip : skipToBeginString (buffer.drop readIndex) = buffer.drop (readIndex + offset) := by
    rw [skipToBeginString_of_some hfind, List.drop_drop]
  refine ⟨[(buffer.drop (readIndex + offset)).take length], rfl, ⟨hchecksum, ?_, ?_, trivial⟩,
    trivial, ?_⟩
  · rw [hskip, hend, List.length_take_of_le (messageEnd_le hend).2]
  · rw [hskip]
    exact List.take_prefix _ _
  · rw [staysOpen, hdis]
    exact iff_of_false Bool.false_ne_true fun h => h rfl

end

/-- A message ends with a delimiter. -/
theorem messageEnd_delimiter {tag : Bytes} {lookingForEquals : Bool} {text : Bytes} {length : Nat}
    (h : messageEnd tag lookingForEquals text = some length) :
    text[length - 1]? = some fixDelimiter := by
  induction text generalizing tag lookingForEquals length with
  | nil => simp [messageEnd] at h
  | cons c rest ih =>
    have step : ∀ {tag : Bytes} {b : Bool},
        (messageEnd tag b rest).map (· + 1) = some length →
          (c :: rest)[length - 1]? = some fixDelimiter := by
      intro tag b hmap
      obtain ⟨l, hl, rfl⟩ := Option.map_eq_some_iff.mp hmap
      obtain ⟨l, rfl⟩ : ∃ n, l = n + 1 := ⟨l - 1, by have := (messageEnd_le hl).1; omega⟩
      exact ih hl
    unfold messageEnd at h
    split_ifs at h with _ _ _ hc
    · exact step h
    · exact step h
    · exact step h
    · obtain rfl : 1 = length := Option.some.inj h
      rw [hc]
      rfl
    · exact step h
    · exact step h

/-- From the begin of the buffer, or from behind a delimiter, while a `10=` is ahead. -/
theorem parseLoop_leaves (disconnects : List Bytes → Bool) {buffer : Bytes} {final : Nat}
    (hfinal : finalTag10DelimiterIndex buffer = some final) (fuel : Nat) (processed : List Bytes)
    (readIndex : Nat) (hbehind : 0 < readIndex → buffer[readIndex - 1]? = some fixDelimiter)
    (hle : readIndex ≤ final) (hfuel : buffer.length ≤ readIndex + fuel) :
    LeavesFrom disconnects buffer processed readIndex
      (parseLoop disconnects buffer final fuel processed readIndex) := by
  obtain ⟨hlt, -⟩ := List.getElem?_eq_some_iff.mp (finalTag10DelimiterIndex_delimiter hfinal)
  -- A turn is left for every byte from the read index on, so the fuel does not run out.
  induction fuel generalizing processed readIndex with
  | zero => exact absurd hfuel (by omega)
  | succ fuel ih =>
    have hchecksum := (le_finalTag10DelimiterIndex_iff hbehind).mp ⟨final, hfinal, hle⟩
    cases hfind : findBeginStringPosition (buffer.drop readIndex) with
    | none =>
      rw [parseLoop_noBeginString hfind]
      exact .stop ⟨hchecksum, hfind⟩ RxExit.noConfusion
    | some offset =>
      have hskip : skipToBeginString (buffer.drop readIndex) =
          buffer.drop (readIndex + offset) := by
        rw [skipToBeginString_of_some hfind, List.drop_drop]
      cases hend : messageEnd [] true (buffer.drop (readIndex + offset)) with
      | none =>
        rw [parseLoop_incomplete hfind hend]
        refine .stop ⟨?_, hskip.symm, ?_, hchecksum, ?_⟩ RxExit.noConfusion
        · obtain ⟨⟨t, ht⟩, -⟩ := findBeginStringPosition_some hfind
          have hlen := congrArg List.length ht
          simp only [List.length_drop, List.length_cons] at hlen
          omega
        · rw [hfind]
          rfl
        · rw [hskip, hend]
      | some length =>
        obtain ⟨hpos, hlen⟩ := messageEnd_le hend
        rw [List.length_drop] at hlen
        have hbehind' : 0 < readIndex + offset + length →
            buffer[readIndex + offset + length - 1]? = some fixDelimiter := by
          intro _
          rw [Nat.add_sub_assoc hpos, ← List.getElem?_drop]
          exact messageEnd_delimiter hend
        rw [parseLoop_message hfind hend]
        dsimp only
        -- Behind a message: a disconnect, the end of the bytes, no `10=` ahead, or the next turn.
        split_ifs with hdis hall hbeyond
        · exact .disconnect hfind hend hchecksum hdis
        · refine .message hfind hend hchecksum (Bool.eq_false_iff.mpr hdis)
            (.stop ?_ RxExit.noConfusion)
          rw [hall]
          exact List.drop_length
        · refine .message hfind hend hchecksum (Bool.eq_false_iff.mpr hdis)
            (.stop ⟨.inr (by omega), rfl, ?_⟩ RxExit.noConfusion)
          rw [Bool.eq_false_iff, ne_eq, ← le_finalTag10DelimiterIndex_iff hbehind']
          rintro ⟨final', hfinal', hle'⟩
          rw [hfinal, Option.some.injEq] at hfinal'
          omega
        · exact .message hfind hend hchecksum (Bool.eq_false_iff.mpr hdis)
            (ih _ _ hbehind' (by omega) (by omega))

end Llfix
