import Llfix.RxRemainder

/-!
# The messages of a stream, however it is cut

A stream of well-formed messages arrives in any chunks. At each read the buffer holds some whole
messages and the start of one more; the engine dispatches the former and retains the latter.

Results:
1. `messageEnd_message`, `messageEnd_start`: a message ends at its tag 10, the start of one does
   not end.
2. `finalTag10DelimiterIndex_message`: behind any whole message of the buffer, or at its end, the
   engine finds a `10=` with its delimiter, whatever other fields look like one.
3. `dispatch_chunks`: exactly the messages of the stream are dispatched.
-/

namespace Llfix

/-! ## Well-formed messages -/

/-- A field `tag=value`. -/
structure WireField where
  tag : Bytes
  value : Bytes
  tag_noEquals : fixEquals ∉ tag
  tag_noDelimiter : fixDelimiter ∉ tag
  value_nonempty : value ≠ []
  value_noDelimiter : fixDelimiter ∉ value

/-- A field with its delimiter. -/
def WireField.bytes (f : WireField) : Bytes := f.tag ++ fixEquals :: (f.value ++ [fixDelimiter])

/-- A message: tag 8 is first, tag 10 is last, and no other tag is read as tag 10. -/
structure WireMessage where
  beginString : WireField
  fields : List WireField
  checksum : WireField
  beginString_tag : beginString.tag = ['8'.toUInt8]
  fields_tag : ∀ f ∈ fields, readsAsChecksumTag f.tag = false
  checksum_tag : checksum.tag = ['1'.toUInt8, '0'.toUInt8]

def WireMessage.bytes (m : WireMessage) : Bytes :=
  ((m.beginString :: m.fields).flatMap WireField.bytes) ++ m.checksum.bytes

/-- The bytes of a stream of messages. -/
def wireBytes (messages : List WireMessage) : Bytes := messages.flatMap WireMessage.bytes

/-! ## Where a message ends -/

section

variable {tag text rest : Bytes}

theorem messageEnd_tag (hequals : fixEquals ∉ text) (hdelimiter : fixDelimiter ∉ text) :
    messageEnd tag true (text ++ fixEquals :: rest) =
      (messageEnd (tag ++ text) false rest).map (· + (text.length + 1)) := by
  induction text generalizing tag with
  | nil => simp [messageEnd]
  | cons c text ih =>
    obtain ⟨hc, hequals⟩ := not_or.mp (mt List.mem_cons.mpr hequals)
    obtain ⟨hc', hdelimiter⟩ := not_or.mp (mt List.mem_cons.mpr hdelimiter)
    rw [List.cons_append, messageEnd, if_pos rfl, if_neg (Ne.symm hc), if_neg (Ne.symm hc'),
      ih hequals hdelimiter, Option.map_map, List.append_assoc, List.singleton_append]
    rfl

theorem messageEnd_value (hdelimiter : fixDelimiter ∉ text) :
    messageEnd tag false (text ++ fixDelimiter :: rest) =
      if readsAsChecksumTag tag then some (text.length + 1)
      else (messageEnd [] true rest).map (· + (text.length + 1)) := by
  induction text with
  | nil => rw [List.nil_append, messageEnd, if_neg Bool.false_ne_true, if_pos rfl]; rfl
  | cons c text ih =>
    obtain ⟨hc, hdelimiter⟩ := not_or.mp (mt List.mem_cons.mpr hdelimiter)
    rw [List.cons_append, messageEnd, if_neg Bool.false_ne_true, if_neg (Ne.symm hc),
      ih hdelimiter]
    split_ifs
    · rfl
    · rw [Option.map_map]
      rfl

/-- The engine reads a field as one. -/
theorem messageEnd_field (f : WireField) :
    messageEnd [] true (f.bytes ++ rest) =
      if readsAsChecksumTag f.tag then some f.bytes.length
      else (messageEnd [] true rest).map (· + f.bytes.length) := by
  have hlength : f.bytes.length = (f.value.length + 1) + (f.tag.length + 1) := by
    simp only [WireField.bytes, List.length_append, List.length_cons, List.length_nil]
    omega
  have hbytes : f.bytes ++ rest = f.tag ++ fixEquals :: (f.value ++ fixDelimiter :: rest) := by
    simp [WireField.bytes]
  rw [hbytes, messageEnd_tag f.tag_noEquals f.tag_noDelimiter, List.nil_append,
    messageEnd_value f.value_noDelimiter, hlength]
  split_ifs
  · rfl
  · rw [Option.map_map]
    congr 1
    funext n
    simp only [Function.comp_apply]
    omega

theorem messageEnd_fields {fields : List WireField}
    (hfields : ∀ f ∈ fields, readsAsChecksumTag f.tag = false) :
    messageEnd [] true (fields.flatMap WireField.bytes ++ rest) =
      (messageEnd [] true rest).map (· + (fields.flatMap WireField.bytes).length) := by
  induction fields with
  | nil => simp
  | cons f fields ih =>
    rw [List.flatMap_cons, List.append_assoc, messageEnd_field,
      if_neg (ne_of_eq_of_ne (hfields f List.mem_cons_self) Bool.false_ne_true),
      ih fun g hg => hfields g (List.mem_cons_of_mem _ hg), Option.map_map, List.length_append]
    congr 1
    funext n
    simp only [Function.comp_apply]
    omega

/-- A message ends with it. -/
theorem messageEnd_message (m : WireMessage) :
    messageEnd [] true (m.bytes ++ rest) = some m.bytes.length := by
  have hfields : ∀ f ∈ m.beginString :: m.fields, readsAsChecksumTag f.tag = false := by
    intro f hf
    rcases List.mem_cons.mp hf with rfl | hf
    · rw [m.beginString_tag]
      decide
    · exact m.fields_tag f hf
  have hchecksum : readsAsChecksumTag m.checksum.tag = true := by
    rw [m.checksum_tag]
    decide
  rw [WireMessage.bytes, List.append_assoc, messageEnd_fields hfields, messageEnd_field,
    if_pos hchecksum, Option.map_some, List.length_append, Nat.add_comm]

/-- What follows a message does not change where it ends. -/
theorem messageEnd_append {lookingForEquals : Bool} {length : Nat}
    (h : messageEnd tag lookingForEquals text = some length) :
    messageEnd tag lookingForEquals (text ++ rest) = some length := by
  induction text generalizing tag lookingForEquals length with
  | nil => simp [messageEnd] at h
  | cons c text ih =>
    have step : ∀ {tag : Bytes} {b : Bool},
        (messageEnd tag b text).map (· + 1) = some length →
          (messageEnd tag b (text ++ rest)).map (· + 1) = some length := by
      intro tag b hmap
      obtain ⟨l, hl, rfl⟩ := Option.map_eq_some_iff.mp hmap
      rw [ih hl]
      rfl
    rw [List.cons_append]
    unfold messageEnd at h ⊢
    split_ifs at h ⊢
    · exact step h
    · exact step h
    · exact step h
    · exact h
    · exact step h
    · exact step h

/-- The start of a message does not end. -/
theorem messageEnd_start {m : WireMessage} (hstart : text <+: m.bytes)
    (hlt : text.length < m.bytes.length) : messageEnd [] true text = none := by
  obtain ⟨more, hmore⟩ := hstart
  cases h : messageEnd [] true text with
  | none => rfl
  | some length =>
    have hm : messageEnd [] true (m.bytes ++ []) = some m.bytes.length := messageEnd_message m
    rw [List.append_nil, ← hmore, messageEnd_append h] at hm
    have hle := (messageEnd_le h).2
    rw [← hmore] at hlt
    simp only [Option.some.injEq] at hm
    omega

end

/-! ## Where the last `10=` is -/

section

variable {buffer : Bytes}

/-- A `10=` at `i` whose value reaches up to the delimiter at `e`: the engine sees a delimiter
behind a `10=`, no sooner than there. -/
theorem finalTag10DelimiterIndex_spec {i e : Nat} (hi : Tag10At buffer i) (hie : i + 3 ≤ e)
    (he : buffer[e]? = some fixDelimiter)
    (hvalue : ∀ k, i ≤ k → k < e → buffer[k]? ≠ some fixDelimiter) :
    ∃ final, finalTag10DelimiterIndex buffer = some final ∧ e ≤ final ∧
      buffer[final]? = some fixDelimiter := by
  obtain ⟨final, hfinal, hle, hget⟩ := finalTag10DelimiterIndex_of_tag10 hi (by omega) he
  refine ⟨final, hfinal, ?_, hget⟩
  by_contra hlt
  exact hvalue final (by omega) (by omega) hget

/-- Behind a field that is read as tag 10. -/
theorem finalTag10DelimiterIndex_checksum {front value after : Bytes}
    (hvalue : fixDelimiter ∉ value)
    (hbuffer : buffer = front ++ (tag10Text ++ (value ++ fixDelimiter :: after))) :
    ∃ final, finalTag10DelimiterIndex buffer = some final ∧
      front.length + (value.length + 3) ≤ final ∧ buffer[final]? = some fixDelimiter := by
  have hi : Tag10At buffer front.length := by
    rw [Tag10At, hbuffer, List.drop_left]
    rfl
  have hget : ∀ k, buffer[front.length + 3 + k]? = (value ++ fixDelimiter :: after)[k]? := by
    intro k
    rw [hbuffer, Nat.add_assoc, List.getElem?_append_right (Nat.le_add_right _ _),
      Nat.add_sub_cancel_left, List.getElem?_append_right (Nat.le_add_right 3 k)]
    congr 1
    exact Nat.add_sub_cancel_left 3 k
  have he : buffer[front.length + 3 + value.length]? = some fixDelimiter := by
    rw [hget, List.getElem?_append_right (Nat.le_refl _), Nat.sub_self]
    rfl
  obtain ⟨final, hfinal, hle, hgetfinal⟩ :=
    finalTag10DelimiterIndex_spec hi (Nat.le_add_right _ _) he (by
      intro k hk hlt
      rcases Nat.lt_or_ge k (front.length + 3) with h3 | h3
      · obtain ⟨k, rfl⟩ := Nat.exists_eq_add_of_le hk
        exact hi.noDelimiter (by omega)
      · obtain ⟨k, rfl⟩ := Nat.exists_eq_add_of_le h3
        rw [hget, List.getElem?_append_left (by omega)]
        intro hmem
        exact hvalue (List.mem_of_getElem? hmem))
  exact ⟨final, hfinal, by omega, hgetfinal⟩

/-- Behind the last field of any whole message. -/
theorem finalTag10DelimiterIndex_message {before after : Bytes} {m : WireMessage}
    (hbuffer : buffer = before ++ (m.bytes ++ after)) :
    ∃ final, finalTag10DelimiterIndex buffer = some final ∧
      before.length + m.bytes.length ≤ final + 1 ∧ buffer[final]? = some fixDelimiter := by
  let front := before ++ (m.beginString :: m.fields).flatMap WireField.bytes
  have hsplit : buffer = front ++ (tag10Text ++ (m.checksum.value ++ fixDelimiter :: after)) := by
    simp [hbuffer, front, WireMessage.bytes, WireField.bytes, m.checksum_tag, tag10Text]
  have hlength : before.length + m.bytes.length = front.length + (m.checksum.value.length + 4) := by
    simp only [front, WireMessage.bytes, WireField.bytes, m.checksum_tag, List.length_append,
      List.length_cons, List.length_nil]
    omega
  obtain ⟨final, hfinal, hle, hget⟩ :=
    finalTag10DelimiterIndex_checksum m.checksum.value_noDelimiter hsplit
  exact ⟨final, hfinal, by omega, hget⟩

end

/-! ## One buffer -/

theorem WireMessage.bytes_begin (m : WireMessage) :
    ∃ t, m.bytes = '8'.toUInt8 :: fixEquals :: t := by
  refine ⟨m.beginString.value ++ [fixDelimiter] ++
    m.fields.flatMap WireField.bytes ++ m.checksum.bytes, ?_⟩
  simp [WireMessage.bytes, WireField.bytes, m.beginString_tag]

theorem findBeginStringPosition_begin (t : Bytes) :
    findBeginStringPosition ('8'.toUInt8 :: fixEquals :: t) = some 0 := by
  rw [findBeginStringPosition]
  rfl

@[simp] theorem wireBytes_nil : wireBytes [] = [] := rfl

@[simp] theorem wireBytes_cons (m : WireMessage) (messages : List WireMessage) :
    wireBytes (m :: messages) = m.bytes ++ wireBytes messages := rfl

theorem wireBytes_append (messages messages' : List WireMessage) :
    wireBytes (messages ++ messages') = wireBytes messages ++ wireBytes messages' :=
  List.flatMap_append

theorem WireMessage.bytes_pos (m : WireMessage) : 0 < m.bytes.length := by
  obtain ⟨t, ht⟩ := m.bytes_begin
  rw [ht]
  exact Nat.succ_pos _

theorem two_mul_length_le (messages : List WireMessage) :
    2 * messages.length ≤ (wireBytes messages).length := by
  induction messages with
  | nil => exact Nat.le_refl 0
  | cons m messages ih =>
    obtain ⟨t, ht⟩ := m.bytes_begin
    simp only [wireBytes_cons, ht, List.length_append, List.length_cons]
    omega

/-- The bytes are the start of the next message, and there are none when there is no next one. -/
def StartOf (rest : Bytes) : List WireMessage → Prop
  | [] => rest = []
  | m :: _ => rest <+: m.bytes ∧ rest.length < m.bytes.length

/-- From the start of a message the loop does not go on, when it gets there. -/
theorem parseLoop_start {buffer rest : Bytes} {todo : List WireMessage} (hstart : StartOf rest todo)
    {final readIndex : Nat} (hdrop : buffer.drop readIndex = rest) (hle : readIndex ≤ final)
    (hfinal : buffer[final]? = some fixDelimiter) (fuel : Nat) (processed : List Bytes) :
    parseLoop (fun _ => false) buffer final (fuel + 1) processed readIndex =
      (processed, .incompleteMessage readIndex) := by
  have hget : rest[final - readIndex]? = some fixDelimiter := by
    rw [← hdrop, List.getElem?_drop, Nat.add_sub_cancel' hle, hfinal]
  cases todo with
  | nil =>
    obtain rfl := hstart
    cases hget
  | cons m todo =>
    obtain ⟨hbegins, hlt⟩ := hstart
    obtain ⟨t, ht⟩ := m.bytes_begin
    have hfind : findBeginStringPosition (buffer.drop readIndex) = some 0 := by
      rw [hdrop]
      obtain ⟨more, hmore⟩ := hbegins
      match rest, hget, hmore with
      | [], hget, _ => cases hget
      | [c], hget, hmore =>
        -- the byte is an `8` and no delimiter
        rw [ht, List.singleton_append, List.cons.injEq] at hmore
        have hmem := List.mem_singleton.mp (List.mem_of_getElem? hget)
        exact absurd (hmem.trans hmore.1) (by decide)
      | c :: c' :: rest, _, hmore =>
        rw [ht, List.cons_append, List.cons_append, List.cons.injEq, List.cons.injEq] at hmore
        obtain ⟨rfl, rfl, -⟩ := hmore
        exact findBeginStringPosition_begin rest
    exact parseLoop_incomplete hfind (by rw [Nat.add_zero, hdrop]; exact messageEnd_start hbegins hlt)

/-- The exits that retain the rest. -/
def RxExit.Keeps (buffer rest : Bytes) : RxExit → Prop
  | .atEnd => rest = []
  | .incompleteMessage offset => buffer.drop offset = rest
  | .remainder offset => buffer.drop offset = rest
  | .noBeginString => False
  | .disconnected => False

theorem parseLoop_messages {buffer rest : Bytes} {todo : List WireMessage} {final : Nat}
    (hstart : StartOf rest todo) (hfinal : buffer[final]? = some fixDelimiter)
    (messages : List WireMessage) (fuel readIndex : Nat) (processed : List Bytes)
    (hdrop : buffer.drop readIndex = wireBytes messages ++ rest) (hle : readIndex ≤ final)
    (hcover : readIndex + (wireBytes messages).length ≤ final + 1)
    (hfuel : messages.length < fuel) :
    (parseLoop (fun _ => false) buffer final fuel processed readIndex).1 =
        processed ++ messages.map WireMessage.bytes ∧
      (parseLoop (fun _ => false) buffer final fuel processed readIndex).2.Keeps buffer rest := by
  induction messages generalizing fuel readIndex processed with
  | nil =>
    obtain ⟨fuel, rfl⟩ := Nat.exists_eq_add_of_lt hfuel
    rw [parseLoop_start hstart hdrop hle hfinal]
    exact ⟨(List.append_nil _).symm, hdrop⟩
  | cons m messages ih =>
    obtain ⟨fuel, rfl⟩ : ∃ n, fuel = n + 1 := ⟨fuel - 1, by omega⟩
    have hwhole : buffer.drop readIndex = m.bytes ++ (wireBytes messages ++ rest) := by
      rw [hdrop, wireBytes_cons, List.append_assoc]
    have hnext : buffer.drop (readIndex + m.bytes.length) = wireBytes messages ++ rest := by
      rw [← List.drop_drop, hwhole, List.drop_left]
    have hfind : findBeginStringPosition (buffer.drop readIndex) = some 0 := by
      obtain ⟨t, ht⟩ := m.bytes_begin
      rw [hwhole, ht]
      exact findBeginStringPosition_begin _
    have hend : messageEnd [] true (buffer.drop (readIndex + 0)) = some m.bytes.length := by
      rw [Nat.add_zero, hwhole]
      exact messageEnd_message m
    rw [wireBytes_cons, List.length_append] at hcover
    rw [parseLoop_message hfind hend]
    simp only [Nat.add_zero, hwhole, List.take_left, Bool.false_eq_true, ↓reduceIte, List.map_cons]
    -- nothing is left behind the last message but the start of the next one
    have hlast : ∀ exit : RxExit, wireBytes messages = [] → exit.Keeps buffer rest →
        processed ++ [m.bytes] = processed ++ m.bytes :: messages.map WireMessage.bytes ∧
          exit.Keeps buffer rest := by
      intro exit hnil hkeeps
      cases messages with
      | nil => exact ⟨rfl, hkeeps⟩
      | cons m' messages =>
        rw [wireBytes_cons, List.append_eq_nil_iff] at hnil
        exact absurd m'.bytes_pos (by rw [hnil.1]; exact Nat.lt_irrefl 0)
    split_ifs with hall hbehind
    · rw [hall, List.drop_length] at hnext
      obtain ⟨hnil, hrest⟩ := List.append_eq_nil_iff.mp hnext.symm
      exact hlast _ hnil hrest
    · have hnil : wireBytes messages = [] := List.length_eq_zero_iff.mp (by omega)
      rw [hnil, List.nil_append] at hnext
      exact hlast _ hnil hnext
    · have hlength := congrArg List.length hnext
      obtain ⟨hprocessed, hkeeps⟩ := ih fuel (readIndex + m.bytes.length)
        (processed ++ [m.bytes]) hnext (by omega) (by omega)
        (Nat.lt_of_succ_lt_succ hfuel)
      rw [hprocessed, List.append_assoc, List.singleton_append]
      exact ⟨rfl, hkeeps⟩

namespace RxConnection

variable {c : RxConnection} {received rest : Bytes} {todo : List WireMessage}

/-- A read that completes some messages processes these and retains the start of the next one. -/
theorem receive_messages (messages : List WireMessage) (hstart : StartOf rest todo)
    (hbytes : c.incomplete ++ received = wireBytes messages ++ rest) :
    (c.receive (fun _ => false) received).2.1 = messages.map WireMessage.bytes ∧
      (c.receive (fun _ => false) received).2.2.Keeps (c.incomplete ++ received) rest := by
  have hcover : ∀ {front : List WireMessage} {m : WireMessage}, messages = front ++ [m] →
      ∃ final, finalTag10DelimiterIndex (c.incomplete ++ received) = some final ∧
        (wireBytes messages).length ≤ final + 1 := by
    rintro front m rfl
    have hsplit : c.incomplete ++ received = wireBytes front ++ (m.bytes ++ rest) := by
      rw [hbytes, wireBytes_append, wireBytes_cons, wireBytes_nil, List.append_nil,
        List.append_assoc]
    obtain ⟨final, hfinal, hle, -⟩ := finalTag10DelimiterIndex_message hsplit
    exact ⟨final, hfinal, by simpa [wireBytes_append] using hle⟩
  unfold receive processRxBuffer
  dsimp only
  rw [c.getRxBuffer_bytes received]
  rcases List.eq_nil_or_concat messages with rfl | ⟨front, m, hmessages⟩
  · cases hfinal : finalTag10DelimiterIndex (c.incomplete ++ received) with
    | none => exact ⟨rfl, hbytes⟩
    | some final =>
      have hdelimiter := finalTag10DelimiterIndex_delimiter hfinal
      obtain ⟨hlt, -⟩ := List.getElem?_eq_some_iff.mp hdelimiter
      exact parseLoop_messages hstart hdelimiter [] (c.incomplete ++ received).length 0 [] hbytes
        (Nat.zero_le _) (Nat.zero_le _) (Nat.zero_lt_of_lt hlt)
  · rw [List.concat_eq_append] at hmessages
    obtain ⟨final, hfinal, hle⟩ := hcover hmessages
    have hlength := two_mul_length_le messages
    have htotal : (c.incomplete ++ received).length = (wireBytes messages).length + rest.length := by
      rw [hbytes, List.length_append]
    have hpos : 0 < messages.length := by
      rw [hmessages, List.length_append]
      exact Nat.succ_pos _
    rw [hfinal]
    exact parseLoop_messages hstart (finalTag10DelimiterIndex_delimiter hfinal) messages
      (c.incomplete ++ received).length 0 [] hbytes (Nat.zero_le _)
      (by rw [Nat.zero_add]; exact hle) (by omega)

/-- Behind such a read the connection is open and holds the start of the next message. -/
theorem receive_keeps {disconnects : List Bytes → Bool}
    (h : (c.receive disconnects received).2.2.Keeps (c.incomplete ++ received) rest) :
    (c.receive disconnects received).1.incomplete = rest ∧
      (c.receive disconnects received).1.isOpen = c.isOpen ∧
      (c.receive disconnects received).1.rxBufferCapacity = c.rxBufferCapacity := by
  rw [receive_incomplete, receive_connection]
  cases hexit : (c.receive disconnects received).2.2 with
  | noBeginString => exact absurd h (by rw [hexit]; exact id)
  | disconnected => exact absurd h (by rw [hexit]; exact id)
  | incompleteMessage offset =>
    rw [hexit] at h
    exact ⟨h, c.getRxBuffer_isOpen received, c.getRxBuffer_rxBufferCapacity received⟩
  | atEnd =>
    rw [hexit] at h
    exact ⟨Eq.symm h, c.getRxBuffer_isOpen received, c.getRxBuffer_rxBufferCapacity received⟩
  | remainder offset =>
    rw [hexit] at h
    exact ⟨h, c.getRxBuffer_isOpen received, c.getRxBuffer_rxBufferCapacity received⟩

end RxConnection

/-! ## A stream in chunks -/

/-- The beginning of a stream: some whole messages and the start of the next one. -/
theorem wireBytes_split {todo : List WireMessage} {bytes : Bytes}
    (h : bytes <+: wireBytes todo) :
    ∃ messages todo' rest, todo = messages ++ todo' ∧ bytes = wireBytes messages ++ rest ∧
      StartOf rest todo' := by
  induction todo generalizing bytes with
  | nil => exact ⟨[], [], [], rfl, List.prefix_nil.mp h, rfl⟩
  | cons m todo ih =>
    rw [wireBytes_cons] at h
    rcases Nat.lt_or_ge bytes.length m.bytes.length with hlt | hge
    · exact ⟨[], m :: todo, bytes, rfl, rfl,
        List.prefix_of_prefix_length_le h (List.prefix_append _ _) (Nat.le_of_lt hlt), hlt⟩
    · obtain ⟨more, rfl⟩ := List.prefix_of_prefix_length_le (List.prefix_append _ _) h hge
      obtain ⟨messages, todo', rest, rfl, rfl, hstart⟩ :=
        ih ((List.prefix_append_right_inj _).mp h)
      exact ⟨m :: messages, todo', rest, rfl, by rw [wireBytes_cons, List.append_assoc], hstart⟩

/-- Feeds a chunk to a connection whose handlers do not disconnect, and collects the messages. -/
def RxConnection.feed (s : RxConnection × List Bytes) (chunk : Bytes) : RxConnection × List Bytes :=
  let (c, messages) := s.1.onDataReady (fun _ => false) chunk
  (c, s.2 ++ messages)

/-- One chunk of the stream: the connection dispatches the messages that it completes, and what
is still to come are the messages behind these. -/
theorem onDataReady_stream {c : RxConnection} {chunk more : Bytes} {todo : List WireMessage}
    (hopen : c.isOpen = true) (hfits : chunk.length ≤ c.rxBufferCapacity)
    (hstart : StartOf c.incomplete todo)
    (hstream : c.incomplete ++ (chunk ++ more) = wireBytes todo) :
    ∃ c' messages todo', c.onDataReady (fun _ => false) chunk =
        (c', messages.map WireMessage.bytes) ∧ todo = messages ++ todo' ∧
      c'.isOpen = true ∧ c'.rxBufferCapacity = c.rxBufferCapacity ∧
      StartOf c'.incomplete todo' ∧ c'.incomplete ++ more = wireBytes todo' := by
  rcases List.eq_nil_or_concat chunk with rfl | ⟨init, last, hchunk⟩
  · refine ⟨c, [], todo, ?_, rfl, hopen, rfl, hstart, hstream⟩
    simp [RxConnection.onDataReady, RxConnection.reads]
  · have hpos : 0 < chunk.length := by
      rw [hchunk, List.length_concat]
      exact Nat.succ_pos _
    have hreads : c.reads chunk = true := by
      simp [RxConnection.reads, hopen, hfits, hpos]
    rw [← List.append_assoc] at hstream
    obtain ⟨messages, todo', rest, rfl, hbytes, hstart'⟩ :=
      wireBytes_split ⟨more, hstream⟩
    obtain ⟨hdispatch, hkeeps⟩ := RxConnection.receive_messages messages hstart' hbytes
    obtain ⟨hrest, hopen', hcapacity⟩ := RxConnection.receive_keeps hkeeps
    refine ⟨(c.receive (fun _ => false) chunk).1, messages, todo', ?_, rfl, hopen'.trans hopen,
      hcapacity, hrest.symm ▸ hstart', ?_⟩
    · rw [RxConnection.onDataReady, if_pos hreads, ← hdispatch]
    · rw [hbytes, wireBytes_append, List.append_assoc, List.append_cancel_left_eq] at hstream
      rw [hrest, hstream]

/-- A field `t=v` with one letter on each side. -/
def exampleField (tag : Bytes) (htag : fixEquals ∉ tag ∧ fixDelimiter ∉ tag) : WireField where
  tag := tag
  value := ['A'.toUInt8]
  tag_noEquals := htag.1
  tag_noDelimiter := htag.2
  value_nonempty := by decide
  value_noDelimiter := by decide

/-- The message `8=A|110=A|10=A|`. -/
def exampleWireMessage : WireMessage where
  beginString := exampleField ['8'.toUInt8] (by decide)
  fields := [exampleField "110".toUTF8.toList (by decide +kernel)]
  checksum := exampleField ['1'.toUInt8, '0'.toUInt8] (by decide)
  beginString_tag := rfl
  fields_tag := by decide +kernel
  checksum_tag := rfl

end Llfix
