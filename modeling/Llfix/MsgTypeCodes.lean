import Mathlib.Data.List.TakeWhile
import Llfix.Lib.MappedFile
import Llfix.TagNumbers

/-!
# Codes of message types

The specifications of repeating groups and of binary fields are kept under the packed MsgType. The
parser packs the value of every field that it reads as tag 35, of any length.

Results:
1. `packMessageType_toNat`: a type of up to four bytes is packed into them.
2. `unpackMessageType_packMessageType`: what is unpacked again.
3. `fieldsRead_encodedCurrentMessageType`: the code that specifications are looked up with.
4. `msgTypeCodes_iff`: when the parser packs types only, each into a code of its own.
5. `msgTypeCodes_fails`: a type of five bytes is packed.
-/

namespace Llfix

open MappedFile MessageParser

/-- `FixUtilities::unpack_message_type`: the four bytes up to the first zero. -/
def unpackMessageType (encodedMsgType : UInt32) : Bytes :=
  ((List.range 4).map fun i => (encodedMsgType >>> UInt32.ofNat (i * 8) &&& 255).toUInt8).takeWhile
    (· ≠ 0)

/-- The strings that are types: one to four bytes, none of them zero. -/
def IsMsgType (mt : Bytes) : Prop := 0 < mt.length ∧ mt.length ≤ 4 ∧ 0 ∉ mt

instance (mt : Bytes) : Decidable (IsMsgType mt) := inferInstanceAs (Decidable (_ ∧ _ ∧ _))

/-! ## Packing -/

/-- A byte is put above the ones that are packed already. -/
theorem toNat_or_shiftLeft {packed : UInt32} {k : Nat} (hpacked : packed.toNat < 256 ^ k)
    (hk : k < 4) (c : UInt8) :
    (packed ||| c.toUInt32 <<< UInt32.ofNat (k * 8)).toNat = packed.toNat + 256 ^ k * c.toNat := by
  have hc := c.toNat_lt
  have hshift : (UInt32.ofNat (k * 8)).toNat % 32 = 8 * k := by
    rw [UInt32.toNat_ofNat']
    omega
  have hpow : (256 : Nat) ^ k = 2 ^ (8 * k) := by
    rw [pow_mul]
    rfl
  have hfits : c.toNat <<< (8 * k) < 2 ^ 32 := by
    rw [Nat.shiftLeft_eq]
    calc c.toNat * 2 ^ (8 * k) < 2 ^ 8 * 2 ^ (8 * k) :=
          Nat.mul_lt_mul_of_pos_right hc (Nat.two_pow_pos _)
      _ = 2 ^ (8 + 8 * k) := (pow_add 2 8 (8 * k)).symm
      _ ≤ 2 ^ 32 := Nat.pow_le_pow_right (by decide) (by omega)
  rw [hpow] at hpacked ⊢
  rw [UInt32.toNat_or, UInt32.toNat_shiftLeft, hshift, UInt8.toNat_toUInt32,
    Nat.mod_eq_of_lt hfits, Nat.or_comm, ← Nat.shiftLeft_add_eq_or_of_lt hpacked, Nat.shiftLeft_eq,
    Nat.add_comm, Nat.mul_comm]

theorem foldl_pack {mt : Bytes} {packed : UInt32} {k : Nat} (hpacked : packed.toNat < 256 ^ k)
    (hk : k + mt.length ≤ 4) :
    ((mt.zipIdx k).foldl (fun packed c => packed ||| c.1.toUInt32 <<< UInt32.ofNat (c.2 * 8))
      packed).toNat = packed.toNat + 256 ^ k * ofLittleEndian mt := by
  induction mt generalizing packed k with
  | nil => simp [ofLittleEndian]
  | cons c mt ih =>
    rw [List.length_cons] at hk
    have hstep := toNat_or_shiftLeft hpacked (by omega : k < 4) c
    have hc := c.toNat_lt
    have hnext : (packed ||| c.toUInt32 <<< UInt32.ofNat (k * 8)).toNat < 256 ^ (k + 1) := by
      rw [hstep, pow_succ]
      calc packed.toNat + 256 ^ k * c.toNat < 256 ^ k + 256 ^ k * c.toNat :=
            Nat.add_lt_add_right hpacked _
        _ = 256 ^ k * (c.toNat + 1) := by ring
        _ ≤ 256 ^ k * 256 := Nat.mul_le_mul_left _ (by omega)
    rw [List.zipIdx_cons, List.foldl_cons, ih hnext (by omega), hstep, ofLittleEndian]
    ring

/-- A type of up to four bytes is packed with its first byte lowest. -/
theorem packMessageType_toNat {mt : Bytes} (h : mt.length ≤ 4) :
    (packMessageType mt).toNat = ofLittleEndian mt := by
  have hzero : (0 : UInt32).toNat < 256 ^ 0 := by decide
  have hlength : 0 + mt.length ≤ 4 := by rwa [Nat.zero_add]
  have hfold := foldl_pack hzero hlength
  rw [packMessageType, hfold, UInt32.toNat_zero, pow_zero, Nat.zero_add, Nat.one_mul]

/-- Unpacking goes through the bytes of the code. -/
theorem unpackMessageType_eq (code : UInt32) :
    unpackMessageType code = (toLittleEndian 4 code.toNat).takeWhile (· ≠ 0) := by
  have hbyte : ∀ i, i < 4 → (code >>> UInt32.ofNat (i * 8) &&& 255).toUInt8 =
      UInt8.ofNat (code.toNat / 256 ^ i) := by
    intro i hi
    have hshift : (UInt32.ofNat (i * 8)).toNat % 32 = 8 * i := by
      rw [UInt32.toNat_ofNat']
      omega
    have hpow : (256 : Nat) ^ i = 2 ^ (8 * i) := by
      rw [pow_mul]
      rfl
    have hmask : (255 : UInt32).toNat = 2 ^ 8 - 1 := rfl
    rw [← UInt8.toNat_inj, UInt32.toNat_toUInt8, UInt32.toNat_and, UInt32.toNat_shiftRight, hshift,
      hmask, Nat.and_two_pow_sub_one_eq_mod, UInt8.toNat_ofNat', hpow, Nat.shiftRight_eq_div_pow,
      Nat.mod_mod]
  have hrange : List.range 4 = [0, 1, 2, 3] := rfl
  have hdiv : ∀ a b : Nat, code.toNat / a / b = code.toNat / (a * b) := fun a b =>
    Nat.div_div_eq_div_mul _ a b
  rw [unpackMessageType, hrange]
  simp only [List.map_cons, List.map_nil, hbyte 0 (by decide), hbyte 1 (by decide),
    hbyte 2 (by decide), hbyte 3 (by decide), toLittleEndian, hdiv, pow_zero, Nat.div_one, pow_succ,
    Nat.one_mul]

/-- A type of up to four bytes is unpacked up to its first zero. -/
theorem unpackMessageType_packMessageType {mt : Bytes} (h : mt.length ≤ 4) :
    unpackMessageType (packMessageType mt) = mt.takeWhile (· ≠ 0) := by
  have hsplit : 4 = mt.length + (4 - mt.length) := by omega
  rw [unpackMessageType_eq, packMessageType_toNat h, hsplit, toLittleEndian_ofLittleEndian_add]
  clear hsplit h
  generalize 4 - mt.length = k
  induction mt with
  | nil =>
    cases k with
    | zero => rfl
    | succ k => rfl
  | cons c mt ih => rw [List.cons_append, List.takeWhile_cons, List.takeWhile_cons, ih]

theorem unpackMessageType_packMessageType_eq_self {mt : Bytes} (h : mt.length ≤ 4) :
    unpackMessageType (packMessageType mt) = mt ↔ 0 ∉ mt := by
  rw [unpackMessageType_packMessageType h, List.takeWhile_eq_self_iff]
  refine ⟨fun hall hzero => absurd (hall 0 hzero) (by decide), fun hzero c hc => ?_⟩
  rw [decide_eq_true_eq]
  rintro rfl
  exact hzero hc

theorem packMessageType_injective {mt mt' : Bytes} (h : IsMsgType mt) (h' : IsMsgType mt')
    (hcode : packMessageType mt = packMessageType mt') : mt = mt' := by
  rw [← (unpackMessageType_packMessageType_eq_self h.2.1).mpr h.2.2, hcode,
    (unpackMessageType_packMessageType_eq_self h'.2.1).mpr h'.2.2]

/-! ## The calls of the parser -/

/-- The argument of `pack_message_type`, if the parser calls it for the field. -/
def packedMsgType (field : Bytes × Bytes) : Option Bytes :=
  if isTagFormat field.1 && charsToUnsignedInt field.1 = tagMsgType then some field.2 else none

namespace MessageParser

section

variable (p : MessageParser) (specs : RepeatingGroupSpecs) (tag : Tag)

theorem rejectIf_encodedCurrentMessageType (condition : Bool) (code : UInt32) :
    (p.rejectIf condition code).encodedCurrentMessageType = p.encodedCurrentMessageType := by
  unfold rejectIf
  split <;> rfl

theorem beforeSetTag_encodedCurrentMessageType :
    (p.beforeSetTag specs tag).encodedCurrentMessageType = p.encodedCurrentMessageType := by
  have hgroup : ∀ q : MessageParser, (q.updateRepeatingGroup specs tag).encodedCurrentMessageType =
      q.encodedCurrentMessageType := by
    intro q
    unfold updateRepeatingGroup
    split_ifs <;> rfl
  rw [beforeSetTag, hgroup, validateHeaderTagsOrder, rejectIf_encodedCurrentMessageType]
  exact p.rejectIf_encodedCurrentMessageType _ _

theorem setTag_encodedCurrentMessageType (value : Bytes) :
    (p.setTag tag value).encodedCurrentMessageType = p.encodedCurrentMessageType := by
  unfold setTag
  split_ifs <;> rfl

theorem validateTag9AndTag35_encodedCurrentMessageType (start : Nat) :
    (p.validateTag9AndTag35 start).encodedCurrentMessageType = p.encodedCurrentMessageType := by
  unfold validateTag9AndTag35
  cases p.currentTag35TagStartIndex with
  | none => rfl
  | some tag35Start =>
    dsimp only
    split_ifs
    · exact p.rejectIf_encodedCurrentMessageType _ _
    · rfl
    · rfl

end

end MessageParser

/-- The code that the parser looks specifications up with is that of its last call. -/
theorem endOfValue_encodedCurrentMessageType (p : MessageParser) (specs : RepeatingGroupSpecs)
    (start : Nat) (tag value : Bytes) :
    (p.endOfValue specs start tag value).encodedCurrentMessageType =
      (packedMsgType (tag, value)).elim p.encodedCurrentMessageType packMessageType := by
  unfold endOfValue packedMsgType
  cases isTagFormat tag with
  | false =>
    rw [if_neg Bool.false_ne_true, Bool.false_and, if_neg Bool.false_ne_true]
    exact p.rejectIf_encodedCurrentMessageType _ _
  | true =>
    rw [if_pos rfl, Bool.true_and, recordTag_eq]
    generalize hq : (beforeSetTag _ specs _).setTag (charsToUnsignedInt tag) value = q
    have hsame : q.encodedCurrentMessageType = p.encodedCurrentMessageType := by
      rw [← hq, setTag_encodedCurrentMessageType, beforeSetTag_encodedCurrentMessageType]
      exact p.rejectIf_encodedCurrentMessageType _ _
    unfold afterTag
    by_cases htype : charsToUnsignedInt tag = tagMsgType
    · have hchecksum : charsToUnsignedInt tag ≠ tagChecksum := by
        rw [htype]
        decide
      rw [if_neg hchecksum, if_pos htype, if_pos (decide_eq_true htype)]
      rfl
    · have hpacked : (if (charsToUnsignedInt tag = tagMsgType : Bool) then some value else none) =
          none := if_neg (by rw [decide_eq_false htype]; exact Bool.false_ne_true)
      rw [hpacked, if_neg htype]
      dsimp only
      split_ifs
      · exact (q.validateTag9AndTag35_encodedCurrentMessageType start).trans hsame
      · exact hsame

/-- The calls of `pack_message_type` for some fields. -/
def callsFor (fields : List ReadField) : List Bytes :=
  fields.filterMap fun f => packedMsgType (f.tag, f.value)

/-- The code of the last of some types; `code` before the first. -/
def lastCode (code : UInt32) (msgTypes : List Bytes) : UInt32 :=
  msgTypes.foldl (fun _ mt => packMessageType mt) code

/-- At each field the parser looks specifications up with the code of its last call before. -/
theorem fieldsRead_encodedCurrentMessageType {specs : RepeatingGroupSpecs} {p : MessageParser}
    {start : Nat} {parts : List Bytes} {earlier later : List ReadField} {f : ReadField}
    (h : fieldsRead specs p start parts = earlier ++ f :: later) :
    f.before.encodedCurrentMessageType =
      lastCode p.encodedCurrentMessageType (callsFor earlier) := by
  induction parts generalizing p start earlier with
  | nil => exact absurd h.symm (List.append_ne_nil_of_right_ne_nil _ (List.cons_ne_nil _ _))
  | cons part parts ih =>
    unfold fieldsRead endOfPart at h
    cases hfield : fieldOf part with
    | none =>
      rw [hfield] at h
      dsimp only at h
      split at h
      · exact absurd h.symm (List.append_ne_nil_of_right_ne_nil _ (List.cons_ne_nil _ _))
      · have hrest : fieldsRead specs (p.reject noEqualsSign) (start + part.length + 1) parts =
            earlier ++ f :: later := h
        have hlast := ih hrest
        exact hlast
    | some field =>
      rw [hfield] at h
      dsimp only at h
      cases earlier with
      | nil =>
        have hhead : ReadField.mk p start field.1 field.2 = f := by
          split at h
          · exact (List.cons.inj h).1
          · exact (List.cons.inj h).1
        rw [← hhead]
        rfl
      | cons first earlier =>
        split at h
        · exact absurd (List.cons.inj h).2.symm
            (List.append_ne_nil_of_right_ne_nil _ (List.cons_ne_nil _ _))
        · obtain ⟨hfirst, hrest⟩ := List.cons.inj h
          have hlast := ih hrest
          rw [hlast, endOfValue_encodedCurrentMessageType, ← hfirst, callsFor, callsFor,
            List.filterMap_cons]
          cases packedMsgType (field.1, field.2) with
          | none => rfl
          | some mt => rfl

/-- The calls of `pack_message_type` while the text of a message is read. -/
def packedMsgTypes (specs : RepeatingGroupSpecs) (buffer : Bytes) : List Bytes :=
  callsFor (fieldsRead specs {} 0 (partsFrom [] buffer))

/-- The fields of a text up to the first that is read as tag 10. -/
def messageFields : List Bytes → List (Bytes × Bytes)
  | [] => []
  | part :: parts =>
    match fieldOf part with
    | none => messageFields parts
    | some field => field :: if readsAsChecksumTag field.1 then [] else messageFields parts

/-- The parser reads these fields, whatever it makes of them. -/
theorem map_fieldsRead (specs : RepeatingGroupSpecs) {p : MessageParser}
    (hp : p.reachedChecksum = false) (start : Nat) (parts : List Bytes) :
    (fieldsRead specs p start parts).map (fun f => (f.tag, f.value)) = messageFields parts := by
  induction parts generalizing p start with
  | nil => rfl
  | cons part parts ih =>
    unfold fieldsRead messageFields endOfPart
    cases fieldOf part with
    | none =>
      dsimp only
      have hgoes : (p.reject noEqualsSign).reachedChecksum = false := hp
      rw [if_neg (by rw [hgoes]; exact Bool.false_ne_true), List.map_append, ih hgoes]
      rfl
    | some field =>
      dsimp only
      have hend := p.endOfValue_reachedChecksum specs start field.1 field.2
      rw [hp, Bool.false_or] at hend
      cases hreads : readsAsChecksumTag field.1 with
      | true =>
        rw [hreads] at hend
        rw [if_pos hend]
        rfl
      | false =>
        rw [hreads] at hend
        rw [if_neg (by rw [hend]; exact Bool.false_ne_true), List.map_append, ih hend]
        rfl

/-- Every call is for a type, and the code that it returns stands for that type. -/
def MsgTypeCodesFaithful (specs : RepeatingGroupSpecs) (buffer : Bytes) : Prop :=
  ∀ mt ∈ packedMsgTypes specs buffer,
    0 < mt.length ∧ mt.length ≤ 4 ∧ unpackMessageType (packMessageType mt) = mt

/-- Every field whose tag text is read as 35 has a value of one to four bytes without a zero. -/
def MsgTypesInRange (buffer : Bytes) : Prop :=
  ∀ field ∈ messageFields (partsFrom [] buffer), isTagFormat field.1 = true →
    charsToUnsignedInt field.1 = tagMsgType → IsMsgType field.2

/-- Types are packed into different codes and unpacked again. The parser looks specifications up
with the code of the type that it packed last, and it packs nothing else than types, for any text of
a message, exactly when the values of tag 35 are types. -/
theorem msgTypeCodes_iff (specs : RepeatingGroupSpecs) (buffer : Bytes) :
    (∀ mt, IsMsgType mt → unpackMessageType (packMessageType mt) = mt ∧
      ∀ mt', IsMsgType mt' → packMessageType mt = packMessageType mt' → mt = mt') ∧
    (∀ earlier f later, fieldsRead specs {} 0 (partsFrom [] buffer) = earlier ++ f :: later →
      f.before.encodedCurrentMessageType = lastCode noMessageType (callsFor earlier)) ∧
    (MsgTypeCodesFaithful specs buffer ↔ MsgTypesInRange buffer) := by
  refine ⟨fun mt hmt => ⟨(unpackMessageType_packMessageType_eq_self hmt.2.1).mpr hmt.2.2,
    fun mt' hmt' => packMessageType_injective hmt hmt'⟩,
    fun _ _ _ h => fieldsRead_encodedCurrentMessageType h, ?_⟩
  have hcalls : packedMsgTypes specs buffer =
      (messageFields (partsFrom [] buffer)).filterMap packedMsgType := by
    rw [← map_fieldsRead specs (p := {}) rfl 0, List.filterMap_map]
    rfl
  have hexact : ∀ mt : Bytes, IsMsgType mt ↔
      0 < mt.length ∧ mt.length ≤ 4 ∧ unpackMessageType (packMessageType mt) = mt := fun mt =>
    and_congr_right fun _ => and_congr_right fun hle =>
      (unpackMessageType_packMessageType_eq_self hle).symm
  rw [MsgTypeCodesFaithful, hcalls]
  refine ⟨fun h field hfield hformat htag => ?_, fun h mt hmt => ?_⟩
  · refine (hexact _).mpr (h _ (List.mem_filterMap.mpr ⟨field, hfield, ?_⟩))
    rw [packedMsgType, hformat, decide_eq_true htag]
    rfl
  · obtain ⟨field, hfield, hpacked⟩ := List.mem_filterMap.mp hmt
    unfold packedMsgType at hpacked
    split at hpacked
    next hread =>
      rw [Bool.and_eq_true, decide_eq_true_eq] at hread
      obtain rfl := Option.some.inj hpacked
      exact (hexact _).mp (h field hfield hread.1 hread.2)
    next => cases hpacked

/-- `8=A|9=5|35=AE|35=D|10=000|`, a message of two types. -/
def twoMsgTypesMessage : Bytes :=
  joinParts [text "8=A", text "9=5", text "35=AE", text "35=D", text "10=000"]

theorem msgTypeCodes_iff_two :
    (unpackMessageType (packMessageType (text "AE")) = text "AE" ∧
      packMessageType (text "AE") ≠ packMessageType (text "D")) ∧
    MsgTypeCodesFaithful {} twoMsgTypesMessage := by
  have hrange : MsgTypesInRange twoMsgTypesMessage := by
    unfold MsgTypesInRange
    decide +kernel
  obtain ⟨hcodes, -, hfaithful⟩ := msgTypeCodes_iff {} twoMsgTypesMessage
  obtain ⟨hunpack, hinjective⟩ := hcodes (text "AE") (by decide)
  exact ⟨⟨hunpack, fun hcode => absurd (hinjective (text "D") (by decide) hcode) (by decide)⟩,
    hfaithful.mpr hrange⟩

example : packedMsgTypes {} twoMsgTypesMessage = [text "AE", text "D"] := by decide +kernel

/-- `8=A|9=5|35=ABCDE|10=000|`. -/
def longMsgTypeMessage : Bytes :=
  joinParts [text "8=A", text "9=5", text "35=ABCDE", text "10=000"]

/-- A type of five bytes is packed. -/
theorem msgTypeCodes_fails : ¬ MsgTypeCodesFaithful {} longMsgTypeMessage := by
  intro h
  have hcall : text "ABCDE" ∈ packedMsgTypes {} longMsgTypeMessage := by decide +kernel
  exact absurd (h _ hcall).2.1 (by decide)

end Llfix
