import ComponentSplit.Proofs.Pipeline.Unreadable
import ComponentSplit.Proofs.Text.Utf8Fault

namespace ComponentSplit

/-- A number that is no character in the form it is held in: a shorter form would do, or it is set
aside for halves of pairs, or it lies beyond all characters. -/
structure IsIllForm (count n : Nat) : Prop where
  size : count ≤ 3
  fits : n < formLimit count
  fault : tailSize n < count ∨ 0xD800 ≤ n ∧ n ≤ 0xDFFF ∨ 0x110000 ≤ n

theorem IsIllForm.not_prefix {count n : Nat} (h : IsIllForm count n) (back : List UInt8)
    (c : Char) : ¬ String.utf8EncodeChar c <+: utf8Form count n ++ back := by
  intro hbegins
  rw [utf8EncodeChar_eq_form] at hbegins
  obtain ⟨hsize, hlimit⟩ := lt_formLimit c
  obtain ⟨hcount, hn⟩ := utf8Form_begins hsize h.size hlimit h.fits hbegins
  have hscalar := toNat_isScalar c
  have hfault := h.fault
  rw [← hn, ← hcount] at hfault
  omega

/-- What reading the bytes of a document comes to: the text they encode, or else a failure with the
path of the document, at the place where they break off. -/
structure ReadsUtf8 (path : Option String) (bytes : List UInt8) (result : Except Failure String) :
    Prop where
  ok_iff : ∀ text : String, result = .ok text ↔ utf8Bytes text.toList = bytes
  error_iff : (∃ failure, result = .error failure) ↔
    ¬ ∃ text : String, utf8Bytes text.toList = bytes
  error : ∀ failure, result = .error failure → ∃ fault,
    failure = .document (.undecodable fault) path ∧ ∃ text back,
      bytes = utf8Bytes text ++ back ∧ BreaksAt (utf8Bytes text).length back fault
  illForm : ∀ text count n back, IsIllForm count n →
    bytes = utf8Bytes text ++ (utf8Form count n ++ back) → ∃ fault,
      result = .error (.document (.undecodable fault) path) ∧
        fault.start = (utf8Bytes text).length

theorem toUTF8_toList (text : String) : text.toUTF8.data.toList = utf8Bytes text.toList := by
  rw [String.toUTF8_eq_toByteArray, ← String.utf8Encode_toList]
  exact List.toList_data_toByteArray

theorem eq_toUTF8_iff {b : ByteArray} {text : String} :
    b = text.toUTF8 ↔ utf8Bytes text.toList = b.data.toList := by
  rw [← toUTF8_toList, Array.toList_inj, ByteArray.ext_iff, eq_comm]

theorem decodeUtf8_eq_error {b : ByteArray} {f : DecodeFault} (h : decodeUtf8 b = .error f) :
    utf8FaultFrom 0 b.data.toList = some f := by
  have hfault : utf8Fault b = f := by
    rw [decodeUtf8] at h
    cases htext : String.fromUTF8? b with
    | some text => simp [htext] at h
    | none => simpa [htext] using h
  cases hfound : utf8FaultFrom 0 b.data.toList with
  | some g =>
    rw [utf8Fault, hfound] at hfault
    rw [← hfault]
    rfl
  | none =>
    obtain ⟨text, htext⟩ := utf8FaultFrom_eq_none_iff.mp hfound
    have hok : decodeUtf8 b = .ok (String.ofList text) := by
      rw [decodeUtf8_eq_ok, eq_toUTF8_iff, String.toList_ofList, htext]
    rw [hok] at h
    cases h

theorem utf8Form_ne_nil (count n : Nat) : utf8Form count n ≠ [] := by
  rw [utf8Form.eq_def]
  split <;> simp

theorem IsIllForm.not_text {count n : Nat} (h : IsIllForm count n) (text other : List Char)
    (back : List UInt8) : utf8Bytes other ≠ utf8Bytes text ++ (utf8Form count n ++ back) := by
  intro heq
  rw [← List.append_nil (utf8Bytes other)] at heq
  have hnil := (utf8Bytes_append_inj heq not_prefix_nil (h.not_prefix back)).2
  exact utf8Form_ne_nil count n (List.append_eq_nil_iff.mp hnil.symm).1

namespace Document

variable {d : Document} {b : ByteArray}

theorem text_eq_error (h : d.content = .bytes b) {failure : Failure} :
    d.text = .error failure ↔
      ∃ fault, decodeUtf8 b = .error fault ∧ failure = .document (.undecodable fault) d.path := by
  rw [Document.text, h]
  cases hb : decodeUtf8 b with
  | ok text => simp [hb]
  | error fault => simp [hb, eq_comm]

theorem readsUtf8 (h : d.content = .bytes b) : ReadsUtf8 d.path b.data.toList d.text := by
  have hok : ∀ text : String, d.text = .ok text ↔ utf8Bytes text.toList = b.data.toList := by
    intro text
    rw [text_eq_ok, h, Content.bytes.injEq, eq_toUTF8_iff]
  have herror : ∀ failure, d.text = .error failure → ∃ fault,
      failure = .document (.undecodable fault) d.path ∧ ∃ text back,
        b.data.toList = utf8Bytes text ++ back ∧ BreaksAt (utf8Bytes text).length back fault := by
    intro failure hfailure
    obtain ⟨fault, hfault, rfl⟩ := (text_eq_error h).mp hfailure
    obtain ⟨text, back, hbytes, hbreaks⟩ := utf8FaultFrom_eq_some (decodeUtf8_eq_error hfault)
    rw [Nat.zero_add] at hbreaks
    exact ⟨fault, rfl, text, back, hbytes, hbreaks⟩
  have hiff : (∃ failure, d.text = .error failure) ↔
      ¬ ∃ text : String, utf8Bytes text.toList = b.data.toList := by
    simp only [← hok]
    cases d.text <;> simp
  refine ⟨hok, hiff, herror, ?_⟩
  intro text count n back hform hbytes
  obtain ⟨failure, hfailure⟩ := hiff.mpr fun ⟨other, hother⟩ =>
    hform.not_text text other.toList back (hother.trans hbytes)
  obtain ⟨fault, rfl, passed, rest, hrest, hbreaks⟩ := herror failure hfailure
  have hsame : passed = text := (utf8Bytes_append_inj (hrest.symm.trans hbytes)
    hbreaks.not_prefix (hform.not_prefix back)).1
  exact ⟨fault, hfailure, by rw [hbreaks.start_eq, hsame]⟩

end Document

/-- The fields of a document that is built from a path, a base and a content. -/
def DocumentFields.ofContent (path base : Option String) (content : Value) : DocumentFields where
  path := path.elim .null .text
  base := base.elim .null .text
  content := .value content

/-- The text of a document and its bytes are two views of one content. -/
theorem DocumentFields.text_readsUtf8 (path base : Option String) :
    (∀ text : String, ∃ d, (ofContent path base (.text text)).toDocument = .ok d ∧
      d.path = path ∧ d.text = .ok text) ∧
    ∀ b : ByteArray, ∃ d, (ofContent path base (.bytes b)).toDocument = .ok d ∧
      d.path = path ∧ ReadsUtf8 path b.data.toList d.text := by
  have hbuilt : ∀ (content : Value) (b : ByteArray),
      (ContentField.value content).toContent = .ok (.bytes b) →
        (ofContent path base content).toDocument = .ok ⟨path, base, .bytes b⟩ := by
    intro content b h
    cases path <;> cases base <;>
      simp [DocumentFields.toDocument, ofContent, optionalText, h]
  constructor
  · intro text
    refine ⟨_, hbuilt (.text text) text.toUTF8 rfl, rfl, ?_⟩
    exact Document.text_eq_ok.mpr rfl
  · intro b
    have hreads := Document.readsUtf8 (d := ⟨path, base, .bytes b⟩) rfl
    exact ⟨_, hbuilt (.bytes b) b rfl, rfl, hreads⟩

end ComponentSplit
