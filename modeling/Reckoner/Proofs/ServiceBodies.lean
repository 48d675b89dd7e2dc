import Reckoner.Proofs.JsonSpelling
import Reckoner.Proofs.ServiceAnswers

/-!
# Bodies on their way

Whoever asks the service sends a text and gets a text. A request whose body is written as the
service itself writes (`posting`) brings what it was written from: the body starts with a brace and
a quote, so it is taken for UTF-8, and it is read back to its fields.

The fields of an answer are taken from its body in the same way (`Response.field?`), and for the
answers to well-formed bodies nothing is lost. Their numbers are values of expressions, which are
words, and rows and columns, which are no greater than the length of the text; so none of them is
too long to be read.
-/

namespace Reckoner

theorem Text.toList_loop_bytes (bytes : ByteArray) (i : Nat) (done : List UInt8) :
    ByteArray.toList.loop bytes i done = done.reverse ++ bytes.data.toList.drop i := by
  fun_induction ByteArray.toList.loop bytes i done with
  | case1 i done hlt ih =>
    have hlength : i < bytes.data.toList.length := by simpa using hlt
    have hbyte : bytes.get! i = bytes.data[i]! := by
      cases bytes
      rfl
    rw [ih, List.drop_eq_getElem_cons hlength, hbyte, getElem!_pos bytes.data i hlt]
    simp
  | case2 i done hle =>
    have hlength : bytes.data.toList.length ≤ i := by simpa using hle
    rw [List.drop_eq_nil_of_le hlength, List.append_nil]

/-- The bytes of one text and then of another. -/
theorem Text.toList_toUTF8_append (a b : String) :
    (a ++ b).toUTF8.toList = a.toUTF8.toList ++ b.toUTF8.toList := by
  have hbytes : ∀ bytes : ByteArray, bytes.toList = bytes.data.toList := by
    intro bytes
    rw [ByteArray.toList, Text.toList_loop_bytes, List.reverse_nil, List.nil_append,
      List.drop_zero]
  rw [hbytes, hbytes, hbytes, String.toUTF8, String.toByteArray_append,
    ByteArray.toList_data_append]
  rfl

namespace Service

theorem Encoding.ofBytes_eq_utf8 {a b : UInt8} (ha : a ≠ 0) (hb : b ≠ 0) (rest : List UInt8) :
    Encoding.ofBytes (a :: b :: rest) = .utf8 := by
  match rest with
  | [] => rw [Encoding.ofBytes, if_neg ha, if_neg hb]
  | [_] => rfl
  | _ :: _ :: _ => rw [Encoding.ofBytes, if_neg ha, if_neg hb]

/-- A body that starts like an object with a field in it is read as it stands. -/
theorem decodedBody_eq {body : String} {rest : List Char}
    (h : body.toList = '\x7b' :: '"' :: rest) :
    decodedBody body = some (body.toList.map .char) := by
  have hbody : body = "\x7b\"" ++ String.ofList rest := by
    simp [← String.toList_inj, h, String.toList_append]
  have hfront : "\x7b\"".toUTF8.toList = [0x7b, 0x22] := by decide +kernel
  have hbytes : body.toUTF8.toList = 0x7b :: 0x22 :: (String.ofList rest).toUTF8.toList := by
    rw [hbody, Text.toList_toUTF8_append, hfront]
    rfl
  rw [decodedBody, hbytes, Encoding.ofBytes_eq_utf8 (by decide) (by decide)]
  dsimp only
  rw [h, withoutByteOrderMark]
  rintro _ ⟨⟩

/-- The request that posts an object of the given fields to a place. -/
def posting (place : String) (fields : Json.Fields) : Request :=
  { method := "POST", path := place, body := (Json.object fields).written }

theorem fieldsOf_posting (place : String) {field : Text.Raw × Json} {fields : Json.Fields}
    (hnames : ((field :: fields).map Prod.fst).Nodup)
    (h : ∀ other ∈ field :: fields, Json.FieldReadsBack rules 959 other) :
    fieldsOf (posting place (field :: fields)) = .ok (field :: fields) := by
  have hread : Json.ofChars rules (posting place (field :: fields)).body.toList
      = .ok (.object (field :: fields)) :=
    Json.ofChars_written (Json.readsBack_object hnames h)
  have hstarts : ∃ rest,
      (posting place (field :: fields)).body.toList = '\x7b' :: '"' :: rest := by
    rw [posting, Json.toList_written_object, Json.fieldChars, Json.toList_writtenString]
    exact ⟨_, rfl⟩
  obtain ⟨rest, hrest⟩ := hstarts
  have hne : (posting place (field :: fields)).body ≠ "" := by
    rw [Ne, ← String.toList_inj, hrest]
    exact List.cons_ne_nil _ _
  exact fieldsOf_of_ofChars hne rfl (decodedBody_eq hrest) hread

theorem brings_posting {place text : String} {fields : Json.Fields}
    (hplace : (posting place []).place = place)
    (hnames : (((.text "text", Json.string text) :: fields).map Prod.fst).Nodup)
    (h : ∀ other ∈ fields, Json.FieldReadsBack rules 959 other)
    (hlength : text.length ≤ maxTextLength) :
    Brings (posting place (("text", .string text) :: fields)) place text
      (("text", .string text) :: fields) where
  method_eq := rfl
  place_eq := hplace
  fieldsOf_eq := by
    refine fieldsOf_posting place hnames ?_
    exact List.forall_mem_cons.mpr ⟨⟨rfl, Json.readsBack_string _ _ _⟩, h⟩
  text_eq := rfl
  length_le := hlength

/-! ## Answers -/

/-- A field of the document that the body of a response is. -/
def Response.field? (response : Response) (name : String) : Option Json :=
  match Json.ofChars rules response.body.toList with
  | .ok (.object fields) => Json.field? fields name
  | _ => none

/-- **A reply is read back to its fields.** -/
theorem field?_reply {fields : Json.Fields} (hnames : (fields.map Prod.fst).Nodup)
    (h : ∀ field ∈ fields, Json.FieldReadsBack rules 959 field) (status : Nat) (name : String) :
    (reply status fields).field? name = Json.field? fields name := by
  have hread : Json.ofChars rules (reply status fields).body.toList = .ok (.object fields) :=
    Json.ofChars_written (Json.readsBack_object hnames h)
  rw [Response.field?, hread]

end Service

end Reckoner
