import Pubky2Pubky.Foundation.JsonText
import Pubky2Pubky.Foundation.Utf8
import Pubky2Pubky.Client.Sequence

/-!
# Texts of sequence states

A left inverse of the writer of state files, with which a store can be run. It
takes back the texts of the writer and stands for no other reader.
-/

namespace Pubky2Pubky
namespace Client

open Foundation Protocol

def byteFromJson : Json -> Option UInt8
  | Json.number value => some (UInt8.ofNat value)
  | _ => none

def StoredSequence.fromJson : Json -> Option StoredSequence
  | Json.object [_, (_, Json.number counter)] =>
      some (StoredSequence.publisher (UInt64.ofNat counter))
  | Json.object [_, (_, Json.number counter), (_, Json.array items)] => do
      let bytes <- items.mapM byteFromJson
      if h : bytes.length = 32 then
        some (StoredSequence.authenticated (UInt64.ofNat counter) ⟨bytes, h⟩)
      else none
  | _ => none

def entryFromJson (field : String × Json) : Option (String × StoredSequence) :=
  (StoredSequence.fromJson field.2).map fun value => (field.1, value)

def stateFromJson : Json -> Option SequenceState
  | Json.object fields => do
      let entries <- fields.mapM entryFromJson
      pure (Std.ExtTreeMap.ofList entries compare)
  | _ => none

def stateFromSlice (bytes : Bytes) : Option SequenceState := do
  let text <- fromUtf8 bytes
  let value <- Json.ofText text
  stateFromJson value

/-- A list that is taken back item by item is taken back as a whole. -/
theorem mapM_map {α β : Type} {write : α -> β} {read : β -> Option α}
    (h : forall a, read (write a) = some a) (items : List α) :
    (items.map write).mapM read = some items := by
  induction items with
  | nil => rfl
  | cons item rest ih =>
      rw [List.map_cons, List.mapM_cons, h, ih]
      rfl

theorem StoredSequence.fromJson_toJson (value : StoredSequence) :
    StoredSequence.fromJson value.toJson = some value := by
  cases value with
  | publisher counter =>
      unfold StoredSequence.toJson StoredSequence.fromJson
      dsimp only
      rw [UInt64.ofNat_toNat]
  | authenticated counter digest =>
      have hbyte : forall b : UInt8,
          byteFromJson (Json.number b.toNat) = some b :=
        fun _ => congrArg some UInt8.ofNat_toNat
      have hbytes := mapM_map hbyte digest.val
      unfold StoredSequence.toJson StoredSequence.fromJson
      dsimp only
      rw [hbytes, UInt64.ofNat_toNat]
      exact dif_pos digest.property

theorem ofList_toList (values : SequenceState) :
    Std.ExtTreeMap.ofList values.toList compare = values := by
  apply Std.ExtTreeMap.ext_getElem?
  intro key
  cases hvalue : values[key]? with
  | none =>
      apply Std.ExtTreeMap.getElem?_ofList_of_contains_eq_false
      rw [← Bool.not_eq_true, List.contains_iff_mem]
      intro hmem
      rcases List.mem_map.mp hmem with ⟨⟨other, value⟩, hentry, rfl⟩
      rw [Std.ExtTreeMap.mem_toList_iff_getElem?_eq_some, hvalue] at hentry
      cases hentry
  | some value =>
      exact Std.ExtTreeMap.getElem?_ofList_of_mem Std.ReflCmp.compare_self
        Std.ExtTreeMap.distinct_keys_toList
        (Std.ExtTreeMap.mem_toList_iff_getElem?_eq_some.mpr hvalue)

theorem stateFromJson_stateToJson (values : SequenceState) :
    stateFromJson (stateToJson values) = some values := by
  have hentry : forall entry : String × StoredSequence,
      entryFromJson (entry.1, entry.2.toJson) = some entry := by
    intro entry
    unfold entryFromJson
    rw [StoredSequence.fromJson_toJson]
    rfl
  have hentries := mapM_map hentry values.toList
  change (do
    let entries <- (values.toList.map fun entry =>
      (entry.1, entry.2.toJson)).mapM entryFromJson
    pure (Std.ExtTreeMap.ofList entries compare)) = some values
  rw [hentries]
  exact congrArg some (ofList_toList values)

theorem stateFromSlice_stateToJson (values : SequenceState) :
    stateFromSlice (utf8 (stateToJson values).render) = some values := by
  unfold stateFromSlice
  rw [fromUtf8_utf8]
  change (Json.ofText (stateToJson values).render).bind stateFromJson = _
  rw [Json.ofText_render]
  exact stateFromJson_stateToJson values

end Client
end Pubky2Pubky
