import Telemetry.Form
import Telemetry.Proofs.Text.Split
import Telemetry.Proofs.Text.Utf8

/-! A form is read back as the pairs that it was written for. A byte is read back whatever follows
it, and it is written without any of the characters that separate lines, pairs, and names from
values. -/

namespace Telemetry.Form

open Telemetry.Text

theorem ofNat_digits (byte : UInt8) :
    UInt8.ofNat (byte.toNat / 16 * 16 + byte.toNat % 16) = byte := by
  have whole : byte.toNat / 16 * 16 + byte.toNat % 16 = byte.toNat := by omega
  rw [whole, UInt8.ofNat_toNat]

-- A byte is taken by its two hexadecimal digits, which keeps the tables that are gone through small.

theorem readBack_plain : ∀ high < 16, ∀ low < 16,
    isPlain (UInt8.ofNat (high * 16 + low)) = true →
    Char.ofNat (high * 16 + low) ≠ '+' ∧ Char.ofNat (high * 16 + low) ≠ '%' ∧
      encodeScalar (Char.ofNat (high * 16 + low)) = [UInt8.ofNat (high * 16 + low)] := by
  decide +kernel

def separators : List Char := ['\n', '&', '=']

theorem all_encodeByte : ∀ high < 16, ∀ low < 16,
    (encodeByte (UInt8.ofNat (high * 16 + low))).all (fun character =>
      !separators.contains character) = true := by
  decide +kernel

theorem hexValue?_hexDigitUpper : ∀ value < 16, hexValue? (hexDigitUpper value) = some value := by
  decide

theorem decodeBytes_cons {character : Char} {rest : List Char} (noPlus : character ≠ '+')
    (noPercent : character ≠ '%') :
    decodeBytes (character :: rest) = encodeScalar character ++ decodeBytes rest := by
  rw [decodeBytes]
  · exact noPlus
  · intro _ _ _ percent _
    exact noPercent percent

theorem decodeBytes_encodeByte (byte : UInt8) (rest : List Char) :
    decodeBytes (encodeByte byte ++ rest) = byte :: decodeBytes rest := by
  have bound : byte.toNat < 256 := byte.toNat_lt
  have same := ofNat_digits byte
  unfold encodeByte
  split
  · rename_i plain
    have whole : byte.toNat / 16 * 16 + byte.toNat % 16 = byte.toNat := by omega
    obtain ⟨noPlus, noPercent, written⟩ := readBack_plain (byte.toNat / 16) (by omega)
      (byte.toNat % 16) (by omega) (by rw [same, plain])
    rw [whole] at noPlus noPercent written
    rw [List.singleton_append, decodeBytes_cons noPlus noPercent, written, UInt8.ofNat_toNat,
      List.singleton_append]
  · split
    · rename_i space
      rw [List.singleton_append, decodeBytes, eq_of_beq space]
    · have high := hexValue?_hexDigitUpper (byte.toNat / 16) (by omega)
      have low := hexValue?_hexDigitUpper (byte.toNat % 16) (by omega)
      rw [List.cons_append, List.cons_append, List.singleton_append, decodeBytes, high, low]
      simp only [same]

theorem decodeBytes_flatMap (bytes : List UInt8) :
    decodeBytes (bytes.flatMap encodeByte) = bytes := by
  induction bytes with
  | nil => rw [List.flatMap_nil, decodeBytes]
  | cons byte others inductionHypothesis =>
      rw [List.flatMap_cons, decodeBytes_encodeByte, inductionHypothesis]

theorem decodeText_encodeText (text : String) : decodeText (encodeText text) = text := by
  rw [decodeText, encodeText, decodeBytes_flatMap, decodeUtf8Lenient_encodeUtf8]

theorem absent_encodeText (text : String) {mark : Char} (separates : mark ∈ separators) :
    mark ∉ encodeText text := by
  intro among
  obtain ⟨byte, _, inside⟩ := List.mem_flatMap.mp among
  have bound : byte.toNat < 256 := byte.toNat_lt
  have free := all_encodeByte (byte.toNat / 16) (by omega) (byte.toNat % 16) (by omega)
  rw [ofNat_digits, List.all_eq_true] at free
  have outside := free mark inside
  rw [List.contains_iff_mem.mpr separates] at outside
  cases outside

theorem decodePair_encodePair (pair : Pair) : decodePair (encodePair pair) = pair := by
  have absent : '=' ∉ encodeText pair.1 := absent_encodeText pair.1 (by decide)
  rw [decodePair, encodePair, splitFirst?_append absent]
  simp only [decodeText_encodeText]

theorem absent_encodePair (pair : Pair) {mark : Char} (separates : mark ∈ ['\n', '&']) :
    mark ∉ encodePair pair := by
  have among : mark ∈ separators := List.mem_append_left ['='] separates
  have other : mark ≠ '=' := by
    rintro rfl
    exact absurd separates (by decide)
  simp only [encodePair, List.mem_append, List.mem_cons, not_or]
  exact ⟨absent_encodeText pair.1 among, other, absent_encodeText pair.2 among⟩

theorem encodePair_ne_nil (pair : Pair) : encodePair pair ≠ [] :=
  List.append_ne_nil_of_right_ne_nil _ (List.cons_ne_nil _ _)

theorem decode_encode (pairs : List Pair) : decode (encode pairs) = pairs := by
  unfold decode encode
  rw [String.toList_ofList]
  cases pairs with
  | nil => rfl
  | cons pair others =>
      rw [splitAll_intercalate]
      · have kept : ((pair :: others).map encodePair).filter (!·.isEmpty) =
            (pair :: others).map encodePair := by
          rw [List.filter_eq_self]
          intro written among
          obtain ⟨source, _, rfl⟩ := List.mem_map.mp among
          simpa using encodePair_ne_nil source
        rw [kept, List.map_map]
        exact (List.map_congr_left fun source _ => decodePair_encodePair source).trans
          (List.map_id _)
      · exact List.cons_ne_nil _ _
      · intro written among
        obtain ⟨source, _, rfl⟩ := List.mem_map.mp among
        exact absent_encodePair source (by decide)

theorem encode_injective {first second : List Pair} (same : encode first = encode second) :
    first = second := by
  rw [← decode_encode first, same, decode_encode]

theorem newline_not_mem_encode (pairs : List Pair) : '\n' ∉ (encode pairs).toList := by
  rw [encode, String.toList_ofList]
  intro among
  rcases mem_intercalate among with same | ⟨written, present, inside⟩
  · exact absurd same (by decide)
  · obtain ⟨source, _, rfl⟩ := List.mem_map.mp present
    exact absent_encodePair source (by decide) inside

theorem encode_ne_empty {pairs : List Pair} (nonempty : pairs ≠ []) : encode pairs ≠ "" := by
  intro empty
  have nothing : encode pairs = encode [] := empty
  exact nonempty (encode_injective nothing)

end Telemetry.Form
