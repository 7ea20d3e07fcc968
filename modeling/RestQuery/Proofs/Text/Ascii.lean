import Mathlib.Data.List.Basic
import RestQuery.Header.Basic

/-!
# ASCII texts

An ASCII text is as good as its bytes: `Text.asciiBytes` and `Text.latin1` are inverse to each
other, and both carry lower case over (`Text.map_lowerByte`), which changes no ASCII letter twice.
-/

namespace RestQuery

namespace Text

/-- Whether all characters are ASCII. -/
def allAscii (s : String) : Bool := s.toList.all (·.toNat < 128)

/-- One byte a character. -/
def asciiBytes (s : String) : List UInt8 := s.toList.map fun c => UInt8.ofNat c.toNat

theorem toNat_lt_of_allAscii {s : String} (ascii : allAscii s) : ∀ c ∈ s.toList, c.toNat < 128 := by
  simpa [allAscii] using ascii

theorem allAscii_ofList {cs : List Char} (ascii : ∀ c ∈ cs, c.toNat < 128) :
    allAscii (String.ofList cs) := by
  simpa [allAscii] using ascii

theorem allAscii_append {s t : String} : allAscii (s ++ t) = (allAscii s && allAscii t) := by
  rw [allAscii, String.toList_append, List.all_append]
  rfl

/-! ## Bytes -/

/-- What holds of the first 128 characters holds of every ASCII character. -/
theorem forall_ascii {motive : Char → Prop} (each : ∀ n : Fin 128, motive (Char.ofNat n)) {c : Char}
    (ascii : c.toNat < 128) : motive c := by
  have own := each ⟨c.toNat, ascii⟩
  rwa [Char.ofNat_toNat] at own

theorem asciiBytes?_of_ascii {s : String} (ascii : allAscii s) :
    asciiBytes? s = some (asciiBytes s) := if_pos ascii

theorem asciiBytes?_of_not_ascii {s : String} (foreign : ¬allAscii s) : asciiBytes? s = none :=
  if_neg foreign

theorem latin1_asciiBytes {s : String} (ascii : allAscii s) : latin1 (asciiBytes s) = s := by
  have each : ∀ c ∈ s.toList, Char.ofNat (UInt8.ofNat c.toNat).toNat = c := fun c member =>
    forall_ascii (motive := fun c => Char.ofNat (UInt8.ofNat c.toNat).toNat = c) (by decide)
      (toNat_lt_of_allAscii ascii c member)
  rw [latin1, asciiBytes, List.map_map]
  exact (congrArg String.ofList ((List.map_congr_left each).trans (List.map_id' _))).trans
    String.ofList_toList

theorem asciiBytes_injective {s t : String} (left : allAscii s) (right : allAscii t)
    (same : asciiBytes s = asciiBytes t) : s = t := by
  rw [← latin1_asciiBytes left, same, latin1_asciiBytes right]

theorem isAscii_asciiBytes {s : String} (ascii : allAscii s) : isAscii (asciiBytes s) := by
  have each : ∀ c ∈ s.toList, UInt8.ofNat c.toNat < 128 := fun c member =>
    forall_ascii (motive := fun c => UInt8.ofNat c.toNat < 128) (by decide)
      (toNat_lt_of_allAscii ascii c member)
  simpa [isAscii, asciiBytes] using each

theorem toNat_lt_of_isAscii {bytes : List UInt8} (ascii : isAscii bytes) :
    ∀ b ∈ bytes, b.toNat < 128 := by
  simpa [isAscii, UInt8.lt_iff_toNat_lt] using ascii

theorem toNat_ofNat_ascii {n : Nat} (ascii : n < 128) : (Char.ofNat n).toNat = n := by
  have each : ∀ n : Fin 128, (Char.ofNat n).toNat = n := by decide
  exact each ⟨n, ascii⟩

theorem allAscii_latin1 {bytes : List UInt8} (ascii : isAscii bytes) : allAscii (latin1 bytes) := by
  refine allAscii_ofList fun c member => ?_
  obtain ⟨b, among, rfl⟩ := List.mem_map.1 member
  have small := toNat_lt_of_isAscii ascii b among
  rwa [toNat_ofNat_ascii small]

theorem asciiBytes_latin1 {bytes : List UInt8} (ascii : isAscii bytes) :
    asciiBytes (latin1 bytes) = bytes := by
  have each : ∀ b ∈ bytes, UInt8.ofNat (Char.ofNat b.toNat).toNat = b := fun b member => by
    rw [toNat_ofNat_ascii (toNat_lt_of_isAscii ascii b member), UInt8.ofNat_toNat]
  rw [asciiBytes, latin1, String.toList_ofList, List.map_map]
  exact (List.map_congr_left each).trans (List.map_id' _)

/-! ## Lower case -/

theorem allAscii_lower {s : String} (ascii : allAscii s) : allAscii (lower s) := by
  rw [lower_of_ascii ascii]
  refine allAscii_ofList fun c member => ?_
  obtain ⟨d, among, rfl⟩ := List.mem_map.1 member
  exact forall_ascii (motive := fun c => c.toLower.toNat < 128) (by decide)
    (toNat_lt_of_allAscii ascii d among)

theorem lower_lower {s : String} (ascii : allAscii s) : lower (lower s) = lower s := by
  rw [lower_of_ascii (allAscii_lower ascii), lower_of_ascii ascii, String.toList_ofList,
    List.map_map]
  refine congrArg String.ofList (List.map_congr_left fun c member => ?_)
  exact forall_ascii (motive := fun c => c.toLower.toLower = c.toLower) (by decide)
    (toNat_lt_of_allAscii ascii c member)

/-- Bytes are put in lower case like the text that they stand for. -/
theorem map_lowerByte {s : String} (ascii : allAscii s) :
    (asciiBytes s).map lowerByte = asciiBytes (lower s) := by
  rw [lower_of_ascii ascii, asciiBytes, asciiBytes, String.toList_ofList, List.map_map,
    List.map_map]
  refine List.map_congr_left fun c member => ?_
  exact forall_ascii (motive := fun c => lowerByte (UInt8.ofNat c.toNat) =
    UInt8.ofNat c.toLower.toNat) (by decide) (toNat_lt_of_allAscii ascii c member)

theorem map_lowerByte_of_isAscii {bytes : List UInt8} (ascii : isAscii bytes) :
    bytes.map lowerByte = asciiBytes (lower (latin1 bytes)) := by
  rw [← map_lowerByte (allAscii_latin1 ascii), asciiBytes_latin1 ascii]

/-! ## Upper case -/

theorem upper_of_ascii {s : String} (ascii : allAscii s) :
    upper s = String.ofList (s.toList.map Char.toUpper) := by
  rw [upper, List.map_eq_flatMap]
  refine congrArg String.ofList (List.flatMap_congr fun c member => ?_)
  rw [upperChars, if_pos (toNat_lt_of_allAscii ascii c member)]

theorem toUpper_of_foreign {c : Char} (foreign : 128 ≤ c.toNat) : c.toUpper = c := by
  refine dif_neg fun small => ?_
  have bound : c.toNat ≤ 122 := UInt32.le_iff_toNat_le.1 small.2
  omega

end Text

end RestQuery
