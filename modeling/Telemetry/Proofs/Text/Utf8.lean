import Telemetry.Text.Utf8

/-! What is written as UTF-8 is read back, whatever bytes follow. A character is written by a first
byte that says how many follow, and the ranges for the byte after the first rule out nothing that
is ever written. -/

namespace Telemetry.Text

theorem toNat_ofNat {code : Nat} (small : code < 256) : (UInt8.ofNat code).toNat = code := by
  rw [UInt8.toNat_ofNat', Nat.mod_eq_of_lt small]

theorem toNat_continuation (bits : Nat) : (continuation bits).toNat = 0x80 + bits % 64 :=
  toNat_ofNat (by omega)

theorem isContinuation_continuation (bits : Nat) : isContinuation (continuation bits) = true := by
  have written := toNat_continuation bits
  simp only [isContinuation, Bool.and_eq_true, decide_eq_true_eq, UInt8.le_iff_toNat_le,
    UInt8.toNat_ofNat, written]
  omega

theorem continuationBits_continuation (code bits : Nat) :
    continuationBits code (continuation bits) = code * 64 + bits % 64 := by
  have written := toNat_continuation bits
  simp only [continuationBits, written]
  omega

theorem leadRange_two : ∀ high < 32, 2 ≤ high →
    leadRange (UInt8.ofNat (0xC0 + high)) = some (0x80, 0xBF, 1) := by
  decide

theorem leadRange_three : ∀ high < 16,
    leadRange (UInt8.ofNat (0xE0 + high)) =
      some (if high = 0 then 0xA0 else 0x80, if high = 13 then 0x9F else 0xBF, 2) := by
  decide

theorem leadRange_four : ∀ high < 5,
    leadRange (UInt8.ofNat (0xF0 + high)) =
      some (if high = 0 then 0x90 else 0x80, if high = 4 then 0x8F else 0xBF, 3) := by
  decide

variable {code : Nat} (rest : List UInt8)

/-- A first byte that announces others is read with them, if the next one is in its range. -/
theorem readScalar_announced {lead second low high : UInt8} (others : List UInt8)
    (large : 0x80 ≤ lead.toNat) (range : leadRange lead = some (low, high, others.length + 1))
    (above : low.toNat ≤ second.toNat) (below : second.toNat ≤ high.toNat)
    (continued : ∀ byte ∈ others, isContinuation byte = true)
    (whole : (second :: others).foldl continuationBits
      (lead.toNat % Nat.pow 2 (6 - (others.length + 1))) = code) :
    readScalar lead (second :: (others ++ rest)) =
      (some (Char.ofNat code), others.length + 1) := by
  have admitted : (decide (low ≤ second) && decide (second ≤ high)) = true := by
    rw [decide_eq_true (UInt8.le_iff_toNat_le.mpr above),
      decide_eq_true (UInt8.le_iff_toNat_le.mpr below), Bool.and_self]
  have present : min (others.length + 1)
      (1 + (others ++ rest.takeWhile isContinuation).length) = others.length + 1 := by
    rw [List.length_append]
    omega
  have taken : (second :: (others ++ rest)).take (others.length + 1) = second :: others := by
    rw [List.take_succ_cons, List.take_left]
  unfold readScalar
  rw [if_neg (fun small => Nat.not_lt.mpr large (UInt8.lt_iff_toNat_lt.mp small)), range]
  simp only [List.takeWhile_cons, admitted, if_true, List.isEmpty_cons, Bool.false_eq_true,
    if_false, List.drop_succ_cons, List.drop_zero, List.takeWhile_append_of_pos continued, present,
    taken, whole]

theorem readScalar_one (above : code < 0x80) :
    readScalar (UInt8.ofNat code) rest = (some (Char.ofNat code), 0) := by
  have written : (UInt8.ofNat code).toNat = code := toNat_ofNat (by omega)
  have small : UInt8.ofNat code < 0x80 := by
    rw [UInt8.lt_iff_toNat_lt, written]
    exact above
  unfold readScalar
  rw [if_pos small, written]

theorem readScalar_two (below : 0x80 ≤ code) (above : code < 0x800) :
    readScalar (UInt8.ofNat (0xC0 + code / 64)) (continuation code :: rest) =
      (some (Char.ofNat code), 1) := by
  have lead : (UInt8.ofNat (0xC0 + code / 64)).toNat = 0xC0 + code / 64 := toNat_ofNat (by omega)
  have second := toNat_continuation code
  have range := leadRange_two (code / 64) (by omega) (by omega)
  refine readScalar_announced rest [] ?_ range ?_ ?_ (List.forall_mem_nil _) ?_
  · omega
  · show 0x80 ≤ (continuation code).toNat
    omega
  · show (continuation code).toNat ≤ 0xBF
    omega
  · show continuationBits ((UInt8.ofNat (0xC0 + code / 64)).toNat % 32) (continuation code) = code
    rw [lead, continuationBits_continuation]
    omega

theorem readScalar_three (below : 0x800 ≤ code) (above : code < 0x10000)
    (scalar : code < 0xD800 ∨ 0xDFFF < code) :
    readScalar (UInt8.ofNat (0xE0 + code / 4096))
        (continuation (code / 64) :: continuation code :: rest) =
      (some (Char.ofNat code), 2) := by
  have lead : (UInt8.ofNat (0xE0 + code / 4096)).toNat = 0xE0 + code / 4096 :=
    toNat_ofNat (by omega)
  have second := toNat_continuation (code / 64)
  have range := leadRange_three (code / 4096) (by omega)
  refine readScalar_announced rest [continuation code] ?_ range ?_ ?_ ?_ ?_
  · omega
  -- After 0xE0 a smaller byte would write a code that two bytes can write, and after 0xED a greater
  -- one would write a surrogate.
  · split
    · show 0xA0 ≤ (continuation (code / 64)).toNat
      omega
    · show 0x80 ≤ (continuation (code / 64)).toNat
      omega
  · split
    · show (continuation (code / 64)).toNat ≤ 0x9F
      omega
    · show (continuation (code / 64)).toNat ≤ 0xBF
      omega
  · exact List.forall_mem_singleton.mpr (isContinuation_continuation code)
  · show continuationBits (continuationBits ((UInt8.ofNat (0xE0 + code / 4096)).toNat % 16)
      (continuation (code / 64))) (continuation code) = code
    rw [lead, continuationBits_continuation, continuationBits_continuation]
    omega

theorem readScalar_four (below : 0x10000 ≤ code) (above : code < 0x110000) :
    readScalar (UInt8.ofNat (0xF0 + code / 262144))
        (continuation (code / 4096) :: continuation (code / 64) :: continuation code :: rest) =
      (some (Char.ofNat code), 3) := by
  have lead : (UInt8.ofNat (0xF0 + code / 262144)).toNat = 0xF0 + code / 262144 :=
    toNat_ofNat (by omega)
  have second := toNat_continuation (code / 4096)
  have range := leadRange_four (code / 262144) (by omega)
  refine readScalar_announced rest [continuation (code / 64), continuation code] ?_ range ?_ ?_ ?_
    ?_
  · omega
  -- After 0xF0 a smaller byte would write a code that three bytes can write, and after 0xF4 a
  -- greater one would write no code at all.
  · split
    · show 0x90 ≤ (continuation (code / 4096)).toNat
      omega
    · show 0x80 ≤ (continuation (code / 4096)).toNat
      omega
  · split
    · show (continuation (code / 4096)).toNat ≤ 0x8F
      omega
    · show (continuation (code / 4096)).toNat ≤ 0xBF
      omega
  · exact List.forall_mem_cons.mpr ⟨isContinuation_continuation (code / 64),
      List.forall_mem_singleton.mpr (isContinuation_continuation code)⟩
  · show continuationBits (continuationBits (continuationBits
      ((UInt8.ofNat (0xF0 + code / 262144)).toNat % 8) (continuation (code / 4096)))
      (continuation (code / 64))) (continuation code) = code
    rw [lead, continuationBits_continuation, continuationBits_continuation,
      continuationBits_continuation]
    omega

theorem encodeScalar_ascii {character : Char} (ascii : character.toNat < 0x80) :
    encodeScalar character = [UInt8.ofNat character.toNat] := if_pos ascii

/-- The bytes of a character that is not in ASCII are not in ASCII, either: the first is a case in
point. -/
theorem encodeScalar_wide {character : Char} (wide : 0x80 ≤ character.toNat) :
    ∃ lead rest, encodeScalar character = lead :: rest ∧ 0x80 ≤ lead.toNat := by
  have scalar : character.toNat < 0xD800 ∨ 0xDFFF < character.toNat ∧ character.toNat < 0x110000 :=
    character.valid
  unfold encodeScalar
  rw [if_neg (Nat.not_lt.mpr wide)]
  split
  · refine ⟨_, _, rfl, ?_⟩
    rw [toNat_ofNat (by omega)]
    omega
  · split
    · refine ⟨_, _, rfl, ?_⟩
      rw [toNat_ofNat (by omega)]
      omega
    · refine ⟨_, _, rfl, ?_⟩
      rw [toNat_ofNat (by omega)]
      omega

theorem scanUtf8_cons (lead : UInt8) (rest : List UInt8) :
    scanUtf8 (lead :: rest) =
      (readScalar lead rest).1 :: scanUtf8 (rest.drop (readScalar lead rest).2) := by
  rw [scanUtf8]

theorem scanUtf8_encodeScalar (character : Char) (rest : List UInt8) :
    scanUtf8 (encodeScalar character ++ rest) = some character :: scanUtf8 rest := by
  have scalar : character.toNat < 0xD800 ∨ 0xDFFF < character.toNat ∧ character.toNat < 0x110000 :=
    character.valid
  have read : some (Char.ofNat character.toNat) = some character := by
    rw [Char.ofNat_toNat]
  unfold encodeScalar
  dsimp only
  split
  · rename_i one
    rw [List.singleton_append, scanUtf8_cons, readScalar_one rest one, read, List.drop_zero]
  · split
    · rename_i one two
      have found := readScalar_two rest (Nat.le_of_not_lt one) two
      rw [List.cons_append, List.singleton_append, scanUtf8_cons, found, read, List.drop_one,
        List.tail_cons]
    · split
      · rename_i one two three
        have found := readScalar_three rest (Nat.le_of_not_lt two) three (by omega)
        rw [List.cons_append, List.cons_append, List.singleton_append, scanUtf8_cons, found, read]
        rfl
      · rename_i one two three
        have found := readScalar_four rest (Nat.le_of_not_lt three) (by omega)
        rw [List.cons_append, List.cons_append, List.cons_append, List.singleton_append,
          scanUtf8_cons, found, read]
        rfl

theorem scanUtf8_encodeUtf8 (characters : List Char) :
    scanUtf8 (characters.flatMap encodeScalar) = characters.map some := by
  induction characters with
  | nil => rw [List.flatMap_nil, scanUtf8, List.map_nil]
  | cons character others inductionHypothesis =>
      rw [List.flatMap_cons, scanUtf8_encodeScalar, inductionHypothesis, List.map_cons]

theorem decodeUtf8Lenient_encodeUtf8 (text : String) :
    decodeUtf8Lenient (encodeUtf8 text) = text := by
  unfold decodeUtf8Lenient encodeUtf8
  rw [scanUtf8_encodeUtf8, List.map_map]
  exact (congrArg String.ofList (List.map_id text.toList)).trans String.ofList_toList

theorem decodeUtf8?_encodeUtf8 (text : String) : decodeUtf8? (encodeUtf8 text) = some text := by
  have whole (characters : List Char) : (characters.map some).mapM id = some characters := by
    induction characters with
    | nil => rfl
    | cons character others ih =>
        rw [List.map_cons, List.mapM_cons, ih]
        rfl
  unfold decodeUtf8? encodeUtf8
  rw [scanUtf8_encodeUtf8, whole, Option.map_some, String.ofList_toList]

theorem encodeUtf8_append (first second : String) :
    encodeUtf8 (first ++ second) = encodeUtf8 first ++ encodeUtf8 second := by
  unfold encodeUtf8
  rw [String.toList_append, List.flatMap_append]

theorem encodeUtf8_injective : Function.Injective encodeUtf8 := by
  intro first second same
  have read := congrArg decodeUtf8? same
  rw [decodeUtf8?_encodeUtf8, decodeUtf8?_encodeUtf8] at read
  exact Option.some.inj read

end Telemetry.Text
