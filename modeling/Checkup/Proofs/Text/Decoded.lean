import Checkup.Text.Portions
import Mathlib.Algebra.Ring.Nat

/-!
Valid text is always read to its end.

However a text is cut into chunks, decoding them one after the other is decoding the whole, and an
encoded character decodes to itself. So as long as what is ahead is the rest of a valid text, no
portion fails.

Main statements: `decode_append` (chunks), `decode_flatMap_encode` (characters) and
`failed_ofBytes_of_valid`.
-/

namespace Checkup.Text

/-! ### Decoding -/

/-- Decoding goes on where it was broken off. -/
theorem decode_append (opened : Option OpenChar) (xs ys : List UInt8) :
    decode opened (xs ++ ys) = (decode opened xs).bind fun (cs, o) =>
      (decode o ys).map fun (ds, o') => (cs ++ ds, o') := by
  induction xs generalizing opened with
  | nil =>
      simp only [List.nil_append, decode, Option.bind_some]
      cases decode opened ys <;> rfl
  | cons b rest ih =>
      rw [List.cons_append, decode, decode]
      cases opened.elim (leadByte b.toNat) (nextByte · b.toNat) with
      | invalid => rfl
      | more o => exact ih (some o)
      | whole c =>
          simp only [ih none]
          cases decode none rest with
          | none => rfl
          | some read =>
              simp only [Option.bind_some, Option.map_some, Option.map_map]
              rfl

theorem decode_none_cons_of_more {b : UInt8} {o : OpenChar} (rest : List UInt8)
    (step : leadByte b.toNat = .more o) : decode none (b :: rest) = decode (some o) rest := by
  rw [decode, Option.elim_none, step]

theorem decode_none_cons_of_whole {b : UInt8} {c : Char} (rest : List UInt8)
    (step : leadByte b.toNat = .whole c) :
    decode none (b :: rest) = (decode none rest).map fun (cs, o) => (c :: cs, o) := by
  rw [decode, Option.elim_none, step]

theorem decode_some_cons_of_more {b : UInt8} {opened o : OpenChar} (rest : List UInt8)
    (step : nextByte opened b.toNat = .more o) :
    decode (some opened) (b :: rest) = decode (some o) rest := by
  rw [decode, Option.elim_some, step]

theorem decode_some_cons_of_whole {b : UInt8} {opened : OpenChar} {c : Char} (rest : List UInt8)
    (step : nextByte opened b.toNat = .whole c) :
    decode (some opened) (b :: rest) = (decode none rest).map fun (cs, o) => (c :: cs, o) := by
  rw [decode, Option.elim_some, step]

/-- The byte that carries the lowest six bits of a number. -/
def furtherByte (n : Nat) : UInt8 := UInt8.ofNat (n % 0x40 + 0x80)

theorem toNat_furtherByte (n : Nat) : (furtherByte n).toNat = n % 64 + 128 := by
  rw [furtherByte, UInt8.toNat_ofNat']
  omega

/-- A byte of six more bits is taken where its bounds let it pass. -/
theorem nextByte_furtherByte {o : OpenChar} {n : Nat} (bits : o.bits = n / 64)
    (low : o.low ≤ n % 64 + 128) (high : n % 64 + 128 ≤ o.high) :
    nextByte o (furtherByte n).toNat =
      if o.needed ≤ 1 then .whole (Char.ofNat n) else .more ⟨o.needed - 1, 0x80, 0xbf, n⟩ := by
  have sum : o.bits * 64 + (n % 64 + 128) % 64 = n := by omega
  rw [toNat_furtherByte, nextByte, if_pos ⟨low, high⟩]
  simp only [sum]

/-- The last byte of a character. -/
theorem decode_last {n low high : Nat} (rest : List UInt8) (fits : low ≤ n % 64 + 128)
    (below : n % 64 + 128 ≤ high) :
    decode (some ⟨1, low, high, n / 64⟩) (furtherByte n :: rest) =
      (decode none rest).map fun (cs, o) => (Char.ofNat n :: cs, o) :=
  decode_some_cons_of_whole rest (nextByte_furtherByte rfl fits below)

/-- The last two bytes of a character. -/
theorem decode_lastTwo {n low high : Nat} (rest : List UInt8) (fits : low ≤ n / 64 % 64 + 128)
    (below : n / 64 % 64 + 128 ≤ high) :
    decode (some ⟨2, low, high, n / 64 / 64⟩) (furtherByte (n / 64) :: furtherByte n :: rest) =
      (decode none rest).map fun (cs, o) => (Char.ofNat n :: cs, o) := by
  have step : nextByte ⟨2, low, high, n / 64 / 64⟩ (furtherByte (n / 64)).toNat =
      .more ⟨1, 0x80, 0xbf, n / 64⟩ := nextByte_furtherByte rfl fits below
  rw [decode_some_cons_of_more _ step]
  exact decode_last rest (by omega) (by omega)

/-- The last three bytes of a character. -/
theorem decode_lastThree {n low high : Nat} (rest : List UInt8)
    (fits : low ≤ n / 64 / 64 % 64 + 128) (below : n / 64 / 64 % 64 + 128 ≤ high) :
    decode (some ⟨3, low, high, n / 64 / 64 / 64⟩)
        (furtherByte (n / 64 / 64) :: furtherByte (n / 64) :: furtherByte n :: rest) =
      (decode none rest).map fun (cs, o) => (Char.ofNat n :: cs, o) := by
  have step : nextByte ⟨3, low, high, n / 64 / 64 / 64⟩ (furtherByte (n / 64 / 64)).toNat =
      .more ⟨2, 0x80, 0xbf, n / 64 / 64⟩ := nextByte_furtherByte rfl fits below
  rw [decode_some_cons_of_more _ step]
  exact decode_lastTwo rest (by omega) (by omega)

/-! Each first byte tells how many follow, and its bounds for the second keep out what no character
has. -/

/-- The first byte of two opens a character of two. -/
theorem leadByte_ofTwo {n : Nat} (least : 0x80 ≤ n) (most : n < 0x800) :
    leadByte (UInt8.ofNat (n / 64 % 0x20 + 0xc0)).toNat = .more ⟨1, 0x80, 0xbf, n / 64⟩ := by
  rw [UInt8.toNat_ofNat', show (n / 64 % 0x20 + 0xc0) % 2 ^ 8 = n / 64 + 0xc0 by omega, leadByte,
    if_neg (by omega), if_neg (by omega), if_pos (by omega), Nat.add_sub_cancel]

theorem leadByte_ofThree {n : Nat} (most : n < 0x10000) :
    leadByte (UInt8.ofNat (n / 4096 % 0x10 + 0xe0)).toNat =
      .more ⟨2, if n / 4096 = 0 then 0xa0 else 0x80, if n / 4096 = 13 then 0x9f else 0xbf,
        n / 64 / 64⟩ := by
  rw [UInt8.toNat_ofNat', show (n / 4096 % 0x10 + 0xe0) % 2 ^ 8 = n / 4096 + 0xe0 by omega,
    leadByte, if_neg (by omega), if_neg (by omega), if_neg (by omega), if_pos (by omega),
    Nat.add_sub_cancel, Nat.div_div_eq_div_mul n 64 64]
  simp only [Nat.reduceMul, Nat.add_eq_right, Nat.reduceEqDiff]

theorem leadByte_ofFour {n : Nat} (most : n < 0x110000) :
    leadByte (UInt8.ofNat (n / 262144 % 0x08 + 0xf0)).toNat =
      .more ⟨3, if n / 262144 = 0 then 0x90 else 0x80, if n / 262144 = 4 then 0x8f else 0xbf,
        n / 64 / 64 / 64⟩ := by
  rw [UInt8.toNat_ofNat', show (n / 262144 % 0x08 + 0xf0) % 2 ^ 8 = n / 262144 + 0xf0 by omega,
    leadByte, if_neg (by omega), if_neg (by omega), if_neg (by omega), if_neg (by omega),
    if_pos (by omega), Nat.add_sub_cancel, Nat.div_div_eq_div_mul n 64 64,
    Nat.div_div_eq_div_mul n 4096 64]
  simp only [Nat.reduceMul, Nat.add_eq_right, Nat.reduceEqDiff]

/-- An encoded character is read as it was. -/
theorem decode_encode (c : Char) (rest : List UInt8) :
    decode none (String.utf8EncodeChar c ++ rest) =
      (decode none rest).map fun (cs, o) => (c :: cs, o) := by
  have scalar : c.val.toNat < 0xd800 ∨ 0xdfff < c.val.toNat ∧ c.val.toNat < 0x110000 := c.valid
  have back : Char.ofNat c.val.toNat = c := Char.ofNat_toNat c
  unfold String.utf8EncodeChar
  generalize c.val.toNat = n at scalar back
  subst back
  simp only
  split
  next one =>
    refine decode_none_cons_of_whole rest ?_
    rw [UInt8.toNat_ofNat', leadByte, if_pos (by omega), show n % 2 ^ 8 = n by omega]
  split
  next more two =>
    refine (decode_none_cons_of_more _ (leadByte_ofTwo (by omega) (by omega))).trans ?_
    exact decode_last rest (by omega) (by omega)
  split
  next more three =>
    refine (decode_none_cons_of_more _ (leadByte_ofThree (by omega))).trans ?_
    refine decode_lastTwo rest ?_ ?_
    · split <;> omega
    · split <;> omega
  next four =>
    refine (decode_none_cons_of_more _ (leadByte_ofFour (by omega))).trans ?_
    rw [show n / 4096 = n / 64 / 64 by omega]
    refine decode_lastThree rest ?_ ?_
    · split <;> omega
    · split <;> omega

/-- Characters that are encoded are read as they were, and none is left open. -/
theorem decode_flatMap_encode (cs : List Char) :
    decode none (cs.flatMap String.utf8EncodeChar) = some (cs, none) := by
  induction cs with
  | nil => rfl
  | cons c rest ih => rw [List.flatMap_cons, decode_encode, ih, Option.map_some]

/-! ### Portions -/

namespace Reading

/-- Listing the bytes of an array goes on from a place behind those that are listed. -/
theorem toList_loop_eq (bytes : ByteArray) (place : Nat) (listed : List UInt8) :
    ByteArray.toList.loop bytes place listed = listed.reverse ++ bytes.data.toList.drop place := by
  induction left : bytes.size - place generalizing place listed with
  | zero =>
      have done : bytes.size ≤ place := Nat.le_of_sub_eq_zero left
      rw [ByteArray.toList.loop, if_neg (Nat.not_lt.mpr done), List.drop_eq_nil_of_le done,
        List.append_nil]
  | succ n ih =>
      have within : place < bytes.size := Nat.lt_of_sub_eq_succ left
      have inList : place < bytes.data.toList.length := within
      have byte : bytes.get! place = bytes.data.toList[place] :=
        getElem!_pos bytes.data place within
      rw [ByteArray.toList.loop, if_pos within, ih _ _ (by omega), List.reverse_cons,
        List.append_assoc, List.singleton_append, List.drop_eq_getElem_cons inList, byte]

theorem toList_eq_data_toList (bytes : ByteArray) : bytes.toList = bytes.data.toList := by
  rw [ByteArray.toList, toList_loop_eq, List.reverse_nil, List.nil_append, List.drop_zero]

theorem drop_length_take {α : Type} (n : Nat) (xs : List α) :
    xs.drop (xs.take n).length = xs.drop n := by
  rw [List.drop_eq_drop_iff, List.length_take, Nat.min_assoc, Nat.min_self]

theorem State.request_pos (s : State) (wanted : Nat) : 0 < s.request wanted := by
  unfold State.request chunkSize
  split <;> omega

/-- What is ahead is the rest of a valid text, the character left unfinished included. -/
def State.IsSound (s : State) : Prop := ∃ cs, decode s.opened s.ahead = some (cs, none)

theorem State.IsSound.accept {s : State} (sound : s.IsSound) (atEnd : Bool) (decoded : List Char) :
    (s.accept atEnd decoded).IsSound :=
  sound

/-- A chunk of a valid text can be decoded, and what is ahead of it is the rest of one. -/
theorem State.IsSound.fetch {s : State} (sound : s.IsSound) (wanted : Nat) :
    ∃ read, s.fetch wanted = some read ∧ read.2.IsSound := by
  obtain ⟨cs, whole⟩ := sound
  unfold State.fetch
  dsimp only
  split
  next nothing =>
    have ended : s.ahead = [] := by
      have := s.request_pos wanted
      rcases List.take_eq_nil_iff.mp (List.isEmpty_iff.mp nothing) with none | ended
      · omega
      · exact ended
    have closed : s.opened = none := by
      rw [ended, decode] at whole
      exact (Prod.mk.inj (Option.some.inj whole)).2
    have sound' : State.IsSound { s with lastBytes := 0 } := ⟨cs, whole⟩
    rw [if_neg (by rw [closed]; exact Bool.false_ne_true)]
    exact ⟨_, rfl, sound'.accept true []⟩
  next =>
    rw [← List.take_append_drop (s.request wanted) s.ahead, decode_append] at whole
    cases read : decode s.opened (s.ahead.take (s.request wanted)) with
    | none =>
        rw [read] at whole
        cases whole
    | some decoded =>
        obtain ⟨ds, o⟩ := decoded
        rw [read, Option.bind_some, Option.map_eq_some_iff] at whole
        obtain ⟨⟨rest, last⟩, decodes, closed⟩ := whole
        refine ⟨_, rfl, State.IsSound.accept ⟨rest, ?_⟩ false ds⟩
        rw [← (Prod.mk.inj closed).2, ← decodes]
        exact congrArg (decode o) (drop_length_take _ _)

/-- A portion of a valid text can be read, and leaves the rest of one. -/
theorem State.IsSound.portion {s : State} (sound : s.IsSound) (fuel wanted : Nat) :
    ∃ read, s.portion fuel wanted = some read ∧ read.2.IsSound := by
  induction fuel generalizing s wanted with
  | zero => exact ⟨_, rfl, sound⟩
  | succ fuel ih =>
      rw [State.portion]
      dsimp only
      split
      next full => exact ⟨_, rfl, sound⟩
      next =>
        obtain ⟨⟨more, s'⟩, fetched, sound'⟩ :=
          State.IsSound.fetch (s := { s with ready := s.ready.drop wanted }) sound
            (wanted - (s.ready.take wanted).length)
        rw [fetched]
        cases more with
        | false => exact ⟨_, rfl, sound'⟩
        | true =>
            obtain ⟨read, portion, sound''⟩ := ih sound' (wanted - (s.ready.take wanted).length)
            refine ⟨(s.ready.take wanted ++ read.1, read.2), ?_, sound''⟩
            simp only [portion, Option.map_some]

/-- A valid text is read without a failure. -/
theorem State.IsSound.failed_portions {s : State} (sound : s.IsSound) (fuel : Nat) :
    (s.portions fuel).failed = false := by
  induction fuel generalizing s with
  | zero => rfl
  | succ fuel ih =>
      obtain ⟨⟨portion, s'⟩, read, sound'⟩ := sound.portion (s.ahead.length + 2) portionSize
      rw [State.portions, read]
      cases portion with
      | nil => rfl
      | cons c cs => exact ih sound'

/-- The text of a file fails to be read only where it is no text. -/
theorem failed_ofBytes_of_valid {bytes : ByteArray} (valid : bytes.IsValidUTF8) :
    (ofBytes bytes).failed = false := by
  obtain ⟨cs, rfl⟩ := valid
  refine State.IsSound.failed_portions ⟨cs, ?_⟩ _
  rw [toList_eq_data_toList, List.utf8Encode, List.toList_data_toByteArray]
  exact decode_flatMap_encode cs

end Reading

end Checkup.Text
