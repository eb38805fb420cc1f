import Mathlib

/-! Base64 with its standard alphabet: four digits of six bits for three bytes, the last group
filled up with padding. Decoding is strict as `binascii.a2b_base64` is in its strict mode: no other
characters, no padding in front and nothing after the padding of the last group; but behind full
groups any amount of padding is let through. -/

namespace Base64

def pad : Char := '='

def digit (value : Nat) : Char :=
  if value < 26 then Char.ofNat (value + 65)
  else if value < 52 then Char.ofNat (value + 71)
  else if value < 62 then Char.ofNat (value - 4)
  else if value = 62 then '+'
  else '/'

def value? (character : Char) : Option Nat :=
  let code := character.toNat
  if 65 ≤ code ∧ code ≤ 90 then some (code - 65)
  else if 97 ≤ code ∧ code ≤ 122 then some (code - 71)
  else if 48 ≤ code ∧ code ≤ 57 then some (code + 4)
  else if character = '+' then some 62
  else if character = '/' then some 63
  else none

def encode : List UInt8 → List Char
  | [] => []
  | [a] => [digit (a.toNat / 4), digit (a.toNat % 4 * 16), pad, pad]
  | [a, b] => [digit (a.toNat / 4), digit (a.toNat % 4 * 16 + b.toNat / 16),
      digit (b.toNat % 16 * 4), pad]
  | a :: b :: c :: rest =>
      digit (a.toNat / 4) :: digit (a.toNat % 4 * 16 + b.toNat / 16) ::
        digit (b.toNat % 16 * 4 + c.toNat / 64) :: digit (c.toNat % 64) :: encode rest

def firstByte (first second : Nat) : UInt8 := UInt8.ofNat (first * 4 + second / 16)

def secondByte (second third : Nat) : UInt8 := UInt8.ofNat (second % 16 * 16 + third / 4)

def thirdByte (third fourth : Nat) : UInt8 := UInt8.ofNat (third % 4 * 64 + fourth)

def decodeFull (w x y z : Char) : Option (List UInt8) := do
  let first ← value? w
  let second ← value? x
  let third ← value? y
  let fourth ← value? z
  return [firstByte first second, secondByte second third, thirdByte third fourth]

/-- The last group. The bits that padding cuts off are not looked at. -/
def decodeLast (w x y z : Char) : Option (List UInt8) :=
  if z = pad then
    if y = pad then do
      let first ← value? w
      let second ← value? x
      return [firstByte first second]
    else do
      let first ← value? w
      let second ← value? x
      let third ← value? y
      return [firstByte first second, secondByte second third]
  else decodeFull w x y z

/-- What may follow a full group: nothing but padding, or more groups. -/
def decodeRest (characters : List Char) : Option (List UInt8) :=
  if characters.all (· == pad) then some []
  else
    match characters with
    | [w, x, y, z] => decodeLast w x y z
    | w :: x :: y :: z :: rest => do
        let group ← decodeFull w x y z
        let others ← decodeRest rest
        return group ++ others
    | _ => none

def decode (characters : List Char) : Option (List UInt8) :=
  if characters.head? = some pad then none else decodeRest characters

theorem value?_digit (value : Nat) (small : value < 64) : value? (digit value) = some value := by
  have each : ∀ value : Fin 64, value? (digit value) = some value.1 := by decide
  exact each ⟨value, small⟩

theorem digit_ne_pad (value : Nat) (small : value < 64) : digit value ≠ pad := by
  intro same
  have found := value?_digit value small
  rw [same] at found
  cases found

theorem firstByte_digits (a : UInt8) (low : Nat) (small : low < 16) :
    firstByte (a.toNat / 4) (a.toNat % 4 * 16 + low) = a := by
  have split : a.toNat / 4 * 4 + (a.toNat % 4 * 16 + low) / 16 = a.toNat := by omega
  rw [firstByte, split, UInt8.ofNat_toNat]

theorem secondByte_digits (b : UInt8) (high low : Nat) (small : low < 4) :
    secondByte (high * 16 + b.toNat / 16) (b.toNat % 16 * 4 + low) = b := by
  have bound : b.toNat < 256 := b.toNat_lt_size
  have split : (high * 16 + b.toNat / 16) % 16 * 16 + (b.toNat % 16 * 4 + low) / 4 = b.toNat := by
    omega
  rw [secondByte, split, UInt8.ofNat_toNat]

theorem thirdByte_digits (c : UInt8) (high : Nat) :
    thirdByte (high * 4 + c.toNat / 64) (c.toNat % 64) = c := by
  have bound : c.toNat < 256 := c.toNat_lt_size
  have split : (high * 4 + c.toNat / 64) % 4 * 64 + c.toNat % 64 = c.toNat := by omega
  rw [thirdByte, split, UInt8.ofNat_toNat]

theorem decodeFull_digits (a b c : UInt8) :
    decodeFull (digit (a.toNat / 4)) (digit (a.toNat % 4 * 16 + b.toNat / 16))
        (digit (b.toNat % 16 * 4 + c.toNat / 64)) (digit (c.toNat % 64)) = some [a, b, c] := by
  have boundA : a.toNat < 256 := a.toNat_lt_size
  have boundB : b.toNat < 256 := b.toNat_lt_size
  have boundC : c.toNat < 256 := c.toNat_lt_size
  simp only [decodeFull, value?_digit _ (show a.toNat / 4 < 64 by omega),
    value?_digit _ (show a.toNat % 4 * 16 + b.toNat / 16 < 64 by omega),
    value?_digit _ (show b.toNat % 16 * 4 + c.toNat / 64 < 64 by omega),
    value?_digit _ (show c.toNat % 64 < 64 by omega), Option.bind_eq_bind, Option.bind_some,
    firstByte_digits a _ (show b.toNat / 16 < 16 by omega),
    secondByte_digits b _ _ (show c.toNat / 64 < 4 by omega), thirdByte_digits c]
  rfl

theorem first_small (a : UInt8) : a.toNat / 4 < 64 := by
  have bound : a.toNat < 256 := a.toNat_lt_size
  omega

theorem encode_head (bytes : List UInt8) (nonempty : bytes ≠ []) :
    ∃ value < 64, ∃ rest, encode bytes = digit value :: rest := by
  match bytes with
  | [] => exact absurd rfl nonempty
  | [a] => exact ⟨a.toNat / 4, first_small a, _, rfl⟩
  | [a, _] => exact ⟨a.toNat / 4, first_small a, _, rfl⟩
  | a :: _ :: _ :: _ => exact ⟨a.toNat / 4, first_small a, _, rfl⟩

theorem decodeRest_digit (value : Nat) (small : value < 64) (x y z : Char) (rest : List Char) :
    decodeRest (digit value :: x :: y :: z :: rest) =
      if rest = [] then decodeLast (digit value) x y z
      else do
        let group ← decodeFull (digit value) x y z
        let others ← decodeRest rest
        return group ++ others := by
  have notPad : (digit value == pad) = false := beq_false_of_ne (digit_ne_pad value small)
  cases rest with
  | nil => simp [decodeRest, notPad]
  | cons head tail =>
      rw [if_neg (List.cons_ne_nil head tail), decodeRest, List.all_cons, notPad, Bool.false_and,
        if_neg Bool.false_ne_true]
      exact fun empty => List.cons_ne_nil head tail empty

theorem decodeRest_encode (bytes : List UInt8) : decodeRest (encode bytes) = some bytes := by
  fun_induction encode bytes with
  | case1 => rfl
  | case2 a =>
      have bound : a.toNat < 256 := a.toNat_lt_size
      have byte := firstByte_digits a 0 (by decide)
      rw [Nat.add_zero] at byte
      rw [decodeRest_digit _ (first_small a), if_pos rfl]
      simp only [decodeLast, if_true, value?_digit _ (first_small a),
        value?_digit _ (show a.toNat % 4 * 16 < 64 by omega), Option.bind_eq_bind,
        Option.bind_some, byte]
      rfl
  | case3 a b =>
      have boundA : a.toNat < 256 := a.toNat_lt_size
      have boundB : b.toNat < 256 := b.toNat_lt_size
      have byte := secondByte_digits b (a.toNat % 4) 0 (by decide)
      rw [Nat.add_zero] at byte
      have third := digit_ne_pad (b.toNat % 16 * 4) (by omega)
      rw [decodeRest_digit _ (first_small a), if_pos rfl]
      simp only [decodeLast, if_true, if_neg third,
        value?_digit _ (first_small a),
        value?_digit _ (show a.toNat % 4 * 16 + b.toNat / 16 < 64 by omega),
        value?_digit _ (show b.toNat % 16 * 4 < 64 by omega), Option.bind_eq_bind,
        Option.bind_some, firstByte_digits a _ (show b.toNat / 16 < 16 by omega), byte]
      rfl
  | case4 a b c rest ih =>
      rw [decodeRest_digit _ (first_small a)]
      by_cases last : rest = []
      · subst last
        have bound : c.toNat < 256 := c.toNat_lt_size
        have fourth := digit_ne_pad (c.toNat % 64) (by omega)
        rw [encode, if_pos rfl, decodeLast, if_neg fourth, decodeFull_digits]
      · obtain ⟨value, _, tail, more⟩ := encode_head rest last
        rw [if_neg (more ▸ List.cons_ne_nil _ tail), decodeFull_digits, ih]
        rfl

theorem decode_encode (bytes : List UInt8) : decode (encode bytes) = some bytes := by
  have started : (encode bytes).head? ≠ some pad := by
    by_cases empty : bytes = []
    · subst empty
      decide
    · obtain ⟨value, small, rest, starts⟩ := encode_head bytes empty
      rw [starts, List.head?_cons]
      exact fun same => digit_ne_pad value small (Option.some.inj same)
  rw [decode, if_neg started, decodeRest_encode]

example : decode "AAAA===".toList = some [0, 0, 0] ∧ decode "AAA==".toList = none := by decide

end Base64
