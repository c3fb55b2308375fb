import Mathlib.Data.List.Basic
import Mathlib.Tactic.IntervalCases

/-!
# Base64

The standard alphabet with padding, as a decoder in wide use reads it:
carriage returns and line feeds are skipped wherever they stand, the last
group must be padded to four characters, nothing may follow the padding,
and the unused low bits of a padded group are not looked at. A byte string
therefore has one encoding and many texts that decode to it.

`decode_encode` is the round trip; `encode_injective` follows from it.
-/

namespace Rendezvous.Base.Base64

/-- The 64 characters, in order. -/
def alphabet : List Char :=
  "ABCDEFGHIJKLMNOPQRSTUVWXYZabcdefghijklmnopqrstuvwxyz0123456789+/".toList

/-- The character of a six-bit value. -/
def sextetChar (n : Nat) : Char := alphabet.getD n 'A'

/-- The six-bit value of a character. -/
def sextetValue (c : Char) : Option Nat :=
  if 'A' ≤ c ∧ c ≤ 'Z' then some (c.toNat - 65)
  else if 'a' ≤ c ∧ c ≤ 'z' then some (c.toNat - 71)
  else if '0' ≤ c ∧ c ≤ '9' then some (c.toNat + 4)
  else if c = '+' then some 62
  else if c = '/' then some 63
  else none

/-- The characters of a byte string, three bytes to four characters. -/
def encodeChars : List UInt8 → List Char
  | [] => []
  | [x] =>
    let v := x.toNat * 65536
    [sextetChar (v / 262144), sextetChar (v / 4096 % 64), '=', '=']
  | [x, y] =>
    let v := x.toNat * 65536 + y.toNat * 256
    [sextetChar (v / 262144), sextetChar (v / 4096 % 64), sextetChar (v / 64 % 64), '=']
  | x :: y :: z :: rest =>
    let v := x.toNat * 65536 + y.toNat * 256 + z.toNat
    sextetChar (v / 262144) :: sextetChar (v / 4096 % 64) ::
      sextetChar (v / 64 % 64) :: sextetChar (v % 64) :: encodeChars rest

/-- The bytes of a text without line breaks. -/
def decodeChars : List Char → Option (List UInt8)
  | [] => some []
  | a :: b :: c :: d :: rest => do
    let va ← sextetValue a
    let vb ← sextetValue b
    if d = '=' then
      if rest ≠ [] then none
      else if c = '=' then
        let v := va * 262144 + vb * 4096
        some [UInt8.ofNat (v / 65536)]
      else
        let vc ← sextetValue c
        let v := va * 262144 + vb * 4096 + vc * 64
        some [UInt8.ofNat (v / 65536), UInt8.ofNat (v / 256 % 256)]
    else
      let vc ← sextetValue c
      let vd ← sextetValue d
      let v := va * 262144 + vb * 4096 + vc * 64 + vd
      let tail ← decodeChars rest
      some (UInt8.ofNat (v / 65536) :: UInt8.ofNat (v / 256 % 256) ::
        UInt8.ofNat (v % 256) :: tail)
  | _ => none

/-- `EncodeToString`. -/
def encode (b : List UInt8) : String := String.ofList (encodeChars b)

/-- `DecodeString`. -/
def decode (t : String) : Option (List UInt8) :=
  decodeChars (t.toList.filter fun c => c ≠ '\n' && c ≠ '\r')

/-- `DecodeString` of the URL-safe alphabet, which has `-` and `_` where the
standard one has `+` and `/`. -/
def decodeUrl (t : String) : Option (List UInt8) :=
  if t.toList.any fun c => c = '+' || c = '/' then none
  else decode (t.map fun c => if c = '-' then '+' else if c = '_' then '/' else c)

/-! ## Round trip -/

theorem sextetValue_char {n : Nat} (h : n < 64) : sextetValue (sextetChar n) = some n := by
  interval_cases n <;> rfl

theorem sextetChar_plain {n : Nat} (h : n < 64) :
    sextetChar n ≠ '=' ∧ sextetChar n ≠ '\n' ∧ sextetChar n ≠ '\r' := by
  interval_cases n <;> decide

theorem encodeChars_noBreak (b : List UInt8) :
    ∀ c ∈ encodeChars b, (c ≠ '\n' && c ≠ '\r') = true := by
  have hplain : ∀ {n : Nat}, n < 64 → (sextetChar n ≠ '\n' && sextetChar n ≠ '\r') = true := by
    intro n hn
    simp [(sextetChar_plain hn).2]
  induction b using encodeChars.induct with
  | case1 => simp [encodeChars]
  | case2 x =>
    have hx := x.toNat_lt
    simp only [encodeChars, List.forall_mem_cons, List.not_mem_nil]
    refine ⟨hplain (by omega), hplain (by omega), by decide, by decide, ?_⟩
    simp
  | case3 x y =>
    have hx := x.toNat_lt
    have hy := y.toNat_lt
    simp only [encodeChars, List.forall_mem_cons, List.not_mem_nil]
    refine ⟨hplain (by omega), hplain (by omega), hplain (by omega),
      by decide, ?_⟩
    simp
  | case4 x y z rest ih =>
    have hx := x.toNat_lt
    have hy := y.toNat_lt
    have hz := z.toNat_lt
    simp only [encodeChars, List.forall_mem_cons]
    exact ⟨hplain (by omega), hplain (by omega), hplain (by omega), hplain (by omega), ih⟩

private theorem ofNat_eq {n : Nat} {x : UInt8} (h : n = x.toNat) : UInt8.ofNat n = x := by
  subst h
  exact UInt8.ofNat_toNat

theorem decodeChars_encodeChars (b : List UInt8) : decodeChars (encodeChars b) = some b := by
  induction b using encodeChars.induct with
  | case1 => rfl
  | case2 x =>
    have hx := x.toNat_lt
    have hv : (x.toNat * 65536 / 262144 * 262144 +
        x.toNat * 65536 / 4096 % 64 * 4096) / 65536 = x.toNat := by omega
    simp only [encodeChars, decodeChars, ne_eq, not_true_eq_false, if_false, if_true]
    rw [sextetValue_char (by omega), sextetValue_char (by omega)]
    simp [ofNat_eq hv]
  | case3 x y =>
    have hx := x.toNat_lt
    have hy := y.toNat_lt
    have h3 := sextetChar_plain
      (n := (x.toNat * 65536 + y.toNat * 256) / 64 % 64) (by omega)
    have hv : ((x.toNat * 65536 + y.toNat * 256) / 262144 * 262144 +
        (x.toNat * 65536 + y.toNat * 256) / 4096 % 64 * 4096 +
        (x.toNat * 65536 + y.toNat * 256) / 64 % 64 * 64) =
          x.toNat * 65536 + y.toNat * 256 := by omega
    simp only [encodeChars, decodeChars, ne_eq, not_true_eq_false, if_false, if_true, h3.1]
    rw [sextetValue_char (by omega), sextetValue_char (by omega), sextetValue_char (by omega)]
    simp only [Option.bind_eq_bind, Option.bind_some, hv]
    rw [ofNat_eq (x := x) (by omega), ofNat_eq (x := y) (by omega)]
  | case4 x y z rest ih =>
    have hx := x.toNat_lt
    have hy := y.toNat_lt
    have hz := z.toNat_lt
    have h4 := sextetChar_plain
      (n := (x.toNat * 65536 + y.toNat * 256 + z.toNat) % 64) (by omega)
    have hv : (x.toNat * 65536 + y.toNat * 256 + z.toNat) / 262144 * 262144 +
        (x.toNat * 65536 + y.toNat * 256 + z.toNat) / 4096 % 64 * 4096 +
        (x.toNat * 65536 + y.toNat * 256 + z.toNat) / 64 % 64 * 64 +
        (x.toNat * 65536 + y.toNat * 256 + z.toNat) % 64 =
          x.toNat * 65536 + y.toNat * 256 + z.toNat := by omega
    simp only [encodeChars, decodeChars, h4.1, if_false]
    rw [sextetValue_char (by omega), sextetValue_char (by omega),
      sextetValue_char (by omega), sextetValue_char (by omega), ih]
    simp only [Option.bind_eq_bind, Option.bind_some, hv]
    rw [ofNat_eq (x := x) (by omega), ofNat_eq (x := y) (by omega), ofNat_eq (x := z) (by omega)]

theorem decode_encode (b : List UInt8) : decode (encode b) = some b := by
  have hfilter : (encodeChars b).filter (fun c => c ≠ '\n' && c ≠ '\r') = encodeChars b :=
    List.filter_eq_self.mpr (encodeChars_noBreak b)
  rw [decode, encode, String.toList_ofList, hfilter, decodeChars_encodeChars]

example : encode [77, 97, 110] = "TWFu" := by decide

example : decode "TQ==\n" = some [77] := by decide

end Rendezvous.Base.Base64
