import Mathlib.Data.List.Basic

/-!
# Byte strings as runes

A byte string is read as UTF-8 one character at a time. Where no character
starts, one byte is skipped and counts as a bad rune, written `none`.
-/

namespace Rendezvous.Base.Json

/-- Bytes of a text. -/
abbrev Text := List UInt8

/-- The bytes of a sequence of characters. -/
def utf8 (cs : List Char) : Text := cs.flatMap String.utf8EncodeChar

/-- The character a text starts with. -/
def rune (t : Text) : Option Char := t.toByteArray.utf8DecodeChar? 0

/-- The runes of a text, at most `n` of them. -/
def runesFrom : Nat → Text → List (Option Char)
  | 0, _ => []
  | _ + 1, [] => []
  | n + 1, b :: t =>
    match rune (b :: t) with
    | some c => some c :: runesFrom n ((b :: t).drop c.utf8Size)
    | none => none :: runesFrom n t

/-- The runes of a text. -/
def runes (t : Text) : List (Option Char) := runesFrom t.length t

/-! ## One character -/

theorem rune_encode_append (c : Char) (t : Text) :
    rune (String.utf8EncodeChar c ++ t) = some c := by
  unfold rune
  rw [List.toByteArray_append]
  exact ByteArray.utf8DecodeChar?_utf8EncodeChar_append

/-! ## Runes of a text -/

/-- Counts that reach the end of the text give the same runes. -/
theorem runesFrom_congr {n : Nat} : ∀ {m : Nat} {t : Text}, t.length ≤ n →
    t.length ≤ m → runesFrom n t = runesFrom m t := by
  induction n with
  | zero =>
    intro m t hn _
    rw [List.length_eq_zero_iff.mp (Nat.le_zero.mp hn)]
    cases m <;> rfl
  | succ n ih =>
    intro m t hn hm
    match m, t with
    | 0, [] => rfl
    | _ + 1, [] => rfl
    | m + 1, b :: t =>
      have hn' : t.length ≤ n := Nat.le_of_succ_le_succ hn
      have hm' : t.length ≤ m := Nat.le_of_succ_le_succ hm
      unfold runesFrom
      cases rune (b :: t) with
      | none => exact congrArg (none :: ·) (ih hn' hm')
      | some c =>
        have hdrop : ((b :: t).drop c.utf8Size).length ≤ t.length := by
          have hpos := c.utf8Size_pos
          rw [List.length_drop, List.length_cons]
          omega
        exact congrArg (some c :: ·)
          (ih (Nat.le_trans hdrop hn') (Nat.le_trans hdrop hm'))

/-- A character is one rune. -/
theorem runes_encode_append (c : Char) (t : Text) :
    runes (String.utf8EncodeChar c ++ t) = some c :: runes t := by
  have hrune := rune_encode_append c t
  have hlen := String.length_utf8EncodeChar c
  match hbytes : String.utf8EncodeChar c, String.utf8EncodeChar_ne_nil with
  | b :: bs, _ =>
    rw [hbytes] at hrune hlen
    show runesFrom ((bs ++ t).length + 1) (b :: (bs ++ t)) = _
    unfold runesFrom
    rw [show rune (b :: (bs ++ t)) = some c from hrune]
    have hdrop : (b :: (bs ++ t)).drop c.utf8Size = t := by
      rw [← hlen, ← List.cons_append, List.drop_left]
    show some c :: runesFrom _ ((b :: (bs ++ t)).drop c.utf8Size) = _
    rw [hdrop]
    have hle : t.length ≤ (bs ++ t).length := by
      rw [List.length_append]
      omega
    exact congrArg (some c :: ·) (runesFrom_congr hle (Nat.le_refl _))

end Rendezvous.Base.Json
