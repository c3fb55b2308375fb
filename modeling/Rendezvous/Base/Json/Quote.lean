import Rendezvous.Base.Json.Literal

/-!
# Quoting

How `encoding/json` writes a string. The writer goes through the runes: a
bad rune is written as the escape of the replacement character, while the
replacement character itself is written raw, like every other character
that needs no escape. What is written is a literal the scanner takes.
-/

namespace Rendezvous.Base.Json

/-! ## The writer -/

/-- A hexadecimal digit, in lower case. -/
def hexByte (d : Nat) : UInt8 := if d < 10 then digitByte d else UInt8.ofNat (87 + d)

/-- The escape of a code unit: backslash, `u` and four digits. -/
def unitEscape (n : Nat) : Text :=
  [escapeByte, 117, hexByte (n / 4096 % 16), hexByte (n / 256 % 16),
    hexByte (n / 16 % 16), hexByte (n % 16)]

/-- The byte that stands for a character after a backslash, for the
characters written this way. -/
def shortEscape (c : Char) : Option UInt8 :=
  match c.toNat with
  | 34 => some 34
  | 92 => some 92
  | 8 => some 98
  | 12 => some 102
  | 10 => some 110
  | 13 => some 114
  | 9 => some 116
  | _ => none

/-- The other characters that are not written raw: control characters and
the two line separators. -/
def needsUnit (c : Char) : Bool :=
  c.toNat < 32 || c.toNat = 0x2028 || c.toNat = 0x2029

/-- `appendString` on one rune, without HTML escaping. -/
def quoteRune : Option Char → Text
  | none => unitEscape 0xFFFD
  | some c =>
    match shortEscape c with
    | some e => [escapeByte, e]
    | none => if needsUnit c then unitEscape c.toNat else String.utf8EncodeChar c

/-! ## Bytes of an encoded character -/

/-- A character of ASCII is its own byte, and the bytes of the others are
high. -/
theorem utf8EncodeChar_bytes (c : Char) :
    (c.toNat < 128 ∧ String.utf8EncodeChar c = [UInt8.ofNat c.toNat]) ∨
    (128 ≤ c.toNat ∧ ∀ b ∈ String.utf8EncodeChar c, 128 ≤ b.toNat) := by
  have hval : c.val.toNat = c.toNat := rfl
  rw [String.utf8EncodeChar.eq_1, hval]
  by_cases h1 : c.toNat ≤ 127
  · left
    rw [if_pos h1]
    exact ⟨by omega, rfl⟩
  · right
    refine ⟨by omega, ?_⟩
    rw [if_neg h1]
    split
    · simp only [List.mem_cons, List.not_mem_nil, or_false, forall_eq_or_imp,
        forall_eq, UInt8.toNat_ofNat']
      omega
    · split
      · simp only [List.mem_cons, List.not_mem_nil, or_false, forall_eq_or_imp,
          forall_eq, UInt8.toNat_ofNat']
        omega
      · simp only [List.mem_cons, List.not_mem_nil, or_false, forall_eq_or_imp,
          forall_eq, UInt8.toNat_ofNat']
        omega

/-! ## The literal the writer writes -/

/-- A byte the scanner takes as it is. -/
def isPlain (b : UInt8) : Bool := b ≠ quoteByte && b ≠ escapeByte && 32 ≤ b

theorem StrState.walk_plain {t : Text} (h : ∀ b ∈ t, isPlain b = true) :
    StrState.plain.walk t = some .plain := by
  induction t with
  | nil => rfl
  | cons b t ih =>
    have hb := h b (List.mem_cons_self ..)
    simp only [isPlain, ne_eq, Bool.and_eq_true, decide_not, Bool.not_eq_true',
      decide_eq_false_iff_not, decide_eq_true_eq] at hb
    have hlow : ¬ b < 32 := UInt8.not_lt.mpr hb.2
    have hstep : StrState.plain.step b = some .plain := by
      show (if b = quoteByte ∨ b < 32 then none
        else if b = escapeByte then some StrState.escape else some .plain) = _
      rw [if_neg (not_or.mpr ⟨hb.1.1, hlow⟩), if_neg hb.1.2]
    rw [StrState.walk_cons, hstep]
    exact ih fun c hc => h c (List.mem_cons_of_mem _ hc)

theorem hexValue_hexByte : ∀ d < 16, hexValue (hexByte d) = some d := by decide

theorem shortEscape_mem {c : Char} {e : UInt8} (h : shortEscape c = some e) :
    e ∈ simpleEscapes := by
  unfold shortEscape at h
  split at h
  case h_8 => exact absurd h (by simp)
  all_goals
    obtain rfl := (Option.some.inj h).symm
    decide

theorem StrState.walk_escape {e : UInt8} (h : e ∈ simpleEscapes) :
    StrState.plain.walk [escapeByte, e] = some .plain := by
  show (if e ∈ simpleEscapes then some StrState.plain else _).bind _ = _
  rw [if_pos h]
  rfl

theorem StrState.walk_unitEscape (n : Nat) : StrState.plain.walk (unitEscape n) = some .plain := by
  have hsome : ∀ d, (hexValue (hexByte (d % 16))).isSome = true := by
    intro d
    rw [hexValue_hexByte _ (Nat.mod_lt _ (by decide))]
    rfl
  have hhex : ∀ more d, (StrState.hex (more + 1)).step (hexByte (d % 16)) = some (.hex more) :=
    fun _ d => if_pos (hsome d)
  have hlast : ∀ d, (StrState.hex 0).step (hexByte (d % 16)) = some .plain :=
    fun d => if_pos (hsome d)
  show (StrState.hex 3).walk [_, _, _, _] = _
  rw [StrState.walk_cons, hhex, Option.bind_some, StrState.walk_cons, hhex,
    Option.bind_some, StrState.walk_cons, hhex, Option.bind_some, StrState.walk_cons, hlast]
  rfl

/-- A character that needs no escape is made of plain bytes. -/
theorem isPlain_encode {c : Char} (hshort : shortEscape c = none)
    (hunit : needsUnit c = false) : ∀ b ∈ String.utf8EncodeChar c, isPlain b = true := by
  intro b hb
  have hb92 : c.toNat ≠ 92 := fun h => by simp [shortEscape, h] at hshort
  have hb34 : c.toNat ≠ 34 := fun h => by simp [shortEscape, h] at hshort
  have hlow : 32 ≤ c.toNat := by
    simp only [needsUnit, Bool.or_eq_false_iff, decide_eq_false_iff_not] at hunit
    omega
  have hval : b.toNat = c.toNat ∨ 128 ≤ b.toNat := by
    rcases utf8EncodeChar_bytes c with ⟨hascii, heq⟩ | ⟨_, hhigh⟩
    · left
      rw [heq, List.mem_singleton] at hb
      rw [hb, UInt8.toNat_ofNat']
      omega
    · right
      exact hhigh b hb
  have hq : quoteByte.toNat = 34 := rfl
  have he : escapeByte.toNat = 92 := rfl
  simp only [isPlain, ne_eq, Bool.and_eq_true, decide_not, Bool.not_eq_true',
    decide_eq_false_iff_not, decide_eq_true_eq, UInt8.le_iff_toNat_le, ← UInt8.toNat_inj,
    hq, he]
  refine ⟨⟨?_, ?_⟩, ?_⟩
  · omega
  · omega
  · show 32 ≤ b.toNat
    omega

theorem StrState.walk_quoteRune (r : Option Char) :
    StrState.plain.walk (quoteRune r) = some .plain := by
  cases r with
  | none => exact StrState.walk_unitEscape _
  | some c =>
    simp only [quoteRune]
    cases hshort : shortEscape c with
    | some e => exact StrState.walk_escape (shortEscape_mem hshort)
    | none =>
      simp only
      split
      · exact StrState.walk_unitEscape _
      · next hunit =>
        exact StrState.walk_plain
          (isPlain_encode hshort (Bool.not_eq_true _ ▸ hunit))

/-- `appendString`: the literal of a sequence of runes. -/
def quoted (rs : List (Option Char)) : StrLit where
  text := rs.flatMap quoteRune
  scanned := by
    induction rs with
    | nil => rfl
    | cons r rs ih =>
      rw [List.flatMap_cons, StrState.walk_append, StrState.walk_quoteRune]
      exact ih

end Rendezvous.Base.Json
