import Rendezvous.Base.Json.Runes
import Mathlib.Data.Nat.Digits.Defs

/-!
# String and number literals

The two literals of JSON with a text of their own, each as the machine
that scans it. A literal carries the proof that its machine accepts it, so
a syntax tree cannot hold a malformed one. A string literal keeps its text
as written, escapes included; so does a number.
-/

namespace Rendezvous.Base.Json

/-! ## Bytes -/

def quoteByte : UInt8 := 34
def escapeByte : UInt8 := 92

def isDigit (c : UInt8) : Bool := 48 ≤ c && c ≤ 57

/-- The value of a hexadecimal digit. -/
def hexValue (c : UInt8) : Option Nat :=
  if isDigit c then some (c.toNat - 48)
  else if 97 ≤ c && c ≤ 102 then some (c.toNat - 87)
  else if 65 ≤ c && c ≤ 70 then some (c.toNat - 55)
  else none

/-! ## Strings -/

/-- Where the scanner stands in a string: between characters, after a
backslash, or before a hexadecimal digit that `more` others follow. -/
inductive StrState where
  | plain
  | escape
  | hex (more : Nat)
  deriving DecidableEq

/-- The bytes that stand for a character after a backslash:
quote, backslash, slash, `b`, `f`, `n`, `r`, `t`. -/
def simpleEscapes : List UInt8 := [34, 92, 47, 98, 102, 110, 114, 116]

/-- The scanner reads one byte of a string. -/
def StrState.step : StrState → UInt8 → Option StrState
  | .plain, c =>
    if c = quoteByte ∨ c < 32 then none
    else if c = escapeByte then some .escape
    else some .plain
  | .escape, c =>
    if c ∈ simpleEscapes then some .plain
    else if c = 117 then some (.hex 3)
    else none
  | .hex more, c =>
    if (hexValue c).isSome then
      match more with
      | 0 => some .plain
      | more + 1 => some (.hex more)
    else none

/-- The scanner reads a text. -/
def StrState.walk (st : StrState) (t : Text) : Option StrState := t.foldlM step st

/-- The text between the quotes of a string literal. -/
@[ext] structure StrLit where
  text : Text
  scanned : StrState.plain.walk text = some .plain
  deriving DecidableEq

/-- A text as a string literal, if it is one. -/
def StrLit.ofText (t : Text) : Option StrLit :=
  if h : StrState.plain.walk t = some .plain then some ⟨t, h⟩ else none

/-- The text up to the quote that ends the string, and what follows it. -/
def scanString : StrState → Text → Option (Text × Text)
  | _, [] => none
  | st, c :: t =>
    if st = .plain ∧ c = quoteByte then some ([], t)
    else
      match st.step c with
      | none => none
      | some st' => (scanString st' t).map fun p => (c :: p.1, p.2)

theorem StrState.walk_append (st : StrState) (t u : Text) :
    st.walk (t ++ u) = (st.walk t).bind fun st' => st'.walk u := by
  unfold StrState.walk
  exact List.foldlM_append

theorem StrState.walk_cons (st : StrState) (c : UInt8) (t : Text) :
    st.walk (c :: t) = (st.step c).bind fun st' => st'.walk t := by
  unfold StrState.walk
  exact List.foldlM_cons

/-- A string ends at its first quote that no backslash stands before. -/
theorem scanString_append {t : Text} (rest : Text) : ∀ {st : StrState}, st.walk t = some .plain →
    scanString st (t ++ quoteByte :: rest) = some (t, rest) := by
  induction t with
  | nil =>
    intro st h
    have hst : st = .plain := Option.some.inj h
    subst hst
    show scanString .plain (quoteByte :: rest) = _
    unfold scanString
    rw [if_pos ⟨rfl, rfl⟩]
  | cons c t ih =>
    intro st h
    rw [StrState.walk_cons] at h
    obtain ⟨st', hstep, hwalk⟩ := Option.bind_eq_some_iff.mp h
    have hquote : ¬ (st = .plain ∧ c = quoteByte) := by
      rintro ⟨rfl, rfl⟩
      simp [StrState.step] at hstep
    show scanString st (c :: (t ++ quoteByte :: rest)) = _
    unfold scanString
    rw [if_neg hquote, hstep]
    show (scanString st' (t ++ quoteByte :: rest)).map _ = _
    rw [ih hwalk]
    rfl

@[simp] theorem StrLit.ofText_text (lit : StrLit) : StrLit.ofText lit.text = some lit := by
  unfold StrLit.ofText
  rw [dif_pos lit.scanned]

/-! ## Numbers -/

/-- Where the scanner stands in a number. -/
inductive NumState where
  | start
  | minus
  | zero
  | int
  | dot
  | frac
  | exp
  | expSign
  | expDigits
  deriving DecidableEq

/-- The scanner reads one byte of a number. -/
def NumState.step : NumState → UInt8 → Option NumState
  | .start, c => if c = 45 then some .minus else first c
  | .minus, c => first c
  | .zero, c => fraction c
  | .int, c => if isDigit c then some .int else fraction c
  | .dot, c => if isDigit c then some .frac else none
  | .frac, c => if isDigit c then some .frac else exponent c
  | .exp, c =>
    if c = 43 ∨ c = 45 then some .expSign
    else if isDigit c then some .expDigits else none
  | .expSign, c => if isDigit c then some .expDigits else none
  | .expDigits, c => if isDigit c then some .expDigits else none
where
  /-- The first digit. -/
  first (c : UInt8) : Option NumState :=
    if c = 48 then some .zero else if isDigit c then some .int else none
  /-- After the digits of an integer. -/
  fraction (c : UInt8) : Option NumState :=
    if c = 46 then some .dot else exponent c
  /-- After the digits of a fraction. -/
  exponent (c : UInt8) : Option NumState :=
    if c = 101 ∨ c = 69 then some .exp else none

/-- The number may end here. -/
def NumState.accepts : NumState → Bool
  | .zero | .int | .frac | .expDigits => true
  | _ => false

/-- The scanner reads a text. -/
def NumState.walk (st : NumState) (t : Text) : Option NumState := t.foldlM step st

/-- A number as written. -/
@[ext] structure NumLit where
  text : Text
  scanned : (NumState.start.walk text).any NumState.accepts = true
  deriving DecidableEq

/-- A text as a number literal, if it is one. -/
def NumLit.ofText (t : Text) : Option NumLit :=
  if h : (NumState.start.walk t).any NumState.accepts = true then some ⟨t, h⟩
  else none

/-- The longest text the scanner reads on, and what follows it. -/
def scanNumber : NumState → Text → Text × Text
  | _, [] => ([], [])
  | st, c :: t =>
    match st.step c with
    | none => ([], c :: t)
    | some st' => (c :: (scanNumber st' t).1, (scanNumber st' t).2)

/-- No number goes on with this text. -/
def Stops : Text → Prop
  | [] => True
  | c :: _ => ∀ st : NumState, st.step c = none

theorem scanNumber_append {t rest : Text} (hrest : Stops rest) :
    ∀ {st : NumState}, (st.walk t).any NumState.accepts = true →
    scanNumber st (t ++ rest) = (t, rest) := by
  induction t with
  | nil =>
    intro st _
    cases rest with
    | nil => rfl
    | cons c rest =>
      show scanNumber st (c :: rest) = _
      unfold scanNumber
      rw [hrest st]
  | cons c t ih =>
    intro st h
    have hwalk : st.walk (c :: t) = (st.step c).bind fun st' => st'.walk t :=
      List.foldlM_cons
    rw [hwalk] at h
    cases hstep : st.step c with
    | none =>
      rw [hstep] at h
      exact absurd h Bool.false_ne_true
    | some st' =>
      rw [hstep] at h
      show scanNumber st (c :: (t ++ rest)) = _
      unfold scanNumber
      rw [hstep]
      simp only
      rw [ih h]

@[simp] theorem NumLit.ofText_text (lit : NumLit) : NumLit.ofText lit.text = some lit := by
  unfold NumLit.ofText
  rw [dif_pos lit.scanned]

/-! ## Integers -/

/-- The byte of a decimal digit. -/
def digitByte (d : Nat) : UInt8 := UInt8.ofNat (48 + d)

/-- `strconv.AppendUint` in base ten. -/
def decimal (n : Nat) : Text :=
  if n = 0 then [digitByte 0] else ((Nat.digits 10 n).map digitByte).reverse

/-- `strconv.AppendInt` in base ten. -/
def intText (n : Int) : Text :=
  if n < 0 then 45 :: decimal n.natAbs else decimal n.natAbs

theorem decimal_of_lt {n : Nat} (h : n < 10) : decimal n = [digitByte n] := by
  unfold decimal
  split
  · next hzero => rw [hzero]
  · next hpos => rw [Nat.digits_of_lt 10 n hpos h]; rfl

theorem decimal_of_le {n : Nat} (h : 10 ≤ n) :
    decimal n = decimal (n / 10) ++ [digitByte (n % 10)] := by
  unfold decimal
  rw [if_neg (by omega), if_neg (by omega),
    Nat.digits_def' (by decide) (by omega), List.map_cons, List.reverse_cons]

theorem toNat_digitByte {d : Nat} (h : d < 10) : (digitByte d).toNat = 48 + d := by
  unfold digitByte
  rw [UInt8.toNat_ofNat']
  omega

private theorem isDigit_digitByte {d : Nat} (h : d < 10) : isDigit (digitByte d) = true := by
  have hval := toNat_digitByte h
  simp only [isDigit, Bool.and_eq_true, decide_eq_true_eq, UInt8.le_iff_toNat_le, hval]
  constructor
  · show 48 ≤ 48 + d
    omega
  · show 48 + d ≤ 57
    omega

theorem exists_digitByte {c : UInt8} (h : isDigit c = true) : ∃ d < 10, c = digitByte d := by
  simp only [isDigit, Bool.and_eq_true, decide_eq_true_eq, UInt8.le_iff_toNat_le] at h
  have hlow : 48 ≤ c.toNat := h.1
  have hhigh : c.toNat ≤ 57 := h.2
  have hd : c.toNat - 48 < 10 := by omega
  refine ⟨c.toNat - 48, hd, ?_⟩
  rw [← UInt8.toNat_inj, toNat_digitByte hd]
  omega

/-- A decimal is digits, and only zero starts with a zero. -/
theorem decimal_digits (n : Nat) : (decimal n).all isDigit = true ∧
    ∃ d t, decimal n = d :: t ∧ (d = 48 → n = 0) := by
  induction n using Nat.strong_induction_on with
  | _ n ih =>
    by_cases h : n < 10
    · rw [decimal_of_lt h]
      refine ⟨?_, _, _, rfl, ?_⟩
      · rw [List.all_cons, isDigit_digitByte h]
        rfl
      · intro hd
        have hval := toNat_digitByte h
        rw [hd] at hval
        have : (48 : UInt8).toNat = 48 := rfl
        omega
    · have hle : 10 ≤ n := Nat.le_of_not_lt h
      obtain ⟨hall, d, t, ht, hd⟩ := ih (n / 10) (by omega)
      rw [decimal_of_le hle]
      refine ⟨?_, d, t ++ [digitByte (n % 10)], by rw [ht]; rfl, ?_⟩
      · rw [List.all_append, hall, List.all_cons, isDigit_digitByte (Nat.mod_lt n (by decide))]
        rfl
      · intro hzero
        have := hd hzero
        omega

/-- Digits go on with the integer. -/
theorem NumState.walk_int {t : Text} (h : t.all isDigit = true) :
    NumState.int.walk t = some .int := by
  induction t with
  | nil => rfl
  | cons c t ih =>
    rw [List.all_cons, Bool.and_eq_true] at h
    show (NumState.int.step c).bind (fun st => st.walk t) = _
    have hstep : NumState.int.step c = some .int := by
      show (if isDigit c = true then some NumState.int else _) = _
      rw [if_pos h.1]
    rw [hstep]
    exact ih h.2

/-- The machine reads a decimal from where a number's first digit stands. -/
theorem NumState.walk_decimal (n : Nat) {st : NumState}
    (hst : ∀ c, isDigit c = true → st.step c = NumState.step.first c) :
    (st.walk (decimal n)).any NumState.accepts = true := by
  obtain ⟨hall, d, t, ht, hd⟩ := decimal_digits n
  have hdigit : isDigit d = true := by
    rw [ht, List.all_cons, Bool.and_eq_true] at hall
    exact hall.1
  rw [ht]
  show ((st.step d).bind fun st' => st'.walk t).any _ = true
  rw [hst d hdigit]
  unfold NumState.step.first
  by_cases hzero : d = 48
  · rw [hd hzero, decimal_of_lt (by decide)] at ht
    have hnil : t = [] := (List.cons.inj ht).2.symm
    rw [if_pos hzero, hnil]
    rfl
  · rw [ht, List.all_cons, Bool.and_eq_true] at hall
    rw [if_neg hzero, if_pos hdigit]
    show (NumState.int.walk t).any _ = true
    rw [NumState.walk_int hall.2]
    rfl

/-- An integer as a number literal. -/
def intLit (n : Int) : NumLit where
  text := intText n
  scanned := by
    unfold intText
    split
    · exact NumState.walk_decimal n.natAbs fun c _ => rfl
    · apply NumState.walk_decimal n.natAbs
      intro c hc
      show (if c = 45 then _ else NumState.step.first c) = _
      rw [if_neg]
      rintro rfl
      exact absurd hc (by decide)

end Rendezvous.Base.Json
