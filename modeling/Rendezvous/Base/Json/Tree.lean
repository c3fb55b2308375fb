import Rendezvous.Base.Json.Quote

/-!
# Syntax trees

A JSON text without its white space is a tree whose leaves keep their
literals as written. `print` writes a tree without white space, and
`parse` reads a text with any. Reading what was written gives the tree back
(`parse_print`).
-/

namespace Rendezvous.Base.Json

variable {c : UInt8} {rest : Text} {n : Nat}

/-- A JSON document, up to white space. -/
inductive Tree where
  | null
  | bool (b : Bool)
  | num (lit : NumLit)
  | str (lit : StrLit)
  | arr (items : List Tree)
  | obj (members : List (StrLit × Tree))

/-! ## Writing -/

def nullText : Text := [110, 117, 108, 108]
def trueText : Text := [116, 114, 117, 101]
def falseText : Text := [102, 97, 108, 115, 101]

/-- A member's name and the colon. -/
def printKey (k : StrLit) : Text := quoteByte :: (k.text ++ [quoteByte, 58])

mutual

/-- The text of a tree. -/
def print : Tree → Text
  | .null => nullText
  | .bool true => trueText
  | .bool false => falseText
  | .num lit => lit.text
  | .str lit => quoteByte :: (lit.text ++ [quoteByte])
  | .arr [] => [91, 93]
  | .arr (t :: ts) => 91 :: (print t ++ printItems ts)
  | .obj [] => [123, 125]
  | .obj ((k, t) :: ms) => 123 :: (printKey k ++ (print t ++ printMembers ms))

/-- What follows an element of an array: the others, and the bracket. -/
def printItems : List Tree → Text
  | [] => [93]
  | t :: ts => 44 :: (print t ++ printItems ts)

/-- What follows a member of an object: the others, and the brace. -/
def printMembers : List (StrLit × Tree) → Text
  | [] => [125]
  | (k, t) :: ms => 44 :: (printKey k ++ (print t ++ printMembers ms))

end

/-! ## Reading -/

/-- White space: blank, tab, line feed, carriage return. -/
def isSpace (c : UInt8) : Bool := c = 32 || c = 9 || c = 10 || c = 13

def skipSpace (t : Text) : Text := t.dropWhile isSpace

/-- A word of the language at the start of a text. -/
def parseWord (word : Text) (v : Tree) (t : Text) : Option (Tree × Text) :=
  if word.isPrefixOf t then some (v, t.drop word.length) else none

/-- A string literal whose opening quote has been read. -/
def parseString (t : Text) : Option (StrLit × Text) :=
  (scanString .plain t).bind fun p => (StrLit.ofText p.1).map fun lit => (lit, p.2)

def parseNumber (t : Text) : Option (Tree × Text) :=
  (NumLit.ofText (scanNumber .start t).1).map fun lit =>
    (.num lit, (scanNumber .start t).2)

/-- A member's name and the colon. -/
def parseKey (t : Text) : Option (StrLit × Text) :=
  match skipSpace t with
  | [] => none
  | c :: t =>
    if c = quoteByte then
      (parseString t).bind fun p =>
        match skipSpace p.2 with
        | 58 :: rest => some (p.1, rest)
        | _ => none
    else none

/-- A value that is no array and no object. -/
def parseScalar (t : Text) : Option (Tree × Text) :=
  match t with
  | [] => none
  | c :: rest =>
    if c = quoteByte then (parseString rest).map fun p => (.str p.1, p.2)
    else if c = 110 then parseWord nullText .null t
    else if c = 116 then parseWord trueText (.bool true) t
    else if c = 102 then parseWord falseText (.bool false) t
    else parseNumber t

mutual

/-- A value at the start of a text. The count bounds the recursion; the
length of the text is enough. -/
def parseValue : Nat → Text → Option (Tree × Text)
  | 0, _ => none
  | n + 1, t =>
    match skipSpace t with
    | 91 :: rest =>
      match skipSpace rest with
      | 93 :: rest => some (.arr [], rest)
      | _ =>
        (parseValue n rest).bind fun p =>
          (parseItems n p.2).map fun q => (.arr (p.1 :: q.1), q.2)
    | 123 :: rest =>
      match skipSpace rest with
      | 125 :: rest => some (.obj [], rest)
      | _ =>
        (parseKey rest).bind fun k =>
          (parseValue n k.2).bind fun p =>
            (parseMembers n p.2).map fun q => (.obj ((k.1, p.1) :: q.1), q.2)
    | t => parseScalar t

/-- The elements after the first. -/
def parseItems : Nat → Text → Option (List Tree × Text)
  | 0, _ => none
  | n + 1, t =>
    match skipSpace t with
    | 93 :: rest => some ([], rest)
    | 44 :: rest =>
      (parseValue n rest).bind fun p =>
        (parseItems n p.2).map fun q => (p.1 :: q.1, q.2)
    | _ => none

/-- The members after the first. -/
def parseMembers : Nat → Text → Option (List (StrLit × Tree) × Text)
  | 0, _ => none
  | n + 1, t =>
    match skipSpace t with
    | 125 :: rest => some ([], rest)
    | 44 :: rest =>
      (parseKey rest).bind fun k =>
        (parseValue n k.2).bind fun p =>
          (parseMembers n p.2).map fun q => ((k.1, p.1) :: q.1, q.2)
    | _ => none

end

/-- The document a text holds, with nothing but white space around it. -/
def parse (t : Text) : Option Tree :=
  (parseValue t.length t).bind fun p =>
    if skipSpace p.2 = [] then some p.1 else none

/-! ## Reading what was written -/

theorem skipSpace_cons (h : isSpace c = false) (t : Text) : skipSpace (c :: t) = c :: t :=
  List.dropWhile_cons_of_neg (by rw [h]; exact Bool.false_ne_true)

/-- A byte that starts neither white space nor the end of a list. -/
def Starts (c : UInt8) : Prop := isSpace c = false ∧ c ≠ 93 ∧ c ≠ 125

instance (c : UInt8) : Decidable (Starts c) := inferInstanceAs (Decidable (_ ∧ _))

/-- A number starts with a minus or a digit. -/
theorem NumLit.head (lit : NumLit) : ∃ c u, lit.text = c :: u ∧ (c = 45 ∨ isDigit c = true) := by
  have h := lit.scanned
  match htext : lit.text with
  | [] =>
    rw [htext] at h
    exact absurd h (by decide)
  | c :: u =>
    refine ⟨c, u, rfl, ?_⟩
    rw [htext] at h
    by_cases hminus : c = 45
    · exact Or.inl hminus
    · right
      by_contra hdigit
      have hzero : c ≠ 48 := by
        rintro rfl
        exact hdigit rfl
      have hstep : NumState.start.step c = none := by
        show (if c = 45 then some NumState.minus else NumState.step.first c) = none
        rw [if_neg hminus]
        unfold NumState.step.first
        rw [if_neg hzero, if_neg hdigit]
      have hwalk : NumState.start.walk (c :: u) =
          (NumState.start.step c).bind fun st => st.walk u := List.foldlM_cons
      rw [hwalk, hstep] at h
      exact absurd h Bool.false_ne_true

/-- The first byte of a number is none that starts another value. -/
theorem number_head (h : c = 45 ∨ isDigit c = true) :
    Starts c ∧ c ≠ quoteByte ∧ c ≠ 91 ∧ c ≠ 123 ∧ c ≠ 110 ∧ c ≠ 116 ∧ c ≠ 102 := by
  rcases h with rfl | h
  · decide
  · obtain ⟨d, hd, rfl⟩ := exists_digitByte h
    revert d
    decide

theorem print_head (t : Tree) : ∃ c u, print t = c :: u ∧ Starts c := by
  match t with
  | .null => exact ⟨_, _, rfl, by decide⟩
  | .bool true => exact ⟨_, _, rfl, by decide⟩
  | .bool false => exact ⟨_, _, rfl, by decide⟩
  | .num lit =>
    obtain ⟨c, u, htext, hc⟩ := lit.head
    exact ⟨c, u, by rw [print, htext], (number_head hc).1⟩
  | .str lit => exact ⟨_, _, by rw [print], by decide⟩
  | .arr [] => exact ⟨_, _, by rw [print], by decide⟩
  | .arr (_ :: _) => exact ⟨_, _, by rw [print], by decide⟩
  | .obj [] => exact ⟨_, _, by rw [print], by decide⟩
  | .obj ((_, _) :: _) => exact ⟨_, _, by rw [print], by decide⟩

theorem skipSpace_print (t : Tree) (rest : Text) :
    skipSpace (print t ++ rest) = print t ++ rest := by
  obtain ⟨c, u, hprint, hc⟩ := print_head t
  rw [hprint, List.cons_append, skipSpace_cons hc.1]

theorem parseString_append (lit : StrLit) (rest : Text) :
    parseString (lit.text ++ quoteByte :: rest) = some (lit, rest) := by
  unfold parseString
  rw [scanString_append rest lit.scanned]
  show (StrLit.ofText lit.text).map _ = _
  rw [StrLit.ofText_text]
  rfl

theorem parseKey_printKey (k : StrLit) (rest : Text) :
    parseKey (printKey k ++ rest) = some (k, rest) := by
  have htext : printKey k ++ rest = quoteByte :: (k.text ++ quoteByte :: 58 :: rest) := by
    simp [printKey]
  rw [htext]
  unfold parseKey
  rw [skipSpace_cons (by decide)]
  simp only [if_true]
  rw [parseString_append]
  rfl

theorem parseNumber_append (lit : NumLit) (h : Stops rest) :
    parseNumber (lit.text ++ rest) = some (.num lit, rest) := by
  unfold parseNumber
  rw [scanNumber_append h lit.scanned, NumLit.ofText_text]
  rfl

/-- A value that starts with no bracket and no brace is a scalar. -/
theorem parseValue_scalar {t : Text} (hspace : isSpace c = false) (harr : c ≠ 91) (hobj : c ≠ 123) :
    parseValue (n + 1) (c :: t) = parseScalar (c :: t) := by
  unfold parseValue
  rw [skipSpace_cons hspace]
  split
  · next heq => exact absurd (List.cons.inj heq).1 harr
  · next heq => exact absurd (List.cons.inj heq).1 hobj
  · rfl

theorem parseValue_num (lit : NumLit) (h : Stops rest) :
    parseValue (n + 1) (lit.text ++ rest) = some (.num lit, rest) := by
  obtain ⟨c, u, htext, hc⟩ := lit.head
  obtain ⟨hstarts, hquote, harr, hobj, hnull, htrue, hfalse⟩ := number_head hc
  have hnumber := parseNumber_append lit h
  rw [htext, List.cons_append] at hnumber ⊢
  rw [parseValue_scalar hstarts.1 harr hobj]
  unfold parseScalar
  simp only [hquote, hnull, htrue, hfalse, if_false]
  exact hnumber

theorem stops_printItems (ts : List Tree) (rest : Text) : Stops (printItems ts ++ rest) := by
  cases ts with
  | _ =>
    intro st
    cases st <;> rfl

theorem stops_printMembers (ms : List (StrLit × Tree)) (rest : Text) :
    Stops (printMembers ms ++ rest) := by
  cases ms with
  | _ =>
    intro st
    cases st <;> rfl

/-- An array whose first element is there. -/
theorem parseValue_arr {t : Tree} {ts : List Tree}
    (hvalue : parseValue n (print t ++ (printItems ts ++ rest)) = some (t, printItems ts ++ rest))
    (hitems : parseItems n (printItems ts ++ rest) = some (ts, rest)) :
    parseValue (n + 1) (91 :: (print t ++ (printItems ts ++ rest))) =
      some (.arr (t :: ts), rest) := by
  obtain ⟨c, u, hprint, hc⟩ := print_head t
  unfold parseValue
  rw [skipSpace_cons (by decide)]
  simp only
  rw [skipSpace_print]
  split
  · next heq =>
    rw [hprint, List.cons_append] at heq
    exact absurd (List.cons.inj heq).1 hc.2.1
  · rw [hvalue, Option.bind_some, hitems]
    rfl

/-- An object whose first member is there. -/
theorem parseValue_obj {k : StrLit} {t : Tree} {ms : List (StrLit × Tree)}
    (hvalue : parseValue n (print t ++ (printMembers ms ++ rest)) =
      some (t, printMembers ms ++ rest))
    (hmembers : parseMembers n (printMembers ms ++ rest) = some (ms, rest)) :
    parseValue (n + 1)
        (123 :: (printKey k ++ (print t ++ (printMembers ms ++ rest)))) =
      some (.obj ((k, t) :: ms), rest) := by
  have hkey := parseKey_printKey k (print t ++ (printMembers ms ++ rest))
  unfold parseValue
  rw [skipSpace_cons (by decide)]
  simp only
  have hskip : skipSpace (printKey k ++ (print t ++ (printMembers ms ++ rest))) =
      printKey k ++ (print t ++ (printMembers ms ++ rest)) :=
    skipSpace_cons (by decide) _
  rw [hskip]
  split
  · next heq => exact absurd (List.cons.inj heq).1 (by decide)
  · rw [hkey, Option.bind_some, hvalue, Option.bind_some, hmembers]
    rfl

mutual

/-- Reading a written value, and going on after it. -/
theorem parseValue_print : ∀ (t : Tree) {n : Nat} {rest : Text},
    (print t).length ≤ n → Stops rest → parseValue n (print t ++ rest) = some (t, rest)
  | t, 0, rest, hn, _ => by
    obtain ⟨c, u, hprint, _⟩ := print_head t
    rw [hprint] at hn
    exact absurd hn (by simp)
  | .null, n + 1, rest, _, _ => by
    rw [print]
    exact parseValue_scalar (by decide) (by decide) (by decide)
  | .bool true, n + 1, rest, _, _ => by
    rw [print]
    exact parseValue_scalar (by decide) (by decide) (by decide)
  | .bool false, n + 1, rest, _, _ => by
    rw [print]
    exact parseValue_scalar (by decide) (by decide) (by decide)
  | .num lit, n + 1, rest, _, hrest => by
    rw [print]
    exact parseValue_num lit hrest
  | .str lit, n + 1, rest, _, _ => by
    rw [print, List.cons_append, List.append_assoc,
      parseValue_scalar (by decide) (by decide) (by decide)]
    show (parseString (lit.text ++ quoteByte :: rest)).map _ = _
    rw [parseString_append]
    rfl
  | .arr [], n + 1, rest, _, _ => by
    rw [print]
    rfl
  | .arr (t :: ts), n + 1, rest, hn, _ => by
    rw [print, List.length_cons, List.length_append] at hn
    rw [print, List.cons_append, List.append_assoc]
    exact parseValue_arr
      (parseValue_print t (by omega) (stops_printItems ts rest))
      (parseItems_print ts (by omega))
  | .obj [], n + 1, rest, _, _ => by
    rw [print]
    rfl
  | .obj ((k, t) :: ms), n + 1, rest, hn, _ => by
    rw [print, List.length_cons, List.length_append, List.length_append] at hn
    rw [print, List.cons_append, List.append_assoc, List.append_assoc]
    exact parseValue_obj
      (parseValue_print t (by omega) (stops_printMembers ms rest))
      (parseMembers_print ms (by omega))

theorem parseItems_print : ∀ (ts : List Tree) {n : Nat} {rest : Text},
    (printItems ts).length ≤ n → parseItems n (printItems ts ++ rest) = some (ts, rest)
  | [], 0, rest, hn => by
    rw [printItems] at hn
    exact absurd hn (by simp)
  | [], n + 1, rest, _ => by
    rw [printItems]
    rfl
  | t :: ts, 0, rest, hn => by
    rw [printItems] at hn
    exact absurd hn (by simp)
  | t :: ts, n + 1, rest, hn => by
    rw [printItems, List.length_cons, List.length_append] at hn
    have hvalue := parseValue_print t (n := n) (by omega) (stops_printItems ts rest)
    have hitems : parseItems n (printItems ts ++ rest) = some (ts, rest) :=
      parseItems_print ts (by omega)
    rw [printItems, List.cons_append, List.append_assoc, parseItems, skipSpace_cons (by decide)]
    simp only
    rw [hvalue, Option.bind_some, hitems]
    rfl

theorem parseMembers_print : ∀ (ms : List (StrLit × Tree)) {n : Nat} {rest : Text},
    (printMembers ms).length ≤ n →
    parseMembers n (printMembers ms ++ rest) = some (ms, rest)
  | [], 0, rest, hn => by
    rw [printMembers] at hn
    exact absurd hn (by simp)
  | [], n + 1, rest, _ => by
    rw [printMembers]
    rfl
  | (k, t) :: ms, 0, rest, hn => by
    rw [printMembers] at hn
    exact absurd hn (by simp)
  | (k, t) :: ms, n + 1, rest, hn => by
    rw [printMembers, List.length_cons, List.length_append, List.length_append] at hn
    have hkey := parseKey_printKey k (print t ++ (printMembers ms ++ rest))
    have hvalue := parseValue_print t (n := n) (by omega) (stops_printMembers ms rest)
    have hmembers : parseMembers n (printMembers ms ++ rest) = some (ms, rest) :=
      parseMembers_print ms (by omega)
    rw [printMembers, List.cons_append, List.append_assoc, List.append_assoc,
      parseMembers, skipSpace_cons (by decide)]
    simp only
    rw [hkey, Option.bind_some, hvalue, Option.bind_some, hmembers]
    rfl

end

theorem parse_print (t : Tree) : parse (print t) = some t := by
  have h : parseValue (print t).length (print t ++ []) = some (t, []) :=
    parseValue_print t (Nat.le_refl _) trivial
  rw [List.append_nil] at h
  unfold parse
  rw [h]
  rfl

/-! ## Nesting -/

mutual

/-- How deep arrays and objects are nested. -/
def Tree.depth : Tree → Nat
  | .arr ts => depthItems ts + 1
  | .obj ms => depthMembers ms + 1
  | _ => 0

def depthItems : List Tree → Nat
  | [] => 0
  | t :: ts => max t.depth (depthItems ts)

def depthMembers : List (StrLit × Tree) → Nat
  | [] => 0
  | (_, t) :: ms => max t.depth (depthMembers ms)

end

theorem depthMembers_le {ms : List (StrLit × Tree)} :
    depthMembers ms ≤ n ↔ ∀ m ∈ ms, m.2.depth ≤ n := by
  induction ms with
  | nil => simp [depthMembers]
  | cons m ms ih => rw [depthMembers, Nat.max_le, ih, List.forall_mem_cons]

/-- `maxNestingDepth`: a decoder refuses documents nested deeper. -/
def maxNestingDepth : Nat := 10000

/-- The document `json.Unmarshal` reads before it fills in a value. -/
def unmarshal (t : Text) : Option Tree :=
  (parse t).filter fun v => v.depth ≤ maxNestingDepth

theorem unmarshal_print (t : Tree) :
    unmarshal (print t) = if t.depth ≤ maxNestingDepth then some t else none := by
  unfold unmarshal
  rw [parse_print]
  by_cases h : t.depth ≤ maxNestingDepth <;> simp [Option.filter, h]

end Rendezvous.Base.Json
