import Rendezvous.Base.Json.Reflect

/-!
# Hand-written encoders

A program that writes its objects itself appends to a buffer: a comma
before every member but the first, the name between quotes, the value. This
module has that loop and that writer, and the rules by which their output is
shown to be what the reflective encoder writes (`Writes`).
-/

namespace Rendezvous.Base.Json

/-! ## Strings that need no escape -/

/-- Printable ASCII without quote and backslash. -/
def isSafe (s : Text) : Bool :=
  s.all fun c => !(c < 0x20 || c = quoteByte || c = escapeByte || 0x80 ≤ c)

theorem toNat_ofNat_ascii : ∀ n < 128, (Char.ofNat n).toNat = n := by decide

theorem utf8EncodeChar_ofNat {b : UInt8} (h : b.toNat < 128) :
    String.utf8EncodeChar (Char.ofNat b.toNat) = [b] := by
  have hnat := toNat_ofNat_ascii b.toNat h
  rcases utf8EncodeChar_bytes (Char.ofNat b.toNat) with ⟨_, heq⟩ | ⟨hhigh, _⟩
  · rw [heq, hnat, UInt8.ofNat_toNat]
  · omega

theorem quoteRune_safe {b : UInt8} (h : isSafe [b] = true) :
    quoteRune (some (Char.ofNat b.toNat)) = [b] := by
  simp only [isSafe, List.all_cons, List.all_nil, Bool.and_true, Bool.not_eq_true',
    Bool.or_eq_false_iff, decide_eq_false_iff_not] at h
  obtain ⟨⟨⟨hlow, hquote⟩, hescape⟩, hhigh⟩ := h
  have hlt : b.toNat < 128 := by
    have := UInt8.not_le.mp hhigh
    exact UInt8.lt_iff_toNat_lt.mp this
  have hge : 32 ≤ b.toNat := UInt8.le_iff_toNat_le.mp (UInt8.not_lt.mp hlow)
  have h34 : b.toNat ≠ 34 := fun he => hquote (UInt8.toNat_inj.mp he)
  have h92 : b.toNat ≠ 92 := fun he => hescape (UInt8.toNat_inj.mp he)
  have hnat := toNat_ofNat_ascii b.toNat hlt
  have hshort : shortEscape (Char.ofNat b.toNat) = none := by
    unfold shortEscape
    rw [hnat]
    split <;> first | omega | rfl
  have hunit : needsUnit (Char.ofNat b.toNat) = false := by
    simp only [needsUnit, hnat, Bool.or_eq_false_iff, decide_eq_false_iff_not]
    omega
  simp only [quoteRune, hshort, hunit]
  exact utf8EncodeChar_ofNat hlt

/-- Such a string is its own literal. -/
theorem text_stringLit_of_safe : ∀ {s : Text}, isSafe s = true → (stringLit s).text = s
  | [], _ => rfl
  | b :: s, h => by
    have hsplit : isSafe [b] = true ∧ isSafe s = true := by
      simpa [isSafe, and_assoc] using h
    have hrest := text_stringLit_of_safe hsplit.2
    have hlt : b.toNat < 128 := by
      simp only [isSafe, List.all_cons, List.all_nil, Bool.and_true, Bool.not_eq_true',
        Bool.or_eq_false_iff, decide_eq_false_iff_not] at hsplit
      exact UInt8.lt_iff_toNat_lt.mp (UInt8.not_le.mp hsplit.1.2)
    have hrunes : runes (b :: s) = some (Char.ofNat b.toNat) :: runes s := by
      have h := runes_encode_append (Char.ofNat b.toNat) s
      rwa [utf8EncodeChar_ofNat hlt] at h
    show (runes (b :: s)).flatMap quoteRune = b :: s
    rw [hrunes, List.flatMap_cons, quoteRune_safe hsplit.1]
    show b :: (runes s).flatMap quoteRune = b :: s
    exact congrArg (b :: ·) hrest

/-! ## Values -/

/-- The append writes what the encoder writes for the value. -/
def Puts (put : Text → Text) (v : Value) : Prop :=
  v.Encodable ∧ ∀ dst, put dst = dst ++ encoderOutput v

variable {put : Text → Text} {v : Value}

theorem Puts.of_tree {t : Tree} (ht : encodeTree v = some t)
    (hput : ∀ dst, put dst = dst ++ print t) : Puts put v := by
  refine ⟨(encodeTree_isSome v).mp (by rw [ht]; rfl), fun dst => ?_⟩
  rw [hput, encoderOutput_of_some ht]

theorem Puts.exists_tree (h : Puts put v) :
    ∃ t, encodeTree v = some t ∧ ∀ dst, put dst = dst ++ print t := by
  obtain ⟨t, ht⟩ := Option.isSome_iff_exists.mp ((encodeTree_isSome v).mpr h.1)
  refine ⟨t, ht, fun dst => ?_⟩
  rw [h.2, encoderOutput_of_some ht]

theorem Puts.ptr (h : Puts put v) : Puts put (.ptr v) := by
  obtain ⟨t, ht, hput⟩ := h.exists_tree
  exact .of_tree (by rw [encodeTree, ht]) hput

/-! ## Loops -/

/-- `for i, x := range xs`: a comma before every element but the first. -/
def appendEach {α : Type} (put : Text → α → Text) : Nat → Text → List α → Text
  | _, dst, [] => dst
  | i, dst, x :: xs =>
    appendEach put (i + 1) (put (if i > 0 then dst ++ [44] else dst) x) xs

section loops

variable {α : Type} {put : Text → α → Text} {f : α → Value} {tree : α → Tree}

theorem appendEach_arr (hput : ∀ d x, put d x = d ++ print (tree x)) (dst : Text) (xs : List α) :
    appendEach put 0 (dst ++ [91]) xs ++ [93] = dst ++ print (.arr (xs.map tree)) := by
  have hrest : ∀ (xs : List α) (i : Nat) (d : Text),
      appendEach put (i + 1) d xs ++ [93] = d ++ printItems (xs.map tree) := by
    intro xs
    induction xs with
    | nil =>
      intro i d
      simp [appendEach, printItems]
    | cons x xs ih =>
      intro i d
      simp [appendEach, ih, hput, printItems]
  cases xs with
  | nil => simp [appendEach, print]
  | cons x xs => simp [appendEach, hrest, hput, print]

theorem appendEach_obj {name : α → StrLit}
    (hput : ∀ d x, put d x = d ++ (printKey (name x) ++ print (tree x))) (dst : Text)
    (xs : List α) :
    appendEach put 0 (dst ++ [123]) xs ++ [125] =
      dst ++ print (.obj (xs.map fun x => (name x, tree x))) := by
  have hrest : ∀ (xs : List α) (i : Nat) (d : Text), appendEach put (i + 1) d xs ++ [125] =
        d ++ printMembers (xs.map fun x => (name x, tree x)) := by
    intro xs
    induction xs with
    | nil =>
      intro i d
      simp [appendEach, printMembers]
    | cons x xs ih =>
      intro i d
      simp [appendEach, ih, hput, printMembers]
  cases xs with
  | nil => simp [appendEach, print]
  | cons x xs => simp [appendEach, hrest, hput, print]

theorem encodeItems_map (h : ∀ x, encodeTree (f x) = some (tree x)) (xs : List α) :
    encodeItems (xs.map f) = some (xs.map tree) := by
  induction xs with
  | nil => rw [List.map_nil, encodeItems, List.map_nil]
  | cons x xs ih => rw [List.map_cons, encodeItems, h, ih, List.map_cons]; rfl

theorem encodeEntries_map (h : ∀ x, encodeTree (f x) = some (tree x)) (es : List (Text × α)) :
    encodeEntries (es.map fun e => (e.1, f e.2)) = some (es.map fun e => (e.1, tree e.2)) := by
  induction es with
  | nil => rw [List.map_nil, encodeEntries, List.map_nil]
  | cons e es ih => rw [List.map_cons, encodeEntries, h, ih, List.map_cons]; rfl

/-- The elements of a slice, written one by one. -/
theorem puts_slice (h : ∀ x, Puts (put · x) (f x)) (xs : List α) :
    Puts (fun dst => appendEach put 0 (dst ++ [91]) xs ++ [93]) (.slice (xs.map f)) := by
  choose tree htree hput using fun x => (h x).exists_tree
  refine .of_tree (t := .arr (xs.map tree)) ?_ fun dst => ?_
  · rw [encodeTree, encodeItems_map htree]
    rfl
  · exact appendEach_arr (fun d x => hput x d) dst xs

/-- The entries of a map in the order of their keys are sorted already. -/
theorem sortMembers_sorted (m : GoMap Text α) (tree : α → Tree) :
    sortMembers (m.sorted.map fun e => (e.1, tree e.2)) =
      m.sorted.map fun e => (e.1, tree e.2) := by
  refine List.mergeSort_of_pairwise ?_
  rw [List.pairwise_map]
  exact m.pairwise_sorted.imp fun h => decide_eq_true h

/-- The entries of a map in the order of their keys, written one by one: the
key as a string, the colon, the value. -/
theorem puts_map {key : Text → Text → Text} {put : Text → α → Text}
    (hkey : ∀ k, Puts (key · k) (.string k)) (h : ∀ a, Puts (put · a) (f a)) (m : GoMap Text α) :
    Puts (fun dst => appendEach (fun dst e => put (key dst e.1 ++ [58]) e.2) 0
      (dst ++ [123]) m.sorted ++ [125]) (.map (m.sorted.map fun e => (e.1, f e.2))) := by
  choose tree htree hput using fun a => (h a).exists_tree
  refine .of_tree (t := .obj (m.sorted.map fun e => (stringLit e.1, tree e.2))) ?_
    fun dst => ?_
  · rw [encodeTree, encodeEntries_map htree, Option.map_some, sortMembers_sorted]
    simp [namedMembers]
  · refine appendEach_obj (fun d e => ?_) dst m.sorted
    have hname : key d e.1 = d ++ print (.str (stringLit e.1)) := by
      rw [← encoderOutput_of_some (v := .string e.1) (by rw [encodeTree])]
      exact (hkey e.1).2 d
    rw [hput, hname]
    simp [printKey, print]

end loops

/-! ## Objects -/

/-- The buffer and whether a member has yet to be written. -/
structure Writer where
  dst : Text
  first : Bool

namespace Writer

def start (dst : Text) : Writer where
  dst := dst ++ [123]
  first := true

/-- The comma, the name and the colon. The name is written as it is. -/
def key (w : Writer) (name : String) : Writer where
  dst := (if !w.first then w.dst ++ [44] else w.dst) ++ [quoteByte] ++ bytes name ++ [quoteByte, 58]
  first := false

/-- A member, whose value `put` appends. -/
def field (w : Writer) (name : String) (put : Text → Text) : Writer :=
  { w.key name with dst := put (w.key name).dst }

/-- A member that is written on a condition. -/
def when (w : Writer) (c : Prop) [Decidable c] (name : String) (put : Text → Text) : Writer :=
  if c then w.field name put else w

def finish (w : Writer) : Text := w.dst ++ [125]

end Writer

/-! ### The writer only appends -/

/-- The append leaves what is in the buffer. -/
def Appends (put : Text → Text) : Prop := ∀ dst, dst <+: put dst

theorem appends_append (t : Text) : Appends (· ++ t) := fun dst => List.prefix_append dst t

theorem Puts.appends (h : Puts put v) : Appends put := by
  intro dst
  rw [h.2]
  exact List.prefix_append dst _

namespace Writer

variable {d : Text} {w : Writer}

theorem prefix_start (dst : Text) : dst ++ [123] <+: (Writer.start dst).dst := List.prefix_rfl

theorem prefix_field (h : d <+: w.dst) (name : String) (hput : Appends put) :
    d <+: (w.field name put).dst := by
  refine List.IsPrefix.trans (h.trans ?_) (hput _)
  rw [Writer.key]
  cases w.first <;> simp [List.append_assoc]

theorem prefix_when (h : d <+: w.dst) {c : Prop} [Decidable c] (name : String)
    (hput : Appends put) : d <+: (w.when c name put).dst := by
  unfold Writer.when
  split
  · exact prefix_field h name hput
  · exact h

theorem finish_ne {dst : Text} (h : dst ++ [123] <+: w.dst) : w.finish ≠ dst := by
  intro heq
  have hlen := h.length_le
  have hfinish := congrArg List.length heq
  rw [Writer.finish] at hfinish
  simp only [List.length_append, List.length_cons, List.length_nil] at hlen hfinish
  omega

end Writer

/-! ### The members -/

/-- The members without the braces. -/
def membersText : List (StrLit × Tree) → Text
  | [] => []
  | (k, t) :: ms => printKey k ++ print t ++ ms.flatMap fun m => 44 :: (printKey m.1 ++ print m.2)

theorem print_obj (ms : List (StrLit × Tree)) :
    print (.obj ms) = 123 :: (membersText ms ++ [125]) := by
  have hrest : ∀ ms : List (StrLit × Tree), printMembers ms =
      (ms.flatMap fun m => 44 :: (printKey m.1 ++ print m.2)) ++ [125] := by
    intro ms
    induction ms with
    | nil => simp [printMembers]
    | cons m ms ih => simp [printMembers, ih]
  cases ms with
  | nil => simp [print, membersText]
  | cons m ms => simp [print, membersText, hrest]

theorem membersText_snoc (ms : List (StrLit × Tree)) (k : StrLit) (t : Tree) :
    membersText (ms ++ [(k, t)]) =
      (if !ms.isEmpty then membersText ms ++ [44] else membersText ms) ++
        (printKey k ++ print t) := by
  cases ms with
  | nil => simp [membersText]
  | cons m ms => simp [membersText]

theorem encodeFields_append (fs gs : List (Text × Bool × Value)) : encodeFields (fs ++ gs) =
      (encodeFields fs).bind fun ms => (encodeFields gs).map fun ns => ms ++ ns := by
  induction fs with
  | nil => simp [encodeFields]
  | cons f fs ih =>
    obtain ⟨name, omitempty, v⟩ := f
    rw [List.cons_append, encodeFields, encodeFields, ih]
    split
    · rfl
    · cases encodeTree v with
      | none => rfl
      | some t =>
        cases encodeFields fs with
        | none => rfl
        | some ms => cases encodeFields gs <;> rfl

/-- The writer has written to `dst` what the encoder writes of the fields. -/
def Writes (dst : Text) (fs : List (Text × Bool × Value)) (w : Writer) : Prop :=
  ∃ ms, encodeFields fs = some ms ∧ w.dst = dst ++ 123 :: membersText ms ∧ w.first = ms.isEmpty

namespace Writes

variable {dst : Text} {fs : List (Text × Bool × Value)} {w : Writer}

theorem start (dst : Text) : Writes dst [] (.start dst) :=
  ⟨[], by rw [encodeFields], by simp [Writer.start, membersText], rfl⟩

/-- A member that is written when the encoder writes it, with the same
value. -/
theorem when (h : Writes dst fs w) (name : String) {omitempty : Bool} {c : Prop} [Decidable c]
    (hc : c ↔ (omitempty && v.isEmpty) = false) (hput : c → Puts put v)
    (hname : isSafe (bytes name) = true := by decide +kernel) :
    Writes dst (fs ++ [(bytes name, omitempty, v)]) (w.when c name put) := by
  obtain ⟨ms, hms, hdst, hfirst⟩ := h
  by_cases hwrite : c
  · obtain ⟨t, ht, hput⟩ := (hput hwrite).exists_tree
    refine ⟨ms ++ [(stringLit (bytes name), t)], ?_, ?_, ?_⟩
    · rw [encodeFields_append, hms, encodeFields, hc.mp hwrite, ht, encodeFields]
      rfl
    · have hkey : printKey (stringLit (bytes name)) =
          quoteByte :: (bytes name ++ [quoteByte, 58]) := by
        unfold printKey
        rw [text_stringLit_of_safe hname]
      rw [Writer.when, if_pos hwrite, membersText_snoc, hkey, ← hfirst]
      show put (w.key name).dst = _
      rw [hput, Writer.key, hdst]
      cases w.first <;> simp
    · rw [Writer.when, if_pos hwrite]
      cases ms <;> rfl
  · have hempty : (omitempty && v.isEmpty) = true := by
      rw [← Bool.not_eq_false]
      exact fun h => hwrite (hc.mpr h)
    refine ⟨ms, ?_, ?_, ?_⟩
    · rw [encodeFields_append, hms, encodeFields, hempty, if_pos rfl, encodeFields]
      simp
    · rw [Writer.when, if_neg hwrite, hdst]
    · rw [Writer.when, if_neg hwrite, hfirst]

/-- A member that is always written. -/
theorem field (h : Writes dst fs w) (name : String) (hput : Puts put v)
    (hname : isSafe (bytes name) = true := by decide +kernel) :
    Writes dst (fs ++ [(bytes name, false, v)]) (w.field name put) :=
  h.when name (c := True) (by simp) (fun _ => hput) hname

/-- A string that is left out when it is empty. -/
theorem text (h : Writes dst fs w) (name : String) {s : Text} (hput : Puts put (.string s))
    (hname : isSafe (bytes name) = true := by decide +kernel) :
    Writes dst (fs ++ [(bytes name, true, .string s)]) (w.when (s ≠ []) name put) :=
  h.when name (by simp [Value.isEmpty]) (fun _ => hput) hname

/-- A number that is left out when it is zero. -/
theorem number (h : Writes dst fs w) (name : String) {n : Int} (hput : Puts put (.int n))
    (hname : isSafe (bytes name) = true := by decide +kernel) :
    Writes dst (fs ++ [(bytes name, true, .int n)]) (w.when (n ≠ 0) name put) :=
  h.when name (by simp [Value.isEmpty]) (fun _ => hput) hname

/-- A flag that is left out when it is false. -/
theorem flag (h : Writes dst fs w) (name : String) {b : Bool} (hput : Puts put (.bool true))
    (hname : isSafe (bytes name) = true := by decide +kernel) :
    Writes dst (fs ++ [(bytes name, true, .bool b)]) (w.when (b = true) name put) :=
  h.when name (by simp [Value.isEmpty]) (fun hb => hb ▸ hput) hname

/-- The finished object is the encoder's. -/
theorem finish {w : Text → Writer} (h : ∀ dst, Writes dst fs (w dst)) :
    Puts (fun dst => (w dst).finish) (.struct fs) := by
  obtain ⟨ms, hms, _⟩ := h []
  refine .of_tree (t := .obj ms) ?_ fun dst => ?_
  · rw [encodeTree, hms]
    rfl
  · obtain ⟨ms', hms', hdst, _⟩ := h dst
    cases hms.symm.trans hms'
    rw [print_obj, Writer.finish, hdst]
    simp

end Writes

end Rendezvous.Base.Json
