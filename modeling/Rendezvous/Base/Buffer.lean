/-!
# Slices of shared arrays

A slice is the front part of an array that others may have slices of too.
`refill` is the way a program writes a new value into a slice it keeps: it
appends to the slice cut to nothing, which overwrites the array in place if
the value fits, and takes a new array otherwise.

What was written is read back (`read_refill`). Another slice reads as before
if it is one of another array, or if the value did not fit
(`read_refill_other`).
-/

namespace Rendezvous.Base

/-- The first `len` elements of the array numbered `arr`. -/
structure Span where
  arr : Nat
  len : Nat
  deriving DecidableEq

variable {sl : Span} {b : Option Span}

/-- The arrays there are, each as long as its capacity. -/
structure Arrays (α : Type) where
  all : List (List α) := []
  deriving DecidableEq

namespace Arrays

variable {α : Type}

/-- The array a slice is part of. -/
def array (h : Arrays α) (sl : Span) : List α := (h.all[sl.arr]?).getD []

/-- What a slice reads as now. -/
def read (h : Arrays α) (sl : Span) : List α := (h.array sl).take sl.len

/-- The slice is one of an array that is there. -/
def Valid (h : Arrays α) (sl : Span) : Prop := sl.arr < h.all.length

/-- A new array that starts with the value, with room to spare. -/
def alloc (h : Arrays α) (value : List α) (spare : List α) : Arrays α × Span :=
  (⟨h.all ++ [value ++ spare]⟩, ⟨h.all.length, value.length⟩)

/-- The value fits into the array of the slice. -/
def Fits (h : Arrays α) (sl : Span) (value : List α) : Prop := value.length ≤ (h.array sl).length

instance (h : Arrays α) (sl : Span) (value : List α) : Decidable (h.Fits sl value) :=
  inferInstanceAs (Decidable (_ ≤ _))

/-- `append(sl[:0], value...)`. A new array may have more room than asked
for. -/
def refill (h : Arrays α) (sl : Option Span) (value : List α) (spare : List α) : Arrays α × Span :=
  match sl with
  | none => h.alloc value spare
  | some sl =>
    if h.Fits sl value then
      (⟨h.all.set sl.arr (value ++ (h.array sl).drop value.length)⟩, ⟨sl.arr, value.length⟩)
    else h.alloc value spare

theorem read_alloc (h : Arrays α) (value spare : List α) :
    (h.alloc value spare).1.read (h.alloc value spare).2 = value := by
  simp [alloc, read, Arrays.array]

theorem valid_alloc (h : Arrays α) (value spare : List α) :
    (h.alloc value spare).1.Valid (h.alloc value spare).2 := by
  simp [alloc, Valid]

theorem Valid.alloc {h : Arrays α} (hsl : h.Valid sl) (value spare : List α) :
    (h.alloc value spare).1.Valid sl := by
  unfold Valid at hsl
  unfold Valid Arrays.alloc
  simp only [List.length_append, List.length_singleton]
  omega

theorem read_alloc_other {h : Arrays α} (hsl : h.Valid sl) (value spare : List α) :
    (h.alloc value spare).1.read sl = h.read sl := by
  unfold read Arrays.array Arrays.alloc
  simp only
  rw [List.getElem?_append_left hsl]

/-- What was written is read back. -/
theorem read_refill {h : Arrays α} (hb : ∀ sl, b = some sl → h.Valid sl) (value spare : List α) :
    (h.refill b value spare).1.read (h.refill b value spare).2 = value := by
  unfold refill
  split
  · exact read_alloc h value spare
  · next sl =>
    have hvalid : sl.arr < h.all.length := hb sl rfl
    split
    · simp [read, Arrays.array, List.getElem?_set_self hvalid]
    · exact read_alloc h value spare

theorem valid_refill {h : Arrays α} (hb : ∀ sl, b = some sl → h.Valid sl) (value spare : List α) :
    (h.refill b value spare).1.Valid (h.refill b value spare).2 := by
  unfold refill
  split
  · exact valid_alloc h value spare
  · next sl =>
    split
    · have hvalid : sl.arr < h.all.length := hb sl rfl
      simpa [Valid] using hvalid
    · exact valid_alloc h value spare

theorem Valid.refill {h : Arrays α} (hsl : h.Valid sl) (b : Option Span) (value spare : List α) :
    (h.refill b value spare).1.Valid sl := by
  unfold Arrays.refill
  split
  · exact hsl.alloc value spare
  · split
    · unfold Valid at hsl ⊢
      simpa using hsl
    · exact hsl.alloc value spare

/-- Another slice reads as before, unless its array is overwritten. -/
theorem read_refill_other {h : Arrays α} (hsl : h.Valid sl) {value : List α} (spare : List α)
    (hother : ∀ sl', b = some sl' → h.Fits sl' value → sl.arr ≠ sl'.arr) :
    (h.refill b value spare).1.read sl = h.read sl := by
  unfold refill
  split
  · exact read_alloc_other hsl value spare
  · next sl' =>
    split
    · next hfits =>
      have hne := hother sl' rfl hfits
      unfold read Arrays.array
      simp only
      rw [List.getElem?_set_ne fun heq => hne heq.symm]
    · exact read_alloc_other hsl value spare

end Arrays

end Rendezvous.Base
