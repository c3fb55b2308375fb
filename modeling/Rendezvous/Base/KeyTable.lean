import Rendezvous.Base.GoMap

/-!
# A table of keys and its index

Holders have keys, and an index leads from the text of a key to its holder.
A key may have several texts, which `decode` reads. A table is sound when
every text that leads to a holder is one of the holder's own key, and every
holder is led to.

Three updates are enough for a registry: a holder goes, a new holder comes
under a text, and a holder changes its key, with a text of the old key
leaving the index. For each there is the exact condition under which it
keeps a table sound.
-/

namespace Rendezvous.Base

/-- The key of every holder, and the holder every text leads to. -/
@[ext] structure KeyTable (Id Text Key : Type) where
  keys : GoMap Id Key
  index : GoMap Text Id

namespace KeyTable

variable {Id Text Key : Type} [DecidableEq Id] [DecidableEq Text]

/-- A holder comes, or comes back, under a text of its key. -/
def bind (t : KeyTable Id Text Key) (id : Id) (text : Text) (key : Key) : KeyTable Id Text Key where
  keys := t.keys.set id key
  index := t.index.set text id

/-- A holder changes its key. The text `old` leaves the index. -/
def rebind (t : KeyTable Id Text Key) (id : Id) (old text : Text) (key : Key) :
    KeyTable Id Text Key where
  keys := t.keys.set id key
  index := (t.index.del old).set text id

/-- Every text leads to a holder of its key, and every holder is led to. -/
structure Sound (decode : Text → Option Key) (t : KeyTable Id Text Key) : Prop where
  decodes : ∀ text id key, t.index.get text = some id → t.keys.get id = some key →
    decode text = some key
  filed : ∀ id key, t.keys.get id = some key → ∃ text, t.index.get text = some id

variable {decode : Text → Option Key} {t : KeyTable Id Text Key}

/-- A table stays sound when holders go. -/
theorem Sound.fewer (h : t.Sound decode) {u : KeyTable Id Text Key}
    (hkeys : ∀ id key, u.keys.get id = some key → t.keys.get id = some key)
    (hindex : u.index = t.index) : u.Sound decode := by
  constructor
  · intro text id key htext hkey
    rw [hindex] at htext
    exact h.decodes text id key htext (hkeys id key hkey)
  · intro id key hkey
    rw [hindex]
    exact h.filed id key (hkeys id key hkey)

/-- A holder that comes under a text no one else is led to by keeps a table
sound exactly when no text of another key is left from before. -/
theorem Sound.bind_iff (h : t.Sound decode) {id : Id} {text : Text} {key : Key}
    (hdecode : decode text = some key)
    (hfree : t.index.get text = none ∨ t.index.get text = some id) :
    (t.bind id text key).Sound decode ↔
      ∀ text', t.index.get text' = some id → decode text' = some key := by
  have hindex : ∀ text', (t.bind id text key).index.get text' =
      if text' = text then some id else t.index.get text' := fun _ => GoMap.get_set ..
  have hkeys : ∀ j, (t.bind id text key).keys.get j =
      if j = id then some key else t.keys.get j := fun _ => GoMap.get_set ..
  constructor
  · intro hsound text' htext'
    apply hsound.decodes text' id key
    · rw [hindex, htext']
      exact ite_self _
    · rw [hkeys, if_pos rfl]
  · intro hleft
    constructor
    · intro text' j key' htext' hkey'
      rw [hindex] at htext'
      rw [hkeys] at hkey'
      by_cases hj : j = id
      · rw [if_pos hj] at hkey'
        rw [← hkey']
        by_cases htext : text' = text
        · rw [htext, hdecode]
        · rw [if_neg htext, hj] at htext'
          exact hleft text' htext'
      · rw [if_neg hj] at hkey'
        by_cases htext : text' = text
        · rw [if_pos htext] at htext'
          exact absurd (Option.some.inj htext').symm hj
        · rw [if_neg htext] at htext'
          exact h.decodes text' j key' htext' hkey'
    · intro j key' hkey'
      rw [hkeys] at hkey'
      by_cases hj : j = id
      · exact ⟨text, by rw [hindex, if_pos rfl, hj]⟩
      · rw [if_neg hj] at hkey'
        obtain ⟨text', htext'⟩ := h.filed j key' hkey'
        have hne : text' ≠ text := by
          rintro rfl
          rcases hfree with hnone | hsome
          · rw [hnone] at htext'
            cases htext'
          · rw [hsome] at htext'
            exact hj (Option.some.inj htext').symm
        exact ⟨text', by rw [hindex, if_neg hne, htext']⟩

/-- A change of key keeps a table sound exactly when no text of another key
is left for the holder, and no other holder is led to by the two texts
alone. -/
theorem Sound.rebind_iff (h : t.Sound decode) {id : Id} {old text : Text} {key : Key}
    (hdecode : decode text = some key) :
    (t.rebind id old text key).Sound decode ↔
      (∀ text', t.index.get text' = some id → text' ≠ old → decode text' = some key) ∧
      ∀ j key', t.keys.get j = some key' → j ≠ id →
        ∃ text', t.index.get text' = some j ∧ text' ≠ old ∧ text' ≠ text := by
  have hindex : ∀ text', (t.rebind id old text key).index.get text' =
      if text' = text then some id else if text' = old then none
        else t.index.get text' := by
    intro text'
    show ((t.index.del old).set text id).get text' = _
    rw [GoMap.get_set, GoMap.get_del]
  have hkeys : ∀ j, (t.rebind id old text key).keys.get j =
      if j = id then some key else t.keys.get j := fun _ => GoMap.get_set ..
  constructor
  · intro hsound
    constructor
    · intro text' htext' hold
      apply hsound.decodes text' id key
      · rw [hindex, if_neg hold, htext']
        exact ite_self _
      · rw [hkeys, if_pos rfl]
    · intro j key' hkey' hj
      obtain ⟨text', htext'⟩ := hsound.filed j key' (by rw [hkeys, if_neg hj, hkey'])
      rw [hindex] at htext'
      by_cases htext : text' = text
      · rw [if_pos htext] at htext'
        exact absurd (Option.some.inj htext').symm hj
      · rw [if_neg htext] at htext'
        by_cases hold : text' = old
        · rw [if_pos hold] at htext'
          cases htext'
        · rw [if_neg hold] at htext'
          exact ⟨text', htext', hold, htext⟩
  · rintro ⟨hleft, hothers⟩
    constructor
    · intro text' j key' htext' hkey'
      rw [hindex] at htext'
      rw [hkeys] at hkey'
      by_cases htext : text' = text
      · rw [if_pos htext] at htext'
        rw [if_pos (Option.some.inj htext').symm] at hkey'
        rw [htext, hdecode, hkey']
      · rw [if_neg htext] at htext'
        by_cases hold : text' = old
        · rw [if_pos hold] at htext'
          cases htext'
        · rw [if_neg hold] at htext'
          by_cases hj : j = id
          · rw [if_pos hj] at hkey'
            rw [hj] at htext'
            rw [hleft text' htext' hold, hkey']
          · rw [if_neg hj] at hkey'
            exact h.decodes text' j key' htext' hkey'
    · intro j key' hkey'
      rw [hkeys] at hkey'
      by_cases hj : j = id
      · exact ⟨text, by rw [hindex, if_pos rfl, hj]⟩
      · rw [if_neg hj] at hkey'
        obtain ⟨text', htext', hold, htext⟩ := hothers j key' hkey' hj
        exact ⟨text', by rw [hindex, if_neg htext, if_neg hold, htext']⟩

end KeyTable

end Rendezvous.Base
