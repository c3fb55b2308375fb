import Mathlib.Logic.Function.Basic
import Rendezvous.Base.GoMap

/-!
# An index of names

Every holder has at most one name, and an index leads from a name to the
one who has it. Two updates of such an index are enough: a holder takes
another name, or none, and its old name leaves the index (`rename`); and a
holder goes while some name leaves the index (`leave_iff`), which is right
only if the name is the holder's own.

An index may also keep the name of a holder that went, so that it can come
back to it (`Reserves`). Then a holder goes without a word, and one who comes
under a name must find it free, and no other name kept for it
(`enter_iff`).
-/

namespace Rendezvous.Base

variable {Name Id : Type} [DecidableEq Name]

/-- The index leads from every name to its holder, and from no other. -/
def Indexes (idx : GoMap Name Id) (name : Id → Option Name) : Prop :=
  ∀ a k, idx.get a = some k ↔ name k = some a

/-- A name, if there is one, leaves an index. -/
def release (idx : GoMap Name Id) (a : Option Name) : GoMap Name Id :=
  a.elim idx idx.del

/-- A name, if there is one, leads to `k`. -/
def assign (idx : GoMap Name Id) (a : Option Name) (k : Id) : GoMap Name Id :=
  a.elim idx fun a => idx.set a k

theorem get_release (idx : GoMap Name Id) (a : Option Name) (b : Name) :
    (release idx a).get b = if a = some b then none else idx.get b := by
  cases a with
  | none => simp [release]
  | some a => simp [release, GoMap.get_del, eq_comm]

theorem get_assign (idx : GoMap Name Id) (a : Option Name) (k : Id) (b : Name) :
    (assign idx a k).get b = if a = some b then some k else idx.get b := by
  cases a with
  | none => simp [assign]
  | some a => simp [assign, GoMap.get_set, eq_comm]

namespace Indexes

variable {idx : GoMap Name Id} {name : Id → Option Name}

theorem empty : Indexes (∅ : GoMap Name Id) fun _ => none := by
  intro a k
  simp

/-- No two holders have one name. -/
theorem unique (h : Indexes idx name) {j k : Id} {a : Name} (hj : name j = some a)
    (hk : name k = some a) : j = k := by
  rw [← h] at hj hk
  exact Option.some.inj (hj.symm.trans hk)

variable [DecidableEq Id]

/-- Holder `k` gives its name up and takes another one that is free, or its
own, or none. -/
theorem rename (h : Indexes idx name) {k : Id} {new : Option Name}
    (hfree : ∀ a, new = some a → ∀ j, idx.get a = some j → j = k) :
    Indexes (assign (release idx (name k)) new k) (Function.update name k new) := by
  intro a j
  rw [get_assign, get_release, Function.update_apply]
  by_cases hnew : new = some a
  · rw [if_pos hnew]
    by_cases hj : j = k
    · simp [hj, hnew]
    · rw [if_neg hj, ← h]
      constructor
      · intro heq
        exact absurd (Option.some.inj heq).symm hj
      · intro hheld
        exact absurd (hfree a hnew j hheld) hj
  · rw [if_neg hnew]
    by_cases hj : j = k
    · subst hj
      simp only [hnew, if_true, iff_false]
      by_cases hold : name j = some a
      · simp [hold]
      · rw [if_neg hold, h]
        exact hold
    · rw [if_neg hj]
      by_cases hold : name k = some a
      · rw [if_pos hold]
        constructor
        · intro hnone
          cases hnone
        · intro hheld
          exact absurd (h.unique hheld hold) hj
      · rw [if_neg hold, h]

/-- Holder `k` goes, and a name leaves the index: the holder's own, if it
has one, and no other holder's. -/
theorem leave_iff (h : Indexes idx name) {k : Id} {a : Option Name} :
    Indexes (release idx a) (Function.update name k none) ↔ (∀ b, name k = some b → a = some b) ∧
        ∀ j b, a = some b → name j = some b → j = k := by
  constructor
  · intro hafter
    constructor
    · intro b hb
      by_contra hne
      have hgone := hafter b k
      rw [get_release, if_neg hne, h, Function.update_self] at hgone
      exact absurd (hgone.mp hb) (by simp)
    · intro j b ha hj
      by_contra hne
      have hgone := hafter b j
      rw [get_release, if_pos ha, Function.update_of_ne hne] at hgone
      exact absurd (hgone.mpr hj) (by simp)
  · rintro ⟨hown, hothers⟩ b j
    rw [get_release, Function.update_apply]
    by_cases ha : a = some b
    · rw [if_pos ha]
      by_cases hj : j = k
      · simp [hj]
      · rw [if_neg hj]
        constructor
        · intro hnone
          cases hnone
        · intro hheld
          exact absurd (hothers j b ha hheld) hj
    · rw [if_neg ha, h]
      by_cases hj : j = k
      · subst hj
        rw [if_pos rfl]
        exact iff_of_false (fun hheld => ha (hown b hheld)) (by simp)
      · rw [if_neg hj]

end Indexes

/-! ## An index that keeps the names of those who went -/

/-- The index leads from every name to its holder, and one who is there is
led to from no other name. `holds` tells who is there, and under which name
if under any; one who went is led to from one name at most. -/
structure Reserves (idx : GoMap Name Id) (holds : Id → Option (Option Name)) : Prop where
  led : ∀ a k x, idx.get a = some k → holds k = some x → x = some a
  held : ∀ k a, holds k = some (some a) → idx.get a = some k
  single : ∀ a b k, idx.get a = some k → idx.get b = some k → a = b

/-- An index of those who are there keeps no other name. -/
theorem Indexes.reserves {idx : GoMap Name Id} {holds : Id → Option (Option Name)}
    (h : Indexes idx fun k => (holds k).join) : Reserves idx holds where
  led := fun a k x hk hx => by
    have hname : (holds k).join = some a := (h a k).mp hk
    rwa [hx, Option.join_some] at hname
  held := fun k a hk => (h a k).mpr (by simp [hk])
  single := fun a b k ha hb => Option.some.inj (((h a k).mp ha).symm.trans ((h b k).mp hb))

namespace Reserves

variable {idx : GoMap Name Id} {holds : Id → Option (Option Name)}

/-- No two who are there have one name. -/
theorem unique (h : Reserves idx holds) {j k : Id} {a : Name} (hj : holds j = some (some a))
    (hk : holds k = some (some a)) : j = k :=
  Option.some.inj ((h.held j a hj).symm.trans (h.held k a hk))

variable [DecidableEq Id]

theorem leave (h : Reserves idx holds) (k : Id) : Reserves idx (Function.update holds k none) where
  led := fun a j x hj hx => by
    rw [Function.update_apply] at hx
    split at hx
    · cases hx
    · exact h.led a j x hj hx
  held := fun j a hj => by
    rw [Function.update_apply] at hj
    split at hj
    · cases hj
    · exact h.held j a hj
  single := h.single

/-- Someone comes, under a name or under none: the name is not that of
another one who is there, and no other name is kept for the one who comes. -/
theorem enter_iff (h : Reserves idx holds) {k : Id} {new : Option Name} :
    Reserves (assign idx new k) (Function.update holds k (some new)) ↔
      (∀ a, new = some a → ∀ j, idx.get a = some j → j = k ∨ holds j = none) ∧
        ∀ a, idx.get a = some k → new = some a := by
  constructor
  · intro hafter
    constructor
    · intro a hnew j hj
      by_contra hother
      obtain ⟨hne, hthere⟩ := not_or.mp hother
      obtain ⟨x, hx⟩ := Option.ne_none_iff_exists'.mp hthere
      have hheld := h.led a j x hj hx
      have hback := hafter.held j a (by rw [Function.update_of_ne hne, hx, hheld])
      rw [get_assign, if_pos hnew] at hback
      exact hne (Option.some.inj hback).symm
    · intro a hk
      by_cases hnew : new = some a
      · exact hnew
      · refine hafter.led a k new ?_ (Function.update_self ..)
        rw [get_assign, if_neg hnew, hk]
  · rintro ⟨hfree, hown⟩
    constructor
    · intro a j x hj hx
      rw [get_assign] at hj
      rw [Function.update_apply] at hx
      by_cases hnew : new = some a
      · rw [if_pos hnew] at hj
        rw [if_pos (Option.some.inj hj).symm] at hx
        exact (Option.some.inj hx).symm.trans hnew
      · rw [if_neg hnew] at hj
        by_cases hjk : j = k
        · subst hjk
          exact absurd (hown a hj) hnew
        · rw [if_neg hjk] at hx
          exact h.led a j x hj hx
    · intro j a hj
      rw [get_assign]
      rw [Function.update_apply] at hj
      by_cases hjk : j = k
      · rw [if_pos hjk] at hj
        rw [if_pos (Option.some.inj hj), hjk]
      · rw [if_neg hjk] at hj
        have hidx := h.held j a hj
        by_cases hnew : new = some a
        · rcases hfree a hnew j hidx with heq | hnone
          · exact absurd heq hjk
          · rw [hnone] at hj
            cases hj
        · rw [if_neg hnew, hidx]
    · intro a b j ha hb
      -- an entry of the new name leads to `k`, and so does no old one but it
      have hold : ∀ c, (assign idx new k).get c = some k → new = some c := by
        intro c hc
        rw [get_assign] at hc
        split at hc
        · assumption
        · exact hown c hc
      by_cases hjk : j = k
      · subst hjk
        exact Option.some.inj ((hold a ha).symm.trans (hold b hb))
      · rw [get_assign] at ha hb
        split at ha
        · exact absurd (Option.some.inj ha).symm hjk
        · split at hb
          · exact absurd (Option.some.inj hb).symm hjk
          · exact h.single a b j ha hb

end Reserves

end Rendezvous.Base
