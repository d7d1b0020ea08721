import ApiGuide.Text.Basic

/-!
Cutting the leftmost occurrence of a marker out of a text.
-/

namespace ApiGuide.Marker

/-- Finds the first position at which `here?` reads a marker. Gives what it read and the text
    without the marker. `here?` gives what it read and the text after the marker. -/
def cut? {α : Type} (here? : Text → Option (α × Text)) : Text → Option (α × Text)
  | [] => here? []
  | c :: t =>
    match here? (c :: t) with
    | some found => some found
    | none => (cut? here? t).map fun (value, rest) => (value, c :: rest)

/-- A cut at the leftmost of all positions: before it nothing is read and nothing changed. -/
theorem cut?_eq_some_iff {α : Type} {here? : Text → Option (α × Text)} {t rest : Text} {value : α} :
    cut? here? t = some (value, rest) ↔
      ∃ before tail after, t = before ++ tail ∧ here? tail = some (value, after) ∧
        rest = before ++ after ∧ ∀ p q, before = p ++ q → q ≠ [] → here? (q ++ tail) = none := by
  induction t generalizing rest with
  | nil =>
    rw [cut?]
    constructor
    · intro h
      exact ⟨[], [], rest, rfl, h, rfl, by simp⟩
    · rintro ⟨before, tail, after, ht, hread, rfl, _⟩
      obtain ⟨rfl, rfl⟩ := List.append_eq_nil_iff.1 ht.symm
      simpa using hread
  | cons c t ih =>
    rw [cut?]
    cases hhere : here? (c :: t) with
    | some found =>
      constructor
      · intro h
        cases h
        exact ⟨[], c :: t, rest, rfl, hhere, rfl, by simp⟩
      · rintro ⟨before, tail, after, ht, hread, rfl, hfirst⟩
        cases before with
        | nil =>
          obtain rfl : c :: t = tail := by simpa using ht
          rw [hhere] at hread
          simpa using hread
        | cons b before =>
          have hnone := hfirst [] (b :: before) rfl (by simp)
          rw [← ht, hhere] at hnone
          cases hnone
    | none =>
      simp only [Option.map_eq_some_iff, Prod.exists, Prod.mk.injEq]
      constructor
      · rintro ⟨v, r, hcut, rfl, rfl⟩
        obtain ⟨before, tail, after, rfl, hread, rfl, hfirst⟩ := ih.1 hcut
        refine ⟨c :: before, tail, after, rfl, hread, rfl, ?_⟩
        intro p q hpq hq
        cases p with
        | nil =>
          obtain rfl : c :: before = q := by simpa using hpq
          exact hhere
        | cons p₀ p =>
          simp only [List.cons_append, List.cons.injEq] at hpq
          exact hfirst p q hpq.2 hq
      · rintro ⟨before, tail, after, ht, hread, rfl, hfirst⟩
        cases before with
        | nil =>
          obtain rfl : c :: t = tail := by simpa using ht
          rw [hhere] at hread
          cases hread
        | cons b before =>
          simp only [List.cons_append, List.cons.injEq] at ht
          obtain ⟨rfl, rfl⟩ := ht
          refine ⟨value, before ++ after, ih.2 ⟨before, tail, after, rfl, hread, rfl, ?_⟩, rfl, rfl⟩
          intro p q hpq hq
          exact hfirst (c :: p) q (by simp [hpq]) hq

theorem cut?_eq_none_iff {α : Type} {here? : Text → Option (α × Text)} {t : Text} :
    cut? here? t = none ↔ ∀ p q, t = p ++ q → here? q = none := by
  induction t with
  | nil =>
    rw [cut?]
    constructor
    · intro h p q hpq
      obtain ⟨-, rfl⟩ := List.append_eq_nil_iff.1 hpq.symm
      exact h
    · intro h
      exact h [] [] rfl
  | cons c t ih =>
    rw [cut?]
    constructor
    · intro h p q hpq
      cases hhere : here? (c :: t) with
      | some found => simp [hhere] at h
      | none =>
        simp only [hhere, Option.map_eq_none_iff] at h
        cases p with
        | nil =>
          obtain rfl : c :: t = q := by simpa using hpq
          exact hhere
        | cons p₀ p =>
          simp only [List.cons_append, List.cons.injEq] at hpq
          exact ih.1 h p q hpq.2
    · intro h
      have hhere := h [] (c :: t) rfl
      simp only [hhere, Option.map_eq_none_iff]
      exact ih.2 fun p q hpq => h (c :: p) q (by simp [hpq])

/-- Where nothing is read over the joint of two texts, the leftmost marker is in the first text if that
    has one, and else in the second. -/
theorem cut?_append {α : Type} {here? : Text → Option (α × Text)} {t s : Text} (hnil : here? [] = none)
    (hjoint : ∀ p q, t = p ++ q → q ≠ [] →
      here? (q ++ s) = (here? q).map fun (value, rest) => (value, rest ++ s)) :
    cut? here? (t ++ s) = ((cut? here? t).map fun (value, rest) => (value, rest ++ s)).or
      ((cut? here? s).map fun (value, rest) => (value, t ++ rest)) := by
  induction t with
  | nil =>
    have hcut : cut? here? [] = none := hnil
    rw [hcut]
    simp
  | cons c t ih =>
    have hhere := hjoint [] (c :: t) rfl (List.cons_ne_nil c t)
    have hlater := ih fun p q hpq => hjoint (c :: p) q (by rw [hpq, List.cons_append])
    rw [List.cons_append] at hhere ⊢
    rw [cut?, hhere, cut?, hlater]
    cases here? (c :: t) with
    | some found => rfl
    | none =>
      cases cut? here? t with
      | some found => rfl
      | none => cases cut? here? s <;> rfl

end ApiGuide.Marker
