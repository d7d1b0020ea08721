import ApiGuide.Proofs.Parse.Printer
import ApiGuide.Proofs.Text.Blanks
import ApiGuide.Proofs.Text.Lines

/-!
The markers of a printed function: its name, its visibility and its ujs flag.
-/

namespace ApiGuide

open Text Marker

namespace Marker

theorem cut?_of_here {α : Type} {here? : Text → Option (α × Text)} {t : Text} {found : α × Text}
    (h : here? t = some found) : cut? here? t = some found := by
  cases t with
  | nil => exact h
  | cons c t => rw [cut?, h]

theorem cut?_cons_of_none {α : Type} {here? : Text → Option (α × Text)} {c : Char} {t : Text}
    (h : here? (c :: t) = none) :
    cut? here? (c :: t) = (cut? here? t).map fun (value, rest) => (value, c :: rest) := by
  rw [cut?, h]

theorem functionName?_print {name : Text} (hne : name ≠ []) (htrim : trim name = name) (hline : '\n' ∉ name)
    (t : Text) : functionName? ("@method ".toList ++ name ++ '\n' :: t) = some (name, '\n' :: t) := by
  obtain ⟨c, more, hname⟩ := List.exists_cons_of_ne_nil hne
  have hc : c ≠ '\n' := by
    rintro rfl
    simp [hname] at hline
  have hblank : '\n' ∉ ' ' :: name := by simp [hline]
  have hafter : after? "@method".toList ("@method ".toList ++ name ++ '\n' :: t) =
      some (' ' :: c :: (more ++ '\n' :: t)) := by
    rw [hname]
    rfl
  have htext : ' ' :: c :: (more ++ '\n' :: t) = (' ' :: name) ++ '\n' :: t := by simp [hname]
  have hread : lineAfter? "@method".toList ("@method ".toList ++ name ++ '\n' :: t) =
      some (' ' :: name, '\n' :: t) := by
    rw [lineAfter?, hafter]
    simp only [show isBlank ' ' = true from rfl, hc, ne_eq, not_false_eq_true, and_self, if_true]
    rw [htext, (line_append_break hblank t).1, (line_append_break hblank t).2]
  have hhere : ["@method".toList, "@function".toList].findSome?
      (lineAfter? · ("@method ".toList ++ name ++ '\n' :: t)) = some (' ' :: name, '\n' :: t) := by
    rw [List.findSome?_cons, hread]
  have hspace : ∀ c ∈ [' '], isWhitespace c = true := List.forall_mem_singleton.2 rfl
  have htrimmed : trim (' ' :: name) = name := trim_append_of_trimmed hspace htrim
  rw [functionName?, name?, cut?_of_here hhere]
  simp [htrimmed, hne]

theorem takeVisibility_print (v : Visibility) (t : Text) :
    takeVisibility ('\n' :: ('@' :: v.keyword ++ '\n' :: t)) = (v, '\n' :: '\n' :: t) := by
  have hbreak : visibilityHere? ('\n' :: ('@' :: v.keyword ++ '\n' :: t)) = none := rfl
  have hread : visibilityHere? ('@' :: v.keyword ++ '\n' :: t) = some (v, '\n' :: t) := by
    cases v <;> rfl
  rw [takeVisibility, visibility?, cut?_cons_of_none hbreak, cut?_of_here hread]
  rfl

theorem ujsHere?_eq_some_iff {t rest : Text} {flag : Bool} :
    ujsHere? t = some (flag, rest) ↔ flag = true ∧ t = "@ujs".toList ++ rest ∧ atWordEnd rest := by
  rw [ujsHere?, Option.map_eq_some_iff]
  constructor
  · rintro ⟨after, hread, heq⟩
    cases heq
    exact ⟨rfl, keyword?_eq_some_iff.1 hread⟩
  · rintro ⟨rfl, ht, hend⟩
    exact ⟨rest, keyword?_eq_some_iff.2 ⟨ht, hend⟩, rfl⟩

theorem cut?_ujsHere?_eq_none_iff {t : Text} : cut? ujsHere? t = none ↔ ¬ HasUjs t := by
  rw [cut?_eq_none_iff]
  constructor
  · rintro hnone ⟨before, after, ht, hend⟩
    have hread := ujsHere?_eq_some_iff.2 ⟨rfl, rfl, hend⟩
    rw [hnone before ("@ujs".toList ++ after) (by rw [ht, List.append_assoc])] at hread
    cases hread
  · intro hno before tail ht
    cases hread : ujsHere? tail with
    | none => rfl
    | some found =>
      obtain ⟨-, htail, hend⟩ := ujsHere?_eq_some_iff.1 hread
      exact absurd ⟨before, found.2, by rw [ht, htail, List.append_assoc], hend⟩ hno

/-- The flag of a text is unset exactly when the keyword is nowhere, and then nothing is cut out. -/
theorem takeUjs_eq_false_iff {t : Text} : (takeUjs t).1 = false ↔ ¬ HasUjs t := by
  rw [← cut?_ujsHere?_eq_none_iff, takeUjs]
  cases hcut : cut? ujsHere? t with
  | none => simp
  | some found =>
    obtain ⟨before, tail, after, -, hread, -, -⟩ := cut?_eq_some_iff.1 hcut
    simp [(ujsHere?_eq_some_iff.1 hread).1]

theorem takeUjs_of_not_hasUjs {t : Text} (h : ¬ HasUjs t) : takeUjs t = (false, t) := by
  rw [takeUjs, cut?_ujsHere?_eq_none_iff.2 h]
  rfl

theorem not_hasUjs_breaks_iff {t : Text} : ¬ HasUjs ('\n' :: '\n' :: t) ↔ ¬ HasUjs t := by
  rw [← cut?_ujsHere?_eq_none_iff, ← cut?_ujsHere?_eq_none_iff, cut?_cons_of_none rfl,
    cut?_cons_of_none rfl]
  simp

theorem takeUjs_print (t : Text) :
    takeUjs ('\n' :: '\n' :: ("@ujs\n".toList ++ t)) = (true, '\n' :: '\n' :: '\n' :: t) := by
  have hread : ujsHere? ("@ujs\n".toList ++ t) = some (true, '\n' :: t) := rfl
  rw [takeUjs, cut?_cons_of_none rfl, cut?_cons_of_none rfl, cut?_of_here hread]
  rfl

theorem length_takeUjs_le (t : Text) : (takeUjs t).2.length ≤ t.length := by
  rw [takeUjs]
  cases hcut : cut? ujsHere? t with
  | none => simp
  | some found =>
    obtain ⟨before, tail, after, rfl, hread, hrest, -⟩ := cut?_eq_some_iff.1 hcut
    have htail := (ujsHere?_eq_some_iff.1 hread).2.1
    simp only [hrest, htail, Option.getD_some, List.length_append]
    omega

end Marker

end ApiGuide
