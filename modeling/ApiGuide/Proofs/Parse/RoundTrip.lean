import ApiGuide.Proofs.Parse.FunctionMarkers
import ApiGuide.Proofs.Parse.ParamLoop

/-!
Reading a function undoes printing it.

The cuts of the markers leave line breaks in front of the prose; all else comes back as it was. This
holds exactly when the prose of the function cannot be taken for a marker.
-/

namespace ApiGuide

open Text Marker

namespace FunctionDoc

/-- What follows the parameters of a printed function. -/
def printTail (f : FunctionDoc) : Text :=
  (if f.ujs then "@ujs\n".toList else []) ++ f.prose

/-- The name and the visibility of a printed function are read whatever follows them. -/
theorem Printable.parse?_print_eq {f : FunctionDoc} (hf : f.Printable) (run : Nat → Text) :
    FunctionDoc.parse? (f.print run) =
      (ParamDoc.parseAll (f.print run) ('\n' :: '\n' :: (ParamDoc.printAll run f.params ++ f.printTail))).map
        fun (params, rest) =>
          some { f with params, ujs := (takeUjs rest).1, prose := (takeUjs rest).2, owner := [] } := by
  have htext : f.print run = "@method ".toList ++ f.name ++ '\n' ::
      ('@' :: f.visibility.keyword ++ '\n' :: (ParamDoc.printAll run f.params ++ f.printTail)) := by
    unfold print printTail
    simp only [List.append_assoc, List.cons_append]
  have hname := functionName?_print hf.name_ne_nil hf.name_trimmed hf.name_one_line
    ('@' :: f.visibility.keyword ++ '\n' :: (ParamDoc.printAll run f.params ++ f.printTail))
  rw [← htext] at hname
  rw [FunctionDoc.parse?, hname]
  simp only [takeVisibility_print]
  cases ParamDoc.parseAll (f.print run) ('\n' :: '\n' :: (ParamDoc.printAll run f.params ++ f.printTail)) with
  | error e => rfl
  | ok found => rfl

theorem paramGroup?_printTail_eq_none_iff {f : FunctionDoc} :
    paramGroup? ('\n' :: '\n' :: f.printTail) = none ↔
      ∀ line ∈ lines f.prose, ¬ IsParamLine (firstLine line) := by
  have hbreak : ¬ IsParamLine (firstLine ['\n']) := opensGroup?_eq_none_iff.1 rfl
  have hujs : ¬ IsParamLine (firstLine "@ujs\n".toList) := opensGroup?_eq_none_iff.1 rfl
  have hlines : lines ('\n' :: '\n' :: f.printTail) = ['\n'] :: ['\n'] :: lines f.printTail := rfl
  rw [paramGroup?_eq_none_iff, hlines]
  cases hflag : f.ujs with
  | false => simp [printTail, hflag, hbreak]
  | true =>
    have htail : lines f.printTail = "@ujs\n".toList :: lines f.prose := by
      rw [printTail, hflag]
      exact lines_append_break (u := "@ujs".toList) (by decide) f.prose
    rw [htail]
    simp only [List.forall_mem_cons, hbreak, hujs, not_false_eq_true, true_and]

theorem isBlank_head?_printTail {f : FunctionDoc} (h : f.ujs = false → ∀ c ∈ f.prose.head?, isBlank c = false) :
    ∀ c ∈ f.printTail.head?, isBlank c = false := by
  rw [printTail]
  cases hflag : f.ujs with
  | false => exact h hflag
  | true =>
    intro c hc
    obtain rfl : '@' = c := Option.some.inj hc
    rfl

theorem takeUjs_printTail {f : FunctionDoc} (h : f.ujs = false → ¬ HasUjs f.prose) :
    takeUjs ('\n' :: '\n' :: f.printTail) = (f.ujs, f.leftBreaks ++ f.prose) := by
  rw [printTail, leftBreaks]
  cases hflag : f.ujs with
  | false => exact takeUjs_of_not_hasUjs (not_hasUjs_breaks_iff.2 (h hflag))
  | true => exact takeUjs_print f.prose

theorem Printable.parseAll_of_parse? {f g : FunctionDoc} (hf : f.Printable) {run : Nat → Text}
    (h : FunctionDoc.parse? (f.print run) = .ok (some g)) :
    ∃ rest, ParamDoc.parseAll (f.print run)
        ('\n' :: '\n' :: (ParamDoc.printAll run f.params ++ f.printTail)) = .ok (g.params, rest) ∧
      takeUjs rest = (g.ujs, g.prose) := by
  rw [hf.parse?_print_eq run] at h
  cases hall : ParamDoc.parseAll (f.print run)
      ('\n' :: '\n' :: (ParamDoc.printAll run f.params ++ f.printTail)) with
  | error e =>
    rw [hall] at h
    cases h
  | ok found =>
    rw [hall] at h
    cases h
    exact ⟨found.2, rfl, rfl⟩

/-- A line that hangs under a printed parameter is lost to it. -/
theorem length_lt_of_parseAll_hanging {p : ParamDoc} (hp : p.Printable) {run block t rest : Text}
    {params : List ParamDoc} (hrun : IsIndent run) {c : Char} (hblank : isBlank c = true)
    (h : ParamDoc.parseAll block ('\n' :: '\n' :: (p.print run ++ c :: t)) = .ok (params, rest)) :
    rest.length < (c :: t).length + 2 := by
  have hgroup := hp.paramGroup?_print hrun (c :: t)
  obtain ⟨hnone, -, -⟩ | ⟨group, outside, q, more, hsome, hrest, -⟩ := ParamDoc.parseAll_ok_cases h
  · rw [hgroup] at hnone
    cases hnone
  · rw [hgroup] at hsome
    cases hsome
    obtain ⟨line, later, hlines⟩ := lines_cons c t
    have hle := ParamDoc.length_le_of_parseAll hrest
    have hdrop := length_flatten_dropWhile_le (continuesGroup []) later
    have hlength := congrArg List.length (lines_flatten (c :: t))
    rw [hlines, List.dropWhile_cons, continuesGroup_nil_cons, if_pos hblank] at hle
    rw [hlines, List.flatten_cons, List.length_append] at hlength
    simp only [List.length_cons] at hle hlength ⊢
    omega

theorem Printable.no_hanging_of_parse? {f g : FunctionDoc} (hf : f.Printable) {run : Nat → Text}
    (hrun : ∀ i, IsIndent (run i)) (h : FunctionDoc.parse? (f.print run) = .ok (some g))
    (hprose : g.prose.length = f.prose.length + 2) (hparams : f.params ≠ []) (hujs : f.ujs = false) :
    ∀ c ∈ f.prose.head?, isBlank c = false := by
  intro c hc
  rw [← Bool.not_eq_true]
  intro hblank
  obtain ⟨t, ht⟩ := List.head?_eq_some_iff.1 hc
  obtain ⟨rest, hall, htake⟩ := hf.parseAll_of_parse? h
  obtain ⟨init, last, hlast⟩ := (List.eq_nil_or_concat' f.params).resolve_left hparams
  have hprintable : ∀ p ∈ init ++ [last], p.Printable := by
    rw [← hlast]
    exact hf.params
  have htail : f.printTail = c :: t := by simp [printTail, hujs, ht]
  rw [hlast, ParamDoc.printAll_concat, List.append_assoc, htail] at hall
  obtain ⟨more, hlater, -⟩ := ParamDoc.exists_parseAll_of_printAll
    (fun p hp => hprintable p (by simp [hp])) hrun
    (fun _ => ParamDoc.isBlank_head?_print_append _ last _) hall
  -- The last parameter takes the first line of the prose, and too little remains for the rest.
  have hshort := length_lt_of_parseAll_hanging (hprintable last (by simp)) (hrun _) hblank hlater
  have hle := length_takeUjs_le rest
  rw [htake, hprose, ht] at hle
  omega

/-- Reading undoes printing: for every function that can be printed, with any runs of blanks in
    front of the prose of its parameters, the printed block is read as that function, with the line
    breaks that the markers leave in front of its prose, if and only if the prose stands apart from
    the markers. -/
theorem parse?_print_iff {f : FunctionDoc} (hf : f.Printable) {run : Nat → Text}
    (hrun : ∀ i, IsIndent (run i)) :
    FunctionDoc.parse? (f.print run) = .ok (some { f with prose := f.leftBreaks ++ f.prose, owner := [] }) ↔
      f.ProseApart := by
  constructor
  · intro h
    have hhanging : f.params ≠ [] → f.ujs = false → ∀ c ∈ f.prose.head?, isBlank c = false := by
      intro hparams hujs
      exact hf.no_hanging_of_parse? hrun h (by simp [leftBreaks, hujs]) hparams hujs
    obtain ⟨rest, hall, htake⟩ := hf.parseAll_of_parse? h
    obtain ⟨more, htail, hmore⟩ := ParamDoc.exists_parseAll_of_printAll hf.params hrun
      (fun hne => isBlank_head?_printTail (hhanging hne)) hall
    obtain rfl : more = [] := by simpa using hmore
    obtain ⟨hnone, -, rfl⟩ | ⟨_, _, _, _, -, -, hcons⟩ := ParamDoc.parseAll_ok_cases htail
    · refine ⟨paramGroup?_printTail_eq_none_iff.1 hnone, ?_, hhanging⟩
      intro hujs
      have hflag := congrArg Prod.fst htake
      have hprose : f.printTail = f.prose := by simp [printTail, hujs]
      rw [hprose, hujs] at hflag
      exact not_hasUjs_breaks_iff.1 (takeUjs_eq_false_iff.1 hflag)
    · cases hcons
  · intro h
    have hnone := ParamDoc.parseAll_of_none (paramGroup?_printTail_eq_none_iff.2 h.no_param) (f.print run)
    rw [hf.parse?_print_eq run, ParamDoc.parseAll_printAll hf.params hrun
      fun hne => isBlank_head?_printTail (h.no_hanging hne), hnone]
    simp [Except.map, takeUjs_printTail h.no_ujs]

/-- A required parameter with types, and with markers in its prose. -/
def urlParam : ParamDoc where
  name := "url".toList
  optional := false
  default := none
  types := ["String".toList, "a b".toList]
  prose := "the @param\n\n  code @ujs".toList

/-- An optional parameter with brackets in its default. -/
def targetParam : ParamDoc where
  name := "o.target".toList
  optional := true
  default := some "a[href]".toList
  types := []
  prose := []

def requestFunction : FunctionDoc where
  name := "up.request".toList
  visibility := .experimental
  params := [urlParam, targetParam]
  prose := "hello\n  hi".toList

theorem urlParam_printable : urlParam.Printable where
  name_ne_nil := by decide
  name_chars := by
    have hchars : urlParam.name.all fun c => !isWhitespace c && c ≠ '[' && c ≠ ']' := by decide
    simpa [and_assoc] using hchars
  name_of_optional := by decide
  name_of_required := by decide
  types := by
    intro t ht
    obtain rfl | rfl : t = "String".toList ∨ t = "a b".toList := by simpa [urlParam] using ht
    · exact ⟨by decide, rfl, by decide, by decide, by decide⟩
    · exact ⟨by decide, rfl, by decide, by decide, by decide⟩
  default_optional := by decide
  default_text := by
    intro d hd
    cases hd
  default_first := by decide
  default_last := by decide
  prose_trimmed := rfl
  prose_unindented := rfl

theorem targetParam_printable : targetParam.Printable where
  name_ne_nil := by decide
  name_chars := by
    have hchars : targetParam.name.all fun c => !isWhitespace c && c ≠ '[' && c ≠ ']' := by decide
    simpa [and_assoc] using hchars
  name_of_optional := by decide
  name_of_required := by decide
  types := by
    intro t ht
    cases ht
  default_optional := by decide
  default_text := by
    intro d hd
    obtain rfl : "a[href]".toList = d := Option.some.inj hd
    have hgroup : IsDefault ('[' :: "href".toList ++ [']']) := .group (by simp) .nil
    exact .char (by decide) (by decide) (by decide) hgroup
  default_first := by
    rintro d hd c hc
    cases hd
    cases hc
    rfl
  default_last := by
    rintro d hd c hc
    cases hd
    cases hc
    rfl
  prose_trimmed := rfl
  prose_unindented := rfl

theorem requestFunction_printable : requestFunction.Printable where
  name_ne_nil := by decide
  name_trimmed := by rfl
  name_one_line := by decide
  params := by
    have hparams : requestFunction.params = [urlParam, targetParam] := rfl
    rw [hparams, List.forall_mem_cons, List.forall_mem_singleton]
    exact ⟨urlParam_printable, targetParam_printable⟩

theorem requestFunction_proseApart : requestFunction.ProseApart where
  no_param := by
    have hnone : ∀ line ∈ lines requestFunction.prose, opensGroup? (firstLine line) = none := by decide
    intro line hline
    exact opensGroup?_eq_none_iff.1 (hnone line hline)
  no_ujs _ := takeUjs_eq_false_iff.1 rfl
  no_hanging _ _ c hc := by
    cases hc
    rfl

theorem parse?_print_requestFunction :
    FunctionDoc.parse? (requestFunction.print fun _ => "\t ".toList) =
      .ok (some { requestFunction with prose := "\n\nhello\n  hi".toList }) :=
  (parse?_print_iff requestFunction_printable fun _ => ⟨by decide, by decide⟩).2 requestFunction_proseApart

end FunctionDoc

end ApiGuide
