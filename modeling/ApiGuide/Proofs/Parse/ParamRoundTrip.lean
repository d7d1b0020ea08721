import ApiGuide.Proofs.Parse.ParamText
import ApiGuide.Proofs.Text.Unindent

/-!
A printed parameter is read back as a whole, once its lines are found.
-/

namespace ApiGuide

open Text Marker

namespace ParamDoc

/-- What follows the name: the lines of the prose, each after a line break. -/
def hangingText (run : Text) (p : ParamDoc) : Text :=
  (p.proseLines.map fun line => '\n' :: (run ++ line)).flatten

/-- What follows the keyword of a printed parameter, up to the last line break. -/
def groupText (run : Text) (p : ParamDoc) : Text :=
  printTypes p.types ++ ' ' :: p.printName ++ p.hangingText run

theorem break_not_mem_of_mem_proseLines {p : ParamDoc} {line : Text} (h : line ∈ p.proseLines) :
    '\n' ∉ line := by
  rw [proseLines] at h
  split at h
  · cases h
  · exact not_mem_of_mem_splitOn h

theorem head?_hangingText (run : Text) (p : ParamDoc) : ∀ c ∈ (p.hangingText run).head?, c = '\n' := by
  rw [hangingText]
  cases p.proseLines with
  | nil => simp
  | cons line rest => simp

theorem joinWith_unindentLines_proseLines {p : ParamDoc} (hp : p.Printable) :
    joinWith ['\n'] (unindentLines p.proseLines) = p.prose := by
  rw [proseLines]
  split
  · next hnil => exact hnil.symm
  · exact hp.prose_unindented

/-- The prose is what remains of the lines after the name. -/
theorem trim_unindentHanging_hangingText {p : ParamDoc} (hp : p.Printable) {run : Text}
    (hrun : IsIndent run) : trim (unindentHanging (p.hangingText run)) = p.prose := by
  have htext : p.hangingText run = joinWith ['\n'] ([] :: p.proseLines.map (run ++ ·)) := by
    rw [joinWith_cons, hangingText, List.map_map]
    rfl
  have hlines : ∀ line ∈ [] :: p.proseLines.map (run ++ ·), '\n' ∉ line := by
    intro line hmem
    rcases List.mem_cons.1 hmem with rfl | hmem
    · simp
    · obtain ⟨l, hl, rfl⟩ := List.mem_map.1 hmem
      simp [break_not_mem_of_allBlank hrun.2, break_not_mem_of_mem_proseLines hl]
  rw [unindentHanging, htext, splitOn_joinWith hlines (by simp)]
  simp only [unindentLines_map_append hrun.2, joinWith_unindentLines_proseLines hp]
  have hbreak : ∀ c ∈ ['\n'], isWhitespace c = true := List.forall_mem_singleton.2 rfl
  exact trim_append_of_trimmed hbreak hp.prose_trimmed

theorem Printable.printName_eq_cons {p : ParamDoc} (hp : p.Printable) :
    ∃ c t, p.printName = c :: t ∧ isWhitespace c = false ∧ (p.types = [] → c ≠ '\x7b') := by
  cases hoptional : p.optional with
  | true =>
    cases hdefault : p.default with
    | none => exact ⟨'[', p.name ++ [']'], by simp [printName, hoptional, hdefault], by decide, by simp⟩
    | some d =>
      exact ⟨'[', p.name ++ '=' :: d ++ [']'], by simp [printName, hoptional, hdefault], by decide, by simp⟩
  | false =>
    obtain ⟨c, t, hname⟩ := List.exists_cons_of_ne_nil hp.name_ne_nil
    refine ⟨c, t, by simp [printName, hoptional, hname], (hp.name_chars c (by simp [hname])).1, ?_⟩
    intro htypes hc
    exact hp.name_of_required hoptional htypes (by simp [hname, hc])

theorem trimStart_blank_cons {t : Text} (h : ∀ c ∈ t.head?, isWhitespace c = false) :
    trimStart (' ' :: t) = t := by
  rw [trimStart, List.dropWhile_cons, if_pos (by decide)]
  exact dropWhile_eq_self_iff_head?.2 h

/-- The types are cut off and the name comes next, after a blank if there were types. -/
theorem takeTypes_trimStart_groupText {p : ParamDoc} (hp : p.Printable) (run : Text) :
    ∃ blanks, allBlank blanks ∧
      takeTypes (trimStart (p.groupText run)) = (p.types, blanks ++ (p.printName ++ p.hangingText run)) := by
  obtain ⟨c, t, hname, hspace, hbrace⟩ := hp.printName_eq_cons
  by_cases htypes : p.types = []
  · refine ⟨[], rfl, ?_⟩
    have htrim : trimStart (p.groupText run) = p.printName ++ p.hangingText run := by
      rw [groupText, printTypes, if_pos htypes]
      exact trimStart_blank_cons (by simp [hname, hspace])
    rw [htrim, htypes]
    exact takeTypes_of_head (by simp [hname, isBlank_eq_false_of_isWhitespace hspace])
      (by simpa [hname] using hbrace htypes)
  · refine ⟨[' '], rfl, ?_⟩
    have htext : p.groupText run = ' ' ::
        ('\x7b' :: joinWith ['|'] p.types ++ '\x7d' :: ([' '] ++ (p.printName ++ p.hangingText run))) := by
      simp [groupText, printTypes, htypes]
    have htrim : trimStart (p.groupText run) =
        '\x7b' :: joinWith ['|'] p.types ++ '\x7d' :: ([' '] ++ (p.printName ++ p.hangingText run)) := by
      rw [htext]
      exact trimStart_blank_cons (by simp; decide)
    rw [htrim, takeTypes_braces htypes hp.types]

/-- The text of a printed group is read as the parameter that was printed. -/
theorem parse_groupText {p : ParamDoc} (hp : p.Printable) {run : Text} (hrun : IsIndent run) (block : Text) :
    ParamDoc.parse (p.groupText run) block = .ok p := by
  obtain ⟨blanks, hblanks, htypes⟩ := takeTypes_trimStart_groupText hp run
  have hname := paramName?_printName hp hblanks (head?_hangingText run p)
  simp only [ParamDoc.parse, htypes, hname, trim_unindentHanging_hangingText hp hrun]

end ParamDoc

end ApiGuide
