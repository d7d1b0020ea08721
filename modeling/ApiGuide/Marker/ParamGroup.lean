import ApiGuide.Text.Basic

/-!
Parameter groups: a `@param` line and the lines right after it that are indented deeper.
-/

namespace ApiGuide.Marker

open Text

/-- The keyword that opens a parameter group. -/
def paramKeyword : Text :=
  "@param".toList

/-- The indent of a line that opens a parameter group, and what follows the keyword on it. The
    keyword ends the line or a blank follows it. -/
def opensGroup? (line : Text) : Option (Text × Text) :=
  match after? paramKeyword (skipBlanks line) with
  | some [] => some (indent line, [])
  | some (c :: rest) => if isBlank c then some (indent line, c :: rest) else none
  | none => none

/-- The line has the indent of the group's first line and at least one more blank. -/
def continuesGroup (groupIndent line : Text) : Bool :=
  match after? groupIndent line with
  | some (c :: _) => isBlank c
  | _ => false

/-- The first parameter group of a list of lines: what follows its keyword on the first line and its
    other lines, joined by line breaks; and the text of the lines outside of the group. -/
def groupOfLines? : List Text → Option (Text × Text)
  | [] => none
  | line :: rest =>
    match opensGroup? (firstLine line) with
    | some (groupIndent, spec) =>
      let deeper := rest.takeWhile (continuesGroup groupIndent)
      some (joinWith ['\n'] (spec :: deeper.map firstLine),
        (rest.dropWhile (continuesGroup groupIndent)).flatten)
    | none => (groupOfLines? rest).map fun (group, outside) => (group, line ++ outside)

/-- The first parameter group of a text and the text without its lines. -/
def paramGroup? (t : Text) : Option (Text × Text) :=
  groupOfLines? (lines t)

theorem ne_nil_of_opensGroup? {line : Text} {found : Text × Text}
    (h : opensGroup? (firstLine line) = some found) : line ≠ [] := by
  rintro rfl
  simp [firstLine, opensGroup?, skipBlanks, paramKeyword, after?] at h

theorem length_flatten_dropWhile_le (p : Text → Bool) (rest : List Text) :
    (rest.dropWhile p).flatten.length ≤ rest.flatten.length := by
  have h := congrArg (fun l : List Text => l.flatten.length) (List.takeWhile_append_dropWhile (p := p) (l := rest))
  simp only [List.flatten_append, List.length_append] at h
  omega

theorem length_lt_of_groupOfLines? {ls : List Text} {group outside : Text}
    (h : groupOfLines? ls = some (group, outside)) : outside.length < ls.flatten.length := by
  induction ls generalizing outside with
  | nil => simp [groupOfLines?] at h
  | cons line rest ih =>
    rw [groupOfLines?] at h
    split at h
    · next groupIndent spec hopen =>
      simp only [Option.some.injEq, Prod.mk.injEq] at h
      obtain ⟨-, rfl⟩ := h
      have hline := List.length_pos_iff.2 (ne_nil_of_opensGroup? hopen)
      have hle := length_flatten_dropWhile_le (continuesGroup groupIndent) rest
      simp only [List.flatten_cons, List.length_append]
      omega
    · simp only [Option.map_eq_some_iff, Prod.exists, Prod.mk.injEq] at h
      obtain ⟨g, o, hgo, rfl, rfl⟩ := h
      have := ih hgo
      simp only [List.flatten_cons, List.length_append]
      omega

/-- Cutting a group out makes the text shorter, so that taking groups one after the other ends. -/
theorem length_lt_of_paramGroup? {t group outside : Text}
    (h : paramGroup? t = some (group, outside)) : outside.length < t.length := by
  simpa using length_lt_of_groupOfLines? h

end ApiGuide.Marker
