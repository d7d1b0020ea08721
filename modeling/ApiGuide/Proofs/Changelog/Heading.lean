import ApiGuide.Changelog
import ApiGuide.Proofs.Text.Lines

/-!
What a release heading is, as a text and among the lines of a text.

The reader of a changelog goes over lines and looks at two of them at a time. A text has a heading
at the start of one of its lines exactly when two of its lines in a row are a version and its
underline; further line breaks only make the heading longer.
-/

namespace ApiGuide.Changelog

open Text

def IsDigitRun (t : Text) : Prop :=
  t ≠ [] ∧ ∀ c ∈ t, isDecimalDigit c = true

/-- Three runs of decimal digits with dots between them. -/
def IsVersion (t : Text) : Prop :=
  ∃ major minor patch, IsDigitRun major ∧ IsDigitRun minor ∧ IsDigitRun patch ∧
    t = major ++ '.' :: minor ++ '.' :: patch

/-- A line with the version, a line of one or more dashes, and one or more line breaks. -/
def IsHeading (version heading : Text) : Prop :=
  IsVersion version ∧ ∃ m n,
    heading = version ++ ['\n'] ++ List.replicate (m + 1) '-' ++ List.replicate (n + 1) '\n'

/-- The text contains a heading that starts where one of its lines starts. -/
def HasHeading (t : Text) : Prop :=
  ∃ before version heading after, t = before ++ heading ++ after ∧ WholeLines before ∧
    IsHeading version heading

/-- The version of the heading that the lines start with. -/
def headingVersion? : List Text → Option Text
  | line :: next :: _ => if isUnderline next then versionLine? line else none
  | _ => none

theorem digitRun?_eq_some_iff {t digits rest : Text} :
    digitRun? t = some (digits, rest) ↔
      IsDigitRun digits ∧ t = digits ++ rest ∧ ∀ c ∈ rest.head?, isDecimalDigit c = false := by
  unfold digitRun?
  constructor
  · intro h
    dsimp only at h
    split at h
    · cases h
    · next hne =>
      cases h
      refine ⟨⟨hne, fun c hc => ?_⟩, List.takeWhile_append_dropWhile.symm, fun c hc => ?_⟩
      · exact List.all_eq_true.1 List.all_takeWhile c hc
      · have hhead := List.head?_dropWhile_not isDecimalDigit t
        rw [hc] at hhead
        simpa using hhead
  · rintro ⟨⟨hne, hdigits⟩, rfl, hrest⟩
    obtain ⟨htake, hdrop⟩ := takeWhile_append_of_boundary hdigits hrest
    simp only [htake, hdrop, hne, if_false]

theorem version?_eq_some_iff {t version rest : Text} :
    version? t = some (version, rest) ↔
      IsVersion version ∧ t = version ++ rest ∧ ∀ c ∈ rest.head?, isDecimalDigit c = false := by
  have hdot : isDecimalDigit '.' = false := by decide
  constructor
  · intro h
    unfold version? at h
    split at h
    · next major t₁ hmajor =>
      split at h
      · next minor t₂ hminor =>
        obtain ⟨⟨patch, rest'⟩, hpatch, heq⟩ := Option.map_eq_some_iff.1 h
        cases heq
        obtain ⟨hmajorRun, rfl, -⟩ := digitRun?_eq_some_iff.1 hmajor
        obtain ⟨hminorRun, rfl, -⟩ := digitRun?_eq_some_iff.1 hminor
        obtain ⟨hpatchRun, rfl, hrest⟩ := digitRun?_eq_some_iff.1 hpatch
        exact ⟨⟨major, minor, patch, hmajorRun, hminorRun, hpatchRun, rfl⟩, by simp, hrest⟩
      · cases h
    · cases h
  · rintro ⟨⟨major, minor, patch, hmajor, hminor, hpatch, rfl⟩, rfl, hrest⟩
    have hmajor' : digitRun? (major ++ '.' :: (minor ++ '.' :: (patch ++ rest))) = some (major, _) :=
      digitRun?_eq_some_iff.2 ⟨hmajor, rfl, by simp [hdot]⟩
    have hminor' : digitRun? (minor ++ '.' :: (patch ++ rest)) = some (minor, _) :=
      digitRun?_eq_some_iff.2 ⟨hminor, rfl, by simp [hdot]⟩
    have hpatch' : digitRun? (patch ++ rest) = some (patch, rest) :=
      digitRun?_eq_some_iff.2 ⟨hpatch, rfl, hrest⟩
    have htext : major ++ '.' :: minor ++ '.' :: patch ++ rest =
        major ++ '.' :: (minor ++ '.' :: (patch ++ rest)) := by simp
    rw [htext]
    simp only [version?, hmajor', hminor', hpatch', Option.map_some]

theorem versionLine?_eq_some_iff {line version : Text} :
    versionLine? line = some version ↔ IsVersion version ∧ line = version ++ ['\n'] := by
  unfold versionLine?
  constructor
  · intro h
    split at h
    · next hversion =>
      cases h
      obtain ⟨hversion', hline, -⟩ := version?_eq_some_iff.1 hversion
      exact ⟨hversion', hline⟩
    · cases h
  · rintro ⟨hversion, hline⟩
    have hbreak : isDecimalDigit '\n' = false := by decide
    simp only [version?_eq_some_iff.2 ⟨hversion, hline, by simp [hbreak]⟩]

theorem isUnderline_iff {line : Text} :
    isUnderline line = true ↔ ∃ m, line = List.replicate (m + 1) '-' ++ ['\n'] := by
  constructor
  · intro h
    unfold isUnderline at h
    split at h
    · next rest =>
      obtain ⟨m, after, rfl, hafter⟩ := exists_run_append '-' rest
      obtain ⟨-, hdrop⟩ := takeWhile_run_append hafter m
      rw [hdrop] at h
      exact ⟨m, by rw [eq_of_beq h, List.replicate_succ, List.cons_append]⟩
    · cases h
  · rintro ⟨m, rfl⟩
    have hbreak : List.head? ['\n'] ≠ some '-' := by simp
    obtain ⟨-, hdrop⟩ := takeWhile_run_append hbreak m
    rw [List.replicate_succ, List.cons_append, isUnderline, hdrop]
    rfl

theorem IsVersion.exists_cons {version : Text} (h : IsVersion version) :
    ∃ c rest, version = c :: rest ∧ isDecimalDigit c = true := by
  obtain ⟨major, minor, patch, ⟨hne, hdigits⟩, -, -, rfl⟩ := h
  cases major with
  | nil => exact absurd rfl hne
  | cons c major => exact ⟨c, _, rfl, hdigits c (by simp)⟩

theorem IsVersion.break_not_mem {version : Text} (h : IsVersion version) : '\n' ∉ version := by
  have hbreak : isDecimalDigit '\n' = false := by decide
  have hrun {t : Text} (ht : IsDigitRun t) : '\n' ∉ t := by
    intro hmem
    rw [ht.2 '\n' hmem] at hbreak
    cases hbreak
  obtain ⟨major, minor, patch, hmajor, hminor, hpatch, rfl⟩ := h
  simp [hrun hmajor, hrun hminor, hrun hpatch]

/-- No line is both a version and an underline, so headings never overlap. -/
theorem isUnderline_eq_false_of_versionLine? {line version : Text} (h : versionLine? line = some version) :
    isUnderline line = false := by
  obtain ⟨hversion, rfl⟩ := versionLine?_eq_some_iff.1 h
  obtain ⟨c, rest, rfl, hdigit⟩ := hversion.exists_cons
  rw [← Bool.not_eq_true, isUnderline_iff]
  rintro ⟨m, heq⟩
  rw [List.replicate_succ, List.cons_append, List.cons_append] at heq
  obtain ⟨rfl, -⟩ := List.cons.inj heq
  have hdash : isDecimalDigit '-' = false := by decide
  rw [hdash] at hdigit
  cases hdigit

theorem headingVersion?_eq_some_iff {ls : List Text} {version : Text} :
    headingVersion? ls = some version ↔
      ∃ line next rest, ls = line :: next :: rest ∧ versionLine? line = some version ∧
        isUnderline next = true := by
  match ls with
  | [] => simp [headingVersion?]
  | [line] => simp [headingVersion?]
  | line :: next :: rest =>
    rw [headingVersion?]
    constructor
    · intro h
      split at h
      · next hunder => exact ⟨line, next, rest, rfl, h, hunder⟩
      · cases h
    · rintro ⟨line', next', rest', heq, hversion, hunder⟩
      cases heq
      rw [if_pos hunder, hversion]

theorem lines_breaks_append (n : Nat) (t : Text) :
    lines (List.replicate n '\n' ++ t) = List.replicate n ['\n'] ++ lines t := by
  induction n with
  | zero => rfl
  | succ n ih => rw [List.replicate_succ, List.cons_append, lines, if_pos rfl, ih]; rfl

/-- A heading makes two lines and empty lines after them. -/
theorem IsHeading.lines_append {version heading : Text} (h : IsHeading version heading) (rest : Text) :
    ∃ line next n, versionLine? line = some version ∧ isUnderline next = true ∧
      lines (heading ++ rest) = line :: next :: (List.replicate n ['\n'] ++ lines rest) := by
  obtain ⟨hversion, m, n, rfl⟩ := h
  refine ⟨version ++ ['\n'], List.replicate (m + 1) '-' ++ ['\n'], n,
    versionLine?_eq_some_iff.2 ⟨hversion, rfl⟩, isUnderline_iff.2 ⟨m, rfl⟩, ?_⟩
  have hdashes : '\n' ∉ List.replicate (m + 1) '-' := by
    intro hmem
    cases List.eq_of_mem_replicate hmem
  have htext : version ++ ['\n'] ++ List.replicate (m + 1) '-' ++ List.replicate (n + 1) '\n' ++ rest =
      version ++ '\n' :: (List.replicate (m + 1) '-' ++ '\n' :: (List.replicate n '\n' ++ rest)) := by
    simp [List.replicate_succ]
  rw [htext, lines_append_break hversion.break_not_mem, lines_append_break hdashes, lines_breaks_append]

theorem hasHeading_iff {t : Text} :
    HasHeading t ↔ ∃ tail version, tail <:+ lines t ∧ headingVersion? tail = some version := by
  constructor
  · rintro ⟨before, version, heading, after, rfl, hbefore, hheading⟩
    obtain ⟨line, next, n, hversion, hunder, hlines⟩ := hheading.lines_append after
    refine ⟨lines (heading ++ after), version, ?_, ?_⟩
    · rw [List.append_assoc, hbefore.lines_append]
      exact List.suffix_append _ _
    · exact headingVersion?_eq_some_iff.2 ⟨line, next, _, hlines, hversion, hunder⟩
  · rintro ⟨tail, version, ⟨before, hlines⟩, htail⟩
    obtain ⟨line, next, rest, rfl, hversion, hunder⟩ := headingVersion?_eq_some_iff.1 htail
    obtain ⟨hversion', rfl⟩ := versionLine?_eq_some_iff.1 hversion
    obtain ⟨m, rfl⟩ := isUnderline_iff.1 hunder
    obtain ⟨ht, hbefore, -⟩ := lines_eq_append_cons hlines.symm
    refine ⟨before.flatten, version, _, rest.flatten, ?_, hbefore, hversion', m, 0, rfl⟩
    rw [ht]
    simp

end ApiGuide.Changelog
