import ApiGuide.Proofs.Text.Lines
import ApiGuide.Proofs.Text.Numbers
import ApiGuide.SemVer
import Mathlib.Algebra.Ring.Nat

/-!
Versions are found again in the texts that they are written into.

The stretch that looks like a version is cut out first and read afterwards. It goes on as far as it can,
so a written version is cut out whole if the text before it has no digit and what follows it cannot be a
part of it.
-/

namespace ApiGuide.SemVer

open Text

/-- A part between dots: letters, digits and hyphens of ASCII, at least one of them. -/
structure IsIdentifier (part : Text) : Prop where
  ne_nil : part ≠ []
  chars : ∀ c ∈ part, c.isAlphanum = true ∨ c = '-'

/-- A semantic version: its numbers fit into 64 bits, and a number among its pre-release parts has no
    zero in front. -/
structure Valid (v : SemVer) : Prop where
  major_lt : v.major < 2 ^ 64
  minor_lt : v.minor < 2 ^ 64
  patch_lt : v.patch < 2 ^ 64
  pre_identifier : ∀ part ∈ v.pre, IsIdentifier part
  pre_plain : ∀ part ∈ v.pre, (∀ c ∈ part, c.isDigit = true) → part.head? = some '0' → part = ['0']
  build_identifier : ∀ part ∈ v.build, IsIdentifier part

/-- The text after a version cannot be a part of it. -/
def EndsVersion (after : Text) : Prop :=
  ∀ c ∈ after.head?, isDecimalDigit c = false ∧ c.isAlpha = false ∧ c ≠ '.' ∧ c ≠ '-' ∧ c ≠ '+'

theorem EndsVersion.isSuffixChar {after : Text} (h : EndsVersion after) :
    ∀ c ∈ after.head?, isSuffixChar c = false ∧ c ≠ '+' := by
  intro c hc
  obtain ⟨hdigit, halpha, hdot, hhyphen, hplus⟩ := h c hc
  have hascii : c.isDigit = false := by
    rw [← Bool.not_eq_true]
    intro hc
    rw [isDecimalDigit_of_isDigit hc] at hdigit
    cases hdigit
  exact ⟨by simp [SemVer.isSuffixChar, Char.isAlphanum, halpha, hascii, hdot, hhyphen], hplus⟩

theorem isPart_iff {part : Text} : isPart part = true ↔ IsIdentifier part := by
  simp only [isPart, isPartChar, Bool.and_eq_true, Bool.not_eq_true', List.isEmpty_eq_false_iff,
    List.all_eq_true, Bool.or_eq_true, beq_iff_eq]
  exact ⟨fun h => ⟨h.1, h.2⟩, fun h => ⟨h.ne_nil, h.chars⟩⟩

instance (part : Text) : Decidable (IsIdentifier part) :=
  decidable_of_iff (isPart part = true) isPart_iff

theorem isPrePart_of_plain {part : Text} (h : IsIdentifier part)
    (hplain : (∀ c ∈ part, c.isDigit = true) → part.head? = some '0' → part = ['0']) :
    isPrePart part = true := by
  rw [isPrePart, isPart_iff.2 h, Bool.true_and, Bool.or_eq_true, Bool.not_eq_true', List.all_eq_false]
  by_cases hdigits : ∀ c ∈ part, c.isDigit = true
  · right
    rw [isPlainNumber, List.all_eq_true.2 hdigits, Bool.true_and, Bool.or_eq_true, Bool.and_eq_true,
      beq_iff_eq, bne_iff_ne, bne_iff_ne]
    by_cases hzero : part.head? = some '0'
    · exact .inl (hplain hdigits hzero)
    · exact .inr ⟨h.ne_nil, hzero⟩
  · left
    simpa using hdigits

theorem number?_ofNat {n : Nat} (h : n < 2 ^ 64) : number? (ofNat n) = some n := by
  have hdigits : (ofNat n).all Char.isDigit = true :=
    List.all_eq_true.2 fun c hc => isDigit_of_mem_ofNat hc
  have hplain : isPlainNumber (ofNat n) = true := by
    rw [isPlainNumber, hdigits, Bool.true_and, Bool.or_eq_true, Bool.and_eq_true, beq_iff_eq, bne_iff_ne,
      bne_iff_ne]
    by_cases hzero : (ofNat n).head? = some '0'
    · left
      rw [eq_zero_of_head?_ofNat hzero]
      rfl
    · exact .inr ⟨ofNat_ne_nil n, hzero⟩
  have hlimit : n < numberLimit := h
  simp [number?, hplain, hlimit]

theorem isSuffixChar_of_mem_joinWith {parts : List Text} (h : ∀ part ∈ parts, IsIdentifier part) :
    ∀ c ∈ joinWith ['.'] parts, isSuffixChar c = true := by
  intro c hc
  by_contra hnot
  have hdot : c ≠ '.' := by
    rintro rfl
    exact hnot (by decide)
  refine not_mem_joinWith hdot ?_ hc
  intro part hpart hmem
  apply hnot
  rcases (h part hpart).chars c hmem with halpha | rfl
  · simp [isSuffixChar, halpha]
  · decide

theorem joinWith_ne_nil {parts : List Text} (h : ∀ part ∈ parts, IsIdentifier part) (hne : parts ≠ []) :
    joinWith ['.'] parts ≠ [] := by
  obtain ⟨part, rest, rfl⟩ := List.exists_cons_of_ne_nil hne
  have hpart := (h part List.mem_cons_self).ne_nil
  simp [joinWith_cons, hpart]

theorem suffix?_append {mark : Char} {body rest : Text} (hne : body ≠ [])
    (hbody : ∀ c ∈ body, isSuffixChar c = true) (hrest : ∀ c ∈ rest.head?, isSuffixChar c = false) :
    suffix? mark (mark :: (body ++ rest)) = (some body, rest) := by
  obtain ⟨htake, hdrop⟩ := takeWhile_append_of_boundary hbody hrest
  obtain ⟨d, more, rfl⟩ := List.exists_cons_of_ne_nil hne
  have hd := hbody d List.mem_cons_self
  rw [List.cons_append] at htake hdrop
  rw [List.cons_append, suffix?, hd, htake, hdrop]
  simp

theorem suffix?_of_head? {mark : Char} {t : Text} (h : t.head? ≠ some mark) : suffix? mark t = (none, t) := by
  unfold suffix?
  split
  · next c d rest =>
    have hc : c ≠ mark := by
      rintro rfl
      exact h rfl
    simp [hc]
  · rfl

/-- The parts after a mark as they are written. Without parts there is no mark. -/
def suffixText (mark : Char) (parts : List Text) : Text :=
  if parts = [] then [] else mark :: joinWith ['.'] parts

/-- What stands after the mark, if there is one. -/
def suffixBody (parts : List Text) : Option Text :=
  if parts = [] then none else some (joinWith ['.'] parts)

theorem head?_suffixText_append {mark c : Char} {parts : List Text} {rest : Text}
    (h : c ∈ (suffixText mark parts ++ rest).head?) : c = mark ∨ c ∈ rest.head? := by
  rw [suffixText] at h
  split at h
  · exact .inr h
  · cases h
    exact .inl rfl

/-- The parts after a mark are cut out whole, and nothing is cut out without them. -/
theorem suffix?_suffixText {mark : Char} {parts : List Text} {rest : Text}
    (hparts : ∀ part ∈ parts, IsIdentifier part)
    (hrest : ∀ c ∈ rest.head?, isSuffixChar c = false ∧ c ≠ mark) :
    suffix? mark (suffixText mark parts ++ rest) = (suffixBody parts, rest) := by
  by_cases hnone : parts = []
  · rw [suffixText, suffixBody, if_pos hnone, if_pos hnone, List.nil_append]
    exact suffix?_of_head? fun hmark => (hrest mark hmark).2 rfl
  · rw [suffixText, suffixBody, if_neg hnone, if_neg hnone, List.cons_append]
    exact suffix?_append (joinWith_ne_nil hparts hnone) (isSuffixChar_of_mem_joinWith hparts)
      fun c hc => (hrest c hc).1

/-- The parts are split as they were joined. -/
theorem splitOn_suffixBody {parts : List Text} (h : ∀ part ∈ parts, IsIdentifier part) :
    ((suffixBody parts).map (splitOn '.')).getD [] = parts := by
  have hdot : ∀ part ∈ parts, '.' ∉ part := by
    intro part hpart hmem
    rcases (h part hpart).chars '.' hmem with hchar | hchar <;> cases hchar
  by_cases hnone : parts = []
  · rw [suffixBody, if_pos hnone, hnone]
    rfl
  · rw [suffixBody, if_neg hnone, Option.map_some, Option.getD_some, splitOn_joinWith hdot hnone]

theorem isDecimalDigit_of_mem_ofNat {n : Nat} {c : Char} (h : c ∈ ofNat n) : isDecimalDigit c = true :=
  isDecimalDigit_of_isDigit (isDigit_of_mem_ofNat h)

theorem digitsAndDot?_ofNat (n : Nat) (rest : Text) :
    digitsAndDot? (ofNat n ++ '.' :: rest) = some (ofNat n, rest) := by
  have hdot : ∀ c ∈ ('.' :: rest).head?, isDecimalDigit c = false := by
    rintro c ⟨⟩
    decide
  obtain ⟨htake, hdrop⟩ := takeWhile_append_of_boundary (fun c => isDecimalDigit_of_mem_ofNat) hdot
  obtain ⟨c, more, hcons⟩ := List.exists_cons_of_ne_nil (ofNat_ne_nil n)
  rw [digitsAndDot?, htake, hdrop, hcons]
  rfl

/-- The stretch that a version is written in. -/
def toCandidate (v : SemVer) : Candidate where
  major := ofNat v.major
  minor := ofNat v.minor
  patch := ofNat v.patch
  pre := suffixBody v.pre
  build := suffixBody v.build

theorem ofCandidate?_toCandidate {v : SemVer} (h : v.Valid) : ofCandidate? v.toCandidate = some v := by
  have hpre : v.pre.all isPrePart = true := by
    rw [List.all_eq_true]
    exact fun part hpart => isPrePart_of_plain (h.pre_identifier part hpart) (h.pre_plain part hpart)
  have hbuild : v.build.all isPart = true := by
    rw [List.all_eq_true]
    exact fun part hpart => isPart_iff.2 (h.build_identifier part hpart)
  simp only [ofCandidate?, toCandidate, number?_ofNat h.major_lt, number?_ofNat h.minor_lt,
    number?_ofNat h.patch_lt, splitOn_suffixBody h.pre_identifier, splitOn_suffixBody h.build_identifier, hpre,
    hbuild, Bool.and_self, if_true]

/-- A written version is cut out whole, and nothing of what follows it. -/
theorem candidate?_toText {v : SemVer} (h : v.Valid) {after : Text} (hafter : EndsVersion after) :
    candidate? (v.toText ++ after) = some (v.toCandidate, after) := by
  have hbuild := suffix?_suffixText h.build_identifier hafter.isSuffixChar
  have hrest : ∀ c ∈ (suffixText '+' v.build ++ after).head?,
      isSuffixChar c = false ∧ isDecimalDigit c = false ∧ c ≠ '-' := by
    intro c hc
    obtain rfl | hc := head?_suffixText_append hc
    · decide
    · obtain ⟨hdigit, -, -, hhyphen, -⟩ := hafter c hc
      exact ⟨(hafter.isSuffixChar c hc).1, hdigit, hhyphen⟩
  have hpre := suffix?_suffixText h.pre_identifier fun c hc => ⟨(hrest c hc).1, (hrest c hc).2.2⟩
  have hpatch : ∀ c ∈ (suffixText '-' v.pre ++ (suffixText '+' v.build ++ after)).head?,
      isDecimalDigit c = false := by
    intro c hc
    obtain rfl | hc := head?_suffixText_append hc
    · decide
    · exact (hrest c hc).2.1
  obtain ⟨htake, hdrop⟩ :=
    takeWhile_append_of_boundary (fun c (hc : c ∈ ofNat v.patch) => isDecimalDigit_of_mem_ofNat hc) hpatch
  have htext : v.toText ++ after = ofNat v.major ++ '.' :: (ofNat v.minor ++ '.' :: (ofNat v.patch ++
      (suffixText '-' v.pre ++ (suffixText '+' v.build ++ after)))) := by
    simp only [toText, suffixText, List.append_assoc, List.cons_append]
  simp only [htext, candidate?, digitsAndDot?_ofNat, htake, hdrop, hpre, hbuild, if_neg (ofNat_ne_nil v.patch)]
  rfl

/-- No version starts at a character that is no digit. -/
theorem candidate?_cons_of_no_digit {c : Char} (h : isDecimalDigit c = false) (t : Text) :
    candidate? (c :: t) = none := by
  have hdigits : digitsAndDot? (c :: t) = none := by
    simp [digitsAndDot?, h]
  rw [candidate?, hdigits]

theorem findFrom?_append_of_no_digit {before : Text} (h : ∀ c ∈ before, isDecimalDigit c = false) (t : Text) :
    findFrom? 0 (before ++ t) = findFrom? 0 t := by
  induction before with
  | nil => rfl
  | cons c before ih =>
    rw [List.cons_append, findFrom?, candidate?_cons_of_no_digit (h c List.mem_cons_self)]
    exact ih fun d hd => h d (List.mem_cons_of_mem c hd)

/-- The first version of a text is the one that is written into it. -/
theorem find?_toText {v : SemVer} (h : v.Valid) {before after : Text}
    (hbefore : ∀ c ∈ before, isDecimalDigit c = false) (hafter : EndsVersion after) :
    find? (before ++ (v.toText ++ after)) = some v := by
  rw [find?, findFrom?_append_of_no_digit hbefore]
  cases htext : v.toText ++ after with
  | nil =>
    have hne : ofNat v.major ≠ [] := ofNat_ne_nil v.major
    simp [toText, hne] at htext
  | cons c t =>
    rw [findFrom?, ← htext, candidate?_toText h hafter]
    simp only [ofCandidate?_toCandidate h]

end ApiGuide.SemVer
