import ApiGuide.Proofs.Block.Layout

/-!
Every text has exactly one layout, and its blocks are what a source text documents.
-/

namespace ApiGuide.Block

open Text

/-- The first element with a property is at one place only. -/
theorem append_cons_unique {α : Type} {P : α → Prop} {a b c d : List α} {x y : α}
    (ha : ∀ z ∈ a, ¬ P z) (hx : P x) (hb : ∀ z ∈ b, ¬ P z) (hy : P y)
    (h : a ++ x :: c = b ++ y :: d) : a = b ∧ x = y ∧ c = d := by
  induction a generalizing b with
  | nil =>
    cases b with
    | nil => simpa using h
    | cons z b =>
      obtain ⟨rfl, -⟩ : x = z ∧ c = b ++ y :: d := by simpa using h
      exact absurd hx (hb x (by simp))
  | cons w a ih =>
    cases b with
    | nil =>
      obtain ⟨rfl, -⟩ : w = y ∧ a ++ x :: c = d := by simpa using h
      exact absurd hy (ha w (by simp))
    | cons z b =>
      obtain ⟨rfl, hrest⟩ : w = z ∧ a ++ x :: c = b ++ y :: d := by simpa using h
      obtain ⟨rfl, hx, hc⟩ := ih (fun v hv => ha v (by simp [hv])) (fun v hv => hb v (by simp [hv])) hrest
      exact ⟨rfl, hx, hc⟩

theorem Part.Fits.unique {p q : Part} {rest rest' : Text} (hp : p.Fits rest) (hq : q.Fits rest')
    (h : p.text ++ rest = q.text ++ rest') : p = q ∧ rest = rest' := by
  have hlines := congrArg lines h
  rw [hp.lines_append, hq.lines_append] at hlines
  obtain ⟨hgap, hopening, hlines⟩ := append_cons_unique hp.gap_free hp.opening_begins hq.gap_free
    hq.opening_begins hlines
  obtain ⟨hcontent, hclosing, hrest⟩ := append_cons_unique hp.content_free hp.closing_ends
    hq.content_free hq.closing_ends hlines
  exact ⟨Part.ext (lines_injective hgap) hopening (lines_injective hcontent) hclosing,
    lines_injective hrest⟩

/-- A text that starts with a gap and a block is no tail. -/
theorem NoBlock.not_fits {p : Part} {rest : Text} (h : NoBlock (p.text ++ rest)) : ¬ p.Fits rest := by
  intro hp
  have hfree := h _ _ _ hp.lines_append hp.opening_begins
  exact hfree p.closing (by simp) hp.closing_ends

theorem LaidOut.unique {t tail tail' : Text} {parts parts' : List Part} (h : LaidOut t parts tail)
    (h' : LaidOut t parts' tail') : parts = parts' ∧ tail = tail' := by
  induction parts generalizing t parts' with
  | nil =>
    obtain ⟨rfl, hnone⟩ := h
    cases parts' with
    | nil => exact ⟨rfl, h'.1⟩
    | cons q parts' =>
      obtain ⟨rest, rfl, hq, -⟩ := h'
      exact absurd hq hnone.not_fits
  | cons p parts ih =>
    obtain ⟨rest, rfl, hp, hrest⟩ := h
    cases parts' with
    | nil =>
      obtain ⟨rfl, hnone⟩ := h'
      exact absurd hp hnone.not_fits
    | cons q parts' =>
      obtain ⟨rest', htext, hq, hrest'⟩ := h'
      obtain ⟨rfl, rfl⟩ := hp.unique hq htext
      obtain ⟨rfl, rfl⟩ := ih hrest hrest'
      exact ⟨rfl, rfl⟩

/-- Without an end line after the first begin line there is none after any of them. -/
theorem noBlock_of_first_begin {t opening : Text} {gap after : List Text}
    (h : lines t = gap ++ opening :: after) (hgap : ∀ line ∈ gap, ¬ IsBeginLine line)
    (hafter : ∀ line ∈ after, ¬ IsEndLine line) : NoBlock t := by
  intro before line rest hlines hline later hlater
  apply hafter
  rw [h] at hlines
  -- The begin line is the first one or stands after it, and its end line even later.
  obtain ⟨mid, rfl, hmid⟩ | ⟨mid, rfl, hmid⟩ := List.append_eq_append_iff.1 hlines
  · cases mid with
    | nil =>
      obtain ⟨-, rfl⟩ : opening = line ∧ after = rest := by simpa using hmid
      exact hlater
    | cons m mid =>
      obtain ⟨-, rfl⟩ : opening = m ∧ after = mid ++ line :: rest := by simpa using hmid
      simp [hlater]
  · cases mid with
    | nil =>
      obtain ⟨-, rfl⟩ : line = opening ∧ rest = after := by simpa using hmid
      exact hlater
    | cons m mid =>
      obtain ⟨rfl, -⟩ : line = m ∧ rest = mid ++ opening :: after := by simpa using hmid
      exact absurd hline (hgap line (by simp))

/-- A text is a tail or starts with a part: the first begin line and the first end line after it
    bound the block. -/
theorem noBlock_or_exists_part (t : Text) :
    NoBlock t ∨ ∃ p rest, t = Part.text p ++ rest ∧ p.Fits rest := by
  cases hbegin : (lines t).find? isBegin with
  | none =>
    refine .inl ?_
    intro before line after hlines hline
    have hno := List.find?_eq_none.1 hbegin line (by simp [hlines])
    exact absurd (isBegin_iff.2 hline) hno
  | some opening =>
    obtain ⟨hopening, gap, after, hlines, hgap⟩ := List.find?_eq_some_iff_append.1 hbegin
    have hgapFree : ∀ line ∈ gap, ¬ IsBeginLine line := by
      intro line hmem
      exact not_isBegin_iff.1 (by simpa using hgap line hmem)
    obtain ⟨ht, hgapWhole, hgapLines, hafterLines, -⟩ := lines_eq_append_cons hlines
    cases hend : after.find? isEnd with
    | none =>
      have hafterFree : ∀ line ∈ after, ¬ IsEndLine line := by
        intro line hmem
        exact not_isEnd_iff.1 (by simpa using List.find?_eq_none.1 hend line hmem)
      exact .inl (noBlock_of_first_begin hlines hgapFree hafterFree)
    | some closing =>
      obtain ⟨hclosing, content, rest, hafter, hcontent⟩ := List.find?_eq_some_iff_append.1 hend
      have hcontentFree : ∀ line ∈ content, ¬ IsEndLine line := by
        intro line hmem
        exact not_isEnd_iff.1 (by simpa using hcontent line hmem)
      obtain ⟨hafterText, hcontentWhole, hcontentLines, -, hclosingWhole⟩ :=
        lines_eq_append_cons (hafterLines.trans hafter)
      refine .inr ⟨⟨gap.flatten, opening, content.flatten, closing⟩, rest.flatten, ?_, ?_⟩
      · rw [ht, hafterText]
        simp [Part.text]
      · exact {
          gap_whole := hgapWhole
          gap_free := by simpa only [hgapLines] using hgapFree
          opening_begins := isBegin_iff.1 hopening
          content_whole := hcontentWhole
          content_free := by simpa only [hcontentLines] using hcontentFree
          closing_ends := isEnd_iff.1 hclosing
          closing_whole := hclosingWhole.imp_right fun hnil => by simp [hnil] }

theorem Part.Fits.text_ne_nil {p : Part} {rest : Text} (h : p.Fits rest) : p.text ≠ [] := by
  obtain ⟨left, right, -, -, hopening⟩ := h.opening_begins
  simp [Part.text, hopening]

theorem exists_laidOut (t : Text) : ∃ parts tail, LaidOut t parts tail := by
  obtain hnone | ⟨p, rest, ht, hp⟩ := noBlock_or_exists_part t
  · exact ⟨[], t, rfl, hnone⟩
  · have hpos := List.length_pos_iff.2 hp.text_ne_nil
    have hshorter : rest.length < t.length := by
      rw [ht, List.length_append]
      omega
    obtain ⟨parts, tail, hrest⟩ := exists_laidOut rest
    exact ⟨p :: parts, tail, rest, ht, hp, hrest⟩
termination_by t.length

/-- A source text with its line breaks normalized has exactly one layout, and the blocks are the
    unindented contents of its parts, in order. -/
theorem texts_eq_unique_layout (source : Text) :
    ∃ parts tail, LaidOut (normalizeLineBreaks source) parts tail ∧
      texts source = parts.map (fun p => unindent p.content) ∧
      ∀ parts' tail', LaidOut (normalizeLineBreaks source) parts' tail' →
        parts' = parts ∧ tail' = tail := by
  obtain ⟨parts, tail, hlayout⟩ := exists_laidOut (normalizeLineBreaks source)
  refine ⟨parts, tail, hlayout, ?_, fun parts' tail' h => h.unique hlayout⟩
  have hcontents : contents source = parts.map (·.content) := by
    rw [contents, hlayout.scan_eq, List.map_map]
    simp
  rw [texts, hcontents, List.map_map]
  rfl

end ApiGuide.Block
