import ApiGuide.Proofs.Parse.ParamNameForms
import Mathlib.Data.List.Basic

/-!
A printed parameter is read back: its types, its name with optionality and default, and its prose.
-/

namespace ApiGuide

open Text Marker

theorem splitAt?_append {mark : Char} {before : Text} (h : mark ∉ before) (rest : Text) :
    splitAt? mark (before ++ mark :: rest) = some (before, rest) := by
  induction before with
  | nil => simp [splitAt?]
  | cons c before ih =>
    simp only [List.mem_cons, not_or] at h
    rw [List.cons_append, splitAt?, if_neg (Ne.symm h.1), ih h.2]
    rfl

theorem not_mem_of_splitAt? {mark : Char} {t before rest : Text}
    (h : splitAt? mark t = some (before, rest)) : mark ∉ before := by
  induction t generalizing before with
  | nil => simp [splitAt?] at h
  | cons c t ih =>
    rw [splitAt?] at h
    split at h
    · cases h
      simp
    · next hc =>
      obtain ⟨⟨b, r⟩, hbr, heq⟩ := Option.map_eq_some_iff.1 h
      cases heq
      simp [Ne.symm hc, ih hbr]

/-- A list of types that are trimmed is trimmed as a whole. -/
theorem trim_joinWith_types {types : List Text} (h : ∀ t ∈ types, IsType t) :
    trim (joinWith ['|'] types) = joinWith ['|'] types := by
  rw [trim_eq_self_iff]
  constructor
  · cases types with
    | nil => simp [joinWith]
    | cons t rest =>
      have ht := h t (by simp)
      rw [joinWith_cons, List.head?_append_of_ne_nil _ ht.ne_nil]
      exact (trim_eq_self_iff.1 ht.trimmed).1
  · intro c hc
    rw [getLast?_joinWith fun t ht => (h t ht).ne_nil] at hc
    obtain ⟨t, ht, hct⟩ := Option.bind_eq_some_iff.1 hc
    exact (trim_eq_self_iff.1 (h t (List.mem_of_getLast? ht)).trimmed).2 c hct

theorem IsType.outdent_eq {t : Text} (h : IsType t) : dropEndWhile isBlank (skipBlanks t) = t := by
  obtain ⟨hfirst, hlast⟩ := trim_eq_self_iff.1 h.trimmed
  have hskip : skipBlanks t = t := dropWhile_eq_self_iff_head?.2 fun c hc =>
    isBlank_eq_false_of_isWhitespace (hfirst c hc)
  rw [hskip]
  exact dropEndWhile_eq_self_iff_getLast?.2 fun c hc => isBlank_eq_false_of_isWhitespace (hlast c hc)

theorem typeList_joinWith {types : List Text} (hne : types ≠ []) (h : ∀ t ∈ types, IsType t) :
    typeList (joinWith ['|'] types) = types := by
  have hpieces : splitOn '|' (joinWith ['|'] types) = types :=
    splitOn_joinWith (fun t ht => (h t ht).no_pipe) hne
  have hmap : (types.map fun piece => dropEndWhile isBlank (skipBlanks piece)) = types := by
    have hid := List.map_congr_left fun t ht => (h t ht).outdent_eq
    rw [hid, List.map_id']
  rw [typeList, trim_joinWith_types h, hpieces, hmap, List.filter_eq_self]
  intro t ht
  simpa using (h t ht).ne_nil

/-- What stands in the braces is read as the type list. -/
theorem takeTypes_body {body : Text} (hne : body ≠ []) (hbrace : '\x7d' ∉ body) (rest : Text) :
    takeTypes ('\x7b' :: (body ++ '\x7d' :: rest)) = (typeList body, rest) := by
  have hskip : skipBlanks ('\x7b' :: (body ++ '\x7d' :: rest)) = '\x7b' :: (body ++ '\x7d' :: rest) := rfl
  obtain ⟨c, more, rfl⟩ := List.exists_cons_of_ne_nil hne
  rw [takeTypes, hskip]
  simp only [splitAt?_append hbrace rest]

theorem takeTypes_braces {types : List Text} (hne : types ≠ []) (h : ∀ t ∈ types, IsType t) (rest : Text) :
    takeTypes ('\x7b' :: joinWith ['|'] types ++ '\x7d' :: rest) = (types, rest) := by
  have hbrace : '\x7d' ∉ joinWith ['|'] types :=
    not_mem_joinWith (by decide) fun t ht => (h t ht).no_brace
  have hbody : joinWith ['|'] types ≠ [] := by
    cases types with
    | nil => exact absurd rfl hne
    | cons t more =>
      rw [joinWith_cons]
      simp [(h t (by simp)).ne_nil]
  rw [List.cons_append, takeTypes_body hbody hbrace, typeList_joinWith hne h]

/-- Without braces in front there is no type list. -/
theorem takeTypes_of_head {t : Text} (hblank : ∀ c ∈ t.head?, isBlank c = false)
    (hbrace : t.head? ≠ some '\x7b') : takeTypes t = ([], t) := by
  have hskip : skipBlanks t = t := dropWhile_eq_self_iff_head?.2 hblank
  rw [takeTypes, hskip]
  split
  · next hopen => simp at hbrace
  · rfl

theorem ParamDoc.Printable.not_endsName {p : ParamDoc} (hp : p.Printable) :
    ∀ c ∈ p.name, ¬ EndsName c := by
  intro c hc
  obtain ⟨hspace, hopen, hclose⟩ := hp.name_chars c hc
  have hblank := not_blank_iff.1 (isBlank_eq_false_of_isWhitespace hspace)
  exact isNameChar_iff_not_endsName.1
    (isNameChar_iff.2 ⟨hblank.1, hblank.2, ne_break_of_isWhitespace hspace, hopen, hclose⟩)

/-- An optional name is printed in brackets. -/
theorem ParamDoc.Printable.optionalForm {p : ParamDoc} (hp : p.Printable) (hoptional : p.optional = true)
    {blanks : Text} (hblanks : allBlank blanks) (rest : Text) :
    OptionalForm (blanks ++ (p.printName ++ rest)) p.name p.default rest := by
  have hname : ∀ c ∈ p.name, ¬ EndsName c ∧ c ≠ '=' := by
    refine fun c hc => ⟨hp.not_endsName c hc, ?_⟩
    rintro rfl
    exact hp.name_of_optional hoptional hc
  cases hdefault : p.default with
  | none =>
    have htext : p.printName ++ rest = '[' :: ([] ++ (p.name ++ ([] ++ ([] ++ ']' :: rest)))) := by
      simp [ParamDoc.printName, hoptional, hdefault]
    rw [htext]
    exact .intro hblanks rfl hp.name_ne_nil hname .absent rfl
  | some d =>
    have htext : p.printName ++ rest =
        '[' :: ([] ++ (p.name ++ (([] ++ '=' :: ([] ++ d)) ++ ([] ++ ']' :: rest)))) := by
      simp [ParamDoc.printName, hoptional, hdefault]
    rw [htext]
    exact .intro hblanks rfl hp.name_ne_nil hname
      (.given rfl rfl (hp.default_text d hdefault) (hp.default_first d hdefault) (hp.default_last d hdefault))
      rfl

/-- A required name is printed as it is, and the line ends after it. -/
theorem ParamDoc.Printable.requiredForm {p : ParamDoc} (hp : p.Printable) (hrequired : p.optional = false)
    {blanks rest : Text} (hblanks : allBlank blanks) (hrest : ∀ c ∈ rest.head?, c = '\n') :
    RequiredForm (blanks ++ (p.printName ++ rest)) p.name rest := by
  have htext : p.printName = p.name := by simp [ParamDoc.printName, hrequired]
  rw [htext]
  exact .intro hblanks hp.name_ne_nil hp.not_endsName fun c hc => .inr (.inr (.inl (hrest c hc)))

/-- The printed name is read back, with what it says about optionality and default. -/
theorem paramName?_printName {p : ParamDoc} (hp : p.Printable) {blanks rest : Text}
    (hblanks : allBlank blanks) (hrest : ∀ c ∈ rest.head?, c = '\n') :
    paramName? (blanks ++ (p.printName ++ rest)) = some (⟨p.name, p.optional, p.default⟩, rest) := by
  rw [paramName?_eq_some_iff]
  cases hoptional : p.optional with
  | true => exact .inl ⟨rfl, hp.optionalForm hoptional hblanks rest⟩
  | false =>
    have hdefault : p.default = none := by
      cases hsome : p.default with
      | none => rfl
      | some d =>
        have htrue := hp.default_optional d hsome
        rw [hoptional] at htrue
        cases htrue
    exact .inr ⟨rfl, hdefault, hp.requiredForm hoptional hblanks hrest⟩

end ApiGuide
