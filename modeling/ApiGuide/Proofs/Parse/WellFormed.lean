import ApiGuide.Proofs.Parse.ParamNameForms

/-!
What is read from a block is well-formed, whatever the text of the block is.

A marker is looked for in what earlier cuts left of the block, so nothing is known about that text.
The facts come from the readers alone: which characters they take, where they stop, and what they
trim.
-/

namespace ApiGuide

open Text Marker

/-- A text that can name a class or a function: it is not empty, stands on one line and has no white
    space on either end. -/
structure IsName (t : Text) : Prop where
  ne_nil : t ≠ []
  one_line : '\n' ∉ t
  trimmed : trim t = t

/-- The name of a parameter is one word without brackets. Only an optional parameter has a default,
    and then no equals sign is left in its name; the default stands on one line, has no blank on
    either end, and its brackets are groups without brackets in them. -/
structure ParamName.WellFormed (n : ParamName) : Prop where
  name_ne_nil : n.name ≠ []
  name_chars : ∀ c ∈ n.name, c ≠ ' ' ∧ c ≠ '\t' ∧ c ≠ '\n' ∧ c ≠ '[' ∧ c ≠ ']'
  default_of_required : n.optional = false → n.default = none
  name_of_optional : n.optional = true → '=' ∉ n.name
  default_text : ∀ d ∈ n.default, IsDefault d
  default_one_line : ∀ d ∈ n.default, '\n' ∉ d
  default_first : ∀ d ∈ n.default, ∀ c ∈ d.head?, c ≠ ' ' ∧ c ≠ '\t'
  default_last : ∀ d ∈ n.default, ∀ c ∈ d.getLast?, c ≠ ' ' ∧ c ≠ '\t'

/-- A parameter has a well-formed name and trimmed prose. -/
structure ParamDoc.WellFormed (p : ParamDoc) : Prop where
  name : ParamName.WellFormed ⟨p.name, p.optional, p.default⟩
  prose_trimmed : trim p.prose = p.prose

/-- A function has a name and well-formed parameters. -/
structure FunctionDoc.WellFormed (f : FunctionDoc) : Prop where
  name : IsName f.name
  params : ∀ p ∈ f.params, p.WellFormed

/-- A class has a name and well-formed functions. -/
structure ClassDoc.WellFormed (c : ClassDoc) : Prop where
  name : IsName c.name
  functions : ∀ f ∈ c.functions, f.WellFormed

namespace Marker

theorem break_not_mem_of_lineAfter? {keyword t line rest : Text}
    (h : lineAfter? keyword t = some (line, rest)) : '\n' ∉ line := by
  unfold lineAfter? at h
  split at h
  · split at h
    · cases h
      exact break_not_mem_firstLine _
    · cases h
  · cases h

/-- What a naming marker gives is a name. -/
theorem isName_of_name? {keywords : List Text} {t name rest : Text}
    (h : name? keywords t = some (name, rest)) : IsName name := by
  unfold name? at h
  split at h
  · cases h
  · next line after hcut =>
    split at h
    · cases h
    · next hne =>
      cases h
      obtain ⟨_, tail, _, -, hread, -, -⟩ := cut?_eq_some_iff.1 hcut
      obtain ⟨keyword, -, hline⟩ := List.exists_of_findSome?_eq_some hread
      have hbreak := break_not_mem_of_lineAfter? hline
      exact ⟨hne, fun hmem => hbreak (mem_of_mem_trim hmem), trim_trim line⟩

theorem paramName?_wellFormed {t rest : Text} {n : ParamName} (h : paramName? t = some (n, rest)) :
    n.WellFormed := by
  have hchar {c : Char} (hends : ¬ EndsName c) :=
    isNameChar_iff.1 (isNameChar_iff_not_endsName.2 hends)
  obtain ⟨name, optional, default⟩ := n
  obtain ⟨rfl, hform⟩ | ⟨rfl, rfl, hform⟩ := paramName?_eq_some_iff.1 h
  · cases hform with
    | intro _ _ hne hname hpart _ =>
      have hchars : ∀ c ∈ name, c ≠ ' ' ∧ c ≠ '\t' ∧ c ≠ '\n' ∧ c ≠ '[' ∧ c ≠ ']' :=
        fun c hc => hchar (hname c hc).1
      have hequals : '=' ∉ name := fun hmem => (hname '=' hmem).2 rfl
      cases hpart with
      | absent => exact ⟨hne, hchars, by simp, fun _ => hequals, by simp, by simp, by simp, by simp⟩
      | @given _ _ d _ _ hdefault hfirst hlast =>
        refine ⟨hne, hchars, by simp, fun _ => hequals, ?_, ?_, ?_, ?_⟩
        all_goals
          intro d' hd'
          obtain rfl : d = d' := Option.some.inj hd'
        · exact hdefault
        · exact hdefault.break_not_mem
        · exact fun c hc => not_blank_iff.1 (hfirst c hc)
        · exact fun c hc => not_blank_iff.1 (hlast c hc)
  · cases hform with
    | intro _ hne hname _ =>
      exact ⟨hne, fun c hc => hchar (hname c hc), by simp, by simp, by simp, by simp, by simp, by simp⟩

end Marker

theorem ParamDoc.parse_wellFormed {group block : Text} {p : ParamDoc}
    (h : ParamDoc.parse group block = .ok p) : p.WellFormed := by
  unfold ParamDoc.parse at h
  dsimp only at h
  split at h
  · cases h
  · next hname =>
    cases h
    exact ⟨paramName?_wellFormed hname, trim_trim _⟩

/-- The loop reads well-formed parameters only: each comes from a group of what is left of the text. -/
theorem ParamDoc.parseAll_wellFormed {block t rest : Text} {params : List ParamDoc}
    (h : ParamDoc.parseAll block t = .ok (params, rest)) : ∀ p ∈ params, p.WellFormed := by
  fun_induction ParamDoc.parseAll block t generalizing params with
  | case1 =>
    cases h
    simp
  | case2 => cases h
  | case3 => cases h
  | case4 t group outside _ param hparam more rest' hmore ih =>
    cases h
    rw [List.forall_mem_cons]
    exact ⟨ParamDoc.parse_wellFormed hparam, ih hmore⟩

theorem FunctionDoc.parse?_wellFormed {block : Text} {f : FunctionDoc}
    (h : FunctionDoc.parse? block = .ok (some f)) : f.WellFormed := by
  unfold FunctionDoc.parse? at h
  dsimp only at h
  split at h
  · cases h
  · next hname =>
    split at h
    · cases h
    · next hparams =>
      cases h
      exact ⟨isName_of_name? hname, ParamDoc.parseAll_wellFormed hparams⟩

theorem ClassDoc.parse?_wellFormed {block : Text} {c : ClassDoc} (h : ClassDoc.parse? block = some c) :
    c.WellFormed := by
  unfold ClassDoc.parse? at h
  split at h
  · cases h
  · next hname =>
    cases h
    exact ⟨isName_of_name? hname, by simp⟩

end ApiGuide
