import ApiGuide.Proofs.Parse.Printer
import ApiGuide.Proofs.Text.Blanks
import ApiGuide.Proofs.Text.Lines

/-!
The two forms of a parameter name, and a reader that accepts exactly these.

A name in brackets ends at the first closing bracket outside of a bracket group. Blanks around the
default belong to no part of it, so there is one way only to read a text.
-/

namespace ApiGuide

open Text Marker

/-- A character that ends a name without brackets: a blank, a line break or a bracket. -/
def EndsName (c : Char) : Prop :=
  c = ' ' ∨ c = '\t' ∨ c = '\n' ∨ c = '[' ∨ c = ']'

/-- What may follow a name in brackets: nothing, or an equals sign with blanks around it and a default
    that has no blank on either end. -/
inductive DefaultPart : Option Text → Text → Prop
  | absent : DefaultPart none []
  | given {left right d : Text} (hleft : allBlank left) (hright : allBlank right) (hdefault : IsDefault d)
      (hfirst : ∀ c ∈ d.head?, isBlank c = false) (hlast : ∀ c ∈ d.getLast?, isBlank c = false) :
      DefaultPart (some d) (left ++ '=' :: (right ++ d))

/-- The text is a name in brackets, with or without a default, and then `rest`. -/
inductive OptionalForm : (t name : Text) → (default : Option Text) → (rest : Text) → Prop
  | intro {left inner name part right rest : Text} {default : Option Text} (hleft : allBlank left)
      (hinner : allBlank inner) (hne : name ≠ []) (hname : ∀ c ∈ name, ¬ EndsName c ∧ c ≠ '=')
      (hpart : DefaultPart default part) (hright : allBlank right) :
      OptionalForm (left ++ '[' :: (inner ++ (name ++ (part ++ (right ++ ']' :: rest))))) name default rest

/-- The text is a name without brackets, as long as it can be, and then `rest`. -/
inductive RequiredForm : (t name rest : Text) → Prop
  | intro {left name rest : Text} (hleft : allBlank left) (hne : name ≠ [])
      (hname : ∀ c ∈ name, ¬ EndsName c) (hrest : ∀ c ∈ rest.head?, EndsName c) :
      RequiredForm (left ++ (name ++ rest)) name rest

namespace Marker

theorem not_blank_iff {c : Char} : isBlank c = false ↔ c ≠ ' ' ∧ c ≠ '\t' := by
  simp [isBlank]

theorem isNameChar_iff {c : Char} :
    isNameChar c = true ↔ c ≠ ' ' ∧ c ≠ '\t' ∧ c ≠ '\n' ∧ c ≠ '[' ∧ c ≠ ']' := by
  simp [isNameChar, isBlank, and_assoc]

theorem isNameChar_iff_not_endsName {c : Char} : isNameChar c = true ↔ ¬ EndsName c := by
  simp [isNameChar_iff, EndsName]

theorem isNameChar_eq_false_iff {c : Char} : isNameChar c = false ↔ EndsName c := by
  rw [← Bool.not_eq_true, isNameChar_iff_not_endsName, not_not]

theorem isOptionalNameChar_iff {c : Char} :
    isOptionalNameChar c = true ↔ isNameChar c = true ∧ c ≠ '=' := by
  simp [isOptionalNameChar]

theorem closing?_blank_cons {c : Char} (h : isBlank c = true) (t : Text) :
    closing? (c :: t) = closing? t := by
  rw [closing?, closing?, skipBlanks, List.dropWhile_cons, if_pos h, ← skipBlanks]

theorem closing?_eq_some_iff {t rest : Text} :
    closing? t = some rest ↔ ∃ right, allBlank right ∧ t = right ++ ']' :: rest := by
  constructor
  · intro h
    rw [closing?] at h
    split at h
    · next hskip =>
      cases h
      refine ⟨indent t, allBlank_indent t, ?_⟩
      rw [← hskip, indent_append_skipBlanks]
    · cases h
  · rintro ⟨right, hright, rfl⟩
    rw [closing?, skipBlanks_append hright]
    rfl

theorem default?_group {inside : Text} (h : ∀ c ∈ inside, c ≠ '[' ∧ c ≠ ']' ∧ c ≠ '\n') (t : Text) :
    default? true (inside ++ ']' :: t) =
      (default? false t).map fun (d, rest) => (inside ++ ']' :: d, rest) := by
  induction inside with
  | nil => simp [default?]
  | cons c inside ih =>
    obtain ⟨hopen, hclose, hbreak⟩ := h c (by simp)
    rw [List.cons_append, default?, if_neg (by simp [hopen, hbreak])]
    simp only [ne_eq, hclose, not_false_eq_true, decide_true]
    rw [ih fun d hd => h d (by simp [hd]), Option.map_map]
    rfl

/-- A default is not over as long as it goes on, also where blanks come next. -/
theorem closing?_append_of_isDefault {d : Text} (h : IsDefault d) (hne : d ≠ [])
    (hlast : ∀ c ∈ d.getLast?, isBlank c = false) (t : Text) : closing? (d ++ t) = none := by
  induction h with
  | nil => exact absurd rfl hne
  | @char c d _ hclose _ hd ih =>
    cases hblank : isBlank c with
    | true =>
      have hd_ne : d ≠ [] := by
        rintro rfl
        have hnot := hlast c (by simp)
        rw [hblank] at hnot
        cases hnot
      have hrest := ih hd_ne fun e he => hlast e (by simpa [List.getLast?_cons_of_ne_nil hd_ne] using he)
      rw [List.cons_append, closing?_blank_cons hblank, hrest]
    | false =>
      rw [closing?, List.cons_append, skipBlanks, List.dropWhile_cons, hblank]
      simp [hclose]
  | group _ _ _ => rfl

theorem default?_append {d t rest : Text} (h : IsDefault d) (hlast : ∀ c ∈ d.getLast?, isBlank c = false)
    (hclosing : closing? t = some rest) : default? false (d ++ t) = some (d, rest) := by
  induction h with
  | nil =>
    cases t with
    | nil => cases hclosing
    | cons c t => rw [List.nil_append, default?, hclosing]
  | @char c d hopen hclose hbreak hd ih =>
    have hgoes := closing?_append_of_isDefault (.char hopen hclose hbreak hd) (by simp) hlast t
    have hend : ∀ e ∈ d.getLast?, isBlank e = false := by
      intro e he
      have hmem : e ∈ ([c] ++ d).getLast? := List.mem_getLast?_append_of_mem_getLast? he
      exact hlast e hmem
    have hrest := ih hend
    rw [List.cons_append] at hgoes ⊢
    rw [default?, hgoes]
    simp [hopen, hclose, hbreak, hrest]
  | @group inside d hinside hd ih =>
    have hgoes := closing?_append_of_isDefault (.group hinside hd) (by simp) hlast t
    have hend : ∀ e ∈ d.getLast?, isBlank e = false := by
      intro e he
      have hmem : e ∈ ('[' :: inside ++ [']'] ++ d).getLast? := List.mem_getLast?_append_of_mem_getLast? he
      rw [List.append_assoc] at hmem
      exact hlast e hmem
    have hrest := ih hend
    rw [List.append_assoc, List.cons_append, List.cons_append] at hgoes ⊢
    rw [default?, hgoes]
    simp [default?_group hinside, hrest]

/-- Blanks in front of a default are not part of it. If it is empty, those before the closing bracket
    are among them. -/
theorem default?_skipBlanks {d t rest : Text} (h : IsDefault d) (hfirst : ∀ c ∈ d.head?, isBlank c = false)
    (hlast : ∀ c ∈ d.getLast?, isBlank c = false) (hclosing : closing? t = some rest) :
    default? false (skipBlanks (d ++ t)) = some (d, rest) := by
  cases d with
  | nil =>
    obtain ⟨right, hright, rfl⟩ := closing?_eq_some_iff.1 hclosing
    rw [List.nil_append, skipBlanks_append hright]
    rfl
  | cons c d =>
    have hskip : skipBlanks (c :: d ++ t) = c :: d ++ t :=
      dropWhile_eq_self_iff_head?.2 fun e he => hfirst e (by simpa using he)
    rw [hskip, default?_append h hlast hclosing]

/-- What a reader of defaults gives, by whether it starts inside of a bracket group: a default that
    ends in no blank, or the rest of a group and then such a default. Outside of a group, the default
    starts as the text does, and an empty one is closed at once. -/
def DefaultRead (inGroup : Bool) (t d rest : Text) : Prop :=
  match inGroup with
  | false => IsDefault d ∧ (∀ c ∈ d.getLast?, isBlank c = false) ∧ (∀ c ∈ d.head?, c ∈ t.head?) ∧
      (d = [] → closing? t = some rest)
  | true => ∃ inside more, d = inside ++ ']' :: more ∧ (∀ c ∈ inside, c ≠ '[' ∧ c ≠ ']' ∧ c ≠ '\n') ∧
      IsDefault more ∧ ∀ c ∈ more.getLast?, isBlank c = false

theorem defaultRead_of_default? {inGroup : Bool} {t d rest : Text}
    (h : default? inGroup t = some (d, rest)) : DefaultRead inGroup t d rest := by
  fun_induction default? inGroup t generalizing d with
  | case1 => cases h
  | case2 => cases h
  | case3 c t hc ih =>
    obtain ⟨⟨d', rest'⟩, hrest, heq⟩ := Option.map_eq_some_iff.1 h
    cases heq
    have hread := ih hrest
    by_cases hclose : c = ']'
    · obtain ⟨hdefault, hlast, -, -⟩ : DefaultRead false t d' rest := by simpa [hclose] using hread
      exact ⟨[], d', by simp [hclose], by simp, hdefault, hlast⟩
    · obtain ⟨inside, more, rfl, hinside, hmore⟩ : DefaultRead true t d' rest := by
        simpa [hclose] using hread
      refine ⟨c :: inside, more, rfl, ?_, hmore⟩
      rw [List.forall_mem_cons]
      exact ⟨⟨fun hopen => hc (.inl hopen), hclose, fun hbreak => hc (.inr hbreak)⟩, hinside⟩
  | case4 c t rest' hclosing =>
    cases h
    exact ⟨.nil, by simp, by simp, fun _ => hclosing⟩
  | case5 => cases h
  | case6 c t hclosing hc ih =>
    obtain ⟨⟨d', rest'⟩, hrest, heq⟩ := Option.map_eq_some_iff.1 h
    cases heq
    have hread := ih hrest
    by_cases hopen : c = '['
    · obtain ⟨inside, more, rfl, hinside, hmore, hlast⟩ : DefaultRead true t d' rest := by
        simpa [hopen] using hread
      refine ⟨hopen ▸ .group hinside hmore, ?_, by simp, by simp⟩
      intro e he
      have hsplit : c :: (inside ++ ']' :: more) = (c :: inside ++ [']']) ++ more := by simp
      rw [hsplit, List.getLast?_append, List.getLast?_concat] at he
      rcases Option.or_eq_some_iff.1 he with hmem | ⟨-, hbracket⟩
      · exact hlast e hmem
      · cases hbracket
        rfl
    · obtain ⟨hdefault, hlast, -, hempty⟩ : DefaultRead false t d' rest := by simpa [hopen] using hread
      refine ⟨.char hopen (fun hclose => hc (.inl hclose)) (fun hbreak => hc (.inr hbreak)) hdefault, ?_,
        by simp, by simp⟩
      intro e he
      cases d' with
      | nil =>
        obtain rfl : c = e := by simpa using he
        -- A blank before the closing bracket would have ended the default already.
        rw [← Bool.not_eq_true]
        intro hblank
        rw [closing?_blank_cons hblank, hempty rfl] at hclosing
        cases hclosing
      | cons e' d' =>
        rw [List.getLast?_cons_cons] at he
        exact hlast e he

/-- The default is cut off the front of the text, up to blanks and the bracket that closes it. -/
theorem eq_append_of_default? {inGroup : Bool} {t d rest : Text}
    (h : default? inGroup t = some (d, rest)) : ∃ tail, t = d ++ tail ∧ closing? tail = some rest := by
  fun_induction default? inGroup t generalizing d with
  | case1 => cases h
  | case2 => cases h
  | case3 c t _ ih =>
    obtain ⟨⟨d', rest'⟩, hrest, heq⟩ := Option.map_eq_some_iff.1 h
    cases heq
    obtain ⟨tail, rfl, hclosing⟩ := ih hrest
    exact ⟨tail, rfl, hclosing⟩
  | case4 c t rest' hclosing =>
    cases h
    exact ⟨c :: t, rfl, hclosing⟩
  | case5 => cases h
  | case6 c t _ _ ih =>
    obtain ⟨⟨d', rest'⟩, hrest, heq⟩ := Option.map_eq_some_iff.1 h
    cases heq
    obtain ⟨tail, rfl, hclosing⟩ := ih hrest
    exact ⟨tail, rfl, hclosing⟩

/-- A default is read up to the first position where blanks and a closing bracket follow, outside of
    its groups. -/
theorem default?_eq_some_iff {t d rest : Text} :
    default? false t = some (d, rest) ↔
      ∃ tail, t = d ++ tail ∧ closing? tail = some rest ∧ IsDefault d ∧
        ∀ c ∈ d.getLast?, isBlank c = false := by
  constructor
  · intro h
    obtain ⟨tail, ht, hclosing⟩ := eq_append_of_default? h
    obtain ⟨hdefault, hlast, -, -⟩ := defaultRead_of_default? h
    exact ⟨tail, ht, hclosing, hdefault, hlast⟩
  · rintro ⟨tail, rfl, hclosing, hdefault, hlast⟩
    exact default?_append hdefault hlast hclosing

/-- Blanks and a character that no name in brackets holds end such a name. -/
theorem isOptionalNameChar_head?_append {blanks : Text} {c : Char} (hblanks : allBlank blanks)
    (hc : isOptionalNameChar c = false) (rest : Text) :
    ∀ e ∈ (blanks ++ c :: rest).head?, isOptionalNameChar e = false := by
  intro e he
  cases blanks with
  | nil =>
    obtain rfl : c = e := by simpa using he
    exact hc
  | cons b blanks =>
    obtain rfl : b = e := by simpa using he
    have hblank : isBlank b = true := List.all_eq_true.1 hblanks b (by simp)
    simp [isOptionalNameChar, isNameChar, hblank]

/-- What follows a name in brackets ends the name. -/
theorem isOptionalNameChar_head?_part {part right : Text} {default : Option Text}
    (hpart : DefaultPart default part) (hright : allBlank right) (rest : Text) :
    ∀ c ∈ (part ++ (right ++ ']' :: rest)).head?, isOptionalNameChar c = false := by
  cases hpart with
  | absent => exact isOptionalNameChar_head?_append hright rfl rest
  | given hleft _ _ _ _ =>
    rw [List.append_assoc]
    exact isOptionalNameChar_head?_append hleft rfl _

theorem skipBlanks_name_append {name : Text} (hne : name ≠ []) (hname : ∀ c ∈ name, ¬ EndsName c)
    (t : Text) : skipBlanks (name ++ t) = name ++ t := by
  apply dropWhile_eq_self_iff_head?.2
  rw [List.head?_append_of_ne_nil _ hne]
  intro c hc
  have hends := hname c (List.mem_of_mem_head? hc)
  exact not_blank_iff.2 ⟨fun heq => hends (.inl heq), fun heq => hends (.inr (.inl heq))⟩

theorem optionalName?_of_optionalForm {t name rest : Text} {default : Option Text}
    (h : OptionalForm t name default rest) : optionalName? t = some (⟨name, true, default⟩, rest) := by
  cases h with
  | @intro left inner _ part right _ _ hleft hinner hne hname hpart hright =>
    have hclosing : closing? (right ++ ']' :: rest) = some rest :=
      closing?_eq_some_iff.2 ⟨right, hright, rfl⟩
    have hchars : ∀ c ∈ name, isOptionalNameChar c = true := fun c hc =>
      isOptionalNameChar_iff.2 ⟨isNameChar_iff_not_endsName.2 (hname c hc).1, (hname c hc).2⟩
    obtain ⟨htake, hdrop⟩ :=
      takeWhile_append_of_boundary hchars (isOptionalNameChar_head?_part hpart hright rest)
    have hskip := skipBlanks_name_append hne fun c hc => (hname c hc).1
    have hopen (tail : Text) : skipBlanks ('[' :: tail) = '[' :: tail := rfl
    rw [optionalName?, skipBlanks_append hleft, hopen]
    simp only [skipBlanks_append hinner, hskip, htake, hdrop, hne, if_false]
    -- Up to here there is one way to read the text; what follows the name decides.
    cases hpart with
    | absent =>
      have hbracket : skipBlanks (right ++ ']' :: rest) = ']' :: rest := skipBlanks_append hright _
      simp only [List.nil_append, hbracket, hclosing, Option.map_some]
      rfl
    | @given before after d hbefore hafter hdefault hfirst hlast =>
      have hequals : skipBlanks (before ++ '=' :: (after ++ (d ++ (right ++ ']' :: rest)))) =
          '=' :: (after ++ (d ++ (right ++ ']' :: rest))) := skipBlanks_append hbefore _
      have hread := default?_skipBlanks hdefault hfirst hlast hclosing
      simp only [List.append_assoc, List.cons_append, hequals, skipBlanks_append hafter, hread,
        Option.map_some]

theorem optionalForm_of_optionalName? {t rest : Text} {n : ParamName} (h : optionalName? t = some (n, rest)) :
    n.optional = true ∧ OptionalForm t n.name n.default rest := by
  unfold optionalName? at h
  split at h
  · next inside hopen =>
    dsimp only at h
    split at h
    · cases h
    · next hne =>
      have hname : ∀ c ∈ (skipBlanks inside).takeWhile isOptionalNameChar, ¬ EndsName c ∧ c ≠ '=' := by
        intro c hc
        have hchar := isOptionalNameChar_iff.1 (List.all_eq_true.1 List.all_takeWhile c hc)
        exact ⟨isNameChar_iff_not_endsName.1 hchar.1, hchar.2⟩
      have ht : t = indent t ++ '[' :: (indent inside ++
          ((skipBlanks inside).takeWhile isOptionalNameChar ++
            (skipBlanks inside).dropWhile isOptionalNameChar)) := by
        rw [List.takeWhile_append_dropWhile, indent_append_skipBlanks, ← hopen, indent_append_skipBlanks]
      generalize (skipBlanks inside).takeWhile isOptionalNameChar = name at *
      generalize (skipBlanks inside).dropWhile isOptionalNameChar = t₂ at *
      split at h
      · next t₃ hequals =>
        obtain ⟨⟨d, rest'⟩, hread, heq⟩ := Option.map_eq_some_iff.1 h
        cases heq
        obtain ⟨tail, hvalue, hclosing, hdefault, hlast⟩ := default?_eq_some_iff.1 hread
        obtain ⟨right, hright, rfl⟩ := closing?_eq_some_iff.1 hclosing
        have hfirst : ∀ c ∈ d.head?, isBlank c = false := by
          intro c hc
          have hskip := List.head?_dropWhile_not isBlank t₃
          rw [← skipBlanks, hvalue, List.head?_append, Option.mem_def.1 hc] at hskip
          exact hskip
        have htail : t₂ = (indent t₂ ++ '=' :: (indent t₃ ++ d)) ++ (right ++ ']' :: rest') := by
          rw [List.append_assoc, List.cons_append, List.append_assoc, ← hvalue, indent_append_skipBlanks,
            ← hequals, indent_append_skipBlanks]
        refine ⟨rfl, ?_⟩
        rw [ht, htail]
        exact .intro (allBlank_indent t) (allBlank_indent inside) hne hname
          (.given (allBlank_indent t₂) (allBlank_indent t₃) hdefault hfirst hlast) hright
      · obtain ⟨rest', hclosing, heq⟩ := Option.map_eq_some_iff.1 h
        cases heq
        obtain ⟨right, hright, rfl⟩ := closing?_eq_some_iff.1 hclosing
        refine ⟨rfl, ?_⟩
        rw [ht]
        exact .intro (allBlank_indent t) (allBlank_indent inside) hne hname .absent hright
  · cases h

/-- A name in brackets is read exactly from a text of that form. -/
theorem optionalName?_eq_some_iff {t rest : Text} {n : ParamName} :
    optionalName? t = some (n, rest) ↔ n.optional = true ∧ OptionalForm t n.name n.default rest := by
  constructor
  · exact optionalForm_of_optionalName?
  · rintro ⟨hoptional, hform⟩
    obtain ⟨name, optional, default⟩ := n
    cases hoptional
    exact optionalName?_of_optionalForm hform

/-- A name without brackets is read exactly from a text of that form. -/
theorem requiredName?_eq_some_iff {t rest : Text} {n : ParamName} :
    requiredName? t = some (n, rest) ↔
      n.optional = false ∧ n.default = none ∧ RequiredForm t n.name rest := by
  constructor
  · intro h
    unfold requiredName? at h
    dsimp only at h
    split at h
    · cases h
    · next hne =>
      cases h
      have ht : t = indent t ++
          ((skipBlanks t).takeWhile isNameChar ++ (skipBlanks t).dropWhile isNameChar) := by
        rw [List.takeWhile_append_dropWhile, indent_append_skipBlanks]
      have hname : ∀ c ∈ (skipBlanks t).takeWhile isNameChar, ¬ EndsName c := fun c hc =>
        isNameChar_iff_not_endsName.1 (List.all_eq_true.1 List.all_takeWhile c hc)
      have hrest : ∀ c ∈ ((skipBlanks t).dropWhile isNameChar).head?, EndsName c := by
        intro c hc
        have hstop := List.head?_dropWhile_not isNameChar (skipBlanks t)
        rw [Option.mem_def.1 hc] at hstop
        exact isNameChar_eq_false_iff.1 hstop
      have hform := RequiredForm.intro (allBlank_indent t) hne hname hrest
      rw [← ht] at hform
      exact ⟨rfl, rfl, hform⟩
  · rintro ⟨hoptional, hdefault, hform⟩
    obtain ⟨name, optional, default⟩ := n
    cases hoptional
    cases hdefault
    cases hform with
    | @intro left _ _ hleft hne hname hrest =>
      have hchars : ∀ c ∈ name, isNameChar c = true := fun c hc =>
        isNameChar_iff_not_endsName.2 (hname c hc)
      have hstop : ∀ c ∈ rest.head?, isNameChar c = false := fun c hc =>
        isNameChar_eq_false_iff.2 (hrest c hc)
      obtain ⟨htake, hdrop⟩ := takeWhile_append_of_boundary hchars hstop
      simp only [requiredName?, skipBlanks_append hleft, skipBlanks_name_append hne hname, htake, hdrop, hne,
        if_false]

end Marker

theorem OptionalForm.unique {t name name' rest rest' : Text} {default default' : Option Text}
    (h : OptionalForm t name default rest) (h' : OptionalForm t name' default' rest') :
    name = name' ∧ default = default' ∧ rest = rest' := by
  have heq := (optionalName?_of_optionalForm h).symm.trans (optionalName?_of_optionalForm h')
  simpa [and_assoc] using heq

theorem RequiredForm.exists_head? {t name rest : Text} (h : RequiredForm t name rest) :
    ∃ c ∈ (skipBlanks t).head?, ¬ EndsName c := by
  cases h with
  | intro hleft hne hname _ =>
    obtain ⟨c, more, rfl⟩ := List.exists_cons_of_ne_nil hne
    refine ⟨c, ?_, hname c (by simp)⟩
    rw [skipBlanks_append hleft, skipBlanks_name_append hne hname]
    rfl

/-- A name without brackets starts at the first character after the blanks, whatever comes then. -/
theorem exists_requiredForm_iff {t : Text} :
    (∃ name rest, RequiredForm t name rest) ↔
      ∃ c ∈ (skipBlanks t).head?, c ≠ '\n' ∧ c ≠ '[' ∧ c ≠ ']' := by
  constructor
  · rintro ⟨name, rest, hform⟩
    obtain ⟨c, hc, hends⟩ := hform.exists_head?
    have hchar := isNameChar_iff.1 (isNameChar_iff_not_endsName.2 hends)
    exact ⟨c, hc, hchar.2.2⟩
  · rintro ⟨c, hc, hchar⟩
    have hblank := List.head?_dropWhile_not isBlank t
    rw [← skipBlanks, Option.mem_def.1 hc] at hblank
    have hblank' := not_blank_iff.1 hblank
    obtain ⟨more, hmore⟩ := List.head?_eq_some_iff.1 hc
    have hne : (skipBlanks t).takeWhile isNameChar ≠ [] := by
      rw [hmore, List.takeWhile_cons_of_pos (isNameChar_iff.2 ⟨hblank'.1, hblank'.2, hchar⟩)]
      exact List.cons_ne_nil _ _
    have hread : requiredName? t = some (⟨(skipBlanks t).takeWhile isNameChar, false, none⟩,
        (skipBlanks t).dropWhile isNameChar) := by
      simp only [requiredName?, hne, if_false]
    exact ⟨_, _, (requiredName?_eq_some_iff.1 hread).2.2⟩

namespace Marker

/-- No text has both forms: a name without brackets starts with none after the blanks. -/
theorem optionalName?_eq_none_of_requiredForm {t name rest : Text} (h : RequiredForm t name rest) :
    optionalName? t = none := by
  obtain ⟨c, hc, hends⟩ := h.exists_head?
  obtain ⟨more, hmore⟩ := List.head?_eq_some_iff.1 hc
  unfold optionalName?
  split
  · next inside hopen =>
    rw [hmore] at hopen
    cases hopen
    exact absurd (.inr (.inr (.inr (.inl rfl)))) hends
  · rfl

theorem paramName?_eq_some_iff {t rest : Text} {n : ParamName} :
    paramName? t = some (n, rest) ↔
      (n.optional = true ∧ OptionalForm t n.name n.default rest) ∨
      (n.optional = false ∧ n.default = none ∧ RequiredForm t n.name rest) := by
  rw [← optionalName?_eq_some_iff, ← requiredName?_eq_some_iff, paramName?]
  constructor
  · intro h
    split at h
    · next hread =>
      cases h
      exact .inl hread
    · exact .inr h
  · rintro (hread | hread)
    · rw [hread]
    · rw [optionalName?_eq_none_of_requiredForm (requiredName?_eq_some_iff.1 hread).2.2, hread]

/-- The name of a parameter is read from exactly two forms, and in one way: a name in brackets, whose
    name, default and rest the text determines, and a name without brackets, which the first character
    after the blanks decides. No name is read from any other text. -/
theorem paramName?_reads_forms (t : Text) :
    (∀ name default rest, paramName? t = some (⟨name, true, default⟩, rest) ↔
      OptionalForm t name default rest) ∧
    (∀ name default rest name' default' rest', OptionalForm t name default rest →
      OptionalForm t name' default' rest' → name = name' ∧ default = default' ∧ rest = rest') ∧
    (∀ name default rest, paramName? t = some (⟨name, false, default⟩, rest) ↔
      default = none ∧ RequiredForm t name rest) ∧
    ((∃ name rest, RequiredForm t name rest) ↔
      ∃ c ∈ (skipBlanks t).head?, c ≠ '\n' ∧ c ≠ '[' ∧ c ≠ ']') ∧
    (paramName? t = none ↔ (∀ name default rest, ¬ OptionalForm t name default rest) ∧
      ∀ name rest, ¬ RequiredForm t name rest) := by
  refine ⟨?_, ?_, ?_, exists_requiredForm_iff, ?_⟩
  · intro name default rest
    simp [paramName?_eq_some_iff]
  · intro name default rest name' default' rest' hform hform'
    exact hform.unique hform'
  · intro name default rest
    simp [paramName?_eq_some_iff]
  · rw [Option.eq_none_iff_forall_ne_some]
    constructor
    · intro hnone
      refine ⟨fun name default rest hform => ?_, fun name rest hform => ?_⟩
      · exact hnone (⟨name, true, default⟩, rest) (paramName?_eq_some_iff.2 (.inl ⟨rfl, hform⟩))
      · exact hnone (⟨name, false, none⟩, rest) (paramName?_eq_some_iff.2 (.inr ⟨rfl, rfl, hform⟩))
    · rintro ⟨hoptional, hrequired⟩ ⟨n, rest⟩ hread
      obtain ⟨-, hform⟩ | ⟨-, -, hform⟩ := paramName?_eq_some_iff.1 hread
      · exact hoptional _ _ _ hform
      · exact hrequired _ _ hform

/-- A default with a bracket group and blanks around it, in a text that goes on with more brackets. -/
theorem paramName?_groupInDefault :
    let t := " [target = 'a[ href]'\t ] or [x]]".toList
    let default := some "'a[ href]'".toList
    OptionalForm t "target".toList default " or [x]]".toList ∧
    ∀ name' default' rest', OptionalForm t name' default' rest' →
      "target".toList = name' ∧ default = default' ∧ " or [x]]".toList = rest' := by
  intro t default
  have hread : paramName? t = some (⟨"target".toList, true, default⟩, " or [x]]".toList) := by decide
  have hform := ((paramName?_reads_forms t).1 _ _ _).1 hread
  exact ⟨hform, fun _ _ _ hform' => (paramName?_reads_forms t).2.1 _ _ _ _ _ _ hform hform'⟩

end Marker

end ApiGuide
