import ApiGuide.Files.Path
import ApiGuide.Proofs.Text.Lines
import Mathlib.Data.List.TakeWhile

/-!
How paths are put together from parts, and the order of paths.

A path that starts with a part other than a dot stays such a path when parts are joined to it, and
empty parts leave nothing but a slash at its end.
-/

namespace ApiGuide.Path

open Text

/-- A name that a folder can hold. -/
structure IsName (name : Text) : Prop where
  ne_nil : name ≠ []
  ne_dot : name ≠ ['.']
  ne_dots : name ≠ ['.', '.']
  slash_not_mem : '/' ∉ name
  nul_not_mem : '\x00' ∉ name

instance : DecidablePred IsName := fun name =>
  decidable_of_iff (name ≠ [] ∧ name ≠ ['.'] ∧ name ≠ ['.', '.'] ∧ '/' ∉ name ∧ '\x00' ∉ name)
    ⟨fun ⟨h₁, h₂, h₃, h₄, h₅⟩ => ⟨h₁, h₂, h₃, h₄, h₅⟩, fun ⟨h₁, h₂, h₃, h₄, h₅⟩ => ⟨h₁, h₂, h₃, h₄, h₅⟩⟩

/-- A path from the working folder on, and not of dots alone. -/
structure LeadsOn (path : Text) : Prop where
  ne_nil : path ≠ []
  head?_ne : path.head? ≠ some '/'
  part : ∃ part ∈ splitOn '/' path, part ≠ ['.']

/-- The first part of the path that is no dot is an empty one, as in `.//lib`. -/
def EmptyAfterDots (path : Text) : Prop :=
  ((splitOn '/' path).dropWhile (· == ['.'])).head? = some []

instance : DecidablePred EmptyAfterDots := fun path =>
  inferInstanceAs (Decidable (((splitOn '/' path).dropWhile (· == ['.'])).head? = some []))

/-- The parts of a path without the dots at its front and without empty ones. -/
def shownParts (path : Text) : List Text :=
  ((splitOn '/' path).dropWhile (· == ['.'])).filter (· ≠ [])

/-- The path is written with these parts, the first of them no dot, and maybe a slash at its end. -/
structure Written (parts : List Text) (path : Text) : Prop where
  ne_nil : parts ≠ []
  head?_ne : parts.head? ≠ some ['.']
  part : ∀ part ∈ parts, part ≠ [] ∧ '/' ∉ part
  eq : path = joinWith ['/'] parts ∨ path = joinWith ['/'] parts ++ ['/']

theorem written_part {part : Text} (hne : part ≠ []) (hdot : part ≠ ['.']) (hslash : '/' ∉ part) :
    Written [part] part where
  ne_nil := by simp
  head?_ne := by simpa using hdot
  part := by simpa using ⟨hne, hslash⟩
  eq := by simp [joinWith]

theorem joinWith_concat {parts : List Text} (hne : parts ≠ []) (part : Text) :
    joinWith ['/'] (parts ++ [part]) = joinWith ['/'] parts ++ '/' :: part := by
  obtain ⟨first, rest, rfl⟩ := List.exists_cons_of_ne_nil hne
  rw [List.cons_append, joinWith_cons, joinWith_cons]
  simp

/-- A relative path is joined after a slash, which may be there already. -/
theorem exists_join_eq {base path : Text} (hne : base ≠ []) (hrelative : path.head? ≠ some '/') :
    (∃ rest, join base path = base ++ rest) ∧ ∃ front, join base path = front ++ '/' :: path := by
  rw [join, if_neg hrelative]
  by_cases hlast : base.getLast? = some '/'
  · obtain ⟨front, rfl⟩ := List.getLast?_eq_some_iff.1 hlast
    rw [if_pos (.inr hlast)]
    exact ⟨⟨path, rfl⟩, front, by simp⟩
  · rw [if_neg (by simp [hne, hlast])]
    exact ⟨⟨'/' :: path, rfl⟩, base, rfl⟩

theorem splitOn_append_slash (path rest : Text) :
    splitOn '/' (path ++ '/' :: rest) = splitOn '/' path ++ splitOn '/' rest := by
  simp only [splitOn_eq_list_splitOn]
  exact List.splitOn_append_cons_self path rest

theorem splitOn_part {part : Text} (h : '/' ∉ part) : splitOn '/' part = [part] := by
  rw [splitOn_eq_list_splitOn]
  exact List.splitOn_eq_singleton h

namespace Written

variable {parts : List Text} {path part : Text}

theorem splitOn_joinWith_eq (h : Written parts path) : splitOn '/' (joinWith ['/'] parts) = parts :=
  splitOn_joinWith (fun part hpart => (h.part part hpart).2) h.ne_nil

/-- Between the slashes of the path stand its parts, and nothing else but an empty end. -/
theorem splitOn_eq (h : Written parts path) :
    splitOn '/' path = parts ∨ splitOn '/' path = parts ++ [[]] := by
  rcases h.eq with hpath | hpath
  · left
    rw [hpath, h.splitOn_joinWith_eq]
  · right
    rw [hpath, splitOn_append_slash, h.splitOn_joinWith_eq]
    rfl

theorem exists_cons (h : Written parts path) : ∃ c rest, path = c :: rest ∧ c ≠ '/' := by
  obtain ⟨first, more, rfl⟩ := List.exists_cons_of_ne_nil h.ne_nil
  obtain ⟨hne, hslash⟩ := h.part first (by simp)
  obtain ⟨c, first, rfl⟩ := List.exists_cons_of_ne_nil hne
  have hc : c ≠ '/' := by
    rintro rfl
    simp at hslash
  rcases h.eq with hpath | hpath
  · rw [joinWith_cons] at hpath
    exact ⟨c, _, hpath, hc⟩
  · rw [joinWith_cons] at hpath
    exact ⟨c, _, hpath, hc⟩

theorem getLast?_joinWith_ne (h : Written parts path) : (joinWith ['/'] parts).getLast? ≠ some '/' := by
  rw [getLast?_joinWith fun part hpart => (h.part part hpart).1]
  intro hlast
  obtain ⟨last, hmem, hslash⟩ := Option.bind_eq_some_iff.1 hlast
  have hlastPart := h.part last (List.mem_of_getLast? hmem)
  exact hlastPart.2 (List.mem_of_getLast? hslash)

/-- Joining a part puts exactly one slash before it, also after a slash at the end of the path. -/
theorem join_eq (h : Written parts path) (hslash : '/' ∉ part) :
    join path part = joinWith ['/'] parts ++ '/' :: part := by
  have hhead : part.head? ≠ some '/' := fun hhead => hslash (List.mem_of_head? hhead)
  obtain ⟨c, rest, hcons, -⟩ := h.exists_cons
  have hne : path ≠ [] := by simp [hcons]
  rw [join, if_neg hhead]
  rcases h.eq with hpath | hpath
  · have hlast := h.getLast?_joinWith_ne
    rw [← hpath] at hlast
    rw [if_neg (by simp [hne, hlast]), hpath]
  · rw [if_pos (by simp [hpath]), hpath]
    simp

theorem splitOn_join (h : Written parts path) (hslash : '/' ∉ part) :
    splitOn '/' (join path part) = parts ++ [part] := by
  rw [h.join_eq hslash, splitOn_append_slash, h.splitOn_joinWith_eq, splitOn_part hslash]

theorem join_name (h : Written parts path) (hne : part ≠ []) (hslash : '/' ∉ part) :
    Written (parts ++ [part]) (join path part) where
  ne_nil := by simp
  head?_ne := by
    rw [List.head?_append_of_ne_nil _ h.ne_nil]
    exact h.head?_ne
  part := by
    intro other hother
    rcases List.mem_append.1 hother with hold | hnew
    · exact h.part other hold
    · obtain rfl := List.mem_singleton.1 hnew
      exact ⟨hne, hslash⟩
  eq := .inl (by rw [h.join_eq hslash, joinWith_concat h.ne_nil])

theorem join_nil (h : Written parts path) : Written parts (join path []) where
  ne_nil := h.ne_nil
  head?_ne := h.head?_ne
  part := h.part
  eq := .inr (h.join_eq (by simp))

/-- Parts that are joined one after the other are those of the path, the empty ones left out. -/
theorem foldl_join (h : Written parts path) {more : List Text} (hmore : ∀ part ∈ more, '/' ∉ part) :
    Written (parts ++ more.filter (· ≠ [])) (more.foldl join path) := by
  induction more generalizing parts path with
  | nil => simpa using h
  | cons part more ih =>
    have hrest : ∀ part ∈ more, '/' ∉ part := fun other hother => hmore other (by simp [hother])
    rw [List.foldl_cons]
    by_cases hpart : part = []
    · subst hpart
      simpa using ih h.join_nil hrest
    · simpa [hpart] using ih (h.join_name hpart (hmore part (by simp))) hrest

theorem join_part (h : Written parts path) (hslash : '/' ∉ part) :
    Written (parts ++ [part].filter (· ≠ [])) (join path part) :=
  h.foldl_join (by simpa using hslash)

/-- Names that are joined one after the other are written after those of the path. -/
theorem foldl_join_names (h : Written parts path) {names : List Text} (hne : names ≠ [])
    (hnames : ∀ name ∈ names, IsName name) :
    names.foldl join path = joinWith ['/'] (parts ++ names) := by
  obtain ⟨front, last, rfl⟩ : ∃ front last, names = front ++ [last] :=
    ⟨_, _, (List.dropLast_concat_getLast hne).symm⟩
  have hfront : ∀ name ∈ front, IsName name := fun name hname => hnames name (by simp [hname])
  have hwritten := h.foldl_join fun name hname => (hfront name hname).slash_not_mem
  have hall : front.filter (· ≠ []) = front :=
    List.filter_eq_self.2 fun name hname => by simpa using (hfront name hname).ne_nil
  rw [hall] at hwritten
  have hlast : IsName last := hnames last (by simp)
  rw [List.foldl_append, List.foldl_cons, List.foldl_nil, hwritten.join_eq hlast.slash_not_mem,
    ← joinWith_concat hwritten.ne_nil, List.append_assoc]

theorem names_eq (h : Written parts path) : names path = parts.filter (· ≠ ['.']) := by
  have hparts : names (joinWith ['/'] parts) = parts.filter (· ≠ ['.']) := by
    rw [names, h.splitOn_joinWith_eq]
    apply List.filter_congr
    intro part hpart
    have hne : part.isEmpty = false := by simpa using (h.part part hpart).1
    rw [hne, Bool.not_false, Bool.true_and, Bool.eq_iff_iff, bne_iff_ne, decide_eq_true_iff]
  rcases h.eq with hpath | hpath
  · rw [hpath, hparts]
  · rw [← hparts, names, names, hpath, splitOn_append_slash]
    simp [splitOn]

/-- Such a path is not one of the working folder. -/
theorem components_ne_here (h : Written parts path) : components path ≠ [.here] := by
  obtain ⟨c, rest, hcons, hc⟩ := h.exists_cons
  obtain ⟨first, more, rfl⟩ := List.exists_cons_of_ne_nil h.ne_nil
  have hfirst : first ≠ ['.'] := by simpa using h.head?_ne
  have hhead : (splitOn '/' path).head? ≠ some ['.'] := by
    rcases h.splitOn_eq with hsplit | hsplit
    · simpa [hsplit] using hfirst
    · simpa [hsplit] using hfirst
  have hroot : path.head? ≠ some '/' := by simpa [hcons] using hc
  rw [components, if_neg hroot, if_neg hhead, h.names_eq, List.filter_cons_of_pos (by simpa using hfirst)]
  simp only [List.nil_append, List.map_cons]
  split <;> simp

/-- Below the same path, only the same names come at the same place in the order of paths. -/
theorem foldl_join_inj (h : Written parts path) {names other : List Text}
    (hnames : ∀ name ∈ names, IsName name) (hother : ∀ name ∈ other, IsName name)
    (heq : Path.names (names.foldl join path) = Path.names (other.foldl join path)) : names = other := by
  have hfilter {l : List Text} (hl : ∀ name ∈ l, IsName name) :
      Path.names (l.foldl join path) = parts.filter (· ≠ ['.']) ++ l := by
    have hall : l.filter (· ≠ []) = l :=
      List.filter_eq_self.2 fun name hname => by simpa using (hl name hname).ne_nil
    have hdots : l.filter (· ≠ ['.']) = l :=
      List.filter_eq_self.2 fun name hname => by simpa using (hl name hname).ne_dot
    rw [(h.foldl_join fun name hname => (hl name hname).slash_not_mem).names_eq, hall, List.filter_append,
      hdots]
  rw [hfilter hnames, hfilter hother] at heq
  exact List.append_cancel_left heq

end Written

theorem LeadsOn.exists_first {path : Text} (h : LeadsOn path) :
    ∃ first more, (splitOn '/' path).dropWhile (· == ['.']) = first :: more ∧ first ≠ ['.'] := by
  cases hparts : (splitOn '/' path).dropWhile (· == ['.']) with
  | nil =>
    obtain ⟨part, hpart, hdot⟩ := h.part
    have hall := List.dropWhile_eq_nil_iff.1 hparts part hpart
    exact absurd (by simpa using hall) hdot
  | cons first more =>
    have hhead := List.head?_dropWhile_not (· == ['.']) (splitOn '/' path)
    exact ⟨first, more, rfl, by simpa [hparts] using hhead⟩

theorem slash_not_mem_of_dropWhile {path first : Text} {more : List Text}
    (h : (splitOn '/' path).dropWhile (· == ['.']) = first :: more) : ∀ part ∈ first :: more, '/' ∉ part := by
  intro part hpart
  have hmem : part ∈ splitOn '/' path := (List.dropWhile_sublist _).subset (h ▸ hpart)
  exact not_mem_of_mem_splitOn hmem

theorem written_shownParts {path first : Text} {more : List Text}
    (h : (splitOn '/' path).dropWhile (· == ['.']) = first :: more) (hne : first ≠ []) (hdot : first ≠ ['.']) :
    Written (shownParts path) (more.foldl join first) := by
  have hslash := slash_not_mem_of_dropWhile h
  have hfirst : Written [first] first := written_part hne hdot (hslash first (by simp))
  have hjoined := hfirst.foldl_join fun part hpart => hslash part (List.mem_cons_of_mem _ hpart)
  simpa [shownParts, h, hne] using hjoined

instance : Std.TransCmp Component.order :=
  inferInstanceAs (Std.TransCmp (compareLex (compareOn Component.rank) (compareOn Component.text)))

instance : Std.LawfulEqCmp Component.order where
  eq_of_compare {a b} h := by
    rw [Component.order, Ordering.then_eq_eq, Std.LawfulEqCmp.compare_eq_iff_eq,
      Std.LawfulEqCmp.compare_eq_iff_eq] at h
    obtain ⟨hrank, htext⟩ := h
    cases a <;> cases b <;> simp_all [Component.rank, Component.text]

instance : Std.TransOrd Component :=
  inferInstanceAs (Std.TransCmp Component.order)

instance : Std.LawfulEqOrd Component :=
  inferInstanceAs (Std.LawfulEqCmp Component.order)

instance : Std.TransCmp order :=
  inferInstanceAs (Std.TransCmp (compareOn components))

/-- The name that a component stands for below the front of a path. -/
def Component.name? : Component → Option Text
  | .root => none
  | .here => none
  | .parent => some "..".toList
  | .name text => some text

theorem names_eq_filterMap (path : Text) : names path = (components path).filterMap Component.name? := by
  have hname (name : Text) :
      (if name = "..".toList then Component.parent else .name name).name? = some name := by
    split
    · next heq => rw [heq, Component.name?]
    · rfl
  have hnames : ((names path).map fun name => if name = "..".toList then Component.parent
      else .name name).filterMap Component.name? = names path := by
    rw [List.filterMap_map]
    exact (List.filterMap_congr fun name _ => hname name).trans List.filterMap_some
  rw [components]
  split
  · exact hnames.symm
  · split <;> exact hnames.symm

/-- Paths in the same place of the order have the same names. -/
theorem names_eq_of_order {p q : Text} (h : order p q = .eq) : names p = names q := by
  have hcomponents : components p = components q := Std.LawfulEqCmp.eq_of_compare h
  rw [names_eq_filterMap, names_eq_filterMap, hcomponents]

end ApiGuide.Path
