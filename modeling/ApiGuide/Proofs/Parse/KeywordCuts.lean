import ApiGuide.Proofs.Parse.ClassProse
import ApiGuide.Proofs.Parse.FunctionMarkers
import Mathlib.Data.List.DropRight

/-!
The visibility and the ujs flag can be taken out of a text in either order.

Taking a keyword out joins the text in front of it and the text behind it. No keyword comes about across
the joint: the text behind starts with no word character, and of a keyword only the at sign, its first
character, is none. None is lost either. A word that ended right in front of the keyword, before its at
sign, still ends there.
-/

namespace ApiGuide

open Text

namespace Marker

/-- What `here?` reads in a text, from left to right, each with the number of characters in front of
    it. -/
def occurrences {α : Type} (here? : Text → Option (α × Text)) : Text → List (Nat × α)
  | [] => ((here? []).map fun (value, _) => (0, value)).toList
  | c :: t => ((here? (c :: t)).map fun (value, _) => (0, value)).toList ++
      (occurrences here? t).map fun (i, value) => (i + 1, value)

/-- With `token` between two texts `here?` reads the same as without it, in the same order: what stands
    in front of the token at the same position, and what stands behind it further on by its length. -/
def KeepsOccurrences {α : Type} (here? : Text → Option (α × Text)) (before token after : Text) : Prop :=
  occurrences here? (before ++ (token ++ after)) =
    (occurrences here? (before ++ after)).map fun (i, value) =>
      (if i < before.length then i else i + token.length, value)

/-- The leftmost marker of a text, or the default if there is none, and the text without the marker. The
    visibility and the ujs flag are taken so. -/
def takeFirst {α : Type} (here? : Text → Option (α × Text)) (default : α) (t : Text) : α × Text :=
  (cut? here? t).getD (default, t)

/-- `here?` reads an at sign and behind it, as a whole word, one of the words of the table, which gives
    the value. -/
structure ReadsWords {α : Type} (here? : Text → Option (α × Text)) (table : List (Text × α)) : Prop where
  word_chars : ∀ entry ∈ table, entry.1.all isWordChar
  reads : ∀ {t : Text} {value : α} {rest : Text}, here? t = some (value, rest) ↔
    ∃ word, (word, value) ∈ table ∧ t = '@' :: (word ++ rest) ∧ atWordEnd rest

theorem atWordEnd_iff {t : Text} : atWordEnd t ↔ ∀ c ∈ t.head?, isWordChar c = false := by
  cases t <;> simp [atWordEnd]

theorem atWordEnd_append {s : Text} (hs : atWordEnd s) (t : Text) : atWordEnd (t ++ s) = atWordEnd t := by
  cases t with
  | nil => exact hs
  | cons c t => rfl

/-- A word ends where a keyword starts. -/
theorem atWordEnd_keyword (word after : Text) : atWordEnd ('@' :: word ++ after) :=
  rfl

/-- A text starts with a whole word, which may be empty. -/
theorem exists_word (t : Text) : ∃ word rest, t = word ++ rest ∧ word.all isWordChar ∧ atWordEnd rest :=
  ⟨t.takeWhile isWordChar, t.dropWhile isWordChar, List.takeWhile_append_dropWhile.symm, List.all_takeWhile,
    atWordEnd_iff.2 (dropWhile_eq_self_iff_head?.1 (List.dropWhile_idempotent isWordChar t))⟩

theorem word_unique {word word' rest rest' : Text} (hword : word.all isWordChar) (hrest : atWordEnd rest)
    (hword' : word'.all isWordChar) (hrest' : atWordEnd rest') (h : word ++ rest = word' ++ rest') :
    word = word' ∧ rest = rest' := by
  rw [List.all_eq_true] at hword hword'
  obtain ⟨htake, hdrop⟩ := takeWhile_append_of_boundary hword (atWordEnd_iff.1 hrest)
  obtain ⟨htake', hdrop'⟩ := takeWhile_append_of_boundary hword' (atWordEnd_iff.1 hrest')
  exact ⟨by rw [← htake, h, htake'], by rw [← hdrop, h, hdrop']⟩

/-- The first of the occurrences is what a cut takes out. -/
theorem head?_occurrences {α : Type} (here? : Text → Option (α × Text)) (t : Text) :
    (occurrences here? t).head?.map Prod.snd = (cut? here? t).map Prod.fst := by
  induction t with
  | nil =>
    rw [occurrences, cut?]
    cases here? [] <;> rfl
  | cons c t ih =>
    rw [occurrences, cut?]
    cases here? (c :: t) with
    | some found => rfl
    | none => simpa [Function.comp_def] using ih

namespace ReadsWords

variable {α : Type} {here? : Text → Option (α × Text)} {table : List (Text × α)}

theorem nil (h : ReadsWords here? table) : here? [] = none := by
  rw [Option.eq_none_iff_forall_ne_some]
  rintro ⟨value, rest⟩ hread
  obtain ⟨word, -, heq, -⟩ := h.reads.1 hread
  cases heq

/-- A marker does not go on over the end of a word. -/
theorem append (h : ReadsWords here? table) {t s : Text} (ht : t ≠ []) (hs : atWordEnd s) :
    here? (t ++ s) = (here? t).map fun (value, rest) => (value, rest ++ s) := by
  apply Option.ext
  rintro ⟨value, rest⟩
  rw [Option.map_eq_some_iff, h.reads]
  constructor
  · rintro ⟨word, hword, heq, hend⟩
    obtain ⟨c, t, rfl⟩ := List.exists_cons_of_ne_nil ht
    obtain ⟨rfl, htail⟩ : c = '@' ∧ t ++ s = word ++ rest := by simpa using heq
    obtain ⟨word', more, rfl, hchars', hmore⟩ := exists_word t
    have hchars := h.word_chars _ hword
    rw [List.append_assoc] at htail
    obtain ⟨rfl, rfl⟩ := word_unique hchars' (by rwa [atWordEnd_append hs]) hchars hend htail
    exact ⟨(value, more), h.reads.2 ⟨word', hword, rfl, hmore⟩, rfl⟩
  · rintro ⟨⟨value', more⟩, hread, heq⟩
    cases heq
    obtain ⟨word, hword, rfl, hend⟩ := h.reads.1 hread
    exact ⟨word, hword, by simp, by rwa [atWordEnd_append hs]⟩

/-- A word that is not in the table is no marker, and no marker starts within a word. -/
theorem cut?_word (h : ReadsWords here? table) {word : Text} (hchars : word.all isWordChar)
    (hword : word ∉ table.map Prod.fst) : cut? here? ('@' :: word) = none := by
  rw [cut?_eq_none_iff]
  intro p q hpq
  rw [Option.eq_none_iff_forall_ne_some]
  rintro ⟨value, rest⟩ hread
  obtain ⟨word', hword', rfl, hend⟩ := h.reads.1 hread
  cases p with
  | nil =>
    have htail : word ++ [] = word' ++ rest := by simpa using hpq
    obtain ⟨rfl, -⟩ := word_unique hchars rfl (h.word_chars _ hword') hend htail
    exact hword (List.mem_map.2 ⟨_, hword', rfl⟩)
  | cons c p =>
    obtain ⟨rfl, rfl⟩ : '@' = c ∧ word = p ++ '@' :: (word' ++ rest) := by simpa using hpq
    have hat := List.all_eq_true.1 hchars '@' (by simp)
    cases hat

theorem cut?_append_of_wordEnd (h : ReadsWords here? table) (t : Text) {s : Text} (hs : atWordEnd s) :
    cut? here? (t ++ s) = ((cut? here? t).map fun (value, rest) => (value, rest ++ s)).or
      ((cut? here? s).map fun (value, rest) => (value, t ++ rest)) :=
  cut?_append h.nil fun _ _ _ hq => h.append hq hs

theorem occurrences_append (h : ReadsWords here? table) (t : Text) {s : Text} (hs : atWordEnd s) :
    occurrences here? (t ++ s) = occurrences here? t ++
      (occurrences here? s).map fun (i, value) => (i + t.length, value) := by
  induction t with
  | nil => simp [occurrences, h.nil]
  | cons c t ih =>
    rw [List.cons_append, occurrences, ← List.cons_append, h.append (List.cons_ne_nil c t) hs,
      occurrences, ih]
    simp [Function.comp_def, Nat.add_assoc]

theorem lt_length_of_mem_occurrences (h : ReadsWords here? table) {t : Text} {i : Nat} {value : α}
    (hmem : (i, value) ∈ occurrences here? t) : i < t.length := by
  induction t generalizing i with
  | nil => simp [occurrences, h.nil] at hmem
  | cons c t ih =>
    rw [occurrences, List.mem_append] at hmem
    rcases hmem with hhere | hlater
    · obtain ⟨found, -, heq⟩ := Option.map_eq_some_iff.1 (Option.mem_toList.1 hhere)
      cases heq
      exact Nat.zero_lt_succ t.length
    · obtain ⟨⟨j, value'⟩, hlater, heq⟩ := List.mem_map.1 hlater
      cases heq
      exact Nat.succ_lt_succ (ih hlater)

/-- A keyword of another kind is no marker itself, and neither parts nor joins any. -/
theorem keepsOccurrences (h : ReadsWords here? table) (before : Text) {word after : Text}
    (hchars : word.all isWordChar) (hword : word ∉ table.map Prod.fst) (hend : atWordEnd after) :
    KeepsOccurrences here? before ('@' :: word) after := by
  have hnone : occurrences here? ('@' :: word) = [] := by
    have hhead := head?_occurrences here? ('@' :: word)
    rw [h.cut?_word hchars hword] at hhead
    simpa using hhead
  have hwith := h.occurrences_append before (atWordEnd_keyword word after)
  rw [h.occurrences_append ('@' :: word) hend, hnone, List.nil_append, List.map_map] at hwith
  rw [KeepsOccurrences, hwith, h.occurrences_append before hend, List.map_append, List.map_map]
  congr 1
  · refine ((List.map_congr_left ?_).trans (List.map_id _)).symm
    rintro ⟨i, value⟩ hmem
    simp [h.lt_length_of_mem_occurrences hmem]
  · apply List.map_congr_left
    rintro ⟨i, value⟩ -
    simp [Nat.add_right_comm]

theorem cut?_first_word (h : ReadsWords here? table) {before word after : Text} {value : α}
    (hword : (word, value) ∈ table) (hbefore : cut? here? before = none) (hend : atWordEnd after) :
    cut? here? (before ++ ('@' :: word ++ after)) = some (value, before ++ after) := by
  have hread : here? ('@' :: word ++ after) = some (value, after) := h.reads.2 ⟨word, hword, rfl, hend⟩
  rw [h.cut?_append_of_wordEnd before (atWordEnd_keyword word after), hbefore, cut?_of_here hread]
  rfl

/-- What is cut out is a word of the table, and in front of it there is none. -/
theorem exists_word_of_cut? (h : ReadsWords here? table) {t rest : Text} {value : α}
    (hcut : cut? here? t = some (value, rest)) :
    ∃ before word after, t = before ++ ('@' :: word ++ after) ∧ rest = before ++ after ∧
      (word, value) ∈ table ∧ atWordEnd after ∧ cut? here? before = none := by
  obtain ⟨before, tail, after, rfl, hread, rfl, hfirst⟩ := cut?_eq_some_iff.1 hcut
  obtain ⟨word, hword, rfl, hend⟩ := h.reads.1 hread
  refine ⟨before, word, after, rfl, rfl, hword, hend, cut?_eq_none_iff.2 fun p q hpq => ?_⟩
  by_cases hq : q = []
  · rw [hq, h.nil]
  · have hnone := hfirst p q hpq hq
    rw [← List.cons_append, h.append hq (atWordEnd_keyword word after)] at hnone
    exact Option.map_eq_none_iff.1 hnone

theorem atWordEnd_of_cut? (h : ReadsWords here? table) {t rest : Text} {value : α}
    (hcut : cut? here? t = some (value, rest)) (ht : atWordEnd t) : atWordEnd rest := by
  obtain ⟨before, word, after, rfl, rfl, -, hend, -⟩ := h.exists_word_of_cut? hcut
  rw [atWordEnd_append (atWordEnd_keyword word after)] at ht
  rwa [atWordEnd_append hend]

theorem cut?_append_word (h : ReadsWords here? table) (before : Text) {word after : Text}
    (hchars : word.all isWordChar) (hword : word ∉ table.map Prod.fst) (hend : atWordEnd after) :
    cut? here? (before ++ ('@' :: word ++ after)) =
      ((cut? here? before).map fun (value, rest) => (value, rest ++ ('@' :: word ++ after))).or
        ((cut? here? after).map fun (value, rest) => (value, before ++ ('@' :: word ++ rest))) := by
  rw [h.cut?_append_of_wordEnd before (atWordEnd_keyword word after),
    h.cut?_append_of_wordEnd ('@' :: word) hend, h.cut?_word hchars hword]
  simp [Function.comp_def]

section Apart

variable {β : Type} {there? : Text → Option (β × Text)} {others : List (Text × β)}

theorem cut?_eq_none_of_cut? (h : ReadsWords here? table) (h' : ReadsWords there? others)
    (hapart : (table.map Prod.fst).Disjoint (others.map Prod.fst)) {t rest : Text} {value : α}
    (hcut : cut? here? t = some (value, rest)) (hnone : cut? there? t = none) :
    cut? there? rest = none := by
  obtain ⟨before, word, after, rfl, rfl, hword, hend, -⟩ := h.exists_word_of_cut? hcut
  have hother : word ∉ others.map Prod.fst := hapart (List.mem_map_of_mem hword)
  rw [h'.cut?_append_word before (h.word_chars _ hword) hother hend] at hnone
  rw [h'.cut?_append_of_wordEnd before hend]
  simpa using hnone

/-- Two cuts of different kinds can be made in either order. -/
theorem cut?_comm (h : ReadsWords here? table) (h' : ReadsWords there? others)
    (hapart : (table.map Prod.fst).Disjoint (others.map Prod.fst)) {t rest rest' : Text} {value : α}
    {value' : β} (hcut : cut? here? t = some (value, rest)) (hcut' : cut? there? t = some (value', rest')) :
    ∃ left, cut? there? rest = some (value', left) ∧ cut? here? rest' = some (value, left) := by
  obtain ⟨before, word, after, rfl, rfl, hword, hend, hbefore⟩ := h.exists_word_of_cut? hcut
  have hother : word ∉ others.map Prod.fst := hapart (List.mem_map_of_mem hword)
  rw [h'.cut?_append_word before (h.word_chars _ hword) hother hend] at hcut'
  rw [h'.cut?_append_of_wordEnd before hend]
  -- The other keyword stands in front of the one that is cut out, or else behind it.
  cases hfront : cut? there? before with
  | some found =>
    rw [hfront] at hcut'
    cases hcut'
    have hnone : cut? here? found.2 = none :=
      h'.cut?_eq_none_of_cut? h (List.disjoint_symm hapart) hfront hbefore
    exact ⟨found.2 ++ after, rfl, h.cut?_first_word hword hnone hend⟩
  | none =>
    rw [hfront] at hcut'
    obtain ⟨⟨value'', back⟩, hback, heq⟩ := Option.map_eq_some_iff.1 hcut'
    cases heq
    rw [hback]
    exact ⟨before ++ back, rfl, h.cut?_first_word hword hbefore (h'.atWordEnd_of_cut? hback hend)⟩

/-- After a marker of another kind the same is taken as before, and both together leave the same in
    either order. -/
theorem takeFirst_takeFirst (h : ReadsWords here? table) (h' : ReadsWords there? others)
    (hapart : (table.map Prod.fst).Disjoint (others.map Prod.fst)) (a : α) (b : β) (t : Text) :
    takeFirst there? b (takeFirst here? a t).2 =
      ((takeFirst there? b t).1, (takeFirst here? a (takeFirst there? b t).2).2) := by
  cases hcut : cut? here? t with
  | none =>
    cases hcut' : cut? there? t with
    | none => simp [takeFirst, hcut, hcut']
    | some found' =>
      have hnone := h'.cut?_eq_none_of_cut? h (List.disjoint_symm hapart) hcut' hcut
      simp [takeFirst, hcut, hcut', hnone]
  | some found =>
    cases hcut' : cut? there? t with
    | none =>
      have hnone := h.cut?_eq_none_of_cut? h' hapart hcut hcut'
      simp [takeFirst, hcut, hcut', hnone]
    | some found' =>
      obtain ⟨left, hleft, hleft'⟩ := h.cut?_comm h' hapart hcut hcut'
      simp [takeFirst, hcut, hcut', hleft, hleft']

end Apart

end ReadsWords

/-- The keywords of the visibilities. -/
def visibilityWords : List (Text × Visibility) :=
  Visibility.all.map fun v => (v.keyword, v)

/-- The keyword of the ujs flag. -/
def ujsWords : List (Text × Bool) :=
  [("ujs".toList, true)]

theorem mem_visibilityWords (v : Visibility) : (v.keyword, v) ∈ visibilityWords := by
  cases v <;> decide

theorem visibilityHere?_readsWords : ReadsWords visibilityHere? visibilityWords where
  word_chars := by decide
  reads {t v rest} := by
    rw [visibilityHere?_eq_some_iff]
    constructor
    · rintro ⟨rfl, hend⟩
      exact ⟨v.keyword, mem_visibilityWords v, rfl, hend⟩
    · rintro ⟨word, hword, rfl, hend⟩
      obtain ⟨w, -, heq⟩ := List.mem_map.1 hword
      cases heq
      exact ⟨rfl, hend⟩

theorem ujsHere?_readsWords : ReadsWords ujsHere? ujsWords where
  word_chars := by decide
  reads {t flag rest} := by
    rw [ujsHere?_eq_some_iff]
    constructor
    · rintro ⟨rfl, rfl, hend⟩
      exact ⟨"ujs".toList, List.mem_singleton_self _, rfl, hend⟩
    · rintro ⟨word, hword, rfl, hend⟩
      obtain ⟨rfl, rfl⟩ : word = "ujs".toList ∧ flag = true := by simpa [ujsWords] using hword
      exact ⟨rfl, rfl, hend⟩

theorem visibilityWords_disjoint_ujsWords :
    (visibilityWords.map Prod.fst).Disjoint (ujsWords.map Prod.fst) :=
  List.disjoint_left.2 (by decide)

/-- The visibility and the ujs flag are the same, and leave the same text, whichever is taken out of a
    text first. Wherever a keyword of one kind stands, taking it out leaves the keywords of the other kind
    as they are, and no new one comes about. -/
theorem takeVisibility_comm_takeUjs (t : Text) :
    ((takeVisibility (takeUjs t).2).1 = (takeVisibility t).1 ∧
      (takeUjs (takeVisibility t).2).1 = (takeUjs t).1 ∧
      (takeUjs (takeVisibility t).2).2 = (takeVisibility (takeUjs t).2).2) ∧
    (∀ (v : Visibility) (before after : Text), atWordEnd after →
      KeepsOccurrences ujsHere? before ('@' :: v.keyword) after) ∧
    ∀ before after : Text, atWordEnd after →
      KeepsOccurrences visibilityHere? before "@ujs".toList after := by
  have hvisibility := visibilityHere?_readsWords
  have hujs := ujsHere?_readsWords
  have hapart := visibilityWords_disjoint_ujsWords
  have hvisibilityAfter : takeVisibility (takeUjs t).2 =
      ((takeVisibility t).1, (takeUjs (takeVisibility t).2).2) :=
    hujs.takeFirst_takeFirst hvisibility (List.disjoint_symm hapart) false .stable t
  have hujsAfter : takeUjs (takeVisibility t).2 = ((takeUjs t).1, (takeVisibility (takeUjs t).2).2) :=
    hvisibility.takeFirst_takeFirst hujs hapart .stable false t
  refine ⟨⟨by rw [hvisibilityAfter], by rw [hujsAfter], by rw [hujsAfter]⟩,
    fun v before after hend => ?_, fun before after hend => ?_⟩
  · have hword := mem_visibilityWords v
    exact hujs.keepsOccurrences before (hvisibility.word_chars _ hword)
      (hapart (List.mem_map_of_mem hword)) hend
  · have hword : ("ujs".toList, true) ∈ ujsWords := List.mem_singleton_self _
    exact hvisibility.keepsOccurrences before (hujs.word_chars _ hword)
      (List.disjoint_symm hapart (List.mem_map_of_mem hword)) hend

/-- Keywords right next to each other: the flag after the visibility moves up to the one before it, and
    the longer words stay no keywords. -/
theorem takeVisibility_comm_takeUjs_adjacent :
    let before := "@ujsx@ujs".toList
    let after := "@ujs@publicity @public".toList
    let t := before ++ ('@' :: Visibility.internal.keyword ++ after)
    (takeVisibility t = (.internal, before ++ after) ∧ atWordEnd after) ∧
      occurrences ujsHere? t = [(5, true), (17, true)] ∧
      occurrences ujsHere? (before ++ after) = [(5, true), (9, true)] ∧
      KeepsOccurrences ujsHere? before ('@' :: Visibility.internal.keyword) after ∧
      (takeUjs (takeVisibility t).2).2 = (takeVisibility (takeUjs t).2).2 := by
  intro before after t
  have hend : atWordEnd after := by decide
  obtain ⟨⟨-, -, hleft⟩, hkeeps, -⟩ := takeVisibility_comm_takeUjs t
  exact ⟨⟨by decide, hend⟩, by decide, by decide, hkeeps .internal before after hend, hleft⟩

end Marker

end ApiGuide
