import ApiGuide.Files.Pattern
import ApiGuide.Proofs.Files.Path

/-!
Patterns that are written with escaped texts: they are well-formed, and each component fits the text
it was written for and nothing else.
-/

namespace ApiGuide

/-- Where no step fails, the results are those of the steps. -/
theorem mapM_eq_ok {ε α β : Type} {f : α → Except ε β} {g : α → β} {l : List α}
    (h : ∀ a ∈ l, f a = .ok (g a)) : l.mapM f = .ok (l.map g) := by
  induction l with
  | nil => rfl
  | cons a l ih =>
    rw [List.mapM_cons, h a (by simp), ih fun b hb => h b (by simp [hb])]
    rfl

namespace Pattern

open Text

/-- A character with a meaning of its own in patterns. -/
def IsWild (c : Char) : Prop :=
  c = '?' ∨ c = '*' ∨ c = '[' ∨ c = ']'

instance : DecidablePred IsWild := fun c =>
  inferInstanceAs (Decidable (c = '?' ∨ c = '*' ∨ c = '[' ∨ c = ']'))

/-- The token of an escaped character. -/
def literal (c : Char) : Token :=
  if IsWild c then .oneOf [⟨c, c⟩] else .char c

theorem escape_cons (c : Char) (t : Text) :
    escape (c :: t) = (if IsWild c then ['[', c, ']'] else [c]) ++ escape t :=
  rfl

theorem escape_of_not_wild {t : Text} (h : ∀ c ∈ t, ¬IsWild c) : escape t = t := by
  induction t with
  | nil => rfl
  | cons c t ih =>
    rw [escape_cons, if_neg (h c (by simp)), ih fun d hd => h d (by simp [hd])]
    rfl

theorem compileFrom_char {c : Char} (hc : ¬IsWild c) (position : Nat) (start : Bool) (rest : Text) :
    compileFrom position start (c :: rest) =
      (compileFrom (position + 1) (c = '/') rest).map (.char c :: ·) := by
  simp only [IsWild, not_or] at hc
  obtain ⟨hone, hany, hopen, -⟩ := hc
  rw [compileFrom] <;> simp_all

theorem compileFrom_class {c : Char} (hc : IsWild c) (position : Nat) (start : Bool) (rest : Text) :
    ∃ position', compileFrom position start ('[' :: c :: ']' :: rest) =
      (compileFrom position' false rest).map (.oneOf [⟨c, c⟩] :: ·) := by
  have hclass : class? (c :: ']' :: rest) = some (.oneOf [⟨c, c⟩], rest) := by
    rcases hc with rfl | rfl | rfl | rfl <;> rfl
  rw [compileFrom]
  split
  · next h => simp [hclass] at h
  · next token rest' h =>
    obtain ⟨rfl, rfl⟩ : .oneOf [⟨c, c⟩] = token ∧ rest = rest' := by simpa [hclass] using h
    exact ⟨_, rfl⟩

/-- An escaped text compiles to one token for each of its characters, whatever follows. -/
theorem compileFrom_escape (t rest : Text) (position : Nat) (start : Bool) :
    ∃ position' start', compileFrom position start (escape t ++ rest) =
      (compileFrom position' start' rest).map (t.map literal ++ ·) := by
  induction t generalizing position start with
  | nil =>
    refine ⟨position, start, ?_⟩
    cases h : compileFrom position start rest <;> simp [escape, h, Except.map]
  | cons c t ih =>
    by_cases hc : IsWild c
    · obtain ⟨next, hstep⟩ := compileFrom_class hc position start (escape t ++ rest)
      obtain ⟨last, start', hrest⟩ := ih next false
      refine ⟨last, start', ?_⟩
      rw [escape_cons, if_pos hc, List.append_assoc]
      simp only [List.cons_append, List.nil_append]
      rw [hstep, hrest]
      cases compileFrom last start' rest <;> simp [Except.map, literal, hc]
    · obtain ⟨last, start', hrest⟩ := ih (position + 1) (c = '/')
      refine ⟨last, start', ?_⟩
      rw [escape_cons, if_neg hc, List.append_assoc]
      simp only [List.cons_append, List.nil_append]
      rw [compileFrom_char hc, hrest]
      cases compileFrom last start' rest <;> simp [Except.map, literal, hc]

theorem compileFrom_escape_end (t : Text) (position : Nat) (start : Bool) :
    compileFrom position start (escape t) = .ok (t.map literal) := by
  obtain ⟨position', start', h⟩ := compileFrom_escape t [] position start
  rw [List.append_nil] at h
  simp [h, compileFrom, Except.map]

theorem fits_literal {t name : Text} : fits (t.map literal) name = true ↔ name = t := by
  induction t generalizing name with
  | nil => simp [fits]
  | cons c t ih =>
    cases name with
    | nil => by_cases hc : IsWild c <;> simp [literal, hc, fits]
    | cons d name =>
      by_cases hc : IsWild c
      · have hspan : (Span.has ⟨c, c⟩ d = true) ↔ d = c := by
          rw [Span.has, Bool.and_eq_true, decide_eq_true_iff, decide_eq_true_iff]
          exact ⟨fun h => Char.le_antisymm h.2 h.1, fun h => by simp [h]⟩
        simp [literal, hc, fits, ih, hspan]
      · simp [literal, hc, fits, ih, @eq_comm _ c]

theorem mem_suffixes {part name : Text} : part ∈ fits.suffixes name ↔ part <:+ name := by
  induction name with
  | nil => simp [fits.suffixes]
  | cons c name ih => rw [fits.suffixes, List.mem_cons, ih, List.suffix_cons_iff]

/-- Any characters and then a text: that is the names that end in the text. -/
theorem fits_anyChars {t name : Text} : fits (.anyChars :: t.map literal) name = true ↔ t <:+ name := by
  rw [fits, List.any_eq_true]
  simp only [mem_suffixes, fits_literal]
  constructor
  · rintro ⟨part, hpart, rfl⟩
    exact hpart
  · intro h
    exact ⟨t, h, rfl⟩

/-- The step of an escaped part of a path. -/
def partStep (part : Text) : Step :=
  stepOf (part.map literal)

theorem exactName?_literal {part : Text} (h : ∀ c ∈ part, ¬IsWild c) :
    exactName? (part.map literal) = some part := by
  induction part with
  | nil => rfl
  | cons c part ih =>
    rw [List.map_cons, literal, if_neg (h c (by simp)), exactName?, ih fun d hd => h d (by simp [hd])]
    rfl

theorem exactName?_literal_of_wild {part : Text} (h : ∃ c ∈ part, IsWild c) :
    exactName? (part.map literal) = none := by
  obtain ⟨d, hd, hwild⟩ := h
  induction part with
  | nil => cases hd
  | cons c part ih =>
    by_cases hc : IsWild c
    · rw [List.map_cons, literal, if_pos hc]
      rfl
    · have hne : d ≠ c := fun heq => hc (heq ▸ hwild)
      rw [List.map_cons, literal, if_neg hc, exactName?, ih ((List.mem_cons.1 hd).resolve_left hne)]
      rfl

theorem anyDepth_not_mem_literal (t : Text) : Token.anyDepth ∉ t.map literal := by
  rw [List.mem_map]
  rintro ⟨c, -, hc⟩
  rw [literal] at hc
  split at hc <;> cases hc

theorem partStep_cases (part : Text) :
    partStep part = .exactly part ∨
    ((∃ c ∈ part, IsWild c) ∧ partStep part = .fitting (part.map literal)) := by
  rw [partStep, stepOf, if_neg (anyDepth_not_mem_literal part)]
  by_cases hwild : ∃ c ∈ part, IsWild c
  · exact .inr ⟨hwild, by rw [exactName?_literal_of_wild hwild]⟩
  · exact .inl (by rw [exactName?_literal fun c hc hc' => hwild ⟨c, hc, hc'⟩])

theorem splitOn_append_of_not_mem {front : Text} (h : '/' ∉ front) (t : Text) :
    splitOn '/' (front ++ t) = (splitOn '/' t).modifyHead (front ++ ·) := by
  induction front with
  | nil =>
    rw [List.nil_append]
    cases splitOn '/' t <;> rfl
  | cons c front ih =>
    simp only [List.mem_cons, not_or] at h
    rw [List.cons_append, splitOn, if_neg (Ne.symm h.1), ih h.2]
    cases splitOn '/' t <;> rfl

/-- Escaping a path is escaping its parts. -/
theorem splitOn_escape (t : Text) : splitOn '/' (escape t) = (splitOn '/' t).map escape := by
  induction t with
  | nil => rfl
  | cons c t ih =>
    rw [escape_cons, splitOn]
    by_cases hc : c = '/'
    · subst hc
      rw [if_neg (by decide), if_pos rfl, List.singleton_append, splitOn, if_pos rfl, ih]
      rfl
    · have hfront : '/' ∉ (if IsWild c then ['[', c, ']'] else [c]) := by
        split <;> simp [Ne.symm hc]
      rw [if_neg hc, splitOn_append_of_not_mem hfront, ih]
      cases splitOn '/' t with
      | nil => rfl
      | cons first rest =>
        simp only [List.map_cons, List.modifyHead_cons]
        rw [escape_cons]

/-- An extension that patterns take as it stands, and that names no folder. -/
def IsPlain (extension : Text) : Prop :=
  ∀ c ∈ extension, c ≠ '/' ∧ ¬IsWild c

instance : DecidablePred IsPlain := fun extension =>
  List.decidableBAll (fun c => c ≠ '/' ∧ ¬IsWild c) extension

theorem compileFrom_anyName {extension : Text} (h : IsPlain extension) (position : Nat) (start : Bool) :
    compileFrom position start ('*' :: '.' :: extension) =
      .ok (.anyChars :: ('.' :: extension).map literal) := by
  have hescape : escape ('.' :: extension) = '.' :: extension := by
    apply escape_of_not_wild
    intro c hc
    rcases List.mem_cons.1 hc with rfl | hc
    · decide
    · exact (h c hc).2
  have hname := compileFrom_escape_end ('.' :: extension) (position + 1) false
  rw [hescape] at hname
  rw [compileFrom, hname]
  · rfl
  all_goals simp

theorem compileFrom_below {extension : Text} (h : IsPlain extension) (position : Nat) (start : Bool) :
    ∃ tokens, compileFrom position start ("/**/*.".toList ++ extension) = .ok tokens := by
  have hdepth : compileFrom (position + 1) true ('*' :: '*' :: '/' :: '*' :: '.' :: extension) =
      .ok (.anyDepth :: .anyChars :: ('.' :: extension).map literal) := by
    rw [compileFrom]
    · simp [compileFrom_anyName h, Except.map]
    · simp
  have hslash := compileFrom_char (by decide : ¬IsWild '/') position start
    ('*' :: '*' :: '/' :: '*' :: '.' :: extension)
  rw [decide_eq_true (rfl : '/' = '/'), hdepth] at hslash
  exact ⟨_, hslash⟩

theorem splitOn_below {extension : Text} (h : IsPlain extension) (base : Text) :
    splitOn '/' (escape base ++ "/**/*.".toList ++ extension) =
      (splitOn '/' base).map escape ++ [['*', '*'], '*' :: '.' :: extension] := by
  have hname : splitOn '/' ('*' :: '.' :: extension) = ['*' :: '.' :: extension] := by
    apply Path.splitOn_part
    intro hslash
    rcases List.mem_cons.1 hslash with heq | hslash
    · cases heq
    rcases List.mem_cons.1 hslash with heq | hslash
    · cases heq
    exact (h '/' hslash).1 rfl
  have hpattern : escape base ++ "/**/*.".toList ++ extension =
      escape base ++ '/' :: (['*', '*'] ++ '/' :: '*' :: '.' :: extension) := by
    simp
  rw [hpattern, Path.splitOn_append_slash, Path.splitOn_append_slash, splitOn_escape, hname]
  rfl

/-- The steps to all names with an extension at any depth below a path: one step for each part of the
    path, and two more. -/
theorem steps_below {extension : Text} (h : IsPlain extension) (base : Text) :
    steps (escape base ++ "/**/*.".toList ++ extension) =
      .ok ((splitOn '/' base).map partStep ++
        [.anyDepth, .fitting (.anyChars :: ('.' :: extension).map literal)]) := by
  have hcompile (part : Text) : (compile (escape part)).map stepOf = .ok (partStep part) := by
    rw [compile, compileFrom_escape_end]
    rfl
  have hparts : ((splitOn '/' base).map escape).mapM (fun part => (compile part).map stepOf) =
      .ok ((splitOn '/' base).map partStep) := by
    rw [List.mapM_map]
    exact mapM_eq_ok fun part _ => hcompile part
  have hdepth : (compile ['*', '*']).map stepOf = .ok .anyDepth := by
    rw [compile, compileFrom]
    rfl
  have hname : (compile ('*' :: '.' :: extension)).map stepOf =
      .ok (.fitting (.anyChars :: ('.' :: extension).map literal)) := by
    have hnone : Token.anyDepth ∉ .anyChars :: ('.' :: extension).map literal := by
      rw [List.mem_cons, not_or]
      exact ⟨by simp, anyDepth_not_mem_literal _⟩
    rw [compile, compileFrom_anyName h]
    exact congrArg _ (if_neg hnone)
  obtain ⟨position, start, hbase⟩ := compileFrom_escape base ("/**/*.".toList ++ extension) 0 true
  obtain ⟨tokens, hbelow⟩ := compileFrom_below h position start
  rw [hbelow, ← List.append_assoc] at hbase
  rw [steps, compile, hbase, splitOn_below h]
  dsimp only [Except.map.eq_2]
  rw [if_neg (by simp), List.mapM_append, hparts, List.mapM_cons, hdepth, List.mapM_cons, hname]
  rfl

end Pattern

end ApiGuide
