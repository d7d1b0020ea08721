import ApiGuide.Proofs.Toml.Writer
import ApiGuide.Settings.File

/-!
Settings that are written into a text are read back, in whatever order they are written and whichever of them
are left out. A line for anything that is no setting is refused, wherever it stands.
-/

namespace ApiGuide

namespace Setting

theorem isBareKey_key (k : Setting) : Toml.IsBareKey k.key := by
  cases k <;> decide

theorem ofKey?_key (k : Setting) : ofKey? k.key = some k := by
  cases k <;> rfl

theorem key_injective {k k' : Setting} (h : k.key = k'.key) : k = k' := by
  have hkey := ofKey?_key k
  rw [h, ofKey?_key] at hkey
  exact (Option.some.inj hkey).symm

theorem ofKey?_eq_none {key : Text} (h : ∀ k : Setting, key ≠ k.key) : ofKey? key = none := by
  apply List.find?_eq_none.2
  intro k _
  simpa using (h k).symm

end Setting

namespace Settings

/-- The value of a setting. -/
def value (s : Settings) : Setting → Toml.Value
  | .sourceDir => .string s.sourceDir
  | .extensions => .strings s.extensions
  | .changelog => .string s.changelog
  | .versionFile => .string s.versionFile
  | .repositoryUrl => .string s.repositoryUrl
  | .promoted => .strings s.promoted
  | .strict => .boolean s.strict
  | .resetPerFile => .boolean s.resetPerFile

/-- A text with a line for each of `keys`, in their order. -/
def write (s : Settings) (e : Toml.Escaping) (keys : List Setting) : Text :=
  keys.flatMap fun k => Toml.line k.key (e.valueText (s.value k))

/-- The entries of such a text. -/
def entries (s : Settings) (keys : List Setting) : List (Text × Toml.Value) :=
  keys.map fun k => (k.key, s.value k)

section Reading

variable (s : Settings) (e : Toml.Escaping) (keys : List Setting)

theorem write_cons_append (k : Setting) (rest : Text) :
    s.write e (k :: keys) ++ rest = Toml.line k.key (e.valueText (s.value k)) ++ (s.write e keys ++ rest) := by
  simp [write]

theorem entries?_write_append (rest : Text) :
    Toml.entries? (s.write e keys ++ rest) = (Toml.entries? rest).map (s.entries keys ++ ·) := by
  induction keys with
  | nil => simp [write, entries]
  | cons k keys ih =>
    rw [write_cons_append, k.isBareKey_key.entries?_line, ih, Option.map_map]
    rfl

theorem document?_write_append {rest : Text} (hrest : Toml.document? rest = Toml.entries? rest) :
    Toml.document? (s.write e keys ++ rest) = (Toml.entries? rest).map (s.entries keys ++ ·) := by
  rw [← s.entries?_write_append e keys]
  cases keys with
  | nil => exact hrest
  | cons k keys =>
    rw [write_cons_append, Toml.line_append, k.isBareKey_key.document?_append]

end Reading

/-- Setting a value of the right type changes this value and no other. -/
theorem set?_value (s c : Settings) (k : Setting) :
    ∃ s', s.set? k (c.value k) = some s' ∧ ∀ k', s'.value k' = if k' = k then c.value k' else s.value k' := by
  cases k <;> exact ⟨_, rfl, fun k' => by cases k' <;> rfl⟩

/-- The values of different settings are all set. -/
theorem setAll?_entries {keys : List Setting} (hnodup : keys.Nodup) (c s : Settings) {seen : List Text}
    (hseen : ∀ k ∈ keys, k.key ∉ seen) :
    ∃ s', s.setAll? seen (c.entries keys) = some s' ∧
      ∀ k, s'.value k = if k ∈ keys then c.value k else s.value k := by
  induction keys generalizing s seen with
  | nil => exact ⟨s, rfl, fun k => by simp⟩
  | cons k keys ih =>
    obtain ⟨hk, hkeys⟩ := List.nodup_cons.1 hnodup
    obtain ⟨s₁, hset, hvalue₁⟩ := s.set?_value c k
    -- The keys seen grow by the one that is set, which comes no second time.
    have hseen₁ : ∀ k' ∈ keys, k'.key ∉ k.key :: seen := by
      intro k' hk' hmem
      rcases List.mem_cons.1 hmem with heq | hmem
      · obtain rfl := Setting.key_injective heq
        exact hk hk'
      · exact hseen k' (List.mem_cons_of_mem _ hk') hmem
    obtain ⟨s', hrest, hvalue⟩ := ih hkeys s₁ hseen₁
    refine ⟨s', ?_, ?_⟩
    · have hfirst : k.key ∉ seen := hseen k List.mem_cons_self
      simpa [entries, setAll?, hfirst, k.ofKey?_key, hset] using hrest
    · intro k'
      rw [hvalue, hvalue₁]
      by_cases hk' : k' = k <;> simp [hk']

/-- A key of no setting is refused, whatever stands around it. -/
theorem setAll?_eq_none_of_unknown {key : Text} (hkey : Setting.ofKey? key = none) (v : Toml.Value)
    (before after : List (Text × Toml.Value)) (s : Settings) (seen : List Text) :
    s.setAll? seen (before ++ (key, v) :: after) = none := by
  induction before generalizing s seen with
  | nil => simp [setAll?, hkey]
  | cons entry before ih =>
    rw [List.cons_append, setAll?]
    split
    · rfl
    · split
      · rfl
      · split
        · rfl
        · exact ih _ _

/-- What is written is read back, and what is left out is as if not given. -/
theorem parse?_write (c : Settings) (e : Toml.Escaping) {keys : List Setting} (hnodup : keys.Nodup) :
    ∃ s, parse? (c.write e keys) = some s ∧
      ∀ k, s.value k = if k ∈ keys then c.value k else ({} : Settings).value k := by
  obtain ⟨s, hset, hvalue⟩ := setAll?_entries hnodup c {} (by simp : ∀ k ∈ keys, k.key ∉ [])
  have hread : Toml.document? (c.write e keys) = some (c.entries keys) := by
    have hnil : Toml.document? [] = Toml.entries? [] := rfl
    simpa [Toml.entries?] using c.document?_write_append e keys hnil
  refine ⟨s, ?_, hvalue⟩
  rw [parse?, hread]
  exact hset

/-- A line with a key of no setting is refused below the lines of settings, whatever follows its equals sign. -/
theorem parse?_unknown_line (c : Settings) (e : Toml.Escaping) (front : List Setting) {key : Text}
    (hkey : Toml.IsBareKey key) (hunknown : ∀ k : Setting, key ≠ k.key) (t : Text) :
    parse? (c.write e front ++ (key ++ (" = ".toList ++ t))) = none := by
  rw [parse?, c.document?_write_append e front (hkey.document?_append _)]
  cases hread : Toml.entries? (key ++ (" = ".toList ++ t)) with
  | none => rfl
  | some entries =>
    obtain ⟨v, more, rfl⟩ := hkey.exists_entry_of_entries? hread
    exact setAll?_eq_none_of_unknown (Setting.ofKey?_eq_none hunknown) v (c.entries front) more {} []

/-- Settings written one on a line, in any order, are read as they were, and those left out are as if not given.
    One more line with a key of no setting, above them, between them or below them, has the text refused under
    its path, whatever the line has for a value. -/
theorem ofText_of_setting_lines (c : Settings) (e : Toml.Escaping) {keys : List Setting} (hnodup : keys.Nodup)
    (path : Text) :
    (∃ s, ofText (c.write e keys) path = .ok s ∧
      ∀ k, s.value k = if k ∈ keys then c.value k else ({} : Settings).value k) ∧
    ∀ n key value, Toml.IsBareKey key → (∀ k : Setting, key ≠ k.key) →
      ofText (c.write e (keys.take n) ++ (Toml.line key value ++ c.write e (keys.drop n))) path =
        .error (.invalidSettings path) := by
  constructor
  · obtain ⟨s, hparse, hvalue⟩ := c.parse?_write e hnodup
    exact ⟨s, by rw [ofText, hparse], hvalue⟩
  · intro n key value hkey hunknown
    rw [ofText, Toml.line_append, c.parse?_unknown_line e (keys.take n) hkey hunknown]

/-- Settings with quotes, a backslash and control characters in them. -/
def escapedSettings : Settings where
  sourceDir := "a \"b\"\\\n\x07\x7fü".toList
  promoted := ["up.link".toList, [], "\t#]".toList]
  strict := true

/-- Three of these settings in an order of their own, and a misspelt key above the last of them. -/
theorem ofText_of_escapedSettings :
    (∃ s, ofText (escapedSettings.write .standard [.strict, .sourceDir, .promoted]) "guidedoc.toml".toList = .ok s ∧
      s.sourceDir = escapedSettings.sourceDir ∧ s.changelog = "CHANGELOG.md".toList) ∧
    ofText (escapedSettings.write .standard [.strict, .sourceDir] ++
        (Toml.line "sauce_dir".toList "[ 1".toList ++ escapedSettings.write .standard [.promoted]))
      "guidedoc.toml".toList = .error (.invalidSettings "guidedoc.toml".toList) := by
  have hnodup : [Setting.strict, .sourceDir, .promoted].Nodup := by decide
  obtain ⟨⟨s, hread, hvalue⟩, hrefused⟩ :=
    ofText_of_setting_lines escapedSettings .standard hnodup "guidedoc.toml".toList
  have hkey : Toml.IsBareKey "sauce_dir".toList := by decide
  have hunknown : ∀ k : Setting, "sauce_dir".toList ≠ k.key := by
    intro k
    cases k <;> decide
  refine ⟨⟨s, hread, ?_, ?_⟩, hrefused 2 _ "[ 1".toList hkey hunknown⟩
  · simpa [value] using hvalue .sourceDir
  · simpa [value] using hvalue .changelog

end Settings

end ApiGuide
