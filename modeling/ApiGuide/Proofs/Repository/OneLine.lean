import ApiGuide.Proofs.Changelog.Layout
import ApiGuide.Proofs.Pass.Reachable
import ApiGuide.Proofs.Session.Dates
import ApiGuide.Proofs.Text.Numbers

/-!
What a repository shows on lines of their own stands on one line: the names of classes and functions,
the versions of releases and the version of the repository.

Each of these is read by a reader that stops at a line break or takes none. Nothing that happens in a
session changes that.
-/

namespace ApiGuide

open Text

namespace SemVer

theorem exists_candidate_of_findFrom? {skip : Nat} {t : Text} {v : SemVer} (h : findFrom? skip t = some v) :
    ∃ candidate, ofCandidate? candidate = some v := by
  fun_induction findFrom? skip t with
  | case1 => cases h
  | case2 c t n ih => exact ih h
  | case3 c t hnone ih => exact ih h
  | case4 c t candidate rest hcandidate v' hv => exact ⟨candidate, hv.trans h⟩
  | case5 c t candidate rest hcandidate hnone ih => exact ih h

theorem break_not_mem_of_isPart {part : Text} (h : isPart part = true) : '\n' ∉ part := by
  intro hmem
  rw [isPart, Bool.and_eq_true] at h
  have hchar := List.all_eq_true.1 h.2 '\n' hmem
  cases hchar

/-- The parts after a mark, where the mark is left out with them. -/
theorem break_not_mem_marked {parts : List Text} (mark : Char) (hparts : '\n' ∉ joinWith ['.'] parts)
    (hmark : '\n' ≠ mark) : '\n' ∉ (if parts = [] then [] else mark :: joinWith ['.'] parts) := by
  split
  · simp
  · simp [hmark, hparts]

/-- A version that is found in a text is written on one line. -/
theorem break_not_mem_toText_of_find? {t : Text} {v : SemVer} (h : find? t = some v) : '\n' ∉ v.toText := by
  obtain ⟨candidate, hv⟩ := exists_candidate_of_findFrom? h
  unfold ofCandidate? at hv
  split at hv
  · next major minor patch _ _ _ =>
    dsimp only at hv
    split at hv
    · next hparts =>
      cases hv
      rw [Bool.and_eq_true, List.all_eq_true, List.all_eq_true] at hparts
      obtain ⟨hpre, hbuild⟩ := hparts
      have hpre' : '\n' ∉ joinWith ['.'] ((candidate.pre.map (splitOn '.')).getD []) := by
        apply not_mem_joinWith (by decide)
        intro part hpart
        have hprePart := hpre part hpart
        rw [isPrePart, Bool.and_eq_true] at hprePart
        exact break_not_mem_of_isPart hprePart.1
      have hbuild' : '\n' ∉ joinWith ['.'] ((candidate.build.map (splitOn '.')).getD []) := by
        apply not_mem_joinWith (by decide)
        exact fun part hpart => break_not_mem_of_isPart (hbuild part hpart)
      simp only [toText, List.mem_append, List.mem_cons, not_or]
      simp [not_mem_ofNat, break_not_mem_marked '-' hpre' (by decide),
        break_not_mem_marked '+' hbuild' (by decide)]
    · cases hv
  · cases hv

end SemVer

namespace Changelog

theorem break_not_mem_version_of_mem_parse {t : Text} {release : Release} (h : release ∈ parse t) :
    '\n' ∉ release.version := by
  obtain ⟨intro, parts, hlaid⟩ := exists_laidOut (t.filter (· != '\r'))
  rw [parse, hlaid.sections_eq, List.map_map] at h
  obtain ⟨part, hpart, rfl⟩ := List.mem_map.1 h
  exact (hlaid.isHeading part hpart).1.break_not_mem

end Changelog

namespace Repository

/-- What is shown on a line of its own holds no line break. -/
structure OneLine (r : Repository) : Prop where
  className : ∀ c ∈ r.classes, '\n' ∉ c.name
  functionName : ∀ c ∈ r.classes, ∀ f ∈ c.functions, '\n' ∉ f.name
  releaseVersion : ∀ release ∈ r.releases, '\n' ∉ release.version
  version : ∀ v ∈ r.version, '\n' ∉ v.toText

theorem wellFormed_of_readSources {tree : Folder} {settings : Settings} {pass after : Pass} {paths : List Text}
    (hpass : pass.WellFormed) (h : readSources tree settings pass paths = .ok after) : after.WellFormed := by
  induction paths generalizing pass with
  | nil =>
    cases h
    exact hpass
  | cons path rest ih =>
    rw [readSources] at h
    split at h
    · cases h
    · next source _ =>
      dsimp only at h
      have hstart : (if settings.resetPerFile then pass.leaveClass else pass).WellFormed := by
        split <;> exact hpass
      split at h
      · cases h
      · next n next hread =>
        obtain ⟨done, -, hdone⟩ := Pass.exists_run_of_readBlocks
          (if settings.resetPerFile then pass.leaveClass else pass) (Block.texts source)
        rw [Pass.readSource] at hread
        rw [hread] at hdone
        dsimp only at hdone
        exact ih (hdone ▸ hstart.run _) h

theorem wellFormed_of_readClasses {tree : Folder} {root : Text} {settings : Settings} {classes : List ClassDoc}
    (h : readClasses tree root settings = .ok classes) : ∀ c ∈ classes, c.WellFormed := by
  rw [readClasses] at h
  split at h
  · cases h
  · next paths _ =>
    cases hread : readSources tree settings (.start settings.strict) paths with
    | error e =>
      rw [hread] at h
      cases h
    | ok pass =>
      rw [hread] at h
      cases h
      have hstart : (Pass.start settings.strict).WellFormed := by
        intro c hc
        cases hc
      exact wellFormed_of_readSources hstart hread

theorem break_not_mem_of_readReleases {tree : Folder} {root : Text} {settings : Settings}
    {releases : List Release} (h : readReleases tree root settings = .ok releases) :
    ∀ release ∈ releases, '\n' ∉ release.version := by
  rw [readReleases] at h
  split at h
  · cases hload : tree.load (Path.join root settings.changelog) with
    | error e =>
      rw [hload] at h
      cases h
    | ok text =>
      rw [hload] at h
      cases h
      exact fun release hrelease => Changelog.break_not_mem_version_of_mem_parse hrelease
  · cases h
    simp

theorem break_not_mem_of_readVersion {tree : Folder} {root : Text} {settings : Settings}
    {version : Option SemVer} (h : readVersion tree root settings = .ok version) :
    ∀ v ∈ version, '\n' ∉ v.toText := by
  rw [readVersion] at h
  split at h
  · split at h
    · cases h
    · split at h
      · next found hfind =>
        cases h
        rintro v ⟨⟩
        exact SemVer.break_not_mem_toText_of_find? hfind
      · cases h
  · cases h
    simp

/-- Whatever a reload leaves, after a failure as well. -/
theorem oneLine_reload (tree : Folder) (r : Repository) : (r.reload tree).2.OneLine := by
  have hnames {classes : List ClassDoc} (h : readClasses tree r.root r.settings = .ok classes) :
      (∀ c ∈ classes, '\n' ∉ c.name) ∧ ∀ c ∈ classes, ∀ f ∈ c.functions, '\n' ∉ f.name := by
    have hformed := wellFormed_of_readClasses h
    exact ⟨fun c hc => (hformed c hc).name.one_line,
      fun c hc f hf => ((hformed c hc).functions f hf).name.one_line⟩
  obtain ⟨e, -, hreload⟩ | ⟨classes, e, hclasses, -, hreload⟩ |
    ⟨classes, releases, e, hclasses, hreleases, -, hreload⟩ |
    ⟨classes, releases, version, hclasses, hreleases, hversion, hreload⟩ := reload_cases tree r
  · rw [hreload]
    exact ⟨by simp, by simp, by simp, by simp⟩
  · rw [hreload]
    exact ⟨(hnames hclasses).1, (hnames hclasses).2, by simp, by simp⟩
  · rw [hreload]
    exact ⟨(hnames hclasses).1, (hnames hclasses).2, break_not_mem_of_readReleases hreleases, by simp⟩
  · rw [hreload]
    exact ⟨(hnames hclasses).1, (hnames hclasses).2, break_not_mem_of_readReleases hreleases,
      break_not_mem_of_readVersion hversion⟩

theorem OneLine.settle {r : Repository} (h : r.OneLine) (controls : Nat → Option VersionControl) :
    (r.settle controls).OneLine := by
  refine ⟨h.className, h.functionName, ?_, h.version⟩
  intro release hrelease
  have hversion : release.version ∈ Changelog.versions (Changelog.settle controls r.releases) :=
    List.mem_map_of_mem hrelease
  rw [Changelog.versions_settle] at hversion
  obtain ⟨old, hold, heq⟩ := List.mem_map.1 hversion
  rw [← heq]
  exact h.releaseVersion old hold

end Repository

namespace Session

theorem oneLine_step {s : Session} (h : s.repository.OneLine) (event : Event) :
    (s.step event).2.repository.OneLine := by
  by_cases hreload : event = .reload
  · subst hreload
    exact Repository.oneLine_reload s.tree s.repository
  · rw [repository_step s hreload]
    exact h.settle _

theorem oneLine_run {s : Session} (h : s.repository.OneLine) (events : List Event) :
    (s.run events).2.repository.OneLine := by
  induction events generalizing s with
  | nil => exact h
  | cons event rest ih => exact ih (oneLine_step h event)

end Session

theorem Repository.oneLine_of_load {tree : Folder} {root : Text} {settings : Settings} {r : Repository}
    (h : load tree root settings = .ok r) : r.OneLine := by
  have hreload := oneLine_reload tree { root, settings }
  rwa [reload_of_load_ok h] at hreload

end ApiGuide
