import ApiGuide.Proofs.Pass.Holdings
import ApiGuide.Proofs.Pass.Refusal
import ApiGuide.Proofs.Repository.Load

/-!
What the setting to leave the active class before every file does to a load.

In a lenient pass no refusal depends on the active class, so loads with and without the setting stop
at the same file for the same reason, or read the same files. Then their classes differ in early
functions only.
-/

namespace ApiGuide

namespace Pass

theorem strict_call (p : Pass) (call : Call) : (p.call call).strict = p.strict := by
  obtain ⟨c, -, -, -, hcall⟩ | ⟨-, hcall⟩ | ⟨f, -, -, -, -, hcall⟩ | ⟨-, -, -, -, hcall⟩ := call_cases p call
  · rw [hcall]
    rfl
  · rw [hcall]
    rfl
  · rw [hcall, attach]
    split <;> rfl
  · rw [hcall]

theorem strict_run (p : Pass) (calls : List Call) : (p.run calls).strict = p.strict := by
  induction calls generalizing p with
  | nil => rfl
  | cons call rest ih => rw [run_cons, ih, strict_call]

/-- A block is refused by every lenient pass, for the same reason, or by none. -/
theorem readBlock_lenient (block : Text) :
    (∃ e, ∀ p : Pass, p.strict = false → (p.readBlock block).1 = .error e) ∨
    (∀ p : Pass, p.strict = false → ∃ reading, (p.readBlock block).1 = .ok reading) := by
  cases hclass : ClassDoc.parse? block with
  | some c => exact .inr fun p _ => ⟨_, by rw [readBlock, hclass]⟩
  | none =>
    cases hfunction : FunctionDoc.parse? block with
    | error e => exact .inl ⟨e, fun p _ => by rw [readBlock, hclass, hfunction]⟩
    | ok found =>
      refine .inr fun p hp => ?_
      rw [readBlock, hclass, hfunction]
      cases found with
      | none => exact ⟨.ignored, by simp [hp]⟩
      | some f =>
        cases hactive : p.active with
        | some c => exact ⟨_, rfl⟩
        | none => exact ⟨.ignored, by simp [hp]⟩

theorem readBlocks_lenient (blocks : List Text) :
    (∃ e, ∀ p : Pass, p.strict = false → (p.readBlocks blocks).1 = .error e) ∨
    (∀ p : Pass, p.strict = false → ∃ n, p.readBlocks blocks = (.ok n, p.run (blocks.map .block))) := by
  induction blocks with
  | nil => exact .inr fun p _ => ⟨0, rfl⟩
  | cons block rest ih =>
    obtain ⟨e, hblock⟩ | hblock := readBlock_lenient block
    · refine .inl ⟨e, fun p hp => ?_⟩
      rw [readBlocks, readBlock_eq_of_error (hblock p hp)]
    · have hcall (p : Pass) (hp : p.strict = false) : (p.call (.block block)).strict = false := by
        rw [strict_call, hp]
      obtain ⟨e, hrest⟩ | hrest := ih
      · refine .inl ⟨e, fun p hp => ?_⟩
        obtain ⟨reading, hread⟩ := hblock p hp
        have herror : (p.call (.block block)).readBlocks rest = (.error e, _) :=
          Prod.ext (hrest _ (hcall p hp)) rfl
        rw [readBlocks_cons_eq_error_iff.2 (.inr ⟨reading, hread, herror⟩)]
      · refine .inr fun p hp => ?_
        obtain ⟨reading, hread⟩ := hblock p hp
        obtain ⟨n, hn⟩ := hrest _ (hcall p hp)
        exact ⟨reading.count + n, readBlocks_cons_eq_ok_iff.2 ⟨reading, n, hread, hn, rfl⟩⟩

end Pass

namespace Repository

/-- Source files are refused in every lenient load for the same reason, or are read in each as the
    calls that they come down to. -/
theorem readSources_lenient (tree : Folder) (paths : List Text) :
    (∃ e, ∀ (settings : Settings) (p : Pass), p.strict = false → readSources tree settings p paths = .error e) ∨
    (∃ sources : List Text, paths.map tree.load = sources.map .ok ∧
      ∀ (settings : Settings) (p : Pass), p.strict = false →
        readSources tree settings p paths =
          .ok (p.run (sources.flatMap (sourceCalls settings.resetPerFile)))) := by
  induction paths with
  | nil => exact .inr ⟨[], rfl, fun settings p _ => rfl⟩
  | cons path rest ih =>
    cases hload : tree.load path with
    | error e => exact .inl ⟨e, fun settings p _ => by rw [readSources, hload]⟩
    | ok source =>
      have hstart (settings : Settings) (p : Pass) (hp : p.strict = false) :
          (if settings.resetPerFile then p.leaveClass else p).strict = false := by
        split <;> exact hp
      obtain ⟨e, hblocks⟩ | hblocks := Pass.readBlocks_lenient (Block.texts source)
      · refine .inl ⟨.source path e, fun settings p hp => ?_⟩
        obtain ⟨q, herror⟩ :
            ∃ q, (if settings.resetPerFile then p.leaveClass else p).readSource source = (.error e, q) :=
          ⟨_, Prod.ext (hblocks _ (hstart settings p hp)) rfl⟩
        simp only [readSources, hload, herror]
      · have hread (settings : Settings) (p : Pass) (hp : p.strict = false) :
            readSources tree settings p (path :: rest) =
              readSources tree settings (p.run (sourceCalls settings.resetPerFile source)) rest := by
          obtain ⟨n, hn⟩ := hblocks _ (hstart settings p hp)
          have hrun : (if settings.resetPerFile then p.leaveClass else p).run
              ((Block.texts source).map .block) = p.run (sourceCalls settings.resetPerFile source) := by
            cases settings.resetPerFile <;> rfl
          simp only [readSources, hload, Pass.readSource, hn, hrun]
        have hstrict (settings : Settings) (p : Pass) (hp : p.strict = false) :
            (p.run (sourceCalls settings.resetPerFile source)).strict = false := by
          rw [Pass.strict_run, hp]
        obtain ⟨e, hrest⟩ | ⟨sources, hsources, hrest⟩ := ih
        · refine .inl ⟨e, fun settings p hp => ?_⟩
          rw [hread settings p hp, hrest settings _ (hstrict settings p hp)]
        · refine .inr ⟨source :: sources, by rw [List.map_cons, hload, hsources, List.map_cons], ?_⟩
          intro settings p hp
          rw [hread settings p hp, hrest settings _ (hstrict settings p hp), List.flatMap_cons, Pass.run_append]

theorem documented_joined (sources : List Text) :
    documented (sources.flatMap (sourceCalls false)) = (holdings (sources.flatMap placed)).map (·.whole) := by
  have hcalls : sources.flatMap (sourceCalls false) = (sources.flatMap placed).map (.block ·.block) := by
    rw [List.map_flatMap]
    refine congrArg (List.flatMap · sources) (funext fun source => ?_)
    rw [sourceCalls, ← map_block_placed, List.map_map]
    rfl
  rw [hcalls, documented_eq_whole]

/-- The classes of a lenient load by the setting, or the reason why there are none. -/
theorem readClasses_resetPerFile (tree : Folder) (root : Text) {settings : Settings}
    (hlenient : settings.strict = false) :
    (∃ e, ∀ reset, readClasses tree root { settings with resetPerFile := reset } = .error e) ∨
    (∃ (paths : List Text) (sources : List Text), sourcePaths tree root settings = .ok paths ∧
      paths.map tree.load = sources.map .ok ∧
      ∀ reset, readClasses tree root { settings with resetPerFile := reset } =
        .ok (documented (sources.flatMap (sourceCalls reset)))) := by
  have hread (reset : Bool) : readClasses tree root { settings with resetPerFile := reset } =
      (sourcePaths tree root settings).bind fun paths =>
        (readSources tree { settings with resetPerFile := reset } (.start false) paths).map (·.classes) := by
    rw [readClasses_eq_bind, ← hlenient]
    rfl
  cases hpaths : sourcePaths tree root settings with
  | error e =>
    refine .inl ⟨e, fun reset => ?_⟩
    rw [hread, hpaths]
    rfl
  | ok paths =>
    obtain ⟨e, herror⟩ | ⟨sources, hsources, hok⟩ := readSources_lenient tree paths
    · refine .inl ⟨e, fun reset => ?_⟩
      simp only [hread, hpaths, Except.bind, herror _ (.start false) rfl]
      rfl
    · refine .inr ⟨paths, sources, rfl, hsources, fun reset => ?_⟩
      have hclasses (calls : List Call) : ((Pass.start false).run calls).classes = documented calls := by
        rw [Pass.classes_run, Pass.attachAll_of_position_none rfl]
        rfl
      simp only [hread, hpaths, Except.bind, hok _ (.start false) rfl, Except.map, hclasses]

/-- In a lenient load, leaving the active class before every file changes no failure. Without one, it
    changes nothing but the functions of the classes, each of which loses those that a file documents
    before its first class. So it changes nothing at all if every file starts with a class. -/
theorem load_resetPerFile (tree : Folder) (root : Text) (settings : Settings)
    (hlenient : settings.strict = false) :
    let on : Settings := { settings with resetPerFile := true }
    let off : Settings := { settings with resetPerFile := false }
    (∃ e, load tree root on = .error e ∧ load tree root off = .error e) ∨
    ∃ (paths : List Text) (sources : List Text) (apart joined : Repository),
      sourcePaths tree root settings = .ok paths ∧ paths.map tree.load = sources.map .ok ∧
      load tree root on = .ok apart ∧ load tree root off = .ok joined ∧
      apart = { joined with settings := on, classes := apart.classes } ∧
      joined.classes = (holdings (sources.flatMap placed)).map (·.whole) ∧
      apart.classes = (holdings (sources.flatMap placed)).map (·.late) ∧
      ((∀ source ∈ sources, StartsWithClass source) → apart.classes = joined.classes) := by
  intro on off
  obtain ⟨e, herror⟩ | ⟨paths, sources, hpaths, hsources, hclasses⟩ :=
    readClasses_resetPerFile tree root hlenient
  · refine .inl ⟨e, ?_, ?_⟩
    · rw [load_eq_bind, herror true]
      rfl
    · rw [load_eq_bind, herror false]
      rfl
  · have hon : readClasses tree root on = .ok ((holdings (sources.flatMap placed)).map (·.late)) := by
      rw [hclasses true, (leavesFirst_sources sources).documented_eq]
    have hoff : readClasses tree root off = .ok ((holdings (sources.flatMap placed)).map (·.whole)) := by
      rw [hclasses false, documented_joined]
    have hreleases : readReleases tree root on = readReleases tree root off := rfl
    have hversion : readVersion tree root on = readVersion tree root off := rfl
    rw [load_eq_bind, load_eq_bind, hon, hoff, hreleases, hversion]
    cases readReleases tree root off with
    | error e => exact .inl ⟨e, rfl, rfl⟩
    | ok releases =>
      cases readVersion tree root off with
      | error e => exact .inl ⟨e, rfl, rfl⟩
      | ok version =>
        exact .inr ⟨paths, sources, { root, settings := on, classes := _, releases, version },
          { root, settings := off, classes := _, releases, version }, hpaths, hsources, rfl, rfl, rfl, rfl, rfl,
          late_eq_whole⟩

/-- A file with a class first, one with a function before its class, and one without a class. -/
def threeFiles : Folder :=
  let file (text : String) : FileEntry := .file (Text.utf8 text.toList)
  ((Folder.empty.put (file "###*\n@class A\n###\n###*\n@method a\n###")
      ["repo".toList, "lib".toList, "a.coffee".toList]).put
    (file "###*\n@method b\n###\n###*\n@class B\n###\n###*\n@method c\n###")
      ["repo".toList, "lib".toList, "b.coffee".toList]).put
    (file "###*\n@method d\n###") ["repo".toList, "lib".toList, "c.coffee".toList]

/-- The names of the functions, class by class. -/
def functionNames (r : Repository) : List (List Text) :=
  r.classes.map fun c => c.functions.map (·.name)

/-- The paths of the three files. -/
def threePaths : List Text :=
  ["repo/lib/a.coffee".toList, "repo/lib/b.coffee".toList, "repo/lib/c.coffee".toList]

theorem sourcePaths_threeFiles : sourcePaths threeFiles "repo".toList {} = .ok threePaths := by
  have hfolder : threeFiles.isFolder "repo".toList = true := by decide +kernel
  have hfound : (({} : Settings).extensions.mapM fun ext =>
      Search.files threeFiles (sourcePattern "repo".toList {} ext)).toOption = some [threePaths, []] := by
    decide +kernel
  have hascending : Ascending Path.order [threePaths, []].flatten := by
    unfold Ascending
    decide +kernel
  exact sourcePaths_of_found hfolder hfound hascending

theorem load_resetPerFile_threeFiles :
    ∃ (sources : List Text) (apart joined : Repository),
      load threeFiles "repo".toList { resetPerFile := true } = .ok apart ∧
      load threeFiles "repo".toList {} = .ok joined ∧
      functionNames joined = [["a".toList, "b".toList], ["c".toList, "d".toList]] ∧
      functionNames apart = [["a".toList], ["c".toList]] ∧
      joined.classes = (holdings (sources.flatMap placed)).map (·.whole) ∧
      apart.classes = (holdings (sources.flatMap placed)).map (·.late) := by
  have hjoined : (load threeFiles "repo".toList {}).toOption.map functionNames =
      some [["a".toList, "b".toList], ["c".toList, "d".toList]] := by
    rw [load_eq_bind, readClasses, sourcePaths_threeFiles]
    decide +kernel
  have hapart : (load threeFiles "repo".toList { resetPerFile := true }).toOption.map functionNames =
      some [["a".toList], ["c".toList]] := by
    have hpaths : sourcePaths threeFiles "repo".toList { resetPerFile := true } = .ok threePaths :=
      sourcePaths_threeFiles
    rw [load_eq_bind, readClasses, hpaths]
    decide +kernel
  obtain ⟨e, -, herror⟩ | ⟨paths, sources, apart, joined, -, -, hon, hoff, -, hwhole, hlate, -⟩ :=
    load_resetPerFile threeFiles "repo".toList {} rfl
  · rw [herror] at hjoined
    cases hjoined
  · rw [hoff] at hjoined
    rw [hon] at hapart
    exact ⟨sources, apart, joined, hon, hoff, Option.some.inj hjoined, Option.some.inj hapart, hwhole, hlate⟩

end Repository

end ApiGuide
