import ApiGuide.Proofs.Files.Sorted
import ApiGuide.Repository

/-!
What a load reads, and in which order. The extensions of sources matter to it only by the sources that
they find.
-/

namespace ApiGuide.Repository

/-- What the extensions find is all that is read, as it stands if it is in order. -/
theorem sourcePaths_of_found {tree : Folder} {root : Text} {settings : Settings} {found : List (List Text)}
    (hroot : tree.isFolder root = true)
    (hfound : (settings.extensions.mapM fun ext =>
      Search.files tree (sourcePattern root settings ext)).toOption = some found)
    (hascending : Ascending Path.order found.flatten) : sourcePaths tree root settings = .ok found.flatten := by
  rw [sourcePaths, if_pos hroot]
  split
  · next e herror =>
    rw [herror] at hfound
    cases hfound
  · next other hok =>
    rw [hok] at hfound
    obtain rfl := Option.some.inj hfound
    exact congrArg _ (Search.sorted_of_ascending hascending)

theorem readClasses_eq_bind (tree : Folder) (root : Text) (settings : Settings) :
    readClasses tree root settings =
      (sourcePaths tree root settings).bind fun paths =>
        (readSources tree settings (.start settings.strict) paths).map (·.classes) := by
  rw [readClasses]
  cases sourcePaths tree root settings <;> rfl

/-- A load reads the classes, the releases and the version, in this order. -/
theorem load_eq_bind (tree : Folder) (root : Text) (settings : Settings) :
    load tree root settings =
      (readClasses tree root settings).bind fun classes =>
        (readReleases tree root settings).bind fun releases =>
          (readVersion tree root settings).map fun version =>
            { root, settings, classes, releases, version } := by
  unfold load reload
  dsimp only
  cases readClasses tree root settings with
  | error e => rfl
  | ok classes =>
    cases readReleases tree root settings with
    | error e => rfl
    | ok releases => cases readVersion tree root settings <;> rfl

theorem readSources_extensions (tree : Folder) (settings : Settings) (extensions : List Text) (pass : Pass)
    (paths : List Text) :
    readSources tree { settings with extensions } pass paths = readSources tree settings pass paths := by
  induction paths generalizing pass with
  | nil => rfl
  | cons path rest ih =>
    simp only [readSources, ih]

/-- A load shows of the extensions only which sources they find. -/
theorem load_extensions {tree : Folder} {root : Text} {settings : Settings} {extensions : List Text}
    (h : sourcePaths tree root { settings with extensions } = sourcePaths tree root settings) :
    load tree root { settings with extensions } =
      (load tree root settings).map ({ · with settings := { settings with extensions } }) := by
  have hclasses : readClasses tree root { settings with extensions } = readClasses tree root settings := by
    simp only [readClasses_eq_bind, h, readSources_extensions]
  have hreleases : readReleases tree root { settings with extensions } = readReleases tree root settings := rfl
  have hversion : readVersion tree root { settings with extensions } = readVersion tree root settings := rfl
  rw [load_eq_bind, load_eq_bind, hclasses, hreleases, hversion]
  cases readClasses tree root settings with
  | error e => rfl
  | ok classes =>
    cases readReleases tree root settings with
    | error e => rfl
    | ok releases => cases readVersion tree root settings <;> rfl

end ApiGuide.Repository
