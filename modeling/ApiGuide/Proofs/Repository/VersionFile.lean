import ApiGuide.Proofs.Repository.Load
import ApiGuide.Proofs.SemVer
import ApiGuide.Proofs.Text.Utf8

/-!
The version of a repository is the one that is written in its version file.
-/

namespace ApiGuide

open Text

theorem Folder.isFile_of_lookup {tree : Folder} {path : Text} {content : List UInt8}
    (h : tree.lookup path = .ok (.file content)) : tree.isFile path = true := by
  rw [isFile, h]
  rfl

/-- A file that holds the bytes of a text is read as the text. -/
theorem Folder.load_of_lookup {tree : Folder} {path t : Text} (h : tree.lookup path = .ok (.file (utf8 t))) :
    tree.load path = .ok t := by
  have hread : tree.readText path = .ok t := by
    rw [readText, h]
    simp only [ofUtf8?_utf8]
  rw [load, hread]
  rfl

namespace Repository

theorem readVersion_of_find? {tree : Folder} {root t : Text} {settings : Settings} {v : SemVer}
    (hfile : tree.lookup (Path.join root settings.versionFile) = .ok (.file (utf8 t)))
    (hfind : SemVer.find? t = some v) : readVersion tree root settings = .ok (some v) := by
  simp only [readVersion, Folder.isFile_of_lookup hfile, if_true, Folder.load_of_lookup hfile, hfind]

/-- A version that is written into the version file is the version of the repository and makes its tag,
    whatever stands before and after it: no digit before it, and after it nothing that could be a part of
    it. -/
theorem load_version_of_versionFile {tree : Folder} {root : Text} {settings : Settings}
    {classes : List ClassDoc} {releases : List Release} (hclasses : readClasses tree root settings = .ok classes)
    (hreleases : readReleases tree root settings = .ok releases) {v : SemVer} (hv : v.Valid)
    {before after : Text} (hbefore : ∀ c ∈ before, isDecimalDigit c = false) (hafter : SemVer.EndsVersion after)
    (hfile : tree.lookup (Path.join root settings.versionFile) =
      .ok (.file (utf8 (before ++ (v.toText ++ after))))) :
    ∃ r, load tree root settings = .ok r ∧ r.version = some v ∧ r.versionTag = some ('v' :: v.toText) := by
  have hversion : readVersion tree root settings = .ok (some v) :=
    readVersion_of_find? hfile (SemVer.find?_toText hv hbefore hafter)
  refine ⟨{ root, settings, classes, releases, version := some v }, ?_, rfl, rfl⟩
  rw [load_eq_bind, hclasses, hreleases, hversion]
  rfl

/-- The largest patch number, a pre-release part that only looks like a number with zeros in front, and a
    build part that is one. -/
def largePatch : SemVer :=
  ⟨2, 0, 18446744073709551615, ["rc".toList, "0-1".toList], ["007".toList]⟩

/-- What a version file may have before the version. -/
def versionLead : Text :=
  "module Unpoly\n  VERSION = '".toList

/-- What a version file may have after the version. Only the first version counts. -/
def versionTrail : Text :=
  "' # after 1.0.0\nend\n".toList

/-- A source, a changelog and a version file. -/
def versionedFiles : Folder :=
  ((Folder.empty.put (.file (utf8 "###*\n@class up\n###\n".toList))
      ["repo".toList, "lib".toList, "a.coffee".toList]).put
    (.file (utf8 "1.0.0\n-----\nFirst\n".toList)) ["repo".toList, "CHANGELOG.md".toList]).put
    (.file (utf8 (versionLead ++ (largePatch.toText ++ versionTrail))))
      ["repo".toList, "lib".toList, "unpoly".toList, "rails".toList, "version.rb".toList]

theorem largePatch_valid : largePatch.Valid where
  major_lt := by decide
  minor_lt := by decide
  patch_lt := by decide
  pre_identifier := by decide
  pre_plain := by
    intro part hpart hdigits
    have hother : ∀ part ∈ largePatch.pre, part.all Char.isDigit = false := by decide
    rw [← List.all_eq_true, hother part hpart] at hdigits
    cases hdigits
  build_identifier := by decide

theorem sourcePaths_versionedFiles :
    sourcePaths versionedFiles "repo".toList {} = .ok ["repo/lib/a.coffee".toList] := by
  have hfolder : versionedFiles.isFolder "repo".toList = true := by decide +kernel
  have hfound : (({} : Settings).extensions.mapM fun ext =>
      Search.files versionedFiles (sourcePattern "repo".toList {} ext)).toOption =
        some [["repo/lib/a.coffee".toList], []] := by
    decide +kernel
  exact sourcePaths_of_found hfolder hfound (List.pairwise_singleton _ _)

theorem load_version_of_versionedFiles :
    ∃ r, load versionedFiles "repo".toList {} = .ok r ∧ r.version = some largePatch ∧
      r.versionTag = some "v2.0.18446744073709551615-rc.0-1+007".toList := by
  have hclasses : ((readClasses versionedFiles "repo".toList {}).toOption.map (·.map (·.name))) =
      some ["up".toList] := by
    rw [readClasses, sourcePaths_versionedFiles]
    decide +kernel
  have hreleases : ((readReleases versionedFiles "repo".toList {}).toOption.map Changelog.versions) =
      some ["1.0.0".toList] := by
    decide +kernel
  have hnumberless : versionLead.all (!isDecimalDigit ·) = true := by decide +kernel
  have hlead : ∀ c ∈ versionLead, isDecimalDigit c = false := by simpa using hnumberless
  have htrail : SemVer.EndsVersion versionTrail := by
    rintro c ⟨⟩
    decide
  have htag : largePatch.toText = "2.0.18446744073709551615-rc.0-1+007".toList := by decide +kernel
  cases hread : readClasses versionedFiles "repo".toList {} with
  | error e =>
    rw [hread] at hclasses
    cases hclasses
  | ok classes =>
    cases hchangelog : readReleases versionedFiles "repo".toList {} with
    | error e =>
      rw [hchangelog] at hreleases
      cases hreleases
    | ok releases =>
      obtain ⟨r, hload, hversion, hwritten⟩ :=
        load_version_of_versionFile hread hchangelog largePatch_valid hlead htrail rfl
      rw [htag] at hwritten
      exact ⟨r, hload, hversion, hwritten⟩

end Repository

end ApiGuide
