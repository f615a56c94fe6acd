import Lvos.Lib.Table
import Lvos.Lib.Transaction
import Mathlib.Data.Finset.Insert
import Mathlib.Data.List.Perm.Basic

set_option autoImplicit false

namespace Lvos.Desktop

open Relational (Table)
open Transaction (bind_ok_iff)

/-! The update check: a release and its manifest, two documents from outside, held against each
other before an installer is offered. -/

def defaultUpdateChannel : String := "stable"
def githubOwner : String := "wadaxiyang"
def githubRepository : String := "LVOS"
def githubReleasesUrl : String := "https://github.com/wadaxiyang/LVOS/releases"
def githubLatestReleaseApi : String :=
  "https://api.github.com/repos/wadaxiyang/LVOS/releases/latest"
def updateManifestVersion : Nat := 2
def maxUpdateManifestBytes : Nat := 65536
def maxGithubReleaseBytes : Nat := 1048576
def maxUpdateArtifactBytes : Nat := 536870912

inductive UpdateError
  | network
  | invalidManifest
  | invalidReleaseSource
  | invalidVersion
  | unsupportedChannel
  | unsupportedPlatform
  | integrityMismatch
deriving DecidableEq, Repr

structure UpdateTarget where
  platform : String
  architecture : String
deriving DecidableEq, Repr

structure GitHubUpdateConfig where
  owner : String
  repository : String
  releaseApiUrl : String
  releasePageRoot : String
  channel : String
  currentVersion : String
  target : UpdateTarget
deriving DecidableEq, Repr

structure GitHubAsset where
  name : String
  state : String
  size : Nat
  digest : Option String
  browserDownloadUrl : String
deriving DecidableEq, Repr

structure GitHubRelease where
  tagName : String
  htmlUrl : String
  draft : Bool
  prerelease : Bool
  assets : List GitHubAsset
deriving DecidableEq, Repr

structure ManifestArtifact where
  platform : String
  architecture : String
  name : String
  sizeBytes : Nat
  sha256 : String
  downloadUrl : String
deriving DecidableEq, Repr

structure UpdateManifest where
  manifestVersion : Nat
  product : String
  channel : String
  version : String
  releasePage : String
  artifacts : List ManifestArtifact
deriving DecidableEq, Repr

structure UpdateArtifact where
  version : String
  name : String
  platform : String
  architecture : String
  downloadUrl : String
  sha256 : String
  sizeBytes : Nat
deriving DecidableEq, Repr

structure ValidatedRelease where
  version : String
  releasePage : String
  artifact : UpdateArtifact
deriving DecidableEq, Repr

/-- What the check uses of others: the transport, `serde_json` at the two documents and
`semver::Version::parse`. -/
structure UpdateIo where
  get : String → Nat → Except UpdateError (List UInt8)
  release : List UInt8 → Option GitHubRelease
  manifest : List UInt8 → Option UpdateManifest
  parsesVersion : String → Bool

/-- `if … { return Err(error); }`. -/
def rejectIf (refused : Prop) [Decidable refused] (error : UpdateError) :
    Except UpdateError Unit :=
  if refused then .error error else .ok ()

def validSha256 (value : String) : Bool :=
  value.utf8ByteSize == 64 &&
    value.toList.all (fun byte => ('0' ≤ byte && byte ≤ '9') || ('a' ≤ byte && byte ≤ 'f'))

def validateChannel (channel : String) : Except UpdateError Unit :=
  if channel = defaultUpdateChannel then .ok () else .error .unsupportedChannel

def validateConfig (io : UpdateIo) (config : GitHubUpdateConfig) : Except UpdateError Unit := do
  validateChannel config.channel
  rejectIf (config.owner ≠ githubOwner ∨ config.repository ≠ githubRepository ∨
    config.releaseApiUrl ≠ githubLatestReleaseApi ∨
    config.releasePageRoot ≠ githubReleasesUrl) .invalidReleaseSource
  rejectIf (io.parsesVersion config.currentVersion = false) .invalidVersion

/-- The tag of a version. -/
def expectedTag (version : String) : String := "v" ++ version

def expectedPage (config : GitHubUpdateConfig) (version : String) : String :=
  config.releasePageRoot ++ "/tag/" ++ expectedTag version

def validateManifestHeader (io : UpdateIo) (config : GitHubUpdateConfig) (release : GitHubRelease)
    (manifest : UpdateManifest) : Except UpdateError Unit := do
  rejectIf (io.parsesVersion manifest.version = false) .invalidVersion
  rejectIf (manifest.manifestVersion ≠ updateManifestVersion ∨ manifest.product ≠ "LVOS" ∨
    manifest.channel ≠ config.channel ∨ release.tagName ≠ expectedTag manifest.version ∨
    release.htmlUrl ≠ expectedPage config manifest.version ∨
    manifest.releasePage ≠ expectedPage config manifest.version) .invalidManifest

def uniqueAsset (assets : List GitHubAsset) (name : String) : Except UpdateError GitHubAsset :=
  match assets.filter (fun asset => asset.name = name) with
  | [] => .error .invalidManifest
  | [asset] => .ok asset
  | _ :: _ :: _ => .error .invalidManifest

def expectedName (version platform architecture : String) : Option String :=
  if platform = "macos" ∧ architecture = "arm64" then
    some ("LVOS-" ++ version ++ "-macos-arm64.dmg")
  else if platform = "windows" ∧ architecture = "x86_64" then
    some ("LVOS-" ++ version ++ "-windows-x86_64-setup.exe")
  else none

def expectedUrl (config : GitHubUpdateConfig) (version name : String) : String :=
  config.releasePageRoot ++ "/download/v" ++ version ++ "/" ++ name

def validateManifestArtifact (config : GitHubUpdateConfig) (version : String)
    (artifact : ManifestArtifact) : Except UpdateError Unit :=
  match expectedName version artifact.platform artifact.architecture with
  | none => .error .unsupportedPlatform
  | some name =>
      rejectIf (artifact.name ≠ name ∨ artifact.downloadUrl ≠ expectedUrl config version name ∨
        artifact.sizeBytes = 0 ∨ maxUpdateArtifactBytes < artifact.sizeBytes ∨
        validSha256 artifact.sha256 = false) .invalidManifest

def validateAssetSource (config : GitHubUpdateConfig) (tag : String) (asset : GitHubAsset) :
    Except UpdateError Unit :=
  rejectIf (asset.state ≠ "uploaded" ∨
    asset.browserDownloadUrl ≠
      config.releasePageRoot ++ "/download/" ++ tag ++ "/" ++ asset.name) .invalidReleaseSource

def validateReleaseArtifact (config : GitHubUpdateConfig) (tag : String)
    (manifest : ManifestArtifact) (release : GitHubAsset) : Except UpdateError Unit := do
  validateAssetSource config tag release
  rejectIf (release.size ≠ manifest.sizeBytes ∨
    release.digest ≠ some ("sha256:" ++ manifest.sha256) ∨
    release.browserDownloadUrl ≠ manifest.downloadUrl) .integrityMismatch

/-- The first loop of `validated_release`: no two assets of one name. -/
def assetsByName (byName : Table String GitHubAsset) :
    List GitHubAsset → Except UpdateError (Table String GitHubAsset)
  | [] => .ok byName
  | asset :: rest =>
      if (byName.get asset.name).isSome then .error .invalidManifest
      else assetsByName (byName.put asset.name asset) rest

def ManifestArtifact.target (artifact : ManifestArtifact) : UpdateTarget :=
  ⟨artifact.platform, artifact.architecture⟩

/-- The descriptor of an artifact. -/
def describe (manifest : UpdateManifest) (artifact : ManifestArtifact) : UpdateArtifact where
  version := manifest.version
  name := artifact.name
  platform := artifact.platform
  architecture := artifact.architecture
  downloadUrl := artifact.downloadUrl
  sha256 := artifact.sha256
  sizeBytes := artifact.sizeBytes

/-- What the second loop carries: the targets seen and the artifact selected. -/
structure Progress where
  targets : Finset UpdateTarget
  selected : Option UpdateArtifact
deriving DecidableEq

def checkArtifact (config : GitHubUpdateConfig) (release : GitHubRelease)
    (manifest : UpdateManifest) (byName : Table String GitHubAsset) (progress : Progress)
    (artifact : ManifestArtifact) : Except UpdateError Progress := do
  rejectIf (artifact.target ∈ progress.targets) .invalidManifest
  let targets := insert artifact.target progress.targets
  validateManifestArtifact config manifest.version artifact
  match byName.get artifact.name with
  | none => throw .invalidManifest
  | some asset =>
      validateReleaseArtifact config release.tagName artifact asset
      if artifact.platform = config.target.platform ∧
          artifact.architecture = config.target.architecture then
        rejectIf (progress.selected.isSome = true) .invalidManifest
        pure ⟨targets, some (describe manifest artifact)⟩
      else pure ⟨targets, progress.selected⟩

def expectedTargets : List UpdateTarget := [⟨"macos", "arm64"⟩, ⟨"windows", "x86_64"⟩]

/-- `validated_release` up to the request for the manifest. -/
def manifestAsset (config : GitHubUpdateConfig) (release : GitHubRelease) :
    Except UpdateError GitHubAsset := do
  rejectIf (release.draft = true ∨
    (config.channel = defaultUpdateChannel ∧ release.prerelease = true)) .invalidManifest
  let asset ← uniqueAsset release.assets ("lvos-update-" ++ config.channel ++ ".json")
  validateAssetSource config release.tagName asset
  pure asset

/-- `validated_release` from the manifest on. -/
def checkManifest (io : UpdateIo) (config : GitHubUpdateConfig) (release : GitHubRelease)
    (manifest : UpdateManifest) : Except UpdateError ValidatedRelease := do
  validateManifestHeader io config release manifest
  let byName ← assetsByName Table.empty release.assets
  let progress ← manifest.artifacts.foldlM (checkArtifact config release manifest byName)
    ⟨∅, none⟩
  rejectIf (progress.targets ≠ expectedTargets.toFinset) .invalidManifest
  match progress.selected with
  | none => throw .unsupportedPlatform
  | some artifact => pure ⟨manifest.version, manifest.releasePage, artifact⟩

def fetchRelease (io : UpdateIo) (config : GitHubUpdateConfig) :
    Except UpdateError GitHubRelease := do
  let bytes ← io.get config.releaseApiUrl maxGithubReleaseBytes
  match io.release bytes with
  | none => throw .invalidManifest
  | some release => pure release

def fetchManifest (io : UpdateIo) (asset : GitHubAsset) : Except UpdateError UpdateManifest := do
  let bytes ← io.get asset.browserDownloadUrl maxUpdateManifestBytes
  match io.manifest bytes with
  | none => throw .invalidManifest
  | some manifest => pure manifest

def validatedRelease (io : UpdateIo) (config : GitHubUpdateConfig) :
    Except UpdateError ValidatedRelease := do
  validateConfig io config
  let release ← fetchRelease io config
  let asset ← manifestAsset config release
  let manifest ← fetchManifest io asset
  checkManifest io config release manifest

@[simp] theorem rejectIf_ok_iff {refused : Prop} [Decidable refused] {error : UpdateError}
    {passed : Unit} : rejectIf refused error = .ok passed ↔ ¬refused := by
  by_cases stops : refused <;> simp [rejectIf, stops]

/-- An outcome of `()` says no more than that there is one. -/
theorem exists_unit_iff {holds : Unit → Prop} : (∃ passed, holds passed) ↔ holds () :=
  ⟨fun ⟨_, holds⟩ => holds, fun holds => ⟨(), holds⟩⟩

theorem uniqueAsset_ok_iff {assets : List GitHubAsset} {name : String} {asset : GitHubAsset} :
    uniqueAsset assets name = .ok asset ↔
      assets.filter (fun asset => asset.name = name) = [asset] := by
  unfold uniqueAsset
  split
  case h_1 none => simp [none]
  case h_2 found one => simp [one]
  case h_3 first second rest several => simp [several]

theorem manifestAsset_ok_iff {config : GitHubUpdateConfig} {release : GitHubRelease}
    {asset : GitHubAsset} :
    manifestAsset config release = .ok asset ↔
      ¬(release.draft = true ∨
        (config.channel = defaultUpdateChannel ∧ release.prerelease = true)) ∧
      uniqueAsset release.assets ("lvos-update-" ++ config.channel ++ ".json") = .ok asset ∧
      validateAssetSource config release.tagName asset = .ok () := by
  simp only [manifestAsset, bind_ok_iff, exists_unit_iff, rejectIf_ok_iff, pure, Except.pure,
    Except.ok.injEq]
  constructor
  · rintro ⟨published, found, unique, source, rfl⟩
    exact ⟨published, unique, source⟩
  · rintro ⟨published, unique, source⟩
    exact ⟨published, asset, unique, source, rfl⟩

theorem assetsByName_ok {byName table : Table String GitHubAsset} {assets : List GitHubAsset}
    (indexed : assetsByName byName assets = .ok table) :
    (assets.map (·.name)).Nodup ∧ (∀ asset ∈ assets, byName.get asset.name = none) ∧
      ∀ name asset, table.get name = some asset ↔
        byName.get name = some asset ∨ (asset ∈ assets ∧ asset.name = name) := by
  induction assets generalizing byName with
  | nil =>
      simp only [assetsByName, Except.ok.injEq] at indexed
      simp [indexed]
  | cons first rest ih =>
      by_cases known : (byName.get first.name).isSome
      · simp only [assetsByName, known, ↓reduceIte, reduceCtorEq] at indexed
      · simp only [assetsByName, known] at indexed
        obtain ⟨distinct, fresh, found⟩ := ih indexed
        have unseen : byName.get first.name = none := by simpa using known
        have apart : ∀ asset ∈ rest, asset.name ≠ first.name := by
          intro asset member same
          have gone := fresh asset member
          rw [Table.get_put, if_pos same] at gone
          cases gone
        refine ⟨?_, ?_, ?_⟩
        · rw [List.map_cons, List.nodup_cons]
          refine ⟨?_, distinct⟩
          intro again
          obtain ⟨asset, member, same⟩ := List.mem_map.mp again
          exact apart asset member same
        · intro asset member
          rcases List.mem_cons.mp member with same | later
          · rw [same, unseen]
          · have gone := fresh asset later
            rwa [Table.get_put, if_neg (apart asset later)] at gone
        · intro name asset
          rw [found, Table.get_put, List.mem_cons]
          by_cases asked : name = first.name
          · subst asked
            simp only [↓reduceIte, Option.some.injEq, unseen, reduceCtorEq, false_or]
            constructor
            · rintro (rfl | ⟨member, same⟩)
              · exact ⟨Or.inl rfl, rfl⟩
              · exact ⟨Or.inr member, same⟩
            · rintro ⟨rfl | member, same⟩
              · exact Or.inl rfl
              · exact Or.inr ⟨member, same⟩
          · simp only [asked, ↓reduceIte]
            constructor
            · rintro (before | ⟨member, same⟩)
              · exact Or.inl before
              · exact Or.inr ⟨Or.inr member, same⟩
            · rintro (before | ⟨rfl | member, same⟩)
              · exact Or.inl before
              · exact absurd same.symm asked
              · exact Or.inr ⟨member, same⟩

theorem assetsByName_total {byName : Table String GitHubAsset} {assets : List GitHubAsset}
    (distinct : (assets.map (·.name)).Nodup)
    (fresh : ∀ asset ∈ assets, byName.get asset.name = none) :
    ∃ table, assetsByName byName assets = .ok table := by
  induction assets generalizing byName with
  | nil => exact ⟨byName, rfl⟩
  | cons first rest ih =>
      obtain ⟨apart, later⟩ := List.nodup_cons.mp distinct
      have unseen : byName.get first.name = none := fresh first List.mem_cons_self
      simp only [assetsByName, unseen, Option.isSome_none, Bool.false_eq_true, ↓reduceIte]
      apply ih later
      intro asset member
      have differs : asset.name ≠ first.name :=
        fun same => apart (List.mem_map.mpr ⟨asset, member, same⟩)
      rw [Table.get_put, if_neg differs]
      exact fresh asset (List.mem_cons_of_mem first member)

/-- The map of the first loop finds an asset by its name. -/
theorem indexed_lookup {release : GitHubRelease} {byName : Table String GitHubAsset}
    (indexed : assetsByName Table.empty release.assets = .ok byName) (name : String)
    (asset : GitHubAsset) :
    byName.get name = some asset ↔ asset ∈ release.assets ∧ asset.name = name := by
  rw [(assetsByName_ok indexed).2.2, Table.get_empty]
  simp

/-- An artifact agrees with its asset, whatever stands around them. -/
def Matched (config : GitHubUpdateConfig) (release : GitHubRelease) (version : String)
    (artifact : ManifestArtifact) : Prop :=
  validateManifestArtifact config version artifact = .ok () ∧
    ∃ asset ∈ release.assets, asset.name = artifact.name ∧
      validateReleaseArtifact config release.tagName artifact asset = .ok ()

/-- What the second loop holds after these artifacts. -/
def progressOf (config : GitHubUpdateConfig) (manifest : UpdateManifest)
    (artifacts : List ManifestArtifact) : Progress where
  targets := (artifacts.map (·.target)).toFinset
  selected :=
    (artifacts.find? (fun artifact => artifact.target = config.target)).map (describe manifest)

section Loop

variable {config : GitHubUpdateConfig} {release : GitHubRelease} {manifest : UpdateManifest}
  {byName : Table String GitHubAsset}

theorem progressOf_concat (before : List ManifestArtifact) (artifact : ManifestArtifact)
    (apart : artifact.target ∉ before.map (·.target)) :
    progressOf config manifest (before ++ [artifact]) =
      ⟨insert artifact.target (progressOf config manifest before).targets,
        if artifact.target = config.target then some (describe manifest artifact)
        else (progressOf config manifest before).selected⟩ := by
  have targets : ((before ++ [artifact]).map (·.target)).toFinset =
      insert artifact.target (before.map (·.target)).toFinset := by
    ext target
    rw [List.mem_toFinset, Finset.mem_insert, List.mem_toFinset, List.map_append, List.mem_append,
      List.map_singleton, List.mem_singleton, or_comm]
  simp only [progressOf, targets, List.find?_append, Progress.mk.injEq, true_and]
  by_cases chosen : artifact.target = config.target
  · have none_before : before.find? (fun artifact => artifact.target = config.target) = none := by
      rw [List.find?_eq_none]
      intro other member same
      exact apart (List.mem_map.mpr ⟨other, member, (of_decide_eq_true same).trans chosen.symm⟩)
    simp [none_before, chosen]
  · simp [chosen]

/-- No target twice, so the selection is made once. -/
theorem selected_none {before : List ManifestArtifact} {target : UpdateTarget}
    (apart : target ∉ before.map (·.target)) (chosen : target = config.target) :
    (progressOf config manifest before).selected = none := by
  simp only [progressOf, Option.map_eq_none_iff, List.find?_eq_none]
  intro other member same
  exact apart (List.mem_map.mpr ⟨other, member, (of_decide_eq_true same).trans chosen.symm⟩)

theorem target_eq_iff (artifact : ManifestArtifact) (target : UpdateTarget) :
    artifact.target = target ↔
      artifact.platform = target.platform ∧ artifact.architecture = target.architecture := by
  cases target
  simp [ManifestArtifact.target]

theorem checkArtifact_ok_iff
    (indexed : ∀ name asset, byName.get name = some asset ↔
      asset ∈ release.assets ∧ asset.name = name)
    (before : List ManifestArtifact) (artifact : ManifestArtifact) (progress : Progress) :
    checkArtifact config release manifest byName (progressOf config manifest before) artifact =
        .ok progress ↔
      artifact.target ∉ before.map (·.target) ∧
        Matched config release manifest.version artifact ∧
        progressOf config manifest (before ++ [artifact]) = progress := by
  simp only [checkArtifact, bind_ok_iff, exists_unit_iff, rejectIf_ok_iff, ← target_eq_iff]
  have seen : artifact.target ∈ (progressOf config manifest before).targets ↔
      artifact.target ∈ before.map (·.target) := by
    rw [progressOf, List.mem_toFinset]
  rw [seen]
  apply and_congr_right
  intro apart
  rw [progressOf_concat before artifact apart, Matched, and_assoc]
  apply and_congr_right
  intro _
  split
  case h_1 absent =>
    constructor
    · rintro ⟨⟩
    · rintro ⟨⟨asset, member, same, _⟩, _⟩
      rw [(indexed artifact.name asset).mpr ⟨member, same⟩] at absent
      cases absent
  case h_2 asset found =>
    have known := (indexed artifact.name asset).mp found
    have only : (∃ asset ∈ release.assets, asset.name = artifact.name ∧
        validateReleaseArtifact config release.tagName artifact asset = .ok ()) ↔
        validateReleaseArtifact config release.tagName artifact asset = .ok () := by
      constructor
      · rintro ⟨other, member, same, agrees⟩
        rw [(indexed artifact.name other).mpr ⟨member, same⟩] at found
        cases found
        exact agrees
      · intro agrees
        exact ⟨asset, known.1, known.2, agrees⟩
    rw [only, bind_ok_iff, exists_unit_iff]
    apply and_congr_right
    intro _
    by_cases chosen : artifact.target = config.target
    · simp [chosen, selected_none apart chosen, bind_ok_iff, pure, Except.pure]
    · simp [chosen, pure, Except.pure]

theorem checkArtifacts_ok_iff
    (indexed : ∀ name asset, byName.get name = some asset ↔
      asset ∈ release.assets ∧ asset.name = name)
    (artifacts : List ManifestArtifact) (progress : Progress) :
    artifacts.foldlM (checkArtifact config release manifest byName) ⟨∅, none⟩ = .ok progress ↔
      (artifacts.map (·.target)).Nodup ∧
        (∀ artifact ∈ artifacts, Matched config release manifest.version artifact) ∧
        progressOf config manifest artifacts = progress := by
  induction artifacts using List.reverseRecOn generalizing progress with
  | nil => simp [progressOf, pure, Except.pure]
  | append_singleton before artifact ih =>
      have distinct : ((before ++ [artifact]).map (·.target)).Nodup ↔
          artifact.target ∉ before.map (·.target) ∧ (before.map (·.target)).Nodup := by
        rw [List.map_append, List.map_singleton, ← List.concat_eq_append, List.nodup_concat]
      have matched : (∀ other ∈ before ++ [artifact],
            Matched config release manifest.version other) ↔
          (∀ other ∈ before, Matched config release manifest.version other) ∧
            Matched config release manifest.version artifact := by
        rw [List.forall_mem_append, List.forall_mem_singleton]
      rw [List.foldlM_append, bind_ok_iff, distinct, matched]
      simp only [ih, List.foldlM_cons, List.foldlM_nil, bind_pure]
      constructor
      · rintro ⟨_, ⟨unique, earlier, rfl⟩, step⟩
        obtain ⟨apart, fits, same⟩ := (checkArtifact_ok_iff indexed before artifact _).mp step
        exact ⟨⟨apart, unique⟩, ⟨earlier, fits⟩, same⟩
      · rintro ⟨⟨apart, unique⟩, ⟨earlier, fits⟩, same⟩
        exact ⟨_, ⟨unique, earlier, rfl⟩,
          (checkArtifact_ok_iff indexed before artifact _).mpr ⟨apart, fits, same⟩⟩

end Loop

/-- What `validated_release` establishes of the two documents, by membership alone. -/
structure Validates (io : UpdateIo) (config : GitHubUpdateConfig) (release : GitHubRelease)
    (manifest : UpdateManifest) (validated : ValidatedRelease) : Prop where
  header : validateManifestHeader io config release manifest = .ok ()
  names : (release.assets.map (·.name)).Nodup
  targets : (manifest.artifacts.map (·.target)).Perm expectedTargets
  matched : ∀ artifact ∈ manifest.artifacts, Matched config release manifest.version artifact
  selected : ∃ artifact ∈ manifest.artifacts, artifact.target = config.target ∧
    validated = ⟨manifest.version, manifest.releasePage, describe manifest artifact⟩

theorem expectedTargets_nodup : expectedTargets.Nodup := by decide

/-- The target of an artifact decides which one it is. -/
theorem artifact_of_target {artifacts : List ManifestArtifact}
    (distinct : (artifacts.map (·.target)).Nodup) {first second : ManifestArtifact}
    (left : first ∈ artifacts) (right : second ∈ artifacts)
    (same : first.target = second.target) : first = second :=
  List.inj_on_of_nodup_map distinct left right same

theorem checkManifest_ok_iff {io : UpdateIo} {config : GitHubUpdateConfig}
    {release : GitHubRelease} {manifest : UpdateManifest} {validated : ValidatedRelease} :
    checkManifest io config release manifest = .ok validated ↔
      Validates io config release manifest validated := by
  simp only [checkManifest, bind_ok_iff, exists_unit_iff, rejectIf_ok_iff, not_not]
  constructor
  · rintro ⟨header, byName, indexed, progress, checked, complete, chosen⟩
    obtain ⟨distinct, matched, rfl⟩ :=
      (checkArtifacts_ok_iff (indexed_lookup indexed) _ _).mp checked
    refine ⟨header, (assetsByName_ok indexed).1, ?_, matched, ?_⟩
    · exact List.perm_of_nodup_nodup_toFinset_eq distinct expectedTargets_nodup complete
    · cases picked : manifest.artifacts.find? (fun artifact => artifact.target = config.target) with
      | none =>
          simp only [progressOf, picked, Option.map_none] at chosen
          cases chosen
      | some artifact =>
          simp only [progressOf, picked, Option.map_some, pure, Except.pure,
            Except.ok.injEq] at chosen
          exact ⟨artifact, List.mem_of_find?_eq_some picked,
            by simpa using List.find?_some picked, chosen.symm⟩
  · rintro ⟨header, names, targets, matched, artifact, member, chosen, rfl⟩
    obtain ⟨byName, indexed⟩ :=
      assetsByName_total names (fun asset _ => Table.get_empty asset.name)
    have distinct : (manifest.artifacts.map (·.target)).Nodup :=
      targets.nodup_iff.mpr expectedTargets_nodup
    have complete : (manifest.artifacts.map (·.target)).toFinset = expectedTargets.toFinset :=
      List.toFinset_eq_of_perm _ _ targets
    have picked : manifest.artifacts.find? (fun artifact => artifact.target = config.target) =
        some artifact := by
      cases first : manifest.artifacts.find? (fun artifact => artifact.target = config.target) with
      | none => exact absurd (decide_eq_true chosen) (List.find?_eq_none.mp first artifact member)
      | some found =>
          have same : found.target = config.target := by simpa using List.find?_some first
          rw [artifact_of_target distinct (List.mem_of_find?_eq_some first) member
            (same.trans chosen.symm)]
    refine ⟨header, byName, indexed, _,
      (checkArtifacts_ok_iff (indexed_lookup indexed) _ _).mpr ⟨distinct, matched, rfl⟩,
      complete, ?_⟩
    simp only [progressOf, picked, Option.map_some]
    rfl

/-- An uploaded asset is the file a manifest lists. -/
def Agrees (artifact : ManifestArtifact) (asset : GitHubAsset) : Prop :=
  asset.state = "uploaded" ∧ asset.name = artifact.name ∧
    asset.browserDownloadUrl = artifact.downloadUrl ∧ asset.size = artifact.sizeBytes ∧
    asset.digest = some ("sha256:" ++ artifact.sha256)

instance (artifact : ManifestArtifact) (asset : GitHubAsset) :
    Decidable (Agrees artifact asset) := by
  unfold Agrees
  infer_instance

section Matches

variable {config : GitHubUpdateConfig} {release : GitHubRelease} {version : String}
  {artifact : ManifestArtifact}

theorem expectedName_of_matched (matched : Matched config release version artifact) :
    expectedName version artifact.platform artifact.architecture = some artifact.name ∧
      artifact.downloadUrl = expectedUrl config version artifact.name := by
  have valid := matched.1
  unfold validateManifestArtifact at valid
  split at valid
  case h_1 unknown => cases valid
  case h_2 name expected =>
    simp only [rejectIf_ok_iff, not_or, not_not] at valid
    obtain ⟨named, located, -⟩ := valid
    exact ⟨by rw [expected, named], by rw [located, named]⟩

theorem agrees_of_matched (matched : Matched config release version artifact) :
    ∃ asset ∈ release.assets, Agrees artifact asset := by
  obtain ⟨-, asset, member, named, valid⟩ := matched
  simp only [validateReleaseArtifact, validateAssetSource, bind_ok_iff, exists_unit_iff,
    rejectIf_ok_iff, not_or, not_not] at valid
  obtain ⟨⟨uploaded, -⟩, size, digest, located⟩ := valid
  exact ⟨asset, member, uploaded, named, located, size, digest⟩

/-- No two assets of one name, so one asset at most is that file. -/
theorem agrees_once {assets : List GitHubAsset} (names : (assets.map (·.name)).Nodup)
    (uploaded : ∃ asset ∈ assets, Agrees artifact asset) :
    assets.countP (Agrees artifact) = 1 := by
  obtain ⟨asset, member, agrees⟩ := uploaded
  have some_asset : 0 < assets.countP (Agrees artifact) :=
    List.countP_pos_iff.mpr ⟨asset, member, decide_eq_true agrees⟩
  have named : assets.countP (Agrees artifact) ≤ (assets.map (·.name)).count artifact.name := by
    rw [List.count, List.countP_map]
    apply List.countP_mono_left
    intro other _ fits
    have same : other.name = artifact.name := (of_decide_eq_true fits).2.1
    simp [same]
  have once := List.nodup_iff_count_le_one.mp names artifact.name
  omega

end Matches

/-- Two transports with the same documents, but for the order of the assets and artifacts. -/
structure Reordered (config : GitHubUpdateConfig) (io io' : UpdateIo) : Prop where
  parsesVersion : io'.parsesVersion = io.parsesVersion
  release : ∀ release, fetchRelease io config = .ok release →
    ∃ assets, assets.Perm release.assets ∧
      fetchRelease io' config = .ok { release with assets := assets }
  manifest : ∀ asset manifest, fetchManifest io asset = .ok manifest →
    ∃ artifacts, artifacts.Perm manifest.artifacts ∧
      fetchManifest io' asset = .ok { manifest with artifacts := artifacts }

theorem manifestAsset_reordered {config : GitHubUpdateConfig} {release : GitHubRelease}
    {asset : GitHubAsset} {assets : List GitHubAsset} (reordered : assets.Perm release.assets)
    (found : manifestAsset config release = .ok asset) :
    manifestAsset config { release with assets := assets } = .ok asset := by
  rw [manifestAsset_ok_iff, uniqueAsset_ok_iff] at found ⊢
  obtain ⟨published, unique, source⟩ := found
  refine ⟨published, ?_, source⟩
  rw [← List.perm_singleton, ← unique]
  exact reordered.filter _

theorem Validates.reordered {io io' : UpdateIo} {config : GitHubUpdateConfig}
    {release : GitHubRelease} {manifest : UpdateManifest} {validated : ValidatedRelease}
    (validates : Validates io config release manifest validated)
    (parses : io'.parsesVersion = io.parsesVersion) {assets : List GitHubAsset}
    (assetsReordered : assets.Perm release.assets) {artifacts : List ManifestArtifact}
    (artifactsReordered : artifacts.Perm manifest.artifacts) :
    Validates io' config { release with assets := assets }
      { manifest with artifacts := artifacts } validated where
  header := by
    have header := validates.header
    simp only [validateManifestHeader] at header ⊢
    rw [parses]
    exact header
  names := (assetsReordered.map (·.name)).nodup_iff.mpr validates.names
  targets := (artifactsReordered.map (·.target)).trans validates.targets
  matched := by
    intro artifact member
    obtain ⟨valid, asset, stored, agrees⟩ :=
      validates.matched artifact (artifactsReordered.mem_iff.mp member)
    exact ⟨valid, asset, assetsReordered.mem_iff.mpr stored, agrees⟩
  selected := by
    obtain ⟨artifact, member, chosen, same⟩ := validates.selected
    exact ⟨artifact, artifactsReordered.mem_iff.mpr member, chosen, same⟩

theorem validatedRelease_ok_iff {io : UpdateIo} {config : GitHubUpdateConfig}
    {validated : ValidatedRelease} :
    validatedRelease io config = .ok validated ↔
      validateConfig io config = .ok () ∧ ∃ release asset manifest,
        fetchRelease io config = .ok release ∧ manifestAsset config release = .ok asset ∧
        fetchManifest io asset = .ok manifest ∧
        Validates io config release manifest validated := by
  simp only [validatedRelease, bind_ok_iff, exists_unit_iff, checkManifest_ok_iff]
  constructor
  · rintro ⟨configured, release, fetched, asset, found, manifest, read, validates⟩
    exact ⟨configured, release, asset, manifest, fetched, found, read, validates⟩
  · rintro ⟨configured, release, asset, manifest, fetched, found, read, validates⟩
    exact ⟨configured, release, fetched, asset, found, manifest, read, validates⟩

theorem validatedRelease_reordered {io io' : UpdateIo} {config : GitHubUpdateConfig}
    {validated : ValidatedRelease} (reordered : Reordered config io io')
    (accepted : validatedRelease io config = .ok validated) :
    validatedRelease io' config = .ok validated := by
  rw [validatedRelease_ok_iff] at accepted ⊢
  obtain ⟨configured, release, asset, manifest, fetched, found, read, validates⟩ := accepted
  obtain ⟨assets, assetsReordered, fetchedAgain⟩ := reordered.release release fetched
  obtain ⟨artifacts, artifactsReordered, readAgain⟩ := reordered.manifest asset manifest read
  refine ⟨?_, _, asset, _, fetchedAgain, manifestAsset_reordered assetsReordered found,
    readAgain, validates.reordered reordered.parsesVersion assetsReordered artifactsReordered⟩
  simp only [validateConfig] at configured ⊢
  rw [reordered.parsesVersion]
  exact configured

theorem header_of_ok {io : UpdateIo} {config : GitHubUpdateConfig} {release : GitHubRelease}
    {manifest : UpdateManifest}
    (header : validateManifestHeader io config release manifest = .ok ()) :
    io.parsesVersion manifest.version = true ∧ release.tagName = expectedTag manifest.version ∧
      manifest.releasePage = expectedPage config manifest.version := by
  simp only [validateManifestHeader, bind_ok_iff, exists_unit_iff, rejectIf_ok_iff,
    Bool.not_eq_false, not_or, not_not] at header
  obtain ⟨parses, -, -, -, tagged, -, page⟩ := header
  exact ⟨parses, tagged, page⟩

/-- The same documents, their lists in another order. -/
def UpdateIo.inOrder (io : UpdateIo) (assets : List GitHubAsset → List GitHubAsset)
    (artifacts : List ManifestArtifact → List ManifestArtifact) : UpdateIo :=
  { io with
    release := fun bytes =>
      (io.release bytes).map fun release => { release with assets := assets release.assets }
    manifest := fun bytes =>
      (io.manifest bytes).map fun manifest =>
        { manifest with artifacts := artifacts manifest.artifacts } }

theorem reordered_inOrder (config : GitHubUpdateConfig) (io : UpdateIo)
    {assets : List GitHubAsset → List GitHubAsset} (assetsPerm : ∀ list, (assets list).Perm list)
    {artifacts : List ManifestArtifact → List ManifestArtifact}
    (artifactsPerm : ∀ list, (artifacts list).Perm list) :
    Reordered config io (io.inOrder assets artifacts) where
  parsesVersion := rfl
  release := by
    intro release fetched
    refine ⟨assets release.assets, assetsPerm release.assets, ?_⟩
    simp only [fetchRelease, UpdateIo.inOrder, bind_ok_iff] at fetched ⊢
    obtain ⟨bytes, got, decoded⟩ := fetched
    refine ⟨bytes, got, ?_⟩
    cases document : io.release bytes with
    | none =>
        rw [document] at decoded
        cases decoded
    | some found =>
        rw [document] at decoded
        cases decoded
        rfl
  manifest := by
    intro asset manifest fetched
    refine ⟨artifacts manifest.artifacts, artifactsPerm manifest.artifacts, ?_⟩
    simp only [fetchManifest, UpdateIo.inOrder, bind_ok_iff] at fetched ⊢
    obtain ⟨bytes, got, decoded⟩ := fetched
    refine ⟨bytes, got, ?_⟩
    cases document : io.manifest bytes with
    | none =>
        rw [document] at decoded
        cases decoded
    | some found =>
        rw [document] at decoded
        cases decoded
        rfl

/-- What is offered as an installer is what both documents describe, in any order of theirs. -/
theorem release_validated (io : UpdateIo) (config : GitHubUpdateConfig)
    (validated : ValidatedRelease) (accepted : validatedRelease io config = .ok validated) :
    (∃ release asset manifest, fetchRelease io config = .ok release ∧
      uniqueAsset release.assets ("lvos-update-" ++ config.channel ++ ".json") = .ok asset ∧
      fetchManifest io asset = .ok manifest ∧
      release.tagName = "v" ++ manifest.version ∧
      (manifest.artifacts.map (·.target)).Perm [⟨"macos", "arm64"⟩, ⟨"windows", "x86_64"⟩] ∧
      (∀ artifact ∈ manifest.artifacts,
        expectedName manifest.version artifact.platform artifact.architecture =
          some artifact.name ∧
        artifact.downloadUrl =
          config.releasePageRoot ++ "/download/v" ++ manifest.version ++ "/" ++ artifact.name ∧
        release.assets.countP (Agrees artifact) = 1) ∧
      ∃ artifact ∈ manifest.artifacts, artifact.target = config.target ∧
        validated = ⟨manifest.version, manifest.releasePage, describe manifest artifact⟩) ∧
      ∀ io', Reordered config io io' → validatedRelease io' config = .ok validated := by
  refine ⟨?_, fun io' reordered => validatedRelease_reordered reordered accepted⟩
  obtain ⟨-, release, asset, manifest, fetched, found, read, validates⟩ :=
    validatedRelease_ok_iff.mp accepted
  refine ⟨release, asset, manifest, fetched, (manifestAsset_ok_iff.mp found).2.1, read,
    (header_of_ok validates.header).2.1, validates.targets, ?_, validates.selected⟩
  intro artifact member
  have matched := validates.matched artifact member
  obtain ⟨named, located⟩ := expectedName_of_matched matched
  exact ⟨named, located, agrees_once validates.names (agrees_of_matched matched)⟩

/-! A release as the tests of the service have it. -/

def fixtureVersion : String := "0.2.0"

def fixtureConfig (target : UpdateTarget) : GitHubUpdateConfig where
  owner := "wadaxiyang"
  repository := "LVOS"
  releaseApiUrl := githubLatestReleaseApi
  releasePageRoot := githubReleasesUrl
  channel := "stable"
  currentVersion := "0.1.0"
  target := target

def macHash : String := "aaaaaaaaaaaaaaaaaaaaaaaaaaaaaaaaaaaaaaaaaaaaaaaaaaaaaaaaaaaaaaaa"

def windowsHash : String := "bbbbbbbbbbbbbbbbbbbbbbbbbbbbbbbbbbbbbbbbbbbbbbbbbbbbbbbbbbbbbbbb"

def fixtureUrl (name : String) : String :=
  githubReleasesUrl ++ "/download/v" ++ fixtureVersion ++ "/" ++ name

def manifestUrl : String := fixtureUrl "lvos-update-stable.json"

def macArtifact : ManifestArtifact :=
  let name := "LVOS-" ++ fixtureVersion ++ "-macos-arm64.dmg"
  ⟨"macos", "arm64", name, 120, macHash, fixtureUrl name⟩

def windowsArtifact : ManifestArtifact :=
  let name := "LVOS-" ++ fixtureVersion ++ "-windows-x86_64-setup.exe"
  ⟨"windows", "x86_64", name, 240, windowsHash, fixtureUrl name⟩

def validManifest : UpdateManifest where
  manifestVersion := 2
  product := "LVOS"
  channel := "stable"
  version := fixtureVersion
  releasePage := githubReleasesUrl ++ "/tag/v" ++ fixtureVersion
  artifacts := [macArtifact, windowsArtifact]

def uploadedAsset (artifact : ManifestArtifact) : GitHubAsset :=
  ⟨artifact.name, "uploaded", artifact.sizeBytes, some ("sha256:" ++ artifact.sha256),
    artifact.downloadUrl⟩

def validRelease : GitHubRelease where
  tagName := "v" ++ fixtureVersion
  htmlUrl := githubReleasesUrl ++ "/tag/v" ++ fixtureVersion
  draft := false
  prerelease := false
  assets := [⟨"lvos-update-stable.json", "uploaded", 800, none, manifestUrl⟩,
    uploadedAsset macArtifact, uploadedAsset windowsArtifact]

/-- `StaticTransport`: one document at each of two addresses. -/
def fixtureIo : UpdateIo where
  get url _ :=
    if url = githubLatestReleaseApi then .ok [0]
    else if url = manifestUrl then .ok [1]
    else .error .network
  release bytes := if bytes = [0] then some validRelease else none
  manifest bytes := if bytes = [1] then some validManifest else none
  parsesVersion version := version == "0.1.0" || version == fixtureVersion

def fixtureValidated : ValidatedRelease :=
  ⟨fixtureVersion, validManifest.releasePage, describe validManifest macArtifact⟩

theorem release_validated_reversed :
    validatedRelease fixtureIo (fixtureConfig macArtifact.target) = .ok fixtureValidated ∧
      validatedRelease (fixtureIo.inOrder List.reverse List.reverse)
        (fixtureConfig macArtifact.target) = .ok fixtureValidated := by
  have accepted : validatedRelease fixtureIo (fixtureConfig macArtifact.target) =
      .ok fixtureValidated := by decide +kernel
  exact ⟨accepted, (release_validated _ _ _ accepted).2 _
    (reordered_inOrder _ _ List.reverse_perm List.reverse_perm)⟩

end Lvos.Desktop
