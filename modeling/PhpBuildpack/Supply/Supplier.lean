import PhpBuildpack.Go.Map
import PhpBuildpack.Go.Fs

/-! The state of `supply.Supplier` that the configuration steps read and write, and the
collaborators they query. The stager's directories are clean absolute paths. -/
namespace PhpBuildpack.Supply
open Go

/-- The directories `libbuildpack.Stager` reports. -/
structure Stager where
  buildDir : FilePath
  cacheDir : FilePath
  depDir : FilePath
  depsDir : FilePath
  depsIdx : String

/-- A path as the string Go prints for it. -/
def pathString (p : FilePath) : String := "/" ++ "/".intercalate p

/-- A dependency of the manifest. -/
structure Dependency where
  name : String
  version : String

/-- The queries `SetupPhpVersion` makes of `libbuildpack.Manifest`. -/
structure Manifest where
  allDependencyVersions : String → List String
  defaultVersion : String → Except GoError Dependency

/-- The fields of `supply.Supplier` the modelled steps read and write. -/
structure Supplier where
  stager : Stager
  phpVersion : String
  composerPath : String
  composerJson : GoMap String JsonVal
  optionsJson : GoMap String JsonVal
  phpExtensions : GoMap String Bool
  zendExtensions : GoMap String Bool
  webDir : String

/-- A `Supplier` as a struct literal that sets only its collaborators leaves it: every
configuration field at its zero value. -/
def Supplier.initial (stager : Stager) : Supplier :=
  ⟨stager, "", "", ∅, ∅, ∅, ∅, ""⟩

/-- `s.ComposerJson["require"].(map[string]interface{})`. -/
def composerRequire (composerJson : GoMap String JsonVal) : Option (GoMap String JsonVal) :=
  (composerJson.get "require").bind JsonVal.asObject

end PhpBuildpack.Supply
