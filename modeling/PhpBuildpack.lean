import PhpBuildpack.Go.Replace
import PhpBuildpack.Go.Strings
import PhpBuildpack.Go.Map
import PhpBuildpack.Go.Fs
import PhpBuildpack.Go.Walk
import PhpBuildpack.Supply.Supplier
import PhpBuildpack.Supply.Version
import PhpBuildpack.Supply.ReadConfig
import PhpBuildpack.Supply.Extensions
import PhpBuildpack.Supply.Context
import PhpBuildpack.Supply.Handler
import PhpBuildpack.Supply.WriteConfig
import PhpBuildpack.Supply.Run
import PhpBuildpack.Go.Fmt
import PhpBuildpack.Supply.Scripts
import PhpBuildpack.Supply.Install
import PhpBuildpack.Finalize.Finalizer
import PhpBuildpack.Staging
